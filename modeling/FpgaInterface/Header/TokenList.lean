import FpgaInterface.Header.Spelling
import FpgaInterface.Text.Alphanumeric

/-!
# The tokens of a text

* `LineDirective`: what a line directive says;
* `Cursor`, `advance`: one step through a text;
* `tokens`: the tokens of a text, and how the text ends.

A line directive names the line and the file of what follows it.
-/

namespace FpgaInterface.Header

/-! ## Directives -/

/-- A blank inside a directive. -/
def isInnerBlank (c : Char) : Bool := c = ' ' || c = '\t'

/-- The text after a number sign starts with a word that ends there. -/
def startsWord (word : String) (cs : List Char) : Bool :=
  let cs := cs.dropWhile isInnerBlank
  word.toList.isPrefixOf cs &&
    match cs.drop word.toList.length with
    | [] => false
    | c :: _ => !(Text.isAlphanumeric c || c = '_')

/-- The text after a number sign is a line directive. -/
def isLineDirective (cs : List Char) : Bool :=
  startsWord "line" cs ||
    match cs.dropWhile isInnerBlank with
    | [] => false
    | c :: _ => isAnyDigit c

structure LineDirective where
  /-- The number of the next line. -/
  line : Nat
  /-- The file of the next line, if it is named. -/
  file : Option String
  deriving DecidableEq, Repr

def directiveNumber : Text.Scan := digitRun Char.isDigit

def dropFlags : Nat → List Char → List Char
  | 0, cs => cs
  | n + 1, cs =>
    let cs := cs.dropWhile isInnerBlank
    match directiveNumber cs with
    | none => cs
    | some (_, r) => dropFlags n r

/-- The number that the digits of a directive spell, if they are not too many. -/
def lineNumber? (digits : List Char) : Option Nat :=
  Text.Numeral.value? 10 (digits.filter Char.isDigit)

/-- Reads a line directive, without its number sign. -/
def LineDirective.read (cs : List Char) : Except SyntaxCause LineDirective :=
  let cs := cs.dropWhile isInnerBlank
  let cs := if "line".toList.isPrefixOf cs then cs.drop 4 else cs
  let cs := cs.dropWhile isInnerBlank
  match cs with
  | [] => .error .lineMissing
  | '"' :: _ => .error .fileBeforeLine
  | cs => match directiveNumber cs with
    | none => .error .badLineDirective
    | some (digits, rest) => match lineNumber? digits with
      | none => .error .badLineDirective
      | some line => match rest.dropWhile isInnerBlank with
        | [] => .ok ⟨line, none⟩
        | rest => match plainText rest with
          | none => .error .badLineDirective
          | some (file, flags) =>
            if (dropFlags flags.length flags).dropWhile isInnerBlank = [] then
              let inner := file.dropWhile (· = '"')
              .ok ⟨line, some (String.ofList (inner.reverse.dropWhile (· = '"')).reverse)⟩
            else .error .badLineDirective

/-! ## Steps -/

/-- A place in a text. -/
structure Cursor where
  rest : List Char
  line : Nat
  column : Nat
  file : String

def Cursor.pos (c : Cursor) : Position := ⟨c.file, c.line, c.column⟩

/-- The cursor after some characters, of which `rest` is left. -/
def Cursor.after (c : Cursor) (cs rest : List Char) : Cursor :=
  match cs.count '\n' with
  | 0 => { c with rest, column := c.column + cs.length }
  | n + 1 =>
    { c with
      rest
      line := c.line + n + 1
      column := (cs.reverse.takeWhile (· ≠ '\n')).length + 1 }

/-- A step through a text. -/
inductive Step where
  | done
  | fault (cause : SyntaxCause)
  | tokens (ts : List Token) (next : Cursor)

/-- The cursor after a pragma directive, without its number sign, and the tokens of it. -/
def readPragma (here : Cursor) (cs : List Char) : Step :=
  let gap := cs.takeWhile isInnerBlank
  let body := (cs.dropWhile isInnerBlank).drop "pragma".length
  let innerGap := body.takeWhile isInnerBlank
  let text := (body.dropWhile isInnerBlank).takeWhile (· ≠ '\n')
  let rest := (body.dropWhile isInnerBlank).dropWhile (· ≠ '\n')
  let column := here.column + 1 + gap.length
  let textColumn := column + "pragma".length + innerGap.length
  let first : Token := ⟨.pragma, "pragma", { here.pos with column }⟩
  let second : List Token :=
    if text.isEmpty then []
    else [⟨.pragmaText, String.ofList text, { here.pos with column := textColumn }⟩]
  let after : Cursor := { here with column := textColumn }
  .tokens (first :: second) (after.after (text ++ rest.take 1) (rest.drop 1))

def advance (here : Cursor) : Step :=
  match here.rest with
  | [] => .done
  | '\n' :: rest => .tokens [] (here.after ['\n'] rest)
  | '#' :: rest =>
    if isLineDirective rest then
      match LineDirective.read (rest.takeWhile (· ≠ '\n')) with
      | .error cause => .fault cause
      | .ok d =>
        .tokens [] ⟨(rest.dropWhile (· ≠ '\n')).drop 1, d.line, 1, d.file.getD here.file⟩
    else if startsWord "pragma" rest then readPragma here rest
    else .tokens [⟨.hash, "#", here.pos⟩] (here.after ['#'] rest)
  | c :: rest =>
    if isGap c then
      .tokens [] (here.after (c :: rest.takeWhile isGap) (rest.dropWhile isGap))
    else match lexeme c rest with
      | .error cause => .fault cause
      | .ok (kind, u, r) =>
        .tokens [⟨kind, String.ofList u, here.pos⟩] (here.after u r)

/-! ## The whole text -/

/-- How a text ends: in some file, or where it cannot be read. -/
inductive Ending where
  | done (file : String)
  | fault (f : SyntaxFault)

/-- The tokens from a place on, in at most `fuel` steps. -/
def tokensFrom : Nat → Cursor → List Token × Ending
  | 0, here => ([], .done here.file)
  | fuel + 1, here => match advance here with
    | .done => ([], .done here.file)
    | .fault cause => ([], .fault (.atPosition cause here.pos))
    | .tokens ts next =>
      let (rest, ending) := tokensFrom fuel next
      (ts ++ rest, ending)

/-- The tokens of a text that stands in a file. Each step takes a character at least. -/
def tokens (file text : String) : List Token × Ending :=
  let cs := text.toList
  tokensFrom (cs.length + 1) ⟨cs, 1, 1, file⟩

end FpgaInterface.Header
