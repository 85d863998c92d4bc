import FpgaInterface.Element.TypeName
import FpgaInterface.Extract.Constant
import FpgaInterface.Note
import FpgaInterface.Text.Quoted

/-!
# The signature of a bitfile

* `signatureOf`: the text of the first declaration of a name that has a literal as its initialiser;
* `signatureNotes`: what is reported on the way to it.

Declarations of other names, without an initialiser or with another one, do not end the search.
-/

namespace FpgaInterface

/-- The name that the header gives a text constant of the interface. -/
def constantName (interface suffix : String) : String := interfaceStem interface ++ suffix

def signatureSuffix : String := "Signature"

/-- The text that a declaration gives the name. -/
def textFor? (name : String) (d : Declaration) : Option String :=
  if d.name = some name && isText d.init then (textOf d.init).toOption else none

/-- The text of the first declaration that gives the name one. -/
def signatureOf (name : String) (ds : List Declaration) : Option String :=
  ds.findSome? (textFor? name)

/-- What is reported on the way to the text of a name: the declarations of it that give no text, and
the one that does. -/
def signatureNotes (name : String) : List Declaration → List Note
  | [] => []
  | d :: rest =>
    match textFor? name d with
    | some text => [⟨.debug, "Found " ++ name ++ " = " ++ Text.quoted text⟩]
    | none =>
      if d.name = some name && d.init.isSome then
        ⟨.debug, "Ignoring " ++ name ++ ": initializer is not a string literal"⟩ ::
          signatureNotes name rest
      else signatureNotes name rest

end FpgaInterface
