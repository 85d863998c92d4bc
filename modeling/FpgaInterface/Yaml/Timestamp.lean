import FpgaInterface.Text.Numeral

/-!
# Points in time

* `Timestamp`: a day, and perhaps a time of that day in a time zone;
* `Timestamp.read?`: the point in time that a text spells;
* `Timestamp.fault?`: the first part of it that is out of range;
* `Timestamp.instant?`: where it stands in time, if its time zone is known;
* `Timestamp.shown`: its text in messages.
-/

namespace FpgaInterface.Yaml

structure ClockTime where
  hour : Nat
  minute : Nat
  second : Nat
  /-- The millionths of a second after it. -/
  micro : Nat
  /-- The seconds by which the time zone is ahead; none without a time zone. -/
  ahead : Option Int
  deriving DecidableEq, Repr

structure Timestamp where
  year : Nat
  month : Nat
  day : Nat
  clock : Option ClockTime
  deriving DecidableEq, Repr

namespace Timestamp

/-! ## Reading -/

/-- The number at the start of a text, of at least `least` and at most `most` digits, and the rest
of the text. -/
def number? (least most : Nat) (cs : List Char) : Option (Nat × List Char) :=
  let ds := (cs.take most).takeWhile Char.isDigit
  if ds.length < least then none
  else some (ds.foldl (fun n d => n * 10 + (d.toNat - '0'.toNat)) 0, cs.drop ds.length)

/-- The text after a character that it starts with. -/
def after? (c : Char) : List Char → Option (List Char)
  | d :: rest => if c = d then some rest else none
  | [] => none

def isBlank (c : Char) : Bool := c = ' ' || c = '\t'

/-- What stands between the day and the time: a letter or blanks. -/
def dropJoint? : List Char → Option (List Char)
  | 'T' :: rest => some rest
  | 't' :: rest => some rest
  | c :: rest => if isBlank c then some (rest.dropWhile isBlank) else none
  | [] => none

/-- The millionths that the digits after a point spell, and the rest of the text. -/
def fraction : List Char → Nat × List Char
  | '.' :: rest =>
    let ds := rest.takeWhile Char.isDigit
    let six := (ds ++ List.replicate 6 '0').take 6
    (six.foldl (fun n d => n * 10 + (d.toNat - '0'.toNat)) 0, rest.drop ds.length)
  | cs => (0, cs)

/-- The offset of a time zone after its sign. -/
def offset? (cs : List Char) : Option Int := do
  let (hours, cs) ← number? 1 2 cs
  if cs.isEmpty then return hours * 3600
  let (minutes, cs) ← number? 2 2 (← after? ':' cs)
  if cs.isEmpty then some (hours * 3600 + minutes * 60) else none

def zone? (cs : List Char) : Option (Option Int) :=
  if cs.isEmpty then some none
  else match cs.dropWhile isBlank with
    | ['Z'] => some (some 0)
    | '+' :: rest => (offset? rest).map some
    | '-' :: rest => (offset? rest).map fun s => some (-s)
    | _ => none

def clock? (cs : List Char) : Option ClockTime := do
  let (hour, cs) ← number? 1 2 (← dropJoint? cs)
  let (minute, cs) ← number? 2 2 (← after? ':' cs)
  let (second, cs) ← number? 2 2 (← after? ':' cs)
  let (micro, cs) := fraction cs
  return ⟨hour, minute, second, micro, ← zone? cs⟩

def read? (cs : List Char) : Option Timestamp := do
  let (year, cs) ← number? 4 4 cs
  let (month, cs) ← number? 1 2 (← after? '-' cs)
  let (day, cs) ← number? 1 2 (← after? '-' cs)
  if cs.isEmpty then return ⟨year, month, day, none⟩
  return ⟨year, month, day, some (← clock? cs)⟩

/-! ## Ranges -/

def isLeap (year : Nat) : Bool := year % 4 = 0 && (year % 100 ≠ 0 || year % 400 = 0)

def daysIn (year month : Nat) : Nat :=
  if month = 2 then (if isLeap year then 29 else 28)
  else if [4, 6, 9, 11].contains month then 30 else 31

/-- A span of seconds as a message shows it: whole days, and seconds that are not negative. -/
def spanShown (seconds : Int) : String :=
  let days := seconds.fdiv 86400
  let left := seconds.fmod 86400
  let part := fun (name : String) (n : Int) =>
    if n = 0 then [] else [name ++ "=" ++ Text.signed "" Text.decimal n]
  let parts := part "days" days ++ part "seconds" left
  "datetime.timedelta(" ++ (if parts.isEmpty then "0" else ", ".intercalate parts) ++ ")"

def clockFault? (c : ClockTime) : Option String :=
  if 23 < c.hour then some "hour must be in 0..23"
  else if 59 < c.minute then some "minute must be in 0..59"
  else if 59 < c.second then some "second must be in 0..59"
  else none

/-- A time zone is less than a day ahead or behind. -/
def zoneFault? (ahead : Int) : Option String :=
  if ahead.natAbs < 86400 then none
  else some ("offset must be a timedelta strictly between -timedelta(hours=24) and " ++
    "timedelta(hours=24), not " ++ spanShown ahead ++ ".")

def dayFault? (t : Timestamp) : Option String :=
  if t.year = 0 then some "year 0 is out of range"
  else if t.month = 0 || 12 < t.month then some "month must be in 1..12"
  else if t.day = 0 || daysIn t.year t.month < t.day then some "day is out of range for month"
  else none

/-- What is out of range: first the time zone, then the day and the time. -/
def fault? (t : Timestamp) : Option String :=
  ((t.clock.bind ClockTime.ahead).bind zoneFault?).or (t.dayFault?.or (t.clock.bind clockFault?))

/-! ## Texts -/

def zoneShown (ahead : Int) : String :=
  if ahead = 0 then "datetime.timezone.utc"
  else "datetime.timezone(" ++ spanShown ahead ++ ")"

/-- The seconds of a time as a message shows them: left out if they are zero. -/
def secondsShown (c : ClockTime) : List String :=
  if c.micro ≠ 0 then [Text.decimal c.second, Text.decimal c.micro]
  else if c.second ≠ 0 then [Text.decimal c.second] else []

def shown (t : Timestamp) : String :=
  let day := [t.year, t.month, t.day].map Text.decimal
  match t.clock with
  | none => "datetime.date(" ++ ", ".intercalate day ++ ")"
  | some c =>
    let clock := [Text.decimal c.hour, Text.decimal c.minute] ++ secondsShown c
    let zone := (c.ahead.map fun ahead => "tzinfo=" ++ zoneShown ahead).toList
    "datetime.datetime(" ++ ", ".intercalate (day ++ clock ++ zone) ++ ")"

def typeName (t : Timestamp) : String :=
  if t.clock.isSome then "datetime.datetime" else "datetime.date"

/-- The number of the day in the calendar. -/
def dayNumber (t : Timestamp) : Nat :=
  let years := t.year - 1
  let months := (List.range (t.month - 1)).map fun m => daysIn t.year (m + 1)
  365 * years + years / 4 - years / 100 + years / 400 + months.foldl (· + ·) 0 + t.day

/-- The millionths of a second up to a point in time, if its time zone is known. Points in time with
the same number are equal. -/
def instant? (t : Timestamp) : Option Int := do
  let c ← t.clock
  let ahead ← c.ahead
  let seconds : Int := t.dayNumber * 86400 + c.hour * 3600 + c.minute * 60 + c.second
  return (seconds - ahead) * 1000000 + c.micro

example : (read? "2001-01-01 00:00:00Z".toList).bind instant? =
    (read? "2000-12-31 23:00:00-1".toList).bind instant? := by
  decide +kernel
example : (read? "2001-12-14t21:59:43.10-05:30".toList).map (fun t => (t.fault?, t.shown)) =
    some (none, "datetime.datetime(2001, 12, 14, 21, 59, 43, 100000, " ++
      "tzinfo=datetime.timezone(datetime.timedelta(days=-1, seconds=66600)))") := by
  decide +kernel
example : (read? "2001-02-29".toList).bind fault? = some "day is out of range for month" := by
  decide +kernel

end Timestamp

end FpgaInterface.Yaml
