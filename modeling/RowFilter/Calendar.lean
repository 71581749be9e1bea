import RowFilter.Text.Blank
import RowFilter.Text.Digits

/-!
# Dates and times

Days of the Gregorian calendar, carried on before its introduction, and moments of a day to the
second. A moment with an offset is moved to universal time.
-/

namespace RowFilter.Calendar

open Text

/-! ## Days -/

/-- A day. -/
structure Date where
  year : Int
  month : Nat
  day : Nat
  deriving DecidableEq

/-- The year has a twenty-ninth of February. -/
def isLeap (year : Int) : Bool :=
  year % 4 == 0 && (year % 100 != 0 || year % 400 == 0)

/-- The number of days of a month. -/
def lengthOfMonth (year : Int) (month : Nat) : Nat :=
  if month = 2 then if isLeap year then 29 else 28
  else if month = 4 ∨ month = 6 ∨ month = 9 ∨ month = 11 then 30
  else 31

namespace Date

/-- The day exists. -/
def isValid (d : Date) : Bool :=
  decide (1 ≤ d.month ∧ d.month ≤ 12 ∧ 1 ≤ d.day ∧ d.day ≤ lengthOfMonth d.year d.month)

/-- The day after. -/
def next (d : Date) : Date :=
  if d.day < lengthOfMonth d.year d.month then { d with day := d.day + 1 }
  else if d.month < 12 then ⟨d.year, d.month + 1, 1⟩
  else ⟨d.year + 1, 1, 1⟩

/-- The day before. -/
def previous (d : Date) : Date :=
  if 1 < d.day then { d with day := d.day - 1 }
  else if 1 < d.month then ⟨d.year, d.month - 1, lengthOfMonth d.year (d.month - 1)⟩
  else ⟨d.year - 1, 12, 31⟩

/-- A year with at least four digits, and with its sign when four do not suffice or it is
negative. -/
def yearText (year : Int) : String :=
  if year < 0 then "-" ++ Digits.padded 4 year.natAbs
  else if 9999 < year then "+" ++ Digits.padded 4 year.natAbs
  else Digits.padded 4 year.natAbs

/-- Year, month and day with hyphens between them. -/
def text (d : Date) : String :=
  yearText d.year ++ "-" ++ Digits.padded 2 d.month ++ "-" ++ Digits.padded 2 d.day

end Date

/-! ## Moments -/

/-- A second of a day; the sixty-first second of a minute is a leap second. -/
structure Moment where
  date : Date
  hour : Nat
  minute : Nat
  second : Nat
  deriving DecidableEq

namespace Moment

/-- The moment exists. -/
def isValid (m : Moment) : Bool :=
  m.date.isValid && decide (m.hour < 24 ∧ m.minute < 60 ∧ m.second ≤ 60)

/-- Hour, minute and second with colons between them. -/
def clock (m : Moment) : String :=
  Digits.padded 2 m.hour ++ ":" ++ Digits.padded 2 m.minute ++ ":" ++ Digits.padded 2 m.second

/-- Date and clock with a blank between them. -/
def text (m : Moment) : String := m.date.text ++ " " ++ m.clock

/-- The universal time of a moment that is some minutes ahead of it, less than a day. -/
def toUniversal (m : Moment) (ahead : Int) : Moment :=
  let minutes : Int := m.hour * 60 + m.minute - ahead
  let date := if minutes < 0 then m.date.previous
    else if 24 * 60 ≤ minutes then m.date.next else m.date
  let ofDay := (minutes % (24 * 60)).toNat
  ⟨date, ofDay / 60, ofDay % 60, m.second⟩

/-- A moment of universal time. -/
def universalText (m : Moment) : String := m.date.text ++ "T" ++ m.clock ++ "Z"

end Moment

/-! ## Reading -/

/-- A number of at most some digits after any blanks, and the rest. -/
def readNumber? (width : Nat) (cs : List Char) : Option (Nat × List Char) :=
  let cs := cs.dropWhile isBlank
  let digits := (cs.takeWhile Char.isDigit).take width
  if digits = [] then none else some (Digits.value digits, cs.drop digits.length)

/-- A year: four digits at most, or any number of them after a sign. -/
def readYear? (cs : List Char) : Option (Int × List Char) :=
  match cs.dropWhile isBlank with
  | '-' :: rest => (readNumber? rest.length rest).map fun (n, r) => (-(n : Int), r)
  | '+' :: rest => (readNumber? rest.length rest).map fun (n, r) => ((n : Int), r)
  | rest => (readNumber? 4 rest).map fun (n, r) => ((n : Int), r)

/-- A mark after any blanks, and the rest. -/
def readMark? (mark : Char) (cs : List Char) : Option (List Char) :=
  match cs.dropWhile isBlank with
  | c :: rest => if c = mark then some rest else none
  | [] => none

/-- A day, and the rest. -/
def readDate? (cs : List Char) : Option (Date × List Char) := do
  let (year, cs) ← readYear? cs
  let (month, cs) ← readNumber? 2 (← readMark? '-' cs)
  let (day, cs) ← readNumber? 2 (← readMark? '-' cs)
  let date : Date := ⟨year, month, day⟩
  if date.isValid then some (date, cs) else none

/-- A fraction of a second, which is dropped, and the rest. -/
def skipFraction : List Char → List Char
  | '.' :: cs => cs.dropWhile Char.isDigit
  | cs => cs

/-- A moment with a mark between date and clock, and the rest. -/
def readMoment? (marks : List Char) (cs : List Char) : Option (Moment × List Char) := do
  let (date, cs) ← readDate? cs
  match cs with
  | [] => none
  | mark :: cs =>
    if !marks.contains mark then none
    let (hour, cs) ← readNumber? 2 cs
    let (minute, cs) ← readNumber? 2 (← readMark? ':' cs)
    let (second, cs) ← readNumber? 2 (← readMark? ':' cs)
    let moment : Moment := ⟨date, hour, minute, second⟩
    if moment.isValid then some (moment, skipFraction cs) else none

/-- The minutes that an offset is ahead of universal time; nothing may follow it. -/
def readOffset? : List Char → Option Int
  | ['Z'] | ['z'] => some 0
  | sign :: cs => do
    let (hours, cs) ← readNumber? 2 cs
    let cs := match cs with
      | ':' :: rest => rest
      | rest => rest
    let (minutes, rest) ← readNumber? 2 cs
    if rest ≠ [] ∨ 24 ≤ hours ∨ 60 ≤ minutes then none
    let ahead : Int := hours * 60 + minutes
    if sign = '+' then some ahead else if sign = '-' then some (-ahead) else none
  | [] => none

/-- A day of a text. -/
def Date.ofText? (text : String) : Option Date :=
  match readDate? text.toList with
  | some (d, rest) => if rest.all isBlank then some d else none
  | none => none

/-- A moment of a text, with `T` between date and clock. -/
def Moment.ofText? (text : String) : Option Moment :=
  match readMoment? ['T'] text.toList with
  | some (m, rest) => if rest.all isBlank then some m else none
  | none => none

/-- The universal time of a text that gives a moment and its offset. -/
def Moment.ofUniversalText? (text : String) : Option Moment := do
  let (m, rest) ← readMoment? ['T', 't', ' '] text.toList
  return m.toUniversal (← readOffset? rest)

end RowFilter.Calendar
