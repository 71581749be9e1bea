import RowFilter.Binary64.Reader
import RowFilter.Calendar
import RowFilter.Toml

/-!
# Scalars of TOML

Numbers, truth values and moments. A number may have underscores between its digits. A whole number
has no leading nought, may be written in base sixteen, eight or two, and has to fit sixty-four bits
with a sign. A floating-point number has a fraction or an exponent, and may not be too large. A
moment is a day, a time of day, or both.
-/

namespace RowFilter.Toml

/-! ## Digits -/

/-- Digits with single underscores between them, without the underscores. One digit at least stands
at the head. -/
def digits? (isDigit : Char → Bool) : List Char → Option (List Char × List Char)
  | [] => none
  | c :: cs => if isDigit c then go [c] cs else none
where
  /-- More digits after some, the last of which stands first. -/
  go (before : List Char) : List Char → Option (List Char × List Char)
    | [] => some (before.reverse, [])
    | '_' :: d :: cs => if isDigit d then go (d :: before) cs else none
    | '_' :: [] => none
    | c :: cs => if isDigit c then go (c :: before) cs else some (before.reverse, c :: cs)

/-- The sign at the head, if there is one, and whether it is a minus. -/
def sign : List Char → Bool × List Char
  | '-' :: cs => (true, cs)
  | '+' :: cs => (false, cs)
  | cs => (false, cs)

/-- The digits of a whole number: a nought stands alone. -/
def wholeDigits? : List Char → Option (List Char × List Char)
  | '0' :: cs => some (['0'], cs)
  | cs => digits? Char.isDigit cs

/-! ## Numbers -/

/-- A whole number that fits. -/
def fitting? (n : Int) : Option Toml :=
  if -0x8000000000000000 ≤ n ∧ n < 0x8000000000000000 then some (.integer (Int64.ofInt n)) else none

/-- A digit of a base. -/
def isDigitOf (base : Nat) (c : Char) : Bool := (Text.Digits.hex? c).any (· < base)

/-- A whole number in a base other than ten, after the letters that announce it. -/
def basedInteger? (base : Nat) (cs : List Char) : Option (Toml × List Char) := do
  let (ds, rest) ← digits? (isDigitOf base) cs
  let n ← Text.Digits.valueIn? base ds
  return (← fitting? n, rest)

/-- A whole number in base ten. -/
def decimalInteger? (cs : List Char) : Option (Toml × List Char) := do
  let (negative, cs) := sign cs
  let (ds, rest) ← wholeDigits? cs
  let n : Int := Text.Digits.value ds
  return (← fitting? (if negative then -n else n), rest)

/-- A whole number. -/
def integer? : List Char → Option (Toml × List Char)
  | '0' :: 'x' :: cs => basedInteger? 16 cs
  | '0' :: 'o' :: cs => basedInteger? 8 cs
  | '0' :: 'b' :: cs => basedInteger? 2 cs
  | cs => decimalInteger? cs

/-- The digits of a fraction, if there is one. -/
def fraction? : List Char → Option (List Char × List Char)
  | '.' :: cs => digits? Char.isDigit cs
  | cs => some ([], cs)

/-- The value of an exponent, if there is one. -/
def exponent? : List Char → Option (Int × List Char)
  | e :: cs =>
    if e = 'e' ∨ e = 'E' then do
      let (negative, cs) := sign cs
      let (ds, rest) ← digits? Char.isDigit cs
      let n : Int := Text.Digits.value ds
      return (if negative then -n else n, rest)
    else some (0, e :: cs)
  | [] => some (0, [])

/-- A floating-point number that has a fraction or an exponent. -/
def decimalReal? (cs : List Char) : Option (Toml × List Char) := do
  let (negative, cs) := sign cs
  let (whole, afterWhole) ← wholeDigits? cs
  let (part, afterPart) ← fraction? afterWhole
  let (exponent, rest) ← exponent? afterPart
  if rest.length = afterWhole.length then none
  else
    let x := Binary64.ofDecimal .double negative (Text.Digits.value (whole ++ part))
      (exponent - part.length)
    if x.isFinite || negative then some (.real x, rest) else none

/-- What follows a word. -/
def afterWord (word : String) (cs : List Char) : Option (List Char) :=
  if word.toList.isPrefixOf cs then some (cs.drop word.length) else none

/-- Infinity, or what is not a number. -/
def specialReal? (cs : List Char) : Option (Toml × List Char) :=
  let (negative, cs) := sign cs
  ((afterWord "inf" cs).map fun rest => (.real (Binary64.infinity negative), rest)).or
    ((afterWord "nan" cs).map fun rest => (.real Binary64.nan, rest))

/-! ## Moments -/

/-- A number of so many digits. -/
def fixed? (width : Nat) (cs : List Char) : Option (Nat × List Char) :=
  let ds := cs.take width
  if ds.length = width ∧ ds.all Char.isDigit then some (Text.Digits.value ds, cs.drop width)
  else none

/-- What follows a mark. -/
def after (c : Char) : List Char → Option (List Char)
  | d :: cs => if c = d then some cs else none
  | [] => none

/-- What follows a day. -/
def afterDay (cs : List Char) : Option (List Char) := do
  let (year, cs) ← fixed? 4 cs
  let (month, cs) ← fixed? 2 (← after '-' cs)
  let (day, cs) ← fixed? 2 (← after '-' cs)
  if ({ year, month, day } : Calendar.Date).isValid then some cs else none

/-- What follows a time of day. -/
def afterTime (cs : List Char) : Option (List Char) := do
  let (hour, cs) ← fixed? 2 cs
  let (minute, cs) ← fixed? 2 (← after ':' cs)
  let (second, cs) ← fixed? 2 (← after ':' cs)
  if hour ≤ 23 ∧ minute ≤ 59 ∧ second ≤ 60 then
    match cs with
    | '.' :: more =>
      if more.head?.any Char.isDigit then some (more.dropWhile Char.isDigit) else none
    | _ => some cs
  else none

/-- What follows an offset from universal time, if there is one. -/
def afterOffset (cs : List Char) : Option (List Char) :=
  match cs with
  | 'Z' :: rest => some rest
  | 'z' :: rest => some rest
  | c :: rest =>
    if c = '+' ∨ c = '-' then do
      let (hour, rest) ← fixed? 2 rest
      let (minute, rest) ← fixed? 2 (← after ':' rest)
      if hour ≤ 23 ∧ minute ≤ 59 then some rest else none
    else some cs
  | [] => some cs

/-- What follows the time that may be said with a day. -/
def afterTimeOfDay (cs : List Char) : Option (List Char) :=
  match cs with
  | c :: rest =>
    if c = 'T' ∨ c = 't' ∨ c = ' ' then
      match afterTime rest with
      | some more => afterOffset more
      | none => if c = ' ' then some cs else none
    else some cs
  | [] => some cs

/-- A moment. -/
def moment? (cs : List Char) : Option (Toml × List Char) :=
  (((afterDay cs).bind afterTimeOfDay).or (afterTime cs)).map fun rest =>
    (.moment (String.ofList (cs.take (cs.length - rest.length))), rest)

/-! ## Any scalar -/

/-- A number, a truth value or a moment. -/
def scalar? (cs : List Char) : Option (Toml × List Char) :=
  match cs with
  | 't' :: _ => (afterWord "true" cs).map fun rest => (.bool true, rest)
  | 'f' :: _ => (afterWord "false" cs).map fun rest => (.bool false, rest)
  | _ => (moment? cs).or ((decimalReal? cs).or ((specialReal? cs).or (integer? cs)))

end RowFilter.Toml
