import RowFilter.Json
import RowFilter.Binary64.Rounding
import RowFilter.Text.Digits

/-!
# Reading JSON numbers

A JSON number without fraction or exponent is a whole number when sixty-four bits hold it. Any
other is a floating-point number, read in two roundings: the leading digits that sixty-four bits
hold are rounded to a significand, a power of ten is rounded, and their product or quotient is
rounded again. Further whole digits only raise the power; further digits of the fraction count for
nothing.
-/

namespace RowFilter

open Text

namespace Json.Numeral

/-! ## Taking digits -/

/-- A number with one more digit. -/
def push (n : Nat) (c : Char) : Nat := n * 10 + (c.toNat - '0'.toNat)

/-- The digits that fit after a number, and those left over. -/
def take (n : Nat) : List Char → Nat × List Char
  | [] => (n, [])
  | c :: cs => if push n c < 0x10000000000000000 then take (push n c) cs else (n, c :: cs)

/-! ## Scaling -/

/-- A significand times a power of ten, rounded. -/
def times (x : Binary64) (power : Nat) : Binary64 :=
  let p := (Binary64.ofDecimal .double false 1 power).ratio
  .ofRatio .double false (x.ratio.1 * p.1) (x.ratio.2 * p.2)

/-- A significand divided by a power of ten, rounded. -/
def divided (x : Binary64) (power : Nat) : Binary64 :=
  let p := (Binary64.ofDecimal .double false 1 power).ratio
  .ofRatio .double false (x.ratio.1 * p.2) (x.ratio.2 * p.1)

/-- Division by a power of ten in steps of `10 ^ 308`, which end at zero. -/
def dividedInSteps : Nat → Binary64 → Nat → Binary64
  | 0, x, _ => x
  | steps + 1, x, power =>
    if x.isZero then x
    else if power ≤ 308 then divided x power
    else dividedInSteps steps (divided x 308) (power - 308)

/-- A significand scaled by a power of ten, or nothing where that is out of range. -/
def scaled? (significand : Nat) (exponent : Int) : Option Binary64 :=
  let x := Binary64.ofDecimal .double false significand 0
  if x.isZero then some x
  else if exponent < 0 then some (dividedInSteps 4 x exponent.natAbs)
  else if 308 < exponent then none
  else
    let y := times x exponent.natAbs
    if y.isFinite then some y else none

/-! ## The grammar -/

/-- The exponent mark with its digits, which ends the number. -/
def exponent? : List Char → Option Int
  | [] => some 0
  | c :: cs => if c = 'e' ∨ c = 'E' then Digits.integer? cs else none

/-- The digits after a point, at least one, and what follows them. -/
def fraction? : List Char → Option (List Char × List Char)
  | '.' :: cs =>
    let (digits, rest) := Digits.span cs
    if digits = [] then none else some (digits, rest)
  | cs => some ([], cs)

/-- A floating-point number with its sign. -/
def real? (negative : Bool) (x : Binary64) : Option Json :=
  let y := x.withSign negative
  if h : y.isFinite = true then some (.number (.real y h)) else none

/-- A number without its sign: whole digits, a fraction and an exponent. -/
def unsigned? (negative : Bool) (cs : List Char) : Option Json := do
  let (whole, rest) := Digits.span cs
  if whole = [] ∨ (whole.head? = some '0' ∧ whole.length ≠ 1) then none
  let (digits, tail) ← fraction? rest
  let power ← exponent? tail
  let (significand, beyond) := take 0 whole
  if rest = [] ∧ beyond = []
      ∧ ¬(negative ∧ (significand = 0 ∨ 0x8000000000000000 < significand)) then
    ofInt? (if negative then -significand else significand)
  else
    let (significand, dropped) := take significand digits
    let taken := digits.length - dropped.length
    real? negative (← scaled? significand (power + beyond.length - taken))

/-- A number. -/
def number? : List Char → Option Json
  | '-' :: cs => unsigned? true cs
  | cs => unsigned? false cs

end Json.Numeral
end RowFilter
