import RowFilter.Binary64.Rounding
import RowFilter.Text.Digits

/-!
# Reading decimals

A decimal text is an optional sign followed by `inf`, `infinity` or `nan` in any case, or by digits
with at most one point, at least one digit, and an optional exponent. It is read as the nearest
point of a grid.
-/

namespace RowFilter.Binary64

open Text

/-- The decimal point, the digits after it and the rest. -/
def readFraction : List Char → List Char × List Char
  | '.' :: cs => Digits.span cs
  | cs => ([], cs)

/-- The exponent that ends a decimal; nothing else may follow. -/
def readExponent? : List Char → Option Int
  | [] => some 0
  | c :: cs => if c = 'e' ∨ c = 'E' then Digits.integer? cs else none

/-- The digits, point and exponent of an unsigned decimal. -/
def readDecimal? (g : Grid) (negative : Bool) (cs : List Char) : Option Binary64 :=
  let (whole, rest) := Digits.span cs
  let (fraction, tail) := readFraction rest
  if whole = [] ∧ fraction = [] then none
  else (readExponent? tail).map fun e =>
    ofDecimal g negative (Digits.value (whole ++ fraction)) (e - fraction.length)

/-- An unsigned decimal or the name of a value that is not finite. -/
def readMagnitude? (g : Grid) (negative : Bool) (cs : List Char) : Option Binary64 :=
  match String.ofList (cs.map Char.toLower) with
  | "inf" | "infinity" => some (infinity negative)
  | "nan" => some nan
  | _ => readDecimal? g negative cs

/-- The point of a grid nearest to what a text denotes. -/
def ofText? (g : Grid) (text : String) : Option Binary64 :=
  match text.toList with
  | '-' :: cs => readMagnitude? g true cs
  | '+' :: cs => readMagnitude? g false cs
  | cs => readMagnitude? g false cs

end RowFilter.Binary64
