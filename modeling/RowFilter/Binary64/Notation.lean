import RowFilter.Binary64.Shortest

/-!
# Writing numbers

A `Layout` holds the decisions left open by the shortest digits: where the positional form ends,
whether a whole number keeps its point, how an exponent is marked, which of two equally near
decimals is written, and what stands for the values that are no numbers. There are two: `plain`,
the form of values in messages and in bound text, and `json`, the form of numbers in JSON.
-/

namespace RowFilter.Binary64

/-- The decisions of a number format. -/
structure Layout where
  /-- Positional from this exponent of the leading digit on; always positional when absent. -/
  positional : Option (Int × Int)
  /-- Whole numbers end in `.0`. -/
  keepsPoint : Bool
  tie : Tie
  nan : String
  /-- The text of the infinity of a sign. -/
  infinite : Bool → String

/-- Always positional and without a final `.0`. -/
def Layout.plain : Layout where
  positional := none
  keepsPoint := false
  tie := .up
  nan := "NaN"
  infinite := fun negative => if negative then "-inf" else "inf"

/-- Positional from `0.00001` up and below ten to the sixteenth, with `.0` on whole numbers; JSON
has no form for what is not finite and writes `null`. -/
def Layout.json : Layout where
  positional := some (-5, 15)
  keepsPoint := true
  tie := .toEven
  nan := "null"
  infinite := fun _ => "null"

/-- The digits of a positive number, its exponent that of the last digit, in positional form. -/
def positionalText (keepsPoint : Bool) (digits : List Char) (exponent : Int) : List Char :=
  let point : Int := digits.length + exponent
  if point ≤ 0 then '0' :: '.' :: (List.replicate (-point).toNat '0' ++ digits)
  else if 0 ≤ exponent then
    digits ++ List.replicate exponent.toNat '0' ++ (if keepsPoint then ['.', '0'] else [])
  else digits.take point.toNat ++ '.' :: digits.drop point.toNat

/-- The digits of a positive number in scientific form: one digit before the point, and a sign on
the exponent in either direction. -/
def scientificText (digits : List Char) (exponent : Int) : List Char :=
  let lead : Int := exponent + digits.length - 1
  let mantissa := match digits with
    | [] => []
    | [d] => [d]
    | d :: ds => d :: '.' :: ds
  mantissa ++ 'e' :: (if lead < 0 then '-' else '+') :: (toString lead.natAbs).toList

/-- The text of the magnitude of a finite number. -/
def magnitudeText (layout : Layout) (x : Binary64) : List Char :=
  if x.isZero then if layout.keepsPoint then ['0', '.', '0'] else ['0']
  else
    let d := shortest layout.tie x
    let digits := (toString d.digits).toList
    let lead := d.exponent + digits.length - 1
    match layout.positional with
    | none => positionalText layout.keepsPoint digits d.exponent
    | some (low, high) =>
      if low ≤ lead ∧ lead ≤ high then positionalText layout.keepsPoint digits d.exponent
      else scientificText digits d.exponent

/-- The text of a number in a layout. -/
def render (layout : Layout) (x : Binary64) : String :=
  if x.isNaN then layout.nan
  else if x.isInfinite then layout.infinite x.isNegative
  else
    let body := magnitudeText layout x
    String.ofList (if x.isNegative then '-' :: body else body)

/-- The text of a number in messages and in bound text. -/
def toText (x : Binary64) : String := render .plain x

/-- The text of a number in JSON. -/
def toJsonText (x : Binary64) : String := render .json x

end RowFilter.Binary64
