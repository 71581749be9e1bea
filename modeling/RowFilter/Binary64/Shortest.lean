import RowFilter.Binary64

/-!
# The fewest digits that read back

A finite number is the nearest one to every real of an interval around it: from halfway to its
lower neighbour to halfway to its upper one, the ends included exactly when its significand is
even. `shortest` picks the decimal of fewest digits inside the interval, the nearer of two such,
and on an exact tie the one that the layout asks for.
-/

namespace RowFilter.Binary64

/-- The decimal `digits * 10 ^ exponent`. -/
structure Decimal where
  digits : Nat
  exponent : Int
  deriving DecidableEq, Repr

/-- Which of two equally near decimals is taken. -/
inductive Tie where
  | up
  | toEven
  deriving DecidableEq, Repr

/-- `a * 10 ^ i` against `n * 2 ^ j`, exactly. -/
def compareScaled (a : Nat) (i : Int) (n : Nat) (j : Int) : Ordering :=
  compare ((a * Nat.pow 10 i.toNat) <<< (-j).toNat) ((n * Nat.pow 10 (-i).toNat) <<< j.toNat)

/-- The decimal is one of the reals that round to the magnitude of `x`. -/
def readsBack (x : Binary64) (d : Decimal) : Bool :=
  let low := if x.isNarrowBelow then 4 * x.significand - 1 else 4 * x.significand - 2
  let high := 4 * x.significand + 2
  let ends := x.significand % 2 == 0
  let fromLow := compareScaled d.digits d.exponent low (x.scale - 2)
  let fromHigh := compareScaled d.digits d.exponent high (x.scale - 2)
  (fromLow == .gt || (ends && fromLow == .eq)) && (fromHigh == .lt || (ends && fromHigh == .eq))

/-- Whether the magnitude of `x` is below `10 ^ k`. -/
def isBelowPower (x : Binary64) (k : Int) : Bool :=
  compareScaled 1 k x.significand x.scale == .gt

/-- The least `k` with the magnitude of `x` below `10 ^ k`, found upwards from a lower estimate. -/
def decimalExponent (x : Binary64) : Int :=
  let bits : Int := x.significand.log2 + x.scale
  let start := bits * 30103 / 100000 - 1
  match [start, start + 1, start + 2, start + 3].find? x.isBelowPower with
  | some k => k
  | none => start + 4

/-- The multiple of `10 ^ e` at or below the magnitude of `x`. -/
def floorOn (x : Binary64) (e : Int) : Nat :=
  (x.significand * Nat.pow 10 (-e).toNat) <<< x.scale.toNat /
    (Nat.pow 10 e.toNat <<< (-x.scale).toNat)

/-- The point to write on the grid of multiples of `10 ^ e`, if one of the two neighbours of `x` on
it reads back. -/
def pick (tie : Tie) (x : Binary64) (e : Int) : Option Decimal :=
  let below := x.floorOn e
  match x.readsBack ⟨below, e⟩, x.readsBack ⟨below + 1, e⟩ with
  | true, true =>
    match compareScaled (2 * below + 1) e (2 * x.significand) x.scale, tie with
    | .gt, _ => some ⟨below, e⟩
    | .lt, _ => some ⟨below + 1, e⟩
    | .eq, .up => some ⟨below + 1, e⟩
    | .eq, .toEven => some ⟨if below % 2 = 0 then below else below + 1, e⟩
  | true, false => some ⟨below, e⟩
  | false, true => some ⟨below + 1, e⟩
  | false, false => none

/-- Trailing zeros of the digits moved into the exponent, up to a number of places. -/
def dropZeros : Nat → Decimal → Decimal
  | 0, d => d
  | places + 1, d =>
    if d.digits ≠ 0 ∧ d.digits % 10 = 0 then dropZeros places ⟨d.digits / 10, d.exponent + 1⟩ else d

/-- The decimal of fewest digits that reads back to the magnitude of a finite non-zero number. Were
none of up to seventeen digits to do, the exact value would be written. -/
def shortest (tie : Tie) (x : Binary64) : Decimal :=
  let k := x.decimalExponent
  match (List.range 17).findSome? fun n => pick tie x (k - (n + 1 : Nat)) with
  | some d => dropZeros 17 d
  | none => ⟨(x.significand * Nat.pow 5 (-x.scale).toNat) <<< x.scale.toNat, min x.scale 0⟩

end RowFilter.Binary64
