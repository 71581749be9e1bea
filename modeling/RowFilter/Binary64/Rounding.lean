import RowFilter.Binary64

/-!
# Rounding to a binary grid

A floating-point format is a *grid*: the numbers `m * 2 ^ q` with `m` of at most `precision` bits
and `q` between two bounds. A quotient of naturals is rounded to the nearest point of the grid, a
tie going to the even significand; past the largest point it becomes infinite. The points of the
single-precision grid are double-precision numbers too, so both grids round to a `Binary64`.
-/

namespace RowFilter

/-! ## Rounded quotients -/

/-- The integer nearest to `num / den`, a tie going to the even one. -/
def roundDiv (num den : Nat) : Nat :=
  let q := num / den
  let r := num % den
  if 2 * r < den then q
  else if den < 2 * r then q + 1
  else if q % 2 = 0 then q
  else q + 1

namespace Binary64

/-! ## Grids -/

/-- The points `m * 2 ^ q` with `m < 2 ^ precision` and `lowest ≤ q ≤ highest`. -/
structure Grid where
  precision : Nat
  lowest : Int
  highest : Int

/-- Double precision. -/
def Grid.double : Grid := ⟨53, -1074, 971⟩

/-- Single precision. -/
def Grid.single : Grid := ⟨24, -149, 104⟩

/-- The scale at which `num / den` has exactly `precision` bits before the point, but not below the
lowest scale of the grid. -/
def Grid.scaleOf (g : Grid) (num den : Nat) : Int :=
  let guess : Int := (num.log2 : Int) - den.log2 - g.precision
  let fits := num <<< (-guess).toNat < den <<< g.precision <<< guess.toNat
  max g.lowest (if fits then guess else guess + 1)

/-- The number `m * 2 ^ q`, which is a point of the double-precision grid. -/
def ofScaled (negative : Bool) (m : Nat) (q : Int) : Binary64 :=
  if m = 0 then ofFields negative 0 0
  else
    let up : Int := min (52 - m.log2) (q + 1074)
    let m' := m <<< up.toNat >>> (-up).toNat
    let q' := q - up
    if m' < 0x10000000000000 then ofFields negative 0 m'
    else if 971 < q' then infinity negative
    else ofFields negative (q' + 1075).toNat (m' - 0x10000000000000)

/-- The point of the grid nearest to `num / den`, or the infinity past its end. -/
def ofRatio (g : Grid) (negative : Bool) (num den : Nat) : Binary64 :=
  let q := g.scaleOf num den
  let m := roundDiv (num <<< (-q).toNat) (den <<< q.toNat)
  let q' := if m = 1 <<< g.precision then q + 1 else q
  if g.highest < q' then infinity negative else ofScaled negative m q

/-- The decimal `digits * 10 ^ exponent` rounded to a grid. A decimal of at least `10 ^ 400` or
below `10 ^ -400` lies past either end of both grids, and is settled without forming the power. -/
def ofDecimal (g : Grid) (negative : Bool) (digits : Nat) (exponent : Int) : Binary64 :=
  if digits = 0 then ofFields negative 0 0
  else if 400 < exponent then infinity negative
  else if exponent + (digits.log2 / 3 + 1 : Nat) < -400 then ofFields negative 0 0
  else ofRatio g negative (digits * Nat.pow 10 exponent.toNat) (Nat.pow 10 (-exponent).toNat)

/-- A number moved to a coarser grid; what is not finite stays as it is. -/
def toGrid (g : Grid) (x : Binary64) : Binary64 :=
  if x.isFinite && !x.isZero then ofRatio g x.isNegative x.ratio.1 x.ratio.2 else x

end Binary64
end RowFilter
