import RowFilter.Operator
import RowFilter.Value

/-!
# Predicates

A predicate is a tree of comparisons under conjunction, disjunction and negation. The empty
conjunction holds of every row and the empty disjunction of none. A group is kept exactly as it
was given; `all`, `any` and `negate` instead drop what makes no difference.

Headlines:
* `allAlwaysTrue_eq` and its like: the constant tests go through the members of a group one by one;
* `comparisonsOfAll_eq`: the comparisons of a group are those of its members, in order.
-/

namespace RowFilter

/-- What a comparison compares with. -/
inductive Operand where
  | none
  | single (v : Value)
  /-- The lower and the upper bound. -/
  | range (low high : Value)
  | list (items : List Value)
  deriving DecidableEq

/-- One column compared with an operand. -/
structure Comparison where
  /-- The column, with the alias of its table if it has one. -/
  column : String
  operator : Operator
  operand : Operand
  deriving DecidableEq

/-- A tree of comparisons. -/
inductive Predicate where
  | comparison (c : Comparison)
  | and (children : List Predicate)
  | or (children : List Predicate)
  | not (inner : Predicate)

/-! ## Equality -/

mutual

/-- Decides equality of predicates. -/
def Predicate.decidableEq : (a b : Predicate) → Decidable (a = b)
  | .comparison a, .comparison b => decidable_of_iff (a = b) (by simp)
  | .and a, .and b => @decidable_of_iff _ (a = b) (by simp) (Predicate.decidableEqItems a b)
  | .or a, .or b => @decidable_of_iff _ (a = b) (by simp) (Predicate.decidableEqItems a b)
  | .not a, .not b => @decidable_of_iff _ (a = b) (by simp) (Predicate.decidableEq a b)
  | .comparison _, .and _ | .comparison _, .or _ | .comparison _, .not _
  | .and _, .comparison _ | .and _, .or _ | .and _, .not _
  | .or _, .comparison _ | .or _, .and _ | .or _, .not _
  | .not _, .comparison _ | .not _, .and _ | .not _, .or _ => isFalse (by simp)

/-- Decides equality of lists of predicates. -/
def Predicate.decidableEqItems : (a b : List Predicate) → Decidable (a = b)
  | [], [] => isTrue rfl
  | [], _ :: _ | _ :: _, [] => isFalse (by simp)
  | a :: as, b :: bs =>
    match Predicate.decidableEq a b, Predicate.decidableEqItems as bs with
    | isTrue h, isTrue t => isTrue (by rw [h, t])
    | isFalse h, _ => isFalse (by simp [h])
    | _, isFalse t => isFalse (by simp [t])

end

instance : DecidableEq Predicate := Predicate.decidableEq

/-! ## Operands and comparisons -/

namespace Operand

/-- The values of an operand, in the order in which they are bound. -/
def values : Operand → List Value
  | none => []
  | single v => [v]
  | range low high => [low, high]
  | list items => items

/-- The operand as messages show it, with the blank before it. -/
def shown : Operand → String
  | none => ""
  | single v => " " ++ v.shown
  | range low high => " " ++ low.shown ++ " AND " ++ high.shown
  | list items => " " ++ (Value.list items).shown

end Operand

namespace Comparison

/-- `column = value`. -/
def equal (column : String) (v : Value) : Comparison := ⟨column, .equal, .single v⟩

/-- `column IN (values)`. -/
def isIn (column : String) (items : List Value) : Comparison := ⟨column, .isIn, .list items⟩

/-- The comparison as messages show it. -/
def shown (c : Comparison) : String := c.column ++ " " ++ c.operator.name ++ c.operand.shown

end Comparison

namespace Predicate

/-! ## Constants -/

/-- The predicate that holds of every row (`Predicate::always_true`). -/
def always : Predicate := and []

/-- The predicate that holds of no row (`Predicate::always_false`). -/
def never : Predicate := or []

mutual

/-- The predicate holds of every row, whatever its comparisons say (`Predicate::is_always_true`). -/
def isAlwaysTrue : Predicate → Bool
  | comparison _ => false
  | and children => allAlwaysTrue children
  | or children => anyAlwaysTrue children
  | not inner => inner.isAlwaysFalse

/-- The predicate holds of no row, whatever its comparisons say (`Predicate::is_always_false`). -/
def isAlwaysFalse : Predicate → Bool
  | comparison _ => false
  | and children => anyAlwaysFalse children
  | or children => allAlwaysFalse children
  | not inner => inner.isAlwaysTrue

/-- Every predicate holds of every row. -/
def allAlwaysTrue : List Predicate → Bool
  | [] => true
  | p :: ps => p.isAlwaysTrue && allAlwaysTrue ps

/-- Some predicate holds of every row. -/
def anyAlwaysTrue : List Predicate → Bool
  | [] => false
  | p :: ps => p.isAlwaysTrue || anyAlwaysTrue ps

/-- Every predicate holds of no row. -/
def allAlwaysFalse : List Predicate → Bool
  | [] => true
  | p :: ps => p.isAlwaysFalse && allAlwaysFalse ps

/-- Some predicate holds of no row. -/
def anyAlwaysFalse : List Predicate → Bool
  | [] => false
  | p :: ps => p.isAlwaysFalse || anyAlwaysFalse ps

end

/-- The functions on lists above are `List.all` and `List.any` of those on predicates. -/
theorem allAlwaysTrue_eq (ps : List Predicate) : allAlwaysTrue ps = ps.all isAlwaysTrue := by
  induction ps <;> simp_all [allAlwaysTrue]

theorem anyAlwaysTrue_eq (ps : List Predicate) : anyAlwaysTrue ps = ps.any isAlwaysTrue := by
  induction ps <;> simp_all [anyAlwaysTrue]

theorem allAlwaysFalse_eq (ps : List Predicate) : allAlwaysFalse ps = ps.all isAlwaysFalse := by
  induction ps <;> simp_all [allAlwaysFalse]

theorem anyAlwaysFalse_eq (ps : List Predicate) : anyAlwaysFalse ps = ps.any isAlwaysFalse := by
  induction ps <;> simp_all [anyAlwaysFalse]

/-! ## Minimal groups -/

/-- A group of the given members, or the member itself where there is just one
(`Predicate::unwrap_single`). -/
def group (gather : List Predicate → Predicate) : List Predicate → Predicate
  | [p] => p
  | ps => gather ps

/-- The conjunction without the members that always hold (`Predicate::all`); nothing but `never` if
some member never holds. -/
def all (ps : List Predicate) : Predicate :=
  if ps.any isAlwaysFalse then never else group and (ps.filter (!·.isAlwaysTrue))

/-- The disjunction without the members that never hold (`Predicate::any`); nothing but `always` if
some member always holds. -/
def any (ps : List Predicate) : Predicate :=
  if ps.any isAlwaysTrue then always else group or (ps.filter (!·.isAlwaysFalse))

/-- The negation, in which a constant becomes the other constant (`Predicate::not`). -/
def negate (p : Predicate) : Predicate :=
  if p.isAlwaysTrue then never
  else if p.isAlwaysFalse then always
  else not p

/-! ## Shape -/

/-- The direct members of a group or a negation. -/
def children : Predicate → List Predicate
  | comparison _ => []
  | and ps => ps
  | or ps => ps
  | not p => [p]

mutual

/-- The comparisons of a predicate, depth first (`Predicate::comparisons`). -/
def comparisons : Predicate → List Comparison
  | comparison c => [c]
  | and ps => comparisonsOfAll ps
  | or ps => comparisonsOfAll ps
  | not p => p.comparisons

/-- The comparisons of a list of predicates, in order. -/
def comparisonsOfAll : List Predicate → List Comparison
  | [] => []
  | p :: ps => p.comparisons ++ comparisonsOfAll ps

end

/-- The comparisons of a list are those of its members, one member after another. -/
theorem comparisonsOfAll_eq (ps : List Predicate) :
    comparisonsOfAll ps = ps.flatMap comparisons := by
  induction ps <;> simp_all [comparisonsOfAll]

mutual

/-- The number of levels; a comparison is one. -/
def depth : Predicate → Nat
  | comparison _ => 1
  | and ps => 1 + depthOfAll ps
  | or ps => 1 + depthOfAll ps
  | not p => 1 + p.depth

/-- The greatest number of levels among predicates. -/
def depthOfAll : List Predicate → Nat
  | [] => 0
  | p :: ps => max p.depth (depthOfAll ps)

end

/-! ## Text -/

mutual

/-- The predicate as messages show it. -/
def shown : Predicate → String
  | comparison c => c.shown
  | and [] => "TRUE"
  | or [] => "FALSE"
  | and (p :: ps) => "(" ++ " AND ".intercalate (p.shown :: shownItems ps) ++ ")"
  | or (p :: ps) => "(" ++ " OR ".intercalate (p.shown :: shownItems ps) ++ ")"
  | not p => "NOT (" ++ p.shown ++ ")"

/-- The members of a group as messages show them. -/
def shownItems : List Predicate → List String
  | [] => []
  | p :: ps => p.shown :: shownItems ps

end

end Predicate
end RowFilter
