import RowFilter.Access.Service
import RowFilter.Proofs.Access.Reachability
import RowFilter.Proofs.Access.Resolution
import RowFilter.Proofs.Predicate.Truth

/-!
# Which rows a request lets through

`ComparesIds` says what is asked of a database: comparing a column with identifiers tests for
equality and membership, and says nothing of a null. Everything else that a comparison may mean is
left open. `Role.Grants` says in words of the organization which rows a role lets its holder see.

Headlines:
* `resolve_true_iff`: the scope of a session is true of exactly the rows that one of its roles
  grants;
* `build_true_iff`: the criteria are true of exactly the rows that pass each applicable field;
* **`scopedFilter_true_iff`**: a request lets a row through exactly when the row passes every
  applicable field and some role of the session grants it.
-/

namespace RowFilter.Access

/-! ## Rows -/

/-- What a row holds in each column; a null is nothing. -/
abbrev Cells := String → Option Value

/-- Whether a cell holds one of some values, which of a null is unknown. -/
def holdsOneOf (values : List Value) : Option Value → Truth
  | none => .unknown
  | some v => if v ∈ values then .true else .false

theorem holdsOneOf_eq_true_iff {values : List Value} {cell : Option Value} :
    holdsOneOf values cell = .true ↔ ∃ v ∈ values, cell = some v := by
  cases cell with
  | none => simp [holdsOneOf]
  | some v => simp [holdsOneOf]

/-- Comparisons of a column with identifiers mean equality and membership. -/
structure ComparesIds {Row : Type} (cells : Row → Cells) (meaning : Row → Comparison → Truth) :
    Prop where
  equal : ∀ row column (id : Id),
    meaning row (.equal column id.toValue) = holdsOneOf [id.toValue] (cells row column)
  isIn : ∀ row column (ids : List Id),
    meaning row (.isIn column (ids.map Id.toValue)) =
      holdsOneOf (ids.map Id.toValue) (cells row column)

/-- The role lets the acting user of a session see a row with these cells. -/
def Role.Grants (h : Hierarchy) (columns : Columns) (s : Session) (cells : Cells) (r : Role) :
    Prop :=
  match r.scope with
  | .all => True
  | .own => cells columns.owner = some s.user.toValue
  | .dept => ∃ id, s.department = some id ∧ cells columns.dept = some id.toValue
  | .deptAndChild => ∃ id below, s.department = some id ∧ h.Reaches id below ∧
      cells columns.dept = some below.toValue
  | .custom => ∃ id ∈ r.departments, cells columns.dept = some id.toValue

/-! ## Scopes -/

section Scopes

variable {Row : Type} {cells : Row → Cells} {meaning : Row → Comparison → Truth} {row : Row}
  {h : Hierarchy} {columns : Columns} {s : Session}

/-- Belonging to one of some departments, whichever are listed twice. -/
theorem inDepartments_true_iff (hm : ComparesIds cells meaning) (resolver : Resolver)
    (ids : List Id) :
    (resolver.inDepartments ids).truth (meaning row) = .true ↔
      ∃ id ∈ ids, cells row resolver.columns.dept = some id.toValue := by
  rw [Resolver.inDepartments, Predicate.truth_comparison, hm.isIn, holdsOneOf_eq_true_iff]
  simp only [List.mem_map, List.mem_eraseDups]
  constructor
  · rintro ⟨_, ⟨id, hid, rfl⟩, hc⟩
    exact ⟨id, hid, hc⟩
  · rintro ⟨id, hid, hc⟩
    exact ⟨_, ⟨id, hid, rfl⟩, hc⟩

/-- **What one role becomes** is true of exactly the rows that the role grants. -/
theorem Resolver.Resolves.true_iff (hm : ComparesIds cells meaning) {r : Role} {p : Predicate}
    (hp : Resolver.Resolves ⟨columns, .ofHierarchy h⟩ s r p) :
    p.truth (meaning row) = .true ↔ r.Grants h columns s (cells row) := by
  unfold Role.Grants
  cases hp with
  | all hscope => simp [hscope]
  | own hscope =>
    rw [hscope, Predicate.truth_comparison, hm.equal, holdsOneOf_eq_true_iff]
    simp
  | dept hscope hid =>
    rw [hscope, Predicate.truth_comparison, hm.equal, holdsOneOf_eq_true_iff, hid]
    simp
  | @deptAndChild hscope id below hid hbelow =>
    obtain rfl := Except.ok.inj hbelow
    rw [hscope, inDepartments_true_iff hm, hid]
    -- The department is listed before its subtree, which lists it again.
    constructor
    · rintro ⟨x, hx, hc⟩
      rcases List.mem_cons.mp hx with rfl | hx
      · exact ⟨x, x, rfl, Relation.ReflTransGen.refl, hc⟩
      · exact ⟨id, x, rfl, Hierarchy.mem_subtree.mp hx, hc⟩
    · rintro ⟨_, x, hd, hr, hc⟩
      obtain rfl := Option.some.inj hd
      exact ⟨x, List.mem_cons_of_mem _ (Hierarchy.mem_subtree.mpr hr), hc⟩
  | custom hscope =>
    rw [hscope]
    exact inDepartments_true_iff hm _ _

/-- **The scope of a session** is true of exactly the rows that one of its roles grants. -/
theorem resolve_true_iff (hm : ComparesIds cells meaning) {p : Predicate}
    (hp : Resolver.resolve ⟨columns, .ofHierarchy h⟩ s = .ok p) :
    p.truth (meaning row) = .true ↔ ∃ r ∈ s.roles, r.Grants h columns s (cells row) := by
  obtain ⟨perRole, hroles, rfl⟩ := Resolver.resolve_eq_ok_iff.mp hp
  rw [Predicate.truth_any, Predicate.truth_or, Truth.disj_eq_true_iff, List.mem_map]
  constructor
  · rintro ⟨q, hq, ht⟩
    obtain ⟨r, hr, hrq⟩ := Resolver.exists_role_of_resolve hroles hq
    exact ⟨r, hr, (hrq.true_iff hm).mp ht⟩
  · rintro ⟨r, hr, hg⟩
    obtain ⟨q, hq, hrq⟩ := Outcome.exists_of_forall₂_left hroles hr
    exact ⟨q, List.mem_eraseDups.mpr hq, (hrq.true_iff hm).mpr hg⟩

end Scopes

/-! ## Criteria -/

/-- The field lets a row through: what it compiles to is true of the row. -/
def Passes (registry : Registry) (meaning : Comparison → Truth) (field : Field) : Prop :=
  ∃ q, field.compile registry = .ok q ∧ q.truth meaning = .true

/-- **The criteria** are true of exactly the rows that pass each applicable field. -/
theorem build_true_iff {registry : Registry} {meaning : Comparison → Truth} {fields : List Field}
    {p : Predicate} (hp : build registry fields = .ok p) :
    p.truth meaning = .true ↔
      ∀ field ∈ fields, field.isApplicable = true → Passes registry meaning field := by
  obtain ⟨ps, hall, rfl⟩ := Outcome.map_ok_iff.mp hp
  have hfields := Outcome.mapM_eq_ok_iff.mp hall
  rw [Predicate.truth_and, Truth.conj_eq_true_iff, List.forall_mem_map]
  constructor
  · intro h field hf happlies
    have hmem : field ∈ applicable fields := mem_applicable.mpr ⟨hf, happlies⟩
    obtain ⟨q, hq, hc⟩ := Outcome.exists_of_forall₂_left hfields hmem
    exact ⟨q, hc, h q hq⟩
  · intro h q hq
    obtain ⟨field, hmem, hc⟩ := Outcome.exists_of_forall₂_right hfields hq
    obtain ⟨hf, happlies⟩ := mem_applicable.mp hmem
    obtain ⟨q', hc', ht⟩ := h field hf happlies
    rw [hc] at hc'
    exact Except.ok.inj hc' ▸ ht

/-! ## Requests -/

/-- **A request lets a row through exactly when it may**: whatever is answered is true of the rows
that pass every applicable field and that some role of the session grants, and of no others. -/
theorem scopedFilter_true_iff {Row : Type} {cells : Row → Cells}
    {meaning : Row → Comparison → Truth} (hm : ComparesIds cells meaning) {registry : Registry}
    {columns : Columns} {h : Hierarchy} {criteria : Except Fault (List Field)} {s : Session}
    {p : Predicate}
    (hp : Service.scopedFilter ⟨⟨columns, .ofHierarchy h⟩, registry⟩ criteria (.ok s) = .ok p)
    (row : Row) :
    p.truth (meaning row) = .true ↔
      (∃ fields, criteria = .ok fields ∧
        ∀ field ∈ fields, field.isApplicable = true → Passes registry (meaning row) field) ∧
      ∃ r ∈ s.roles, r.Grants h columns s (cells row) := by
  obtain ⟨fields, hf, hp⟩ := Outcome.bind_ok_iff.mp hp
  obtain ⟨asked, ha, hp⟩ := Outcome.bind_ok_iff.mp hp
  obtain ⟨allowed, hb, hp⟩ := Outcome.bind_ok_iff.mp hp
  obtain rfl := Except.ok.inj hp
  rw [Predicate.truth_assemble, Truth.and_eq_true_iff, build_true_iff ha, resolve_true_iff hm hb,
    hf]
  simp

/-! ### A department with one below it -/

/-- Only comparisons for equality and membership say anything. -/
def idMeaning {Row : Type} (cells : Row → Cells) (row : Row) (c : Comparison) : Truth :=
  match c.operator, c.operand with
  | .equal, .single v => holdsOneOf [v] (cells row c.column)
  | .isIn, .list vs => holdsOneOf vs (cells row c.column)
  | _, _ => .unknown

theorem comparesIds_idMeaning {Row : Type} (cells : Row → Cells) :
    ComparesIds cells (idMeaning cells) where
  equal _ _ _ := rfl
  isIn _ _ _ := rfl

/-- Two departments, each registered below the other. -/
def twoDepartments : Hierarchy := ⟨[(.int 1, .int 2), (.int 2, .int 1)]⟩

/-- A user of the first department who sees it and all below it. -/
def headOfFirst : Session :=
  { user := .text "u1", department := some (.int 1),
    roles := [{ name := "head", scope := .deptAndChild }] }

/-- Rows that are open, each known by its department. -/
def openRow (dept : Int64) (column : String) : Option Value :=
  if column = "status" then some (.int 1) else if column = "dept_id" then some (.int dept) else none

/-- Asks for open rows. -/
def openField : Field :=
  ⟨{ name := "status", operator := .equal, column := some "status" }, .int 1⟩

/-- The head of the first department sees the open rows of the second. -/
theorem scopedFilter_of_headOfFirst :
    ∃ p, Service.scopedFilter ⟨⟨{}, .ofHierarchy twoDepartments⟩, .standard⟩ (.ok [openField])
        (.ok headOfFirst) = .ok p ∧
      ComparesIds openRow (idMeaning openRow) ∧ p.truth (idMeaning openRow 2) = .true ∧
      (∃ fields, Except.ok [openField] = (.ok fields : Except Fault (List Field)) ∧
        ∀ field ∈ fields, field.isApplicable = true →
          Passes .standard (idMeaning openRow 2) field) ∧
      ∃ r ∈ headOfFirst.roles, r.Grants twoDepartments {} headOfFirst (openRow 2) :=
  have hp : Service.scopedFilter ⟨⟨{}, .ofHierarchy twoDepartments⟩, .standard⟩ (.ok [openField])
      (.ok headOfFirst) = .ok (.and [.and [.comparison (.equal "status" (.int 1))],
        .comparison (.isIn "dept_id" [.int 1, .int 2])]) := by rfl
  ⟨_, hp, comparesIds_idMeaning openRow, by decide,
    (scopedFilter_true_iff (comparesIds_idMeaning openRow) hp 2).mp (by decide)⟩

end RowFilter.Access
