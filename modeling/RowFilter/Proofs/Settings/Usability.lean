import RowFilter.Proofs.Access.Canonical
import RowFilter.Proofs.Access.Suitability
import RowFilter.Proofs.Sql.Identifier
import RowFilter.Settings

/-!
# Settings stay usable

Settings are checked when they are read and after each override, key by key. The scope goes by other
names than those that are checked: the columns qualified by the alias of their table. They are safe
when their parts are, so whatever overrides have changed, a scope that can be resolved can be
written.

Headlines:
* `check_eq_ok_iff`: exactly the usable settings pass the check;
* `column_of_resolve`: a scope compares the columns that are set, and never by a pattern;
* `Obtained.isUsable`: settings are usable however a program came by them;
* **`render_isOk_of_obtained`**: their renderer writes every scope of their resolver.
-/

namespace RowFilter

/-! ## Scopes -/

namespace Access

section Scopes

variable {resolver : Resolver} {s : Session} {p : Predicate}

/-- The comparison is about a column of the scope, and no pattern. -/
structure Columns.Compares (columns : Columns) (c : Comparison) : Prop where
  column : c.column = columns.owner ∨ c.column = columns.dept
  like : c.operator.like = none

/-- **A scope compares the columns that are set**, and never by a pattern. -/
theorem column_of_resolve (hp : resolver.resolve s = .ok p) {c : Comparison}
    (hc : c ∈ p.comparisons) : resolver.columns.Compares c := by
  obtain ⟨r, -, hrestricts⟩ := Resolver.exists_restricts_of_resolve hp hc
  exact ⟨hrestricts.column, hrestricts.like⟩

/-- A scope whose columns are safe can be written, in any dialect and from any index on. -/
theorem render_isOk_of_resolve (hp : resolver.resolve s = .ok p)
    (howner : Sql.isSafe resolver.columns.owner = true)
    (hdept : Sql.isSafe resolver.columns.dept = true) (renderer : Sql.Renderer) :
    ∃ out, renderer.render p = .ok out := by
  cases hout : renderer.render p with
  | ok out => exact ⟨out, rfl⟩
  | error e =>
    obtain ⟨c, hc, hrefused⟩ := Sql.exists_refused_of_render (resolve_isSuited hp) hout
    have hcompares := column_of_resolve hp hc
    cases hrefused with
    | column hname =>
      rcases hcompares.column with hcolumn | hcolumn
      · rw [hcolumn, howner] at hname
        cases hname
      · rw [hcolumn, hdept] at hname
        cases hname
    | pattern hlike =>
      rw [hcompares.like] at hlike
      cases hlike

end Scopes

end Access

/-! ## Settings -/

namespace Settings

/-- The settings that a program may come by: the usual ones, those of a text, and from these those
of one place after another. -/
inductive Obtained : Settings → Prop where
  | usual : Obtained {}
  | text {env : Environment} {text : String} {s : Settings} (h : ofText env text = .ok s) :
      Obtained s
  | place {s changed : Settings} {name : String} (hs : Obtained s)
      (h : s.withOverride name = .ok changed) : Obtained changed

theorem checkName_eq_ok_iff {key name : String} :
    checkName key name = .ok () ↔ Sql.isSafe name = true := by
  unfold checkName
  split <;> simp_all

theorem checkAlias_eq_ok_iff {key : String} {tableAlias : Option String} :
    checkAlias key tableAlias = .ok () ↔ ∀ a ∈ tableAlias, Sql.isSafe a = true := by
  cases tableAlias <;> simp [checkAlias, checkName_eq_ok_iff]

theorem checkLimits_eq_ok_iff {limits : Page.Limits} :
    checkLimits limits = .ok () ↔ limits.defaultSize ≠ 0 ∧ limits.maxLimit ≠ some 0 := by
  unfold checkLimits
  split
  · simp_all
  · split <;> simp_all

/-- **The check** is passed by exactly the usable settings. -/
theorem check_eq_ok_iff (s : Settings) : s.check = .ok () ↔ s.IsUsable := by
  constructor
  · intro h
    obtain ⟨_, howner, h⟩ := Outcome.bind_ok_iff.mp h
    obtain ⟨_, hdept, h⟩ := Outcome.bind_ok_iff.mp h
    obtain ⟨_, halias, h⟩ := Outcome.bind_ok_iff.mp h
    obtain ⟨hdefault, hmost⟩ := checkLimits_eq_ok_iff.mp h
    exact ⟨checkName_eq_ok_iff.mp howner, checkName_eq_ok_iff.mp hdept,
      checkAlias_eq_ok_iff.mp halias, hdefault, hmost⟩
  · intro h
    exact Outcome.bind_ok_iff.mpr ⟨(), checkName_eq_ok_iff.mpr h.owner, Outcome.bind_ok_iff.mpr
      ⟨(), checkName_eq_ok_iff.mpr h.dept, Outcome.bind_ok_iff.mpr
        ⟨(), checkAlias_eq_ok_iff.mpr h.tableAlias,
          checkLimits_eq_ok_iff.mpr ⟨h.defaultSize, h.maxLimit⟩⟩⟩⟩

variable {s changed : Settings}

theorem checked_eq_ok_iff : s.checked = .ok changed ↔ changed = s ∧ s.IsUsable := by
  rw [← check_eq_ok_iff, checked]
  cases s.check with
  | error what => simp
  | ok u => simp [eq_comm]

/-- What passed the check is usable. -/
theorem isUsable_of_checked (h : s.checked = .ok changed) : changed.IsUsable := by
  obtain ⟨rfl, husable⟩ := checked_eq_ok_iff.mp h
  exact husable

theorem isUsable_usual : IsUsable {} := (check_eq_ok_iff {}).mp rfl

/-- A text gives usable settings, or none. -/
theorem isUsable_of_ofText {env : Environment} {text : String} (h : ofText env text = .ok s) :
    s.IsUsable := by
  unfold ofText at h
  split at h
  · cases h
  · split at h
    · cases h
    · exact isUsable_of_checked h

/-- So does an override, whatever the settings were before it. -/
theorem isUsable_of_withOverride {name : String} (h : s.withOverride name = .ok changed) :
    changed.IsUsable := by
  unfold withOverride at h
  split at h
  · exact isUsable_of_checked h
  · split at h
    · exact isUsable_of_checked h
    · cases h

/-- **Settings are usable** however a program came by them. -/
theorem Obtained.isUsable (h : Obtained s) : s.IsUsable := by
  induction h with
  | usual => exact isUsable_usual
  | text h => exact isUsable_of_ofText h
  | place _ h _ => exact isUsable_of_withOverride h

/-- The columns that the scope goes by are safe where the names they are made of are. -/
theorem IsUsable.isSafe_columns (h : s.IsUsable) :
    Sql.isSafe s.columns.columns.owner = true ∧ Sql.isSafe s.columns.columns.dept = true := by
  unfold ColumnNames.columns
  cases halias : s.columns.tableAlias with
  | none => exact ⟨h.owner, h.dept⟩
  | some name =>
    have hname : Sql.isSafe name = true := h.tableAlias name halias
    constructor
    · show Sql.isSafe (name ++ "." ++ s.columns.owner) = true
      rw [Sql.isSafe_qualified, hname, h.owner, Bool.and_self]
    · show Sql.isSafe (name ++ "." ++ s.columns.dept) = true
      rw [Sql.isSafe_qualified, hname, h.dept, Bool.and_self]

/-- **Checked settings can write their scopes**: whatever places have changed about the columns and
the alias, a scope that the resolver of the settings gives is one that their renderer writes. -/
theorem render_isOk_of_obtained (hs : Obtained s) {organization : Access.Organization}
    {session : Access.Session} {p : Predicate}
    (hp : (s.resolver organization).resolve session = .ok p) :
    ∃ out, s.renderer.render p = .ok out := by
  obtain ⟨howner, hdept⟩ := hs.isUsable.isSafe_columns
  exact Access.render_isOk_of_resolve hp howner hdept s.renderer

/-- One place calls the owner by a reserved word and gives the table an alias. -/
def placeText : String :=
  "[environments.eu.data_permission]\nowner_column=\"user\"\ntable_alias=\"t\""

/-- The settings of the text. -/
def placeSettings : Settings where
  overrides := [("eu", { columns := some { owner := some "user", tableAlias := some "t" } })]

theorem ofText_placeText : ofText .empty placeText = .ok placeSettings := by
  have htext : (ofText .empty placeText).toOption = some placeSettings := by decide +kernel
  exact Outcome.eq_ok_of_toOption htext

/-- The settings of the place. -/
def euSettings : Settings := { columns := { owner := "user", tableAlias := some "t" } }

theorem obtained_euSettings : Obtained euSettings := by
  have heu : placeSettings.withOverride "eu" = .ok euSettings := by rfl
  exact .place (.text ofText_placeText) heu

/-- A user who sees their own rows and those of their department and below. -/
def teamLead : Access.Session where
  user := .text "u1"
  department := some (.int 1)
  roles := [{ name := "self", scope := .own }, { name := "lead", scope := .deptAndChild }]

/-- Both columns are qualified, and the owner is quoted. -/
theorem render_isOk_of_euSettings :
    Obtained euSettings ∧
    ∃ p, (euSettings.resolver (fun _ => .ok [.int 2])).resolve teamLead = .ok p ∧
      (∃ out, euSettings.renderer.render p = .ok out) ∧
      (euSettings.renderer.render p).map Sql.Rendered.sql =
        .ok "(t.\"user\" = $1 OR t.dept_id IN ($2, $3))" := by
  have hp : (euSettings.resolver (fun _ => .ok [.int 2])).resolve teamLead = .ok (.or
      [.comparison (.equal "t.user" (.text "u1")),
       .comparison (.isIn "t.dept_id" [.int 1, .int 2])]) := by
    rfl
  exact ⟨obtained_euSettings, _, hp, render_isOk_of_obtained obtained_euSettings hp, by rfl⟩

end Settings
end RowFilter
