import RowFilter.Proofs.Criteria.Compilation

/-!
# Searches over several columns

The targets of a fuzzy field are gathered as they are written, each once. Only when the field is
compiled is a column spelt from each, and different targets may spell the same one. So a field
searches each of its columns once exactly if no two of its targets are spelt alike.

Headlines:
* `targets_searching`: the targets given in several turns, each once, where it is first given;
* `compile_searching_eq_ok_iff`: a fuzzy field compiles to one search for each of them;
* **`searchesOnce_iff`**: each column is searched once exactly if the targets are spelt differently;
* **`not_searchesOnce_of_spellings`**: two spellings of a column are searched twice.
-/

namespace RowFilter

/-! ## Targets -/

namespace FieldSpec

/-- The description of a field over targets that are added in several turns. -/
def searching (name : String) (operator : Operator) (turns : List (List String)) : FieldSpec :=
  turns.foldl blurry { name, operator }

section Targets

variable (name : String) (operator : Operator) (turns : List (List String))

/-- More targets are added where they are first given. -/
theorem foldl_addTarget (given more : List String) :
    more.foldl addTarget given.eraseDups = (given ++ more).eraseDups := by
  induction more using List.reverseRecOn with
  | nil => rw [List.foldl_nil, List.append_nil]
  | append_singleton more target ih =>
    rw [List.foldl_append, ih, List.foldl_cons, List.foldl_nil, ← List.append_assoc,
      eraseDups_concat, addTarget]
    simp only [List.contains_iff_mem, List.mem_eraseDups]

theorem targets_foldl_blurry {spec : FieldSpec} {given : List String}
    (h : spec.targets = given.eraseDups) :
    (turns.foldl blurry spec).targets = (given ++ turns.flatten).eraseDups := by
  induction turns generalizing spec given with
  | nil => rw [List.foldl_nil, List.flatten_nil, List.append_nil, h]
  | cons turn turns ih =>
    have hturn : (spec.blurry turn).targets = (given ++ turn).eraseDups := by
      rw [blurry, h, foldl_addTarget]
    rw [List.foldl_cons, ih hturn, List.flatten_cons, List.append_assoc]

/-- **The targets** given in several turns, each once, where it is first given. -/
theorem targets_searching :
    (searching name operator turns).targets = turns.flatten.eraseDups := by
  have hstart : ({ name, operator } : FieldSpec).targets = ([] : List String).eraseDups := rfl
  exact targets_foldl_blurry turns hstart

theorem isBlurry_searching :
    (searching name operator turns).isBlurry = true ↔ turns.flatten ≠ [] := by
  rw [isBlurry, targets_searching, Bool.not_eq_true', List.isEmpty_eq_false_iff, ne_eq,
    (firstOccurrences_eraseDups turns.flatten).eq_nil_iff]

end Targets

end FieldSpec

/-! ## Columns -/

/-- The search of a value in one column. -/
def searchIn (value : Value) (column : String) : Predicate :=
  .comparison ⟨column, .innerLike, .single value⟩

/-- The predicate searches each of some columns once, in the order in which they are first given. -/
def Predicate.SearchesOnce (columns : List String) (value : Value) (p : Predicate) : Prop :=
  ∃ kept, FirstOccurrences columns kept ∧ p = .or (kept.map (searchIn value))

theorem searchIn_injective (value : Value) : Function.Injective (searchIn value) := by
  intro a b h
  injection h with h
  exact congrArg Comparison.column h

theorem map_searchOf (value : Value) (targets : List String) :
    targets.map (searchOf value) = (targets.map Text.underscore).map (searchIn value) := by
  rw [List.map_map]
  rfl

/-- Different targets search different columns exactly if no two of them are spelt alike. -/
theorem searchesOnce_searches_iff (value : Value) (targets : List String) :
    (Predicate.or (targets.eraseDups.map (searchOf value))).SearchesOnce
      (targets.map Text.underscore) value ↔ Set.InjOn Text.underscore {t | t ∈ targets} := by
  rw [map_searchOf]
  constructor
  · rintro ⟨kept, hkept, hp⟩
    have hcolumns : targets.eraseDups.map Text.underscore = kept :=
      List.map_injective_iff.mpr (searchIn_injective value) (Predicate.or.inj hp)
    have hnodup : (targets.eraseDups.map Text.underscore).Nodup := hcolumns ▸ hkept.nodup
    intro a ha b hb heq
    exact List.inj_on_of_nodup_map hnodup (List.mem_eraseDups.mpr ha) (List.mem_eraseDups.mpr hb)
      heq
  · intro hspelt
    refine ⟨_, firstOccurrences_eraseDups _, ?_⟩
    rw [eraseDups_map_of_injOn hspelt]

/-! ## Compiled searches -/

section Compiled

variable {name : String} {operator : Operator} {turns : List (List String)} {registry : Registry}
  {value : Value} {p : Predicate}

/-- **A fuzzy field compiles** wherever searches are in use, for any value but a list, to one search
for each of its targets. -/
theorem compile_searching_eq_ok_iff (hturns : turns.flatten ≠ []) :
    compile registry (.searching name operator turns) value = .ok p ↔
      registry.contains .innerLike = true ∧ (∀ items, value ≠ .list items) ∧
        p = .or (turns.flatten.eraseDups.map (searchOf value)) := by
  have hb := (FieldSpec.isBlurry_searching name operator turns).mpr hturns
  have htargets := FieldSpec.targets_searching name operator turns
  have hneeded : (FieldSpec.searching name operator turns).needed = .innerLike := if_pos hb
  have hrule : (∃ rule, registry.rule .innerLike = .ok rule) ↔
      registry.contains .innerLike = true := by
    rw [← Registry.rule_isOk_iff]
    cases registry.rule .innerLike <;> simp [Except.isOk, Except.toBool]
  rw [compile_eq_ok_iff, hneeded, ← hrule]
  constructor
  · rintro ⟨rule, hr, hcompiled⟩
    cases hcompiled with
    | searches _ hlist => exact ⟨⟨rule, hr⟩, hlist, by rw [htargets]⟩
    | comparison hnot => exact absurd hb (by simp [hnot])
  · rintro ⟨⟨rule, hr⟩, hlist, rfl⟩
    exact ⟨rule, hr, htargets ▸ .searches hb hlist⟩

/-- **Each column is searched once** exactly if no two targets are spelt alike. What is searched
once in any case is each target as it is written. -/
theorem searchesOnce_iff (hturns : turns.flatten ≠ [])
    (hp : compile registry (.searching name operator turns) value = .ok p) :
    (∃ kept, FirstOccurrences turns.flatten kept ∧ p = .or (kept.map (searchOf value))) ∧
    (p.SearchesOnce (turns.flatten.map Text.underscore) value ↔
      Set.InjOn Text.underscore {t | t ∈ turns.flatten}) := by
  obtain ⟨-, -, rfl⟩ := (compile_searching_eq_ok_iff hturns).mp hp
  exact ⟨⟨_, firstOccurrences_eraseDups _, rfl⟩, searchesOnce_searches_iff value _⟩

end Compiled

/-- A name is searched for in three columns, one of which is given twice. -/
theorem searchesOnce_of_differentSpellings :
    ∃ p, compile .standard
        (.searching "q" .equal [["nickName", "email"], [], ["phone2", "nickName"]]) (.text "x") =
        .ok p ∧
      p.SearchesOnce ["nick_name", "email", "phone2", "nick_name"] (.text "x") := by
  have hp : compile .standard
      (.searching "q" .equal [["nickName", "email"], [], ["phone2", "nickName"]]) (.text "x") =
      .ok (.or (["nick_name", "email", "phone2"].map (searchIn (.text "x")))) := by rfl
  have hspelt : Set.InjOn Text.underscore
      {t | t ∈ [["nickName", "email"], [], ["phone2", "nickName"]].flatten} := by
    have hnodup : (["nickName", "email", "phone2"].map Text.underscore).Nodup := by decide
    intro a ha b hb heq
    have hmem : ∀ t ∈ [["nickName", "email"], [], ["phone2", "nickName"]].flatten,
        t ∈ ["nickName", "email", "phone2"] := by decide
    exact List.inj_on_of_nodup_map hnodup (hmem a ha) (hmem b hb) heq
  exact ⟨_, hp, ((searchesOnce_iff (by decide) hp).2).mpr hspelt⟩

/-- **Two spellings of a column** are two targets, so the column is searched twice. -/
theorem not_searchesOnce_of_spellings :
    ∃ p, compile .standard (.searching "q" .equal [["nickName", "nick_name"]]) (.text "x") =
        .ok p ∧
      p = .or [searchIn (.text "x") "nick_name", searchIn (.text "x") "nick_name"] ∧
      ¬p.SearchesOnce (["nickName", "nick_name"].map Text.underscore) (.text "x") := by
  refine ⟨_, by rfl, by rfl, fun honce => ?_⟩
  have hspelt := (searchesOnce_searches_iff (.text "x") ["nickName", "nick_name"]).mp honce
  have halike : Text.underscore "nickName" = Text.underscore "nick_name" := by decide
  exact absurd (hspelt (by simp) (by simp) halike) (by decide)

end RowFilter
