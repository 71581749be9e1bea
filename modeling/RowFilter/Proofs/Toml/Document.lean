import RowFilter.Proofs.Toml.Once
import RowFilter.Toml.Reader

/-!
# A document says nothing twice

Values nest, and tables between braces are made up of assignments as a document is. So what holds of
statements holds of every table in a document, however it is written, and a structure that is read
from it finds each of its fields once at most.

Headlines:
* `saysOnce_of_scalar?`: a scalar holds no table;
* `readsOnce_value?`: no value says anything twice, however deep it nests;
* **`saysOnce_of_read?`**: nor does a document.
-/

namespace RowFilter.Toml

variable {cs rest : List Char} {t : Toml}

/-! ## Scalars -/

theorem saysOnce_of_fitting? {n : Int} (h : fitting? n = some t) : t.SaysOnce := by
  unfold fitting? at h
  split at h
  · obtain rfl := Option.some.inj h
    exact .integer _
  · cases h

theorem saysOnce_of_basedInteger? {base : Nat} (h : basedInteger? base cs = some (t, rest)) :
    t.SaysOnce := by
  obtain ⟨⟨ds, more⟩, -, h⟩ := Option.bind_eq_some_iff.mp h
  obtain ⟨n, -, h⟩ := Option.bind_eq_some_iff.mp h
  obtain ⟨v, hv, h⟩ := Option.bind_eq_some_iff.mp h
  cases h
  exact saysOnce_of_fitting? hv

theorem saysOnce_of_decimalInteger? (h : decimalInteger? cs = some (t, rest)) : t.SaysOnce := by
  obtain ⟨⟨ds, more⟩, -, h⟩ := Option.bind_eq_some_iff.mp h
  obtain ⟨v, hv, h⟩ := Option.bind_eq_some_iff.mp h
  cases h
  exact saysOnce_of_fitting? hv

theorem saysOnce_of_integer? (h : integer? cs = some (t, rest)) : t.SaysOnce := by
  unfold integer? at h
  split at h
  · exact saysOnce_of_basedInteger? h
  · exact saysOnce_of_basedInteger? h
  · exact saysOnce_of_basedInteger? h
  · exact saysOnce_of_decimalInteger? h

theorem saysOnce_of_decimalReal? (h : decimalReal? cs = some (t, rest)) : t.SaysOnce := by
  unfold decimalReal? at h
  generalize sign cs = signed at h
  obtain ⟨⟨whole, afterWhole⟩, -, h⟩ := Option.bind_eq_some_iff.mp h
  obtain ⟨⟨part, afterPart⟩, -, h⟩ := Option.bind_eq_some_iff.mp h
  obtain ⟨⟨exponent, more⟩, -, h⟩ := Option.bind_eq_some_iff.mp h
  dsimp only at h
  split at h
  · cases h
  · split at h
    · cases h
      exact .real _
    · cases h

theorem saysOnce_of_specialReal? (h : specialReal? cs = some (t, rest)) : t.SaysOnce := by
  rcases Option.or_eq_some_iff.mp h with h | ⟨-, h⟩
  · obtain ⟨more, -, h⟩ := Option.map_eq_some_iff.mp h
    cases h
    exact .real _
  · obtain ⟨more, -, h⟩ := Option.map_eq_some_iff.mp h
    cases h
    exact .real _

theorem saysOnce_of_scalar? (h : scalar? cs = some (t, rest)) : t.SaysOnce := by
  unfold scalar? at h
  split at h
  · obtain ⟨more, -, h⟩ := Option.map_eq_some_iff.mp h
    cases h
    exact .bool _
  · obtain ⟨more, -, h⟩ := Option.map_eq_some_iff.mp h
    cases h
    exact .bool _
  · rcases Option.or_eq_some_iff.mp h with h | ⟨-, h⟩
    · obtain ⟨more, -, h⟩ := Option.map_eq_some_iff.mp h
      cases h
      exact .moment _
    rcases Option.or_eq_some_iff.mp h with h | ⟨-, h⟩
    · exact saysOnce_of_decimalReal? h
    rcases Option.or_eq_some_iff.mp h with h | ⟨-, h⟩
    · exact saysOnce_of_specialReal? h
    · exact saysOnce_of_integer? h

theorem saysOnce_of_flat? (h : flat? cs = some (t, rest)) : t.SaysOnce := by
  unfold flat? at h
  split at h
  · obtain ⟨text, -, h⟩ := Option.map_eq_some_iff.mp h
    cases h
    exact .text _
  · obtain ⟨text, -, h⟩ := Option.map_eq_some_iff.mp h
    cases h
    exact .text _
  · exact saysOnce_of_scalar? h

/-! ## Values -/

/-- What a reader of values reads says nothing twice. -/
def ReadsOnce (value : ReadValue) : Prop :=
  ∀ {cs t rest}, value cs = some (t, rest) → t.SaysOnce

theorem saysOnce_of_items {value : ReadValue} (hvalue : ReadsOnce value) {ts : List Toml}
    (h : items value cs = some (ts, rest)) : ∀ t ∈ ts, t.SaysOnce := by
  fun_induction items value cs generalizing ts rest with
  | case1 => cases h
  | case2 =>
    cases h
    exact fun t ht => absurd ht List.not_mem_nil
  | case3 => cases h
  | case4 cs cs' _ _ v after hv more hclose =>
    cases h
    simpa using hvalue hv
  | case5 cs cs' _ _ v after hv more hcomma _ ih =>
    obtain ⟨⟨vs, last⟩, hvs, h⟩ := Option.map_eq_some_iff.mp h
    cases h
    rw [List.forall_mem_cons]
    exact ⟨hvalue hv, ih hvs⟩
  | case6 => cases h
  | case7 => cases h

theorem saysOnce_of_assignment? {value : ReadValue} (hvalue : ReadsOnce value) {a : Key × Toml}
    (h : assignment? value cs = some (a, rest)) : a.2.SaysOnce := by
  obtain ⟨⟨k, more⟩, -, h⟩ := Option.bind_eq_some_iff.mp h
  dsimp only at h
  split at h
  · obtain ⟨⟨v, last⟩, hv, h⟩ := Option.map_eq_some_iff.mp h
    cases h
    exact hvalue hv
  · cases h

theorem saysOnce_of_assignments {value : ReadValue} (hvalue : ReadsOnce value)
    {as : List (Key × Toml)} (h : assignments value cs = some (as, rest)) :
    ∀ a ∈ as, a.2.SaysOnce := by
  fun_induction assignments value cs generalizing as rest with
  | case1 => cases h
  | case2 cs a after ha more hclose =>
    cases h
    simpa using saysOnce_of_assignment? hvalue ha
  | case3 cs a after ha more hcomma _ ih =>
    obtain ⟨⟨rest', last⟩, hrest, h⟩ := Option.map_eq_some_iff.mp h
    cases h
    rw [List.forall_mem_cons]
    exact ⟨saysOnce_of_assignment? hvalue ha, ih hrest⟩
  | case4 => cases h
  | case5 => cases h

theorem saysOnce_of_ofAssignments? {as : List (Key × Toml)} (has : ∀ a ∈ as, a.2.SaysOnce)
    (h : ofAssignments? as = some t) : t.SaysOnce := by
  refine saysOnce_ofStatements? (fun s hs => ?_) h
  obtain ⟨a, ha, rfl⟩ := List.mem_map.mp hs
  exact has a ha

theorem saysOnce_of_braced {value : ReadValue} (hvalue : ReadsOnce value)
    (h : braced value cs = some (t, rest)) : t.SaysOnce := by
  unfold braced at h
  split at h
  · cases h
    exact .table List.nodup_nil fun e he => absurd he List.not_mem_nil
  · obtain ⟨⟨as, more⟩, has, h⟩ := Option.bind_eq_some_iff.mp h
    obtain ⟨table, htable, h⟩ := Option.map_eq_some_iff.mp h
    cases h
    exact saysOnce_of_ofAssignments? (saysOnce_of_assignments hvalue has) htable

/-- However deep values may nest, they say nothing twice. -/
theorem readsOnce_value? (depth : Nat) : ReadsOnce (value? depth) := by
  induction depth with
  | zero => exact saysOnce_of_flat?
  | succ depth ih =>
    intro cs t rest h
    rw [value?.eq_def] at h
    dsimp only at h
    split at h
    · obtain ⟨⟨ts, more⟩, hts, h⟩ := Option.map_eq_some_iff.mp h
      cases h
      exact .array (saysOnce_of_items ih hts)
    · exact saysOnce_of_braced ih h
    · exact saysOnce_of_flat? h

/-! ## Documents -/

theorem saysOnce_of_header? {s : Statement} (h : header? cs = some (s, rest)) : s.SaysOnce := by
  unfold header? at h
  split at h
  · obtain ⟨⟨k, more⟩, -, h⟩ := Option.bind_eq_some_iff.mp h
    split at h
    · obtain ⟨last, -, h⟩ := Option.map_eq_some_iff.mp h
      cases h
      trivial
    · cases h
  · obtain ⟨⟨k, more⟩, -, h⟩ := Option.bind_eq_some_iff.mp h
    split at h
    · obtain ⟨last, -, h⟩ := Option.map_eq_some_iff.mp h
      cases h
      trivial
    · cases h

theorem saysOnce_of_statement? {found : List Statement} (h : statement? cs = some (found, rest)) :
    ∀ s ∈ found, s.SaysOnce := by
  unfold statement? at h
  split at h
  · cases h
    exact fun s hs => absurd hs List.not_mem_nil
  · obtain ⟨⟨s, more⟩, hs, h⟩ := Option.map_eq_some_iff.mp h
    cases h
    simpa using saysOnce_of_header? hs
  · split at h
    · obtain ⟨more, -, h⟩ := Option.map_eq_some_iff.mp h
      cases h
      exact fun s hs => absurd hs List.not_mem_nil
    · obtain ⟨⟨⟨k, v⟩, more⟩, hassign, h⟩ := Option.bind_eq_some_iff.mp h
      obtain ⟨last, -, h⟩ := Option.map_eq_some_iff.mp h
      cases h
      have hv : v.SaysOnce := saysOnce_of_assignment? (readsOnce_value? _) hassign
      simpa [Statement.SaysOnce] using hv

theorem saysOnce_of_statements {found : List Statement} (h : statements cs = some found) :
    ∀ s ∈ found, s.SaysOnce := by
  fun_induction statements cs generalizing found with
  | case1 =>
    cases h
    exact fun s hs => absurd hs List.not_mem_nil
  | case2 cs _ first more hfirst _ ih =>
    obtain ⟨others, hothers, rfl⟩ := Option.map_eq_some_iff.mp h
    intro s hs
    rcases List.mem_append.mp hs with hs | hs
    · exact saysOnce_of_statement? hfirst s hs
    · exact ih hothers s hs
  | case3 => cases h
  | case4 => cases h

/-- **A document says nothing twice.** -/
theorem saysOnce_of_read? {text : String} (h : read? text = some t) : t.SaysOnce := by
  obtain ⟨found, hfound, h⟩ := Option.bind_eq_some_iff.mp h
  exact saysOnce_ofStatements? (saysOnce_of_statements hfound) h

end RowFilter.Toml
