import RowFilter.Proofs.Settings.Usability
import RowFilter.Proofs.Toml.Document
import RowFilter.Proofs.Toml.Parts

/-!
# What settings write

What a document writes for a place, part by part and key by key, and how it is read: the override of
a place, its changes of columns and limits, and its dialect. Whatever stands there is one thing
said once, so what has been read of it is there exactly if it is written.

Headlines:
* `writtenAs_of_readDialect`: a dialect is written by one of its names;
* `ColumnChange.writtenAs_of_gives` and its like: a change holds what is written for its keys;
* **`exists_writtenIn_of_ofText`**: the overrides of settings are those that their document writes.
-/

namespace RowFilter

open Json (Reading Outline)
open Outcome (bind_ok_iff map_ok_iff)
open Toml (Gives)

/-! ## Plain values -/

namespace Toml

variable {t : Toml}

theorem eq_text_of_toJson {s : String} (h : t.toJson = .string s) : t = .text s := by
  cases t with
  | text => simpa [toJson] using h
  | real x =>
    rw [toJson, realJson] at h
    split at h <;> cases h
  | integer | bool | moment | array | table => simp [toJson, Json.ofInt64] at h

theorem eq_text_of_readString {s : String} (h : t.toJson.readString = .ok s) : t = .text s := by
  apply eq_text_of_toJson
  unfold Json.readString at h
  split at h
  · rename_i heq
    rw [heq, Except.ok.inj h]
  · cases h

theorem eq_bool_of_readBool {b : Bool} (h : t.toJson.readBool = .ok b) : t = .bool b := by
  cases t with
  | bool c => rw [Except.ok.inj h]
  | real x =>
    rw [toJson, realJson] at h
    split at h <;> cases h
  | text | integer | moment | array | table => cases h

theorem exists_integer_of_readWhole {type : String} {low high n : Int}
    (h : t.toJson.readWhole type low high = .ok n) :
    ∃ i : Int64, t = .integer i ∧ i.toInt = n ∧ low ≤ n := by
  cases t with
  | integer i =>
    unfold toJson Json.ofInt64 Json.readWhole at h
    dsimp only at h
    split at h
    · rename_i hbounds
      obtain rfl := Except.ok.inj h
      exact ⟨i, rfl, rfl, hbounds.1⟩
    · cases h
  | real x =>
    rw [toJson, realJson] at h
    split at h <;> cases h
  | text | bool | moment | array | table => cases h

theorem eq_integer_of_readInt64 {n : Int64} (h : t.toJson.readInt64 = .ok n) : t = .integer n := by
  obtain ⟨m, hm, rfl⟩ := map_ok_iff.mp h
  obtain ⟨i, rfl, rfl, -⟩ := exists_integer_of_readWhole hm
  rw [Int64.ofInt_toInt]

/-- A number that is not negative stays what it is without its sign. -/
theorem toNat_ofNat_toInt {n : Int64} (h : 0 ≤ n.toInt) :
    ((UInt64.ofNat n.toInt.toNat).toNat : Int) = n.toInt := by
  have hhigh := n.toInt_lt
  have hfits : n.toInt.toNat < UInt64.size := by
    simp only [UInt64.size]
    omega
  rw [UInt64.toNat_ofNat_of_lt' hfits]
  omega

theorem exists_integer_of_readUInt64 {n : UInt64} (h : t.toJson.readUInt64 = .ok n) :
    ∃ i : Int64, t = .integer i ∧ i.toInt = n.toNat := by
  obtain ⟨m, hm, rfl⟩ := map_ok_iff.mp h
  obtain ⟨i, rfl, rfl, hlow⟩ := exists_integer_of_readWhole hm
  exact ⟨i, rfl, (toNat_ofNat_toInt hlow).symm⟩

theorem eq_table_nil_of_toJson (h : t.toJson = .object []) : t = .table [] := by
  cases t with
  | table entries =>
    rw [toJson_table, Json.object.injEq, List.map_eq_nil_iff] at h
    rw [h]
  | real x =>
    rw [toJson, realJson] at h
    split at h <;> cases h
  | text | integer | bool | moment | array => simp [toJson, Json.ofInt64] at h

theorem eq_array_nil_of_toJson (h : t.toJson = .array []) : t = .array [] := by
  cases t with
  | array items =>
    rw [toJson, itemsJson_eq_map, Json.array.injEq, List.map_eq_nil_iff] at h
    rw [h]
  | real x =>
    rw [toJson, realJson] at h
    split at h <;> cases h
  | text | integer | bool | moment | table => simp [toJson, Json.ofInt64] at h

/-- An object with one member is a table with one entry, unless it stands for a moment or for a
number that is not finite. -/
theorem exists_entry_of_toJson {name : String} {v : Json} (h : t.toJson = .object [(name, v)])
    (hnull : v ≠ .null) (hstring : ∀ s, v ≠ .string s) :
    ∃ inner : Toml, t = .table [(name, inner)] ∧ inner.toJson = v := by
  cases t with
  | table entries =>
    rw [toJson_table, Json.object.injEq, List.map_eq_singleton_iff] at h
    obtain ⟨⟨key, inner⟩, rfl, hentry⟩ := h
    obtain ⟨rfl, rfl⟩ := Prod.mk.inj hentry
    exact ⟨inner, rfl, rfl⟩
  | moment s =>
    simp only [toJson, Json.object.injEq, List.cons.injEq, Prod.mk.injEq] at h
    exact absurd h.1.2.symm (hstring s)
  | real x =>
    rw [toJson, realJson] at h
    split at h
    · cases h
    · simp only [Json.object.injEq, List.cons.injEq, Prod.mk.injEq] at h
      exact absurd h.1.2.symm hnull
  | text | integer | bool | array => simp [toJson, Json.ofInt64] at h

end Toml

/-! ## Dialects -/

namespace Sql.Dialect

theorem mem_names_of_ofJson {name : String} {d : Dialect} (h : ofJson (.string name) = .ok d) :
    name ∈ d.names := by
  obtain ⟨⟨found, payload⟩, hchoice, h⟩ := bind_ok_iff.mp h
  obtain ⟨rfl, rfl⟩ := Prod.mk.inj (Except.ok.inj hchoice)
  dsimp only at h
  split at h
  · cases h
  · rename_i hfound
    obtain rfl := Except.ok.inj h
    simpa using List.find?_some hfound

/-- The value writes the dialect: by one of its names, which may have an empty table or list to
itself. -/
def WrittenAs (d : Dialect) (t : Toml) : Prop :=
  ∃ name ∈ d.names,
    t = .text name ∨ t = .table [(name, .table [])] ∨ t = .table [(name, .array [])]

/-- **A dialect is written by one of its names.** -/
theorem writtenAs_of_readDialect {t : Toml} {d : Dialect}
    (h : Settings.readDialect t.toJson = .ok d) : d.WrittenAs t := by
  unfold Settings.readDialect at h
  split at h
  · rename_i name heq
    obtain ⟨inner, rfl, hinner⟩ := Toml.exists_entry_of_toJson heq (by simp) (by simp)
    rw [Toml.eq_table_nil_of_toJson hinner]
    exact ⟨name, mem_names_of_ofJson h, .inr (.inl rfl)⟩
  · rename_i name heq
    obtain ⟨inner, rfl, hinner⟩ := Toml.exists_entry_of_toJson heq (by simp) (by simp)
    rw [Toml.eq_array_nil_of_toJson hinner]
    exact ⟨name, mem_names_of_ofJson h, .inr (.inr rfl)⟩
  · rename_i name heq
    exact ⟨name, mem_names_of_ofJson h, .inl (Toml.eq_text_of_toJson heq)⟩
  · cases h

end Sql.Dialect

/-! ## Changes -/

namespace Settings

variable {t : Toml}

/-- A change is read as a structure; of a list, every position has to be filled. -/
theorem exists_read_of_noGap {σ : Type} {o : Outline} {set : σ → String → Json → Reading σ}
    {start s : σ} {v : Json}
    (h : (do let (s, _) ← o.read set start v; o.noGap v; return s) = Except.ok s) :
    ∃ origin, o.read set start v = .ok (s, origin) := by
  obtain ⟨⟨s', origin⟩, hread, h⟩ := bind_ok_iff.mp h
  obtain ⟨_, -, h⟩ := bind_ok_iff.mp h
  obtain rfl := Except.ok.inj h
  exact ⟨origin, hread⟩

namespace ColumnChange

theorem isStrict_outline : outline.IsStrict := ⟨rfl, by decide, by decide, by decide⟩

/-- A key of columns does not touch what other keys set. -/
theorem set_frame {c c' : ColumnChange} {k : String} {v : Json} (hk : k ∈ outline.fields)
    (h : set c k v = .ok c') : (k ≠ "owner_column" → c'.owner = c.owner) ∧
      (k ≠ "dept_column" → c'.dept = c.dept) ∧
      (k ≠ "table_alias" → c'.tableAlias = c.tableAlias) := by
  simp only [outline, ColumnNames.keys, List.mem_cons, List.not_mem_nil, or_false] at hk
  rcases hk with rfl | rfl | rfl
  all_goals
    obtain ⟨name, -, h⟩ := bind_ok_iff.mp h
    obtain rfl := Except.ok.inj h
    simp

theorem readsAt_owner :
    outline.ReadsAt set "owner_column" (Json.readOption Json.readString) owner :=
  .of_update (fun _ _ => rfl) (fun _ _ => rfl) fun hk hne h => (set_frame hk h).1 hne

theorem readsAt_dept : outline.ReadsAt set "dept_column" (Json.readOption Json.readString) dept :=
  .of_update (fun _ _ => rfl) (fun _ _ => rfl) fun hk hne h => (set_frame hk h).2.1 hne

theorem readsAt_tableAlias :
    outline.ReadsAt set "table_alias" (Json.readOption Json.readString) tableAlias :=
  .of_update (fun _ _ => rfl) (fun _ _ => rfl) fun hk hne h => (set_frame hk h).2.2 hne

/-- A change of columns holds what is written for each of its keys. -/
structure WrittenAs (c : ColumnChange) (t : Toml) : Prop where
  owner : Option.Rel (Gives Json.readString) (t.part? outline.fields "owner_column") c.owner
  dept : Option.Rel (Gives Json.readString) (t.part? outline.fields "dept_column") c.dept
  tableAlias :
    Option.Rel (Gives Json.readString) (t.part? outline.fields "table_alias") c.tableAlias

theorem writtenAs_of_gives {c : ColumnChange} (h : Gives ofJson t c) : c.WrittenAs t := by
  obtain ⟨origin, hread⟩ := exists_read_of_noGap h.reads
  exact ⟨rel_of_read isStrict_outline readsAt_owner rfl h.once hread,
    rel_of_read isStrict_outline readsAt_dept rfl h.once hread,
    rel_of_read isStrict_outline readsAt_tableAlias rfl h.once hread⟩

end ColumnChange

namespace LimitChange

theorem isStrict_outline : outline.IsStrict := ⟨rfl, by decide, by decide, by decide⟩

/-- A key of limits does not touch what other keys set. -/
theorem set_frame {c c' : LimitChange} {k : String} {v : Json} (hk : k ∈ outline.fields)
    (h : set c k v = .ok c') : (k ≠ "default_size" → c'.defaultSize = c.defaultSize) ∧
      (k ≠ "max_limit" → c'.maxLimit = c.maxLimit) ∧ (k ≠ "overflow" → c'.wraps = c.wraps) := by
  simp only [outline, Page.Limits.outline, List.mem_cons, List.not_mem_nil, or_false] at hk
  rcases hk with rfl | rfl | rfl
  all_goals
    obtain ⟨x, -, h⟩ := bind_ok_iff.mp h
    obtain rfl := Except.ok.inj h
    simp

theorem readsAt_defaultSize :
    outline.ReadsAt set "default_size" (Json.readOption Json.readUInt64) defaultSize :=
  .of_update (fun _ _ => rfl) (fun _ _ => rfl) fun hk hne h => (set_frame hk h).1 hne

theorem readsAt_maxLimit :
    outline.ReadsAt set "max_limit" (Json.readOption Json.readInt64) maxLimit :=
  .of_update (fun _ _ => rfl) (fun _ _ => rfl) fun hk hne h => (set_frame hk h).2.1 hne

theorem readsAt_wraps : outline.ReadsAt set "overflow" (Json.readOption Json.readBool) wraps :=
  .of_update (fun _ _ => rfl) (fun _ _ => rfl) fun hk hne h => (set_frame hk h).2.2 hne

/-- A change of limits holds what is written for each of its keys. -/
structure WrittenAs (c : LimitChange) (t : Toml) : Prop where
  defaultSize :
    Option.Rel (Gives Json.readUInt64) (t.part? outline.fields "default_size") c.defaultSize
  maxLimit : Option.Rel (Gives Json.readInt64) (t.part? outline.fields "max_limit") c.maxLimit
  wraps : Option.Rel (Gives Json.readBool) (t.part? outline.fields "overflow") c.wraps

theorem writtenAs_of_gives {c : LimitChange} (h : Gives ofJson t c) : c.WrittenAs t := by
  obtain ⟨origin, hread⟩ := exists_read_of_noGap h.reads
  exact ⟨rel_of_read isStrict_outline readsAt_defaultSize rfl h.once hread,
    rel_of_read isStrict_outline readsAt_maxLimit rfl h.once hread,
    rel_of_read isStrict_outline readsAt_wraps rfl h.once hread⟩

end LimitChange

/-! ## What is set about SQL -/

theorem isStrict_sqlOutline : sqlOutline.IsStrict := ⟨rfl, by decide, by decide, by decide⟩

theorem readsAt_dialect :
    sqlOutline.ReadsAt (fun _ _ v => readDialect v) "dialect" readDialect id where
  own h := h
  frame hk hne _ := absurd (List.mem_singleton.mp hk) hne

/-- **The dialect is the one that is written**, or the usual one if none is. -/
theorem follows_of_readSql {d : Sql.Dialect} (h : Gives readSql t d) :
    Follows (Gives readDialect) .postgresql (t.part? sqlOutline.fields "dialect") d := by
  obtain ⟨⟨d', origin⟩, hread, hd⟩ := bind_ok_iff.mp h.reads
  obtain rfl := Except.ok.inj hd
  exact Outline.follows_of_read isStrict_sqlOutline readsAt_dialect h.once hread

/-! ## Overrides -/

namespace Override

theorem isStrict_outline : outline.IsStrict := ⟨rfl, by decide, by decide, by decide⟩

/-- A part of an override does not touch what other parts set. -/
theorem set_frame {o o' : Override} {k : String} {v : Json} (hk : k ∈ outline.fields)
    (h : set o k v = .ok o') : (k ≠ "data_permission" → o'.columns = o.columns) ∧
      (k ≠ "pagination" → o'.limits = o.limits) ∧ (k ≠ "sql" → o'.dialect = o.dialect) := by
  simp only [outline, List.mem_cons, List.not_mem_nil, or_false] at hk
  rcases hk with rfl | rfl | rfl
  all_goals
    obtain ⟨x, -, h⟩ := bind_ok_iff.mp h
    obtain rfl := Except.ok.inj h
    simp

theorem readsAt_columns :
    outline.ReadsAt set "data_permission" (Json.readOption ColumnChange.ofJson) columns :=
  .of_update (fun _ _ => rfl) (fun _ _ => rfl) fun hk hne h => (set_frame hk h).1 hne

theorem readsAt_limits :
    outline.ReadsAt set "pagination" (Json.readOption LimitChange.ofJson) limits :=
  .of_update (fun _ _ => rfl) (fun _ _ => rfl) fun hk hne h => (set_frame hk h).2.1 hne

theorem readsAt_dialect : outline.ReadsAt set "sql" (Json.readOption readSql) dialect :=
  .of_update (fun _ _ => rfl) (fun _ _ => rfl) fun hk hne h => (set_frame hk h).2.2 hne

/-- An override holds what is written for each of its parts. -/
structure WrittenAs (o : Override) (t : Toml) : Prop where
  columns :
    Option.Rel (Gives ColumnChange.ofJson) (t.part? outline.fields "data_permission") o.columns
  limits : Option.Rel (Gives LimitChange.ofJson) (t.part? outline.fields "pagination") o.limits
  dialect : Option.Rel (Gives readSql) (t.part? outline.fields "sql") o.dialect

theorem writtenAs_of_gives {o : Override} (h : Gives ofJson t o) : o.WrittenAs t := by
  obtain ⟨origin, hread⟩ := exists_read_of_noGap h.reads
  exact ⟨rel_of_read isStrict_outline readsAt_columns rfl h.once hread,
    rel_of_read isStrict_outline readsAt_limits rfl h.once hread,
    rel_of_read isStrict_outline readsAt_dialect rfl h.once hread⟩

end Override

/-! ## Settings -/

theorem isStrict_outline : outline.IsStrict := ⟨rfl, by decide, by decide, by decide⟩

/-- The other parts of settings do not touch the overrides. -/
theorem readsAt_overrides : outline.ReadsAt set "environments" readOverrides overrides := by
  have hset (s : Settings) (v : Json) : set s "environments" v =
      do return { s with overrides := ← readOverrides v } := rfl
  refine .of_update hset (fun _ _ => rfl) fun {s s' k v} hk hne h => ?_
  simp only [outline, List.mem_cons, List.not_mem_nil, or_false] at hk
  rcases hk with rfl | rfl | rfl | rfl
  case inr.inr.inr => exact absurd rfl hne
  all_goals
    obtain ⟨x, -, h⟩ := bind_ok_iff.mp h
    obtain rfl := Except.ok.inj h
    rfl

/-- Overrides are read from a table, each under its name. -/
theorem exists_entries_of_readOverrides {overrides : List (String × Override)}
    (h : readOverrides t.toJson = .ok overrides) : ∃ entries, t = .table entries ∧
      entries.mapM (fun e => do return (e.1, ← Override.ofJson e.2.toJson)) = .ok overrides := by
  cases t with
  | table entries =>
    rw [Toml.toJson_table, readOverrides, List.mapM_map] at h
    exact ⟨entries, rfl, h⟩
  | real x =>
    rw [Toml.toJson, Toml.realJson] at h
    split at h <;> cases h
  | text | integer | bool | moment | array => cases h

theorem rel_lookup_of_mapM {entries : List (String × Toml)} {overrides : List (String × Override)}
    (honce : ∀ e ∈ entries, e.2.SaysOnce)
    (h : entries.mapM (fun e => do return (e.1, ← Override.ofJson e.2.toJson)) = .ok overrides)
    (place : String) :
    Option.Rel (Gives Override.ofJson) (entries.lookup place) (overrides.lookup place) := by
  rw [Outcome.mapM_eq_ok_iff] at h
  induction h with
  | nil => exact .none
  | @cons e o entries overrides he _ ih =>
    obtain ⟨read, hread, he⟩ := bind_ok_iff.mp he
    obtain rfl := Except.ok.inj he
    rw [List.forall_mem_cons] at honce
    rw [List.lookup_cons, List.lookup_cons]
    cases place == e.1 with
    | true => exact .some ⟨honce.1, hread⟩
    | false => exact ih honce.2

theorem rel_lookup_of_readOverrides {overrides : List (String × Override)}
    (h : Gives readOverrides t overrides) (place : String) :
    Option.Rel (Gives Override.ofJson) (t.entry? place) (overrides.lookup place) := by
  obtain ⟨entries, rfl, hentries⟩ := exists_entries_of_readOverrides h.reads
  cases h.once with
  | table _ values => exact rel_lookup_of_mapM values hentries place

/-- What a document writes for a place. -/
def overrideWritten? (document : Toml) (place : String) : Option Toml :=
  (document.part? outline.fields "environments").bind (Toml.entry? place)

theorem rel_lookup_of_ofJson {document : Toml} {s : Settings} (h : Gives ofJson document s)
    (place : String) : Option.Rel (Gives Override.ofJson) (overrideWritten? document place)
      (s.overrides.lookup place) := by
  obtain ⟨⟨s', origin⟩, hread, hs⟩ := bind_ok_iff.mp h.reads
  obtain rfl := Except.ok.inj hs
  have hfollows := Outline.follows_of_read isStrict_outline readsAt_overrides h.once hread
  rw [overrideWritten?]
  cases hwritten : document.part? outline.fields "environments" with
  | none =>
    have hnone : s'.overrides = [] := follows_none_iff.mp (hwritten ▸ hfollows)
    rw [hnone]
    exact .none
  | some t => exact rel_lookup_of_readOverrides (follows_some_iff.mp (hwritten ▸ hfollows)) place

/-- The overrides of the settings are those that the document writes. -/
def WrittenIn (s : Settings) (document : Toml) : Prop :=
  ∀ place, Option.Rel (Gives Override.ofJson) (overrideWritten? document place)
    (s.overrides.lookup place)

/-- **The overrides of settings** are those that their document writes. -/
theorem exists_writtenIn_of_ofText {env : Environment} {text : String} {s : Settings}
    (h : ofText env text = .ok s) :
    ∃ document, Toml.read? (env.expand text) = some document ∧ s.WrittenIn document := by
  unfold ofText at h
  split at h
  · cases h
  rename_i document hdocument
  split at h
  · cases h
  rename_i s' hread
  obtain ⟨rfl, -⟩ := checked_eq_ok_iff.mp h
  exact ⟨document, hdocument, rel_lookup_of_ofJson ⟨Toml.saysOnce_of_read? hdocument, hread⟩⟩

end Settings
end RowFilter
