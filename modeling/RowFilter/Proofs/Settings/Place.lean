import RowFilter.Proofs.Settings.Written

/-!
# Places change settings key by key

A place that the program runs in says what is different there. Each key that is written for the
place replaces the value of the settings, each that is not keeps it, and all other places are left
alone. Then the place has nothing more to say.

There is one exception. What is set about SQL is replaced as a whole, so a part about SQL that names
no dialect does not keep the dialect of the settings: it brings back the usual one.

Headlines:
* `applied_of_withOverride`: what the override of a place does;
* **`withOverride_keyByKey`**: places change settings key by key, save for the dialect that their
  part about SQL omits;
* **`not_keyByKey_of_omitted`**: that dialect is not kept.
-/

namespace RowFilter.Settings

open Outcome (bind_ok_iff mapError_ok_iff)
open Toml (Gives)

/-! ## What a document writes for a place -/

/-- What a document writes for a part of the override of a place. -/
def partWritten? (document : Toml) (place part : String) : Option Toml :=
  (overrideWritten? document place).bind (Toml.part? Override.outline.fields part)

/-- What a document writes for a key of the columns at a place. -/
def columnWritten? (document : Toml) (place key : String) : Option Toml :=
  (partWritten? document place "data_permission").bind (Toml.part? ColumnChange.outline.fields key)

/-- What a document writes for a key of the limits at a place. -/
def limitWritten? (document : Toml) (place key : String) : Option Toml :=
  (partWritten? document place "pagination").bind (Toml.part? LimitChange.outline.fields key)

/-- What a document writes for the dialect at a place. -/
def dialectWritten? (document : Toml) (place : String) : Option Toml :=
  (partWritten? document place "sql").bind (Toml.part? sqlOutline.fields "dialect")

/-- The value writes the largest page: minus one stands for no limit. -/
def WritesLimit (t : Toml) (limit : Option UInt64) : Prop :=
  ∃ n : Int64, t = .integer n ∧
    (n.toInt = -1 ∧ limit = none ∨ ∃ most, limit = some most ∧ n.toInt = most.toNat)

theorem writesLimit_of_limitOf {n : Int64} {limit : Option UInt64}
    (h : Page.limitOf n = .ok limit) : WritesLimit (.integer n) limit := by
  refine ⟨n, rfl, ?_⟩
  unfold Page.limitOf at h
  split at h
  · rename_i hnone
    exact .inl ⟨hnone, (Except.ok.inj h).symm⟩
  · split at h
    · rename_i hpos
      exact .inr ⟨_, (Except.ok.inj h).symm, (Toml.toNat_ofNat_toInt hpos).symm⟩
    · cases h

/-- **Settings change key by key** at a place: each key that the document writes for it has the
value that is written, and each other the value before. Other places are left alone, and the place
itself has nothing more to change. -/
structure KeyByKey (document : Toml) (place : String) (before after : Settings) : Prop where
  owner : Follows (fun t name => t = .text name) before.columns.owner
    (columnWritten? document place "owner_column") after.columns.owner
  dept : Follows (fun t name => t = .text name) before.columns.dept
    (columnWritten? document place "dept_column") after.columns.dept
  tableAlias : Follows (fun t found => ∃ name, t = .text name ∧ found = some name)
    before.columns.tableAlias (columnWritten? document place "table_alias") after.columns.tableAlias
  defaultSize : Follows (fun t size => ∃ n, t = .integer n ∧ n.toInt = size.toNat)
    before.limits.defaultSize (limitWritten? document place "default_size") after.limits.defaultSize
  maxLimit : Follows WritesLimit before.limits.maxLimit (limitWritten? document place "max_limit")
    after.limits.maxLimit
  wraps : Follows (fun t b => t = .bool b) before.limits.wraps
    (limitWritten? document place "overflow") after.limits.wraps
  dialect : Follows (fun t d => d.WrittenAs t) before.dialect (dialectWritten? document place)
    after.dialect
  others : ∀ other, other ≠ place → after.overrides.lookup other = before.overrides.lookup other
  again : after.withOverride place = .ok after

/-! ## What an override does -/

section Override

variable {s changed : Settings} {place other : String}

/-- The change of columns at a place, if there is one. -/
def columnChange? (s : Settings) (place : String) : Option ColumnChange :=
  (s.overrides.lookup place).bind (·.columns)

/-- The change of limits at a place, if there is one. -/
def limitChange? (s : Settings) (place : String) : Option LimitChange :=
  (s.overrides.lookup place).bind (·.limits)

/-- The change of the dialect at a place, if there is one. -/
def dialectChange? (s : Settings) (place : String) : Option Sql.Dialect :=
  (s.overrides.lookup place).bind (·.dialect)

/-- What the override of a place does, whether there is one or not. -/
structure Applied (s : Settings) (place : String) (changed : Settings) : Prop where
  usable : changed.IsUsable
  columns : changed.columns = changedColumns (s.columnChange? place) s.columns
  limits : changedLimits (s.limitChange? place) s.limits = .ok changed.limits
  dialect : changed.dialect = (s.dialectChange? place).getD s.dialect
  overrides : changed.overrides = (s.withoutOverride place).overrides

theorem withoutOverride_of_lookup (h : s.overrides.lookup place = none) :
    s.withoutOverride place = s := by
  have hkeep : s.overrides.filter (·.1 != place) = s.overrides := by
    rw [List.filter_eq_self]
    intro e he
    simpa [bne_comm] using List.lookup_eq_none_iff.mp h e he
  rw [withoutOverride, hkeep]

theorem lookup_withoutOverride_self : (s.withoutOverride place).overrides.lookup place = none := by
  rw [List.lookup_eq_none_iff]
  intro e he
  simpa [bne_comm] using (List.mem_filter.mp he).2

theorem lookup_withoutOverride_of_ne (h : other ≠ place) :
    (s.withoutOverride place).overrides.lookup other = s.overrides.lookup other := by
  unfold withoutOverride
  dsimp only
  induction s.overrides with
  | nil => rfl
  | cons e overrides ih =>
    rw [List.filter_cons, List.lookup_cons]
    split
    · rw [List.lookup_cons, ih]
    · rename_i hplace
      have hne : (other == e.1) = false := by
        simp only [bne_iff_ne, ne_eq, not_not] at hplace
        rw [hplace]
        exact beq_eq_false_iff_ne.mpr h
      rw [ih, hne]

theorem applied_of_withOverride (h : s.withOverride place = .ok changed) :
    Applied s place changed := by
  cases hplace : s.overrides.lookup place with
  | none =>
    rw [withOverride_of_lookup hplace] at h
    obtain ⟨rfl, husable⟩ := checked_eq_ok_iff.mp h
    have hcolumns : changed.columnChange? place = none := by rw [columnChange?, hplace]; rfl
    have hlimits : changed.limitChange? place = none := by rw [limitChange?, hplace]; rfl
    have hdialect : changed.dialectChange? place = none := by rw [dialectChange?, hplace]; rfl
    exact {
      usable := husable
      columns := by rw [hcolumns]; rfl
      limits := by rw [hlimits]; rfl
      dialect := by rw [hdialect]; rfl
      overrides := by rw [withoutOverride_of_lookup hplace] }
  | some o =>
    rw [withOverride, hplace] at h
    dsimp only at h
    split at h
    · rename_i applied happlied
      obtain ⟨rfl, husable⟩ := checked_eq_ok_iff.mp h
      obtain ⟨limits, hlimits, happlied⟩ := bind_ok_iff.mp happlied
      obtain rfl := Except.ok.inj happlied
      exact {
        usable := husable
        columns := by rw [columnChange?, hplace]; rfl
        limits := by rw [limitChange?, hplace]; exact hlimits
        dialect := by rw [dialectChange?, hplace]; rfl
        overrides := rfl }
    · cases h

theorem Applied.lookup_self (h : Applied s place changed) :
    changed.overrides.lookup place = none := by
  rw [h.overrides, lookup_withoutOverride_self]

/-- An override has been used up once it has been applied. -/
theorem Applied.again (h : Applied s place changed) :
    changed.withOverride place = .ok changed := by
  rw [withOverride_of_lookup h.lookup_self]
  exact checked_eq_ok_iff.mpr ⟨rfl, h.usable⟩

/-- Columns after a change have what it says, name by name. -/
theorem changedColumns_eq (change : Option ColumnChange) (names : ColumnNames) :
    changedColumns change names =
      { owner := (change.bind (·.owner)).getD names.owner
        dept := (change.bind (·.dept)).getD names.dept
        tableAlias := (change.bind (·.tableAlias)).or names.tableAlias } := by
  cases change <;> rfl

/-- Limits after a change have what it says, limit by limit. -/
structure LimitsApplied (change : Option LimitChange) (before after : Page.Limits) : Prop where
  defaultSize : after.defaultSize = (change.bind (·.defaultSize)).getD before.defaultSize
  kept : change.bind (·.maxLimit) = none → after.maxLimit = before.maxLimit
  replaced : ∀ {n}, change.bind (·.maxLimit) = some n → Page.limitOf n = .ok after.maxLimit
  wraps : after.wraps = (change.bind (·.wraps)).getD before.wraps

theorem limitsApplied_of_changedLimits {change : Option LimitChange} {before after : Page.Limits}
    (h : changedLimits change before = .ok after) : LimitsApplied change before after := by
  cases change with
  | none =>
    obtain rfl := Except.ok.inj h
    exact ⟨rfl, fun _ => rfl, nofun, rfl⟩
  | some c =>
    obtain ⟨most, hmost, h⟩ := bind_ok_iff.mp h
    obtain rfl := Except.ok.inj h
    refine ⟨rfl, fun hnone => ?_, fun {n} hsome => ?_, rfl⟩
    · rw [Option.bind_some] at hnone
      rw [LimitChange.applyMaxLimit, hnone] at hmost
      exact (Except.ok.inj hmost).symm
    · rw [Option.bind_some] at hsome
      rw [LimitChange.applyMaxLimit, hsome] at hmost
      exact mapError_ok_iff.mp hmost

end Override

/-! ## Key by key -/

section Keys

variable {s changed : Settings} {document : Toml} {place : String}

theorem WrittenIn.columnChange? (h : s.WrittenIn document) (place : String) :
    Option.Rel (Gives ColumnChange.ofJson) (partWritten? document place "data_permission")
      (s.columnChange? place) :=
  rel_bind (h place) fun hgives => (Override.writtenAs_of_gives hgives).columns

theorem WrittenIn.limitChange? (h : s.WrittenIn document) (place : String) :
    Option.Rel (Gives LimitChange.ofJson) (partWritten? document place "pagination")
      (s.limitChange? place) :=
  rel_bind (h place) fun hgives => (Override.writtenAs_of_gives hgives).limits

theorem WrittenIn.dialectChange? (h : s.WrittenIn document) (place : String) :
    Option.Rel (Gives readSql) (partWritten? document place "sql") (s.dialectChange? place) :=
  rel_bind (h place) fun hgives => (Override.writtenAs_of_gives hgives).dialect

/-- What a part about SQL says replaces the usual dialect. Only where there is no such part, the
dialect of the settings stays. -/
theorem Applied.follows_dialect (h : Applied s place changed) (hs : s.WrittenIn document) :
    Follows (fun t d => d.WrittenAs t)
      (if partWritten? document place "sql" = none then s.dialect else .postgresql)
      (dialectWritten? document place) changed.dialect := by
  have hrel := hs.dialectChange? place
  rw [dialectWritten?, h.dialect]
  generalize partWritten? document place "sql" = written at hrel ⊢
  generalize s.dialectChange? place = found at hrel ⊢
  cases hrel with
  | none => exact .kept
  | some hgives =>
    rw [if_neg (Option.some_ne_none _)]
    exact (follows_of_readSql hgives).imp fun t _ ht =>
      Sql.Dialect.writtenAs_of_readDialect ht.reads

/-- Everything but the dialect is as the document writes it, or else as it was. -/
theorem Applied.keyByKey (h : Applied s place changed) (hs : s.WrittenIn document)
    {dialect : Sql.Dialect}
    (hdialect : Follows (fun t d => d.WrittenAs t) dialect (dialectWritten? document place)
      changed.dialect) : KeyByKey document place { s with dialect } changed := by
  have hcolumns := h.columns.trans (changedColumns_eq _ _)
  have hlimits := limitsApplied_of_changedLimits h.limits
  constructor
  case owner =>
    rw [hcolumns]
    exact follows_getD _ (rel_bind (hs.columnChange? place) fun hgives =>
      (ColumnChange.writtenAs_of_gives hgives).owner) Toml.eq_text_of_readString
  case dept =>
    rw [hcolumns]
    exact follows_getD _ (rel_bind (hs.columnChange? place) fun hgives =>
      (ColumnChange.writtenAs_of_gives hgives).dept) Toml.eq_text_of_readString
  case tableAlias =>
    rw [hcolumns]
    refine follows_of_rel (rel_bind (hs.columnChange? place) fun hgives =>
      (ColumnChange.writtenAs_of_gives hgives).tableAlias) (fun hnone => ?_)
      fun {t name} hsome hgives => ?_
    · rw [hnone, Option.none_or]
    · rw [hsome, Option.some_or]
      exact ⟨name, Toml.eq_text_of_readString hgives.reads, rfl⟩
  case defaultSize =>
    rw [hlimits.defaultSize]
    exact follows_getD _ (rel_bind (hs.limitChange? place) fun hgives =>
      (LimitChange.writtenAs_of_gives hgives).defaultSize) Toml.exists_integer_of_readUInt64
  case maxLimit =>
    refine follows_of_rel (rel_bind (hs.limitChange? place) fun hgives =>
      (LimitChange.writtenAs_of_gives hgives).maxLimit) hlimits.kept fun {t n} hsome hgives => ?_
    rw [Toml.eq_integer_of_readInt64 hgives.reads]
    exact writesLimit_of_limitOf (hlimits.replaced hsome)
  case wraps =>
    rw [hlimits.wraps]
    exact follows_getD _ (rel_bind (hs.limitChange? place) fun hgives =>
      (LimitChange.writtenAs_of_gives hgives).wraps) Toml.eq_bool_of_readBool
  case dialect => exact hdialect
  case others =>
    intro other hother
    rw [h.overrides]
    exact lookup_withoutOverride_of_ne hother
  case again => exact h.again

/-- A place has a part about SQL, and it names no dialect. -/
def OmitsDialect (document : Toml) (place : String) : Prop :=
  partWritten? document place "sql" ≠ none ∧ dialectWritten? document place = none

/-- **Places change settings key by key**, unless their part about SQL names no dialect. Such a part
brings back the usual dialect, and nothing else is different then. -/
theorem withOverride_keyByKey {env : Environment} {text : String} (hs : ofText env text = .ok s)
    (h : s.withOverride place = .ok changed) :
    ∃ document, Toml.read? (env.expand text) = some document ∧
      (¬OmitsDialect document place → KeyByKey document place s changed) ∧
      (OmitsDialect document place →
        KeyByKey document place { s with dialect := .postgresql } changed) := by
  obtain ⟨document, hdocument, hwritten⟩ := exists_writtenIn_of_ofText hs
  have happlied := applied_of_withOverride h
  have hdialect := happlied.follows_dialect hwritten
  refine ⟨document, hdocument, fun hnames => happlied.keyByKey hwritten ?_,
    fun homits => happlied.keyByKey hwritten ?_⟩
  · by_cases hsql : partWritten? document place "sql" = none
    · rwa [if_pos hsql] at hdialect
    · have hsome : dialectWritten? document place ≠ none := fun hnone => hnames ⟨hsql, hnone⟩
      obtain ⟨t, ht⟩ := Option.ne_none_iff_exists'.mp hsome
      rw [ht, follows_some_iff] at hdialect
      rw [ht]
      exact .replaced hdialect
  · rwa [if_neg homits.1] at hdialect

/-- One branch calls the owner otherwise and takes the limit away, another one has a dialect of its
own. -/
def branchText : String :=
  "[pagination]\nmax_limit=50\n[environments.eu]\ndata_permission.owner_column=\"author\"\n" ++
  "pagination.max_limit=-1\n[environments.us.sql]\ndialect=\"sqlite\""

/-- The settings of the text. -/
def branchSettings : Settings where
  limits := { maxLimit := some 50 }
  overrides := [
    ("eu", { columns := some { owner := some "author" }
             limits := some { maxLimit := some (-1) } }),
    ("us", { dialect := some .sqlite })]

/-- The settings of the first branch. -/
def branchChanged : Settings where
  columns := { owner := "author" }
  overrides := [("us", { dialect := some .sqlite })]

/-- Both keys that are written change, all others stay, and so does the other branch. -/
theorem withOverride_keyByKey_at_branch :
    ofText .empty branchText = .ok branchSettings ∧
    branchSettings.withOverride "eu" = .ok branchChanged ∧
    ∃ document, Toml.read? (Environment.empty.expand branchText) = some document ∧
      KeyByKey document "eu" branchSettings branchChanged := by
  have htext : (ofText .empty branchText).toOption = some branchSettings := by decide +kernel
  have hplace : branchSettings.withOverride "eu" = .ok branchChanged := by rfl
  have hs := Outcome.eq_ok_of_toOption htext
  obtain ⟨document, hdocument, hkeys, -⟩ := withOverride_keyByKey hs hplace
  refine ⟨hs, hplace, document, hdocument, hkeys fun homits => ?_⟩
  obtain ⟨document', hdocument', hwritten⟩ := exists_writtenIn_of_ofText hs
  obtain rfl := Option.some.inj (hdocument.symm.trans hdocument')
  have hrel : Option.Rel (Gives readSql) (partWritten? document "eu" "sql") none :=
    hwritten.dialectChange? "eu"
  cases hsql : partWritten? document "eu" "sql" with
  | none => exact homits.1 hsql
  | some t =>
    rw [hsql] at hrel
    cases hrel

/-- Settings for one dialect, and a place whose part about SQL is empty. -/
def omittingText : String := "[sql]\ndialect = \"mysql\"\n[environments.e.sql]\n"

/-- The settings of the text. -/
def omittingSettings : Settings where
  dialect := .mysql
  overrides := [("e", { dialect := some .postgresql })]

/-- **The dialect is not kept** where a part about SQL omits it: nothing is written for it, and it
is another one afterwards. -/
theorem not_keyByKey_of_omitted :
    ofText .empty omittingText = .ok omittingSettings ∧
    omittingSettings.withOverride "e" = .ok {} ∧
    ∃ document, Toml.read? (Environment.empty.expand omittingText) = some document ∧
      dialectWritten? document "e" = none ∧ ¬KeyByKey document "e" omittingSettings {} := by
  have htext : (ofText .empty omittingText).toOption = some omittingSettings := by decide +kernel
  have hplace : omittingSettings.withOverride "e" = .ok {} := by rfl
  have hs := Outcome.eq_ok_of_toOption htext
  obtain ⟨document, hdocument, -⟩ := exists_writtenIn_of_ofText hs
  have hdialect : ((Toml.read? (Environment.empty.expand omittingText)).map fun document =>
      (dialectWritten? document "e").isNone) = some true := by decide +kernel
  rw [hdocument, Option.map_some, Option.some.injEq, Option.isNone_iff_eq_none] at hdialect
  refine ⟨hs, hplace, document, hdocument, hdialect, fun hkeys => ?_⟩
  have hkept := hkeys.dialect
  rw [hdialect, follows_none_iff] at hkept
  cases hkept

end Keys
end RowFilter.Settings
