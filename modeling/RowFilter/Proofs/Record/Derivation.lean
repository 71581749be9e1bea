import RowFilter.Proofs.Record.Annotation
import RowFilter.Proofs.Record.Implementation

/-!
# What a record declares

The annotations of a record are read in the order of the declaration, first those of the record
itself and then those of its members, and the first that is wrong decides. If none is, each member
that is annotated becomes one entry, which says what its annotation says.

Headlines:
* `Library.ofAnnotations_eq_ok_iff` and `Library.refusal?_ofAnnotations`: the annotations of a
  record;
* `entriesOf_eq_ok_iff` and `refusal?_entriesOf`: those of its members;
* `Entry.says_ofQuery`: an entry says what the settings of its member say;
* **`ofDeclaration_faithful`**: what is accepted, what becomes of it, and which complaint is made
  otherwise.
-/

namespace RowFilter.Record

/-! ## Which annotations count -/

/-- The annotations of a record that are read. -/
def Declaration.criteria (d : Declaration) : List Annotated :=
  d.annotations.filter fun a => a.path.isPlain "criteria"

/-- The annotations of a member that say how it is compared. -/
def Member.queries (m : Member) : List Annotated :=
  m.annotations.filter fun a => a.path.isPlain "query"

theorem Member.query?_eq_head? (m : Member) : m.query? = m.queries.head? :=
  List.head?_filter.symm

/-- Some tokens begin as a setting of a name does. -/
def isNamed (name : String) (ts : List Token) : Bool :=
  match readSettingName false ts with
  | .ok (path, _) => path.isPlain name
  | .error _ => false

/-- How many settings of an annotation have a name. -/
def Annotated.mentions (a : Annotated) (name : String) : Nat :=
  match a.arguments with
  | .listed _ content => (pieces content).countP (isNamed name)
  | _ => 0

/-! ## Annotations of a record -/

namespace Library

variable {a : Annotated} {as : List Annotated} {before library : Library}

/-- A reader that does not look at what it has makes the same complaint whatever that is. -/
theorem refusal?_readPieces (content : List Token) (before after : Library) :
    Outcome.refusal? (readPieces readLibrarySetting content before) =
      Outcome.refusal? (readPieces readLibrarySetting content after) := by
  unfold readPieces
  cases pieces content <;> rfl

theorem refusal?_library (a : Annotated) (before after : Library) :
    Outcome.refusal? (a.library before) = Outcome.refusal? (a.library after) := by
  unfold Annotated.library
  cases a.arguments? "criteria" with
  | error c => rfl
  | ok content => exact refusal?_readPieces content before after

/-- Annotations that are not read are passed over. -/
theorem ofAnnotations_eq_foldlM (as : List Annotated) (before : Library) :
    ofAnnotations as before =
      (as.filter fun a => a.path.isPlain "criteria").foldlM (fun library a => a.library library)
        before := by
  induction as generalizing before with
  | nil => rfl
  | cons a as ih =>
    rw [ofAnnotations, List.filter_cons]
    split
    · rw [List.foldlM_cons, Annotated.library]
      cases a.arguments? "criteria" with
      | error c => rfl
      | ok content => exact congrArg (_ >>= ·) (funext ih)
    · exact ih before

theorem foldlM_library_eq_ok_iff :
    as.foldlM (fun library a => a.library library) before = .ok library ↔
      ∃ named, List.Forall₂ Annotated.Names as named ∧
        library = named.flatten.getLast?.getD before := by
  induction as generalizing before with
  | nil =>
    rw [List.foldlM_nil]
    constructor
    · intro h
      exact ⟨[], .nil, (Except.ok.inj h).symm⟩
    · rintro ⟨_, ⟨⟩, rfl⟩
      rfl
  | cons a as ih =>
    rw [List.foldlM_cons, Outcome.bind_ok_iff]
    constructor
    · rintro ⟨_, ha, has⟩
      obtain ⟨libraries, hlibraries, rfl⟩ := Annotated.library_eq_ok_iff.mp ha
      obtain ⟨named, hnamed, rfl⟩ := ih.mp has
      refine ⟨libraries :: named, .cons hlibraries hnamed, ?_⟩
      rw [List.flatten_cons, List.getLast?_append, Option.getD_or]
    · rintro ⟨_, _ | ⟨hlibraries, hnamed⟩, rfl⟩
      refine ⟨_, Annotated.library_eq_ok_iff.mpr ⟨_, hlibraries, rfl⟩,
        ih.mpr ⟨_, hnamed, ?_⟩⟩
      rw [List.flatten_cons, List.getLast?_append, Option.getD_or]

/-- **The annotations of a record** are accepted if each is well formed, and name a library. -/
theorem ofAnnotations_eq_ok_iff {d : Declaration} :
    ofAnnotations d.annotations before = .ok library ↔
      ∃ named, List.Forall₂ Annotated.Names d.criteria named ∧
        library = named.flatten.getLast?.getD before := by
  rw [ofAnnotations_eq_foldlM, foldlM_library_eq_ok_iff, Declaration.criteria]

/-- Otherwise the first that is wrong decides, whatever was named before. -/
theorem refusal?_ofAnnotations (d : Declaration) (before : Library) :
    Outcome.refusal? (ofAnnotations d.annotations before) =
      d.criteria.findSome? fun a => Outcome.refusal? (a.library .default) := by
  rw [ofAnnotations_eq_foldlM, Declaration.criteria]
  induction d.annotations.filter fun a => a.path.isPlain "criteria" generalizing before with
  | nil => rfl
  | cons a as ih =>
    rw [List.foldlM_cons, List.findSome?_cons, refusal?_library a .default before]
    cases a.library before with
    | error c => rfl
    | ok library => exact ih library

end Library

/-! ## Annotations of members -/

/-- A member becomes an entry by the first of its annotations, with settings that it may have. -/
def Member.Becomes (m : Member) (e : Entry) : Prop :=
  ∃ a settings, m.query? = some a ∧ a.Queries settings ∧ e = .ofQuery m.name (.saying settings)

theorem Member.Becomes.isSome_query? {m : Member} {e : Entry} (h : m.Becomes e) :
    m.query?.isSome = true := by
  obtain ⟨a, settings, ha, -⟩ := h
  rw [ha]
  rfl

theorem Member.entry?_eq_ok_iff {m : Member} {entry : Option Entry} :
    m.entry? = .ok entry ↔
      (m.query? = none ∧ entry = none) ∨ ∃ e, m.Becomes e ∧ entry = some e := by
  unfold Member.entry? Member.Becomes
  cases m.query? with
  | none => simp [eq_comm]
  | some a =>
    rw [Outcome.map_ok_iff]
    simp only [Query.ofAnnotated_eq_ok_iff]
    constructor
    · rintro ⟨_, ⟨settings, hsettings, rfl⟩, rfl⟩
      exact .inr ⟨_, ⟨a, settings, rfl, hsettings, rfl⟩, rfl⟩
    · rintro (⟨h, -⟩ | ⟨_, ⟨_, settings, h, hsettings, rfl⟩, rfl⟩)
      · cases h
      · cases h
        exact ⟨_, ⟨settings, hsettings, rfl⟩, rfl⟩

theorem refusal?_entry?_eq_bind (m : Member) :
    Outcome.refusal? m.entry? = m.query?.bind fun a => Outcome.refusal? (Query.ofAnnotated a) := by
  unfold Member.entry?
  cases m.query? with
  | none => rfl
  | some a => exact Outcome.refusal?_map _ _

/-- **The members of a record** become entries in order, those that are annotated. -/
theorem entriesOf_eq_ok_iff {ms : List Member} {es : List Entry} :
    entriesOf ms = .ok es ↔
      List.Forall₂ Member.Becomes (ms.filter fun m => m.query?.isSome) es := by
  induction ms generalizing es with
  | nil =>
    constructor
    · intro h
      cases h
      exact .nil
    · intro h
      cases h
      rfl
  | cons m ms ih =>
    rw [entriesOf, Outcome.bind_ok_iff, List.filter_cons]
    constructor
    · rintro ⟨entry, hentry, h⟩
      obtain ⟨rest, hrest, h⟩ := Outcome.bind_ok_iff.mp h
      obtain rfl := Except.ok.inj h
      rcases Member.entry?_eq_ok_iff.mp hentry with ⟨hnone, rfl⟩ | ⟨e, he, rfl⟩
      · rw [hnone]
        exact ih.mp hrest
      · rw [if_pos he.isSome_query?]
        exact .cons he (ih.mp hrest)
    · intro h
      cases hquery : m.query? with
      | none =>
        rw [hquery] at h
        exact ⟨none, Member.entry?_eq_ok_iff.mpr (.inl ⟨hquery, rfl⟩),
          Outcome.bind_ok_iff.mpr ⟨es, ih.mpr h, rfl⟩⟩
      | some a =>
        rw [hquery] at h
        obtain _ | ⟨he, hrest⟩ := h
        exact ⟨_, Member.entry?_eq_ok_iff.mpr (.inr ⟨_, he, rfl⟩),
          Outcome.bind_ok_iff.mpr ⟨_, ih.mpr hrest, rfl⟩⟩

/-- Otherwise the first member that is wrong decides. -/
theorem refusal?_entriesOf (ms : List Member) :
    Outcome.refusal? (entriesOf ms) = ms.findSome? fun m => Outcome.refusal? m.entry? := by
  induction ms with
  | nil => rfl
  | cons m ms ih =>
    rw [entriesOf, List.findSome?_cons, ← ih]
    cases m.entry? with
    | error c => rfl
    | ok entry => cases entriesOf ms <;> rfl

/-! ## What entries say -/

/-- An entry says what some settings say: their operator, or equality if they have none, and their
column and search targets, if they have them and not otherwise. -/
structure Entry.Says (e : Entry) (settings : List QuerySetting) : Prop where
  operator : ∀ op, .operator op ∈ settings → e.operator = op
  equal : (∀ op, .operator op ∉ settings) → e.operator = .equal
  column : ∀ name, e.column = some name ↔ .column name ∈ settings
  targets : ∀ targets, targets ≠ [] → (e.targets = targets ↔ .blurry targets ∈ settings)

theorem head?_eq_some_iff_mem {α : Type} {l : List α} (h : l.length ≤ 1) {x : α} :
    l.head? = some x ↔ x ∈ l := by
  match l, h with
  | [], _ => simp
  | [y], _ => simp [eq_comm]

/-- Of one item at most, the last is the first. -/
theorem getLast?_eq_head? {α : Type} {l : List α} (h : l.length ≤ 1) : l.getLast? = l.head? := by
  match l, h with
  | [], _ => rfl
  | [_], _ => rfl

theorem mem_filterMap_iff {α β : Type} {take : α → Option β} {a : α} {b : β} {as : List α}
    (h : ∀ {a'}, take a' = some b ↔ a' = a) : b ∈ as.filterMap take ↔ a ∈ as := by
  rw [List.mem_filterMap]
  simp only [h, exists_eq_right]

theorem Entry.says_ofQuery {member : Word} {settings : List QuerySetting}
    (hoperators : (settings.filterMap QuerySetting.operator?).length ≤ 1)
    (hcolumns : (settings.filterMap QuerySetting.column?).length ≤ 1)
    (htargets : (settings.filterMap QuerySetting.targets?).length ≤ 1) :
    (ofQuery member (.saying settings)).Says settings where
  operator op h := by
    have hop := (mem_filterMap_iff QuerySetting.operator?_eq_some_iff).mpr h
    show (settings.filterMap QuerySetting.operator?).head?.getD .equal = op
    rw [(head?_eq_some_iff_mem hoperators).mpr hop, Option.getD_some]
  equal h := by
    have hnil : settings.filterMap QuerySetting.operator? = [] :=
      List.eq_nil_iff_forall_not_mem.mpr fun op hop =>
        h op ((mem_filterMap_iff QuerySetting.operator?_eq_some_iff).mp hop)
    show (settings.filterMap QuerySetting.operator?).head?.getD .equal = .equal
    rw [hnil]
    rfl
  column name := by
    show (settings.filterMap QuerySetting.column?).getLast? = some name ↔ _
    rw [getLast?_eq_head? hcolumns, head?_eq_some_iff_mem hcolumns,
      mem_filterMap_iff QuerySetting.column?_eq_some_iff]
  targets targets hne := by
    show (settings.filterMap QuerySetting.targets?).getLast?.getD [] = targets ↔ _
    rw [getLast?_eq_head? htargets, ← mem_filterMap_iff QuerySetting.targets?_eq_some_iff,
      ← head?_eq_some_iff_mem htargets]
    cases (settings.filterMap QuerySetting.targets?).head? with
    | none => simp [hne.symm]
    | some found => simp

/-! ## Names of settings -/

theorem isNamed_word {name : String} {ts : List Token} (h : atSign "::" ts = false) :
    isNamed name (Token.plain name :: ts) = true := by
  rw [isNamed, Token.plain, readSettingName_word h]
  exact Path.isPlain_iff.mpr rfl

/-- What is taken from settings of one name is taken at most as often as the name is mentioned. -/
theorem length_filterMap_le_mentions {β : Type} {a : Annotated} {settings : List QuerySetting}
    (h : a.Queries settings) {take : QuerySetting → Option β} {name : String}
    (hname : ∀ {s x ts}, take s = some x → QuerySetting.Spells s ts → isNamed name ts = true) :
    (settings.filterMap take).length ≤ a.mentions name := by
  -- Settings and pieces belong together one by one, so both are counted in one induction.
  have hcount : ∀ {settings : List QuerySetting} {ps : List (List Token)},
      List.Forall₂ QuerySetting.Spells settings ps →
        (settings.filterMap take).length ≤ ps.countP (isNamed name) := by
    intro settings ps hspelled
    induction hspelled with
    | nil => exact Nat.le_refl 0
    | @cons s piece settings ps hs _ ih =>
      rw [List.filterMap_cons, List.countP_cons]
      cases htake : take s with
      | none => exact Nat.le_add_right_of_le ih
      | some x =>
        rw [hname htake hs, if_pos rfl]
        exact Nat.succ_le_succ ih
  cases h with
  | bare h => exact Nat.zero_le _
  | listed h hsettings _ =>
    rw [Annotated.mentions, h]
    exact hcount ((commaList_iff isSeparable_spells).mp hsettings)

namespace Annotated.Queries

variable {a : Annotated} {settings : List QuerySetting}

/-- An annotation has one operator at most. -/
theorem length_operators (h : a.Queries settings) :
    (settings.filterMap QuerySetting.operator?).length ≤ 1 := by
  cases h with
  | bare h => exact Nat.zero_le 1
  | listed h hsettings honce => exact honce

theorem length_columns (h : a.Queries settings) :
    (settings.filterMap QuerySetting.column?).length ≤ a.mentions "column" := by
  refine length_filterMap_le_mentions h fun htake hs => ?_
  obtain rfl := QuerySetting.column?_eq_some_iff.mp htake
  obtain _ | ⟨isJoined, -⟩ := hs
  exact isNamed_word (by cases isJoined <;> rfl)

theorem length_targets (h : a.Queries settings) :
    (settings.filterMap QuerySetting.targets?).length ≤ a.mentions "blurry" := by
  refine length_filterMap_le_mentions h fun htake hs => ?_
  obtain rfl := QuerySetting.targets?_eq_some_iff.mp htake
  obtain _ | _ | ⟨-, -⟩ := hs
  exact isNamed_word rfl

end Annotated.Queries

/-! ## Declarations -/

section Declared

variable {d : Declaration} {members : List Member}

/-- The table of a record: the library that was named last, and the entries of its members. -/
theorem ofDeclaration_eq_ok_iff (hshape : d.shape = .record members) {t : FieldTable} :
    FieldTable.ofDeclaration d = .ok t ↔
      t.declaration = d ∧
      (∃ named, List.Forall₂ Annotated.Names d.criteria named ∧
        t.library = named.flatten.getLast?.getD .default) ∧
      List.Forall₂ Member.Becomes (members.filter fun m => m.query?.isSome) t.entries := by
  rw [← Library.ofAnnotations_eq_ok_iff, ← entriesOf_eq_ok_iff, FieldTable.ofDeclaration, hshape]
  dsimp only
  rw [Outcome.bind_ok_iff]
  constructor
  · rintro ⟨library, hlibrary, h⟩
    obtain ⟨entries, hentries, h⟩ := Outcome.bind_ok_iff.mp h
    cases h
    exact ⟨rfl, hlibrary, hentries⟩
  · rintro ⟨rfl, hlibrary, hentries⟩
    exact ⟨_, hlibrary, Outcome.bind_ok_iff.mpr ⟨_, hentries, rfl⟩⟩

/-- The annotations of the record itself are read before those of its members. -/
theorem refusal?_ofDeclaration (hshape : d.shape = .record members) :
    Outcome.refusal? (FieldTable.ofDeclaration d) =
      (d.criteria.findSome? fun a => Outcome.refusal? (a.library .default)).or
        (members.findSome? fun m => Outcome.refusal? m.entry?) := by
  rw [← Library.refusal?_ofAnnotations d .default, ← refusal?_entriesOf, FieldTable.ofDeclaration,
    hshape]
  cases Library.ofAnnotations d.annotations .default with
  | error c => rfl
  | ok library =>
    show Outcome.refusal? (entriesOf members >>= _) = _
    cases entriesOf members <;> rfl

/-! ## Members that are annotated once -/

/-- The annotation of a record is well formed. -/
def Annotated.IsCriteria (a : Annotated) : Prop := ∃ libraries, a.Names libraries

/-- The annotation of a member is well formed. -/
def Annotated.IsQuery (a : Annotated) : Prop := ∃ settings, a.Queries settings

/-- The entry of a member has its name, and says what the one annotation of the member says. -/
structure Member.Declares (m : Member) (e : Entry) : Prop where
  member : e.member = m.name
  name : e.spec.name = m.name.name
  settings : ∃ a settings, m.queries = [a] ∧ a.Queries settings ∧ e.Says settings

theorem refusal?_library_eq_none_iff {a : Annotated} {before : Library} :
    Outcome.refusal? (a.library before) = none ↔ a.IsCriteria :=
  Outcome.refusal?_eq_none_iff_exists Annotated.library_eq_ok_iff

theorem refusal?_ofAnnotated_eq_none_iff {a : Annotated} :
    Outcome.refusal? (Query.ofAnnotated a) = none ↔ a.IsQuery :=
  Outcome.refusal?_eq_none_iff_exists Query.ofAnnotated_eq_ok_iff

theorem refusal?_entry?_eq_none_iff {m : Member} (honce : m.queries.length ≤ 1) :
    Outcome.refusal? m.entry? = none ↔ ∀ a ∈ m.queries, a.IsQuery := by
  rw [refusal?_entry?_eq_bind, Option.bind_eq_none_iff, m.query?_eq_head?]
  simp only [head?_eq_some_iff_mem honce, refusal?_ofAnnotated_eq_none_iff]

theorem refusal?_entry?_eq_some_iff {m : Member} (honce : m.queries.length ≤ 1) {c : Complaint} :
    Outcome.refusal? m.entry? = some c ↔ ∃ a ∈ m.queries, Query.ofAnnotated a = .error c := by
  rw [refusal?_entry?_eq_bind, Option.bind_eq_some_iff, m.query?_eq_head?]
  simp only [head?_eq_some_iff_mem honce, Outcome.refusal?_eq_some_iff]

/-- The first wrong member: all before it are right. -/
theorem findSome?_entry?_eq_some_iff (honce : ∀ m ∈ members, m.queries.length ≤ 1)
    {c : Complaint} :
    (members.findSome? fun m => Outcome.refusal? m.entry?) = some c ↔
      ∃ before m after, members = before ++ m :: after ∧
        (∃ a ∈ m.queries, Query.ofAnnotated a = .error c) ∧
        ∀ b ∈ before, ∀ a ∈ b.queries, a.IsQuery := by
  rw [List.findSome?_eq_some_iff]
  refine exists_congr fun before => exists_congr fun m => exists_congr fun after =>
    and_congr_right fun hsplit => ?_
  -- That no member is annotated twice is known of the members of the record only.
  have hm : m ∈ members := by simp [hsplit]
  have hbefore : ∀ b ∈ before, b ∈ members := fun b hb => hsplit ▸ List.mem_append_left _ hb
  rw [refusal?_entry?_eq_some_iff (honce m hm)]
  exact and_congr_right fun _ =>
    forall₂_congr fun b hb => refusal?_entry?_eq_none_iff (honce b (hbefore b hb))

/-- The first wrong annotation of a record. -/
theorem findSome?_library_eq_some_iff {as : List Annotated} {c : Complaint} :
    (as.findSome? fun a => Outcome.refusal? (a.library .default)) = some c ↔
      ∃ before a after, as = before ++ a :: after ∧ a.library .default = .error c ∧
        ∀ b ∈ before, b.IsCriteria := by
  rw [List.findSome?_eq_some_iff]
  simp only [refusal?_library_eq_none_iff, Outcome.refusal?_eq_some_iff]

theorem Member.Becomes.declares {m : Member} {e : Entry} (h : m.Becomes e)
    (honce : m.queries.length ≤ 1)
    (hmentions : ∀ a ∈ m.queries, a.mentions "column" ≤ 1 ∧ a.mentions "blurry" ≤ 1) :
    m.Declares e := by
  obtain ⟨a, settings, ha, hsettings, rfl⟩ := h
  rw [m.query?_eq_head?] at ha
  -- The first annotation is the only one, so nothing that a member says is passed over.
  have hqueries : m.queries = [a] := by
    cases hm : m.queries with
    | nil =>
      rw [hm] at ha
      cases ha
    | cons b rest =>
      rw [hm] at ha honce
      cases ha
      rw [List.eq_nil_of_length_eq_zero (Nat.le_zero.mp (Nat.le_of_succ_le_succ honce))]
  obtain ⟨hcolumn, hblurry⟩ := hmentions a (hqueries ▸ List.mem_singleton_self a)
  exact ⟨rfl, rfl, a, settings, hqueries, hsettings, Entry.says_ofQuery hsettings.length_operators
    (Nat.le_trans hsettings.length_columns hcolumn)
    (Nat.le_trans hsettings.length_targets hblurry)⟩

/-- Members that are annotated are told from the others by the annotation that counts. -/
theorem filter_annotated_eq (ms : List Member) :
    (ms.filter fun m => !m.queries.isEmpty) = ms.filter fun m => m.query?.isSome := by
  refine List.filter_congr fun m _ => ?_
  rw [m.query?_eq_head?]
  cases m.queries <;> rfl

/-- **What a record declares.** Where no member is annotated twice and no annotation repeats a
column or its search targets, a record is accepted exactly if all of its annotations are well
formed. Each annotated member then has one entry in the vector that is written, in order, which
makes the field that its annotation says. Otherwise the complaint is that of the first wrong
annotation of the record, or else of the first wrong member. -/
theorem ofDeclaration_faithful (hshape : d.shape = .record members)
    (honce : ∀ m ∈ members, m.queries.length ≤ 1)
    (hmentions : ∀ m ∈ members, ∀ a ∈ m.queries,
      a.mentions "column" ≤ 1 ∧ a.mentions "blurry" ≤ 1) :
    ((∃ t, FieldTable.ofDeclaration d = .ok t) ↔
      (∀ a ∈ d.criteria, a.IsCriteria) ∧ ∀ m ∈ members, ∀ a ∈ m.queries, a.IsQuery) ∧
    (∀ t, FieldTable.ofDeclaration d = .ok t →
      List.Forall₂ Member.Declares (members.filter fun m => !m.queries.isEmpty) t.entries ∧
      vector? t.implementation =
        some ([comma].intercalate (t.entries.map (Entry.tokens t.library))) ∧
      ∀ e ∈ t.entries, ∀ spec member,
        Constructs t.library spec member (e.tokens t.library) ↔ spec = e.spec ∧ member = e.member) ∧
    ∀ c, FieldTable.ofDeclaration d = .error c ↔
      (∃ before a after, d.criteria = before ++ a :: after ∧ a.library .default = .error c ∧
        ∀ b ∈ before, b.IsCriteria) ∨
      (∀ a ∈ d.criteria, a.IsCriteria) ∧
        ∃ before m after, members = before ++ m :: after ∧
          (∃ a ∈ m.queries, Query.ofAnnotated a = .error c) ∧
          ∀ b ∈ before, ∀ a ∈ b.queries, a.IsQuery := by
  have hcriteria : (d.criteria.findSome? fun a => Outcome.refusal? (a.library .default)) = none ↔
      ∀ a ∈ d.criteria, a.IsCriteria := by
    rw [List.findSome?_eq_none_iff]
    simp only [refusal?_library_eq_none_iff]
  refine ⟨?accepted, ?written, ?refused⟩
  case accepted =>
    rw [← Outcome.refusal?_eq_none_iff, refusal?_ofDeclaration hshape, Option.or_eq_none_iff,
      hcriteria, List.findSome?_eq_none_iff]
    exact and_congr_right fun _ =>
      forall₂_congr fun m hm => refusal?_entry?_eq_none_iff (honce m hm)
  case written =>
    intro t ht
    obtain ⟨-, -, hentries⟩ := (ofDeclaration_eq_ok_iff hshape).mp ht
    refine ⟨?_, vector?_implementation t, fun e _ spec member => constructs_tokens_iff⟩
    rw [filter_annotated_eq]
    refine Outcome.forall₂_imp_of_mem (fun m hm e he => ?_) hentries
    have hm := List.mem_of_mem_filter hm
    exact he.declares (honce m hm) (hmentions m hm)
  case refused =>
    intro c
    rw [← Outcome.refusal?_eq_some_iff, refusal?_ofDeclaration hshape, Option.or_eq_some_iff,
      hcriteria, findSome?_library_eq_some_iff, findSome?_entry?_eq_some_iff honce]

end Declared

/-- A member that is annotated without saying how it is compared. -/
def statusMember : Member where
  annotations := [⟨⟨false, [⟨"query", false⟩]⟩, .nothing⟩]
  name := ⟨"status", false⟩

/-- A member that is no criterion. -/
def pageMember : Member where
  annotations := []
  name := ⟨"page", false⟩

/-- A member with a reserved name and settings of every kind, with a comma after the last. -/
def typeMember : Member where
  annotations := [⟨⟨false, [⟨"query", false⟩]⟩, .listed .round [
    Token.plain "column", .mark '=' false, Token.quoted "kind", comma, Token.plain "in", comma,
    Token.plain "blurry", .group .round [Token.quoted "kind", comma, Token.quoted "family"],
    comma]⟩]
  name := ⟨"type", true⟩

/-- A record with an annotation of its own that says nothing. -/
def productFilter : Declaration where
  annotations := [⟨⟨false, [⟨"criteria", false⟩]⟩, .listed .round []⟩]
  name := ⟨"ProductFilter", false⟩
  parameters := []
  conditions := []
  shape := .record [statusMember, pageMember, typeMember]

/-- The two annotated members have their entries. -/
theorem ofDeclaration_productFilter :
    ∃ t, FieldTable.ofDeclaration productFilter = .ok t ∧
      (∀ a ∈ productFilter.criteria, a.IsCriteria) ∧
      List.Forall₂ Member.Declares [statusMember, typeMember] t.entries ∧
      t.entries = [⟨⟨"status", false⟩, .equal, none, []⟩,
        ⟨⟨"type", true⟩, .isIn, some "kind", ["kind", "family"]⟩] := by
  have haccepted : ∃ t, FieldTable.ofDeclaration productFilter = .ok t ∧
      t.entries = [⟨⟨"status", false⟩, .equal, none, []⟩,
        ⟨⟨"type", true⟩, .isIn, some "kind", ["kind", "family"]⟩] := ⟨_, rfl, rfl⟩
  obtain ⟨t, ht, hentries⟩ := haccepted
  obtain ⟨hiff, hwritten, -⟩ := @ofDeclaration_faithful productFilter
    [statusMember, pageMember, typeMember] rfl (by decide) (by decide)
  exact ⟨t, ht, (hiff.mp ⟨t, ht⟩).1, (hwritten t ht).1, hentries⟩

end RowFilter.Record
