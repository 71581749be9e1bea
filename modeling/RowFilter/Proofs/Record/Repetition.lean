import RowFilter.Proofs.Record.Derivation

/-!
# Annotations that repeat

A member may be annotated more than once, and an annotation may name a column or search targets more
than once. Only the first annotation of a member is read. In it a second operator is refused, while
of several columns, and of several lists of targets, the last counts. So all that a member says is
heeded only if it says everything with its first annotation, and nothing twice.

Headlines:
* `carries_append_iff`: what can be carried beside the settings of the first annotation;
* `Member.Becomes.heeds_iff`: which members are heeded;
* **`isHeeded_iff`**: which records are accepted, what becomes of them, and which are heeded;
* **`not_isHeeded_of_secondAnnotation`**: an operator in a second annotation is passed over.
-/

namespace RowFilter.Record

/-! ## All that a member says -/

/-- The annotations of a member are well formed, and say some settings together. -/
def Member.Says (m : Member) (settings : List QuerySetting) : Prop :=
  ∃ said, List.Forall₂ Annotated.Queries m.queries said ∧ settings = said.flatten

/-- What a member says is read off its annotations. -/
theorem Member.Says.unique {m : Member} {settings settings' : List QuerySetting}
    (h : m.Says settings) (h' : m.Says settings') : settings = settings' := by
  obtain ⟨said, hsaid, rfl⟩ := h
  obtain ⟨said', hsaid', rfl⟩ := h'
  have hunique : Relator.RightUnique Annotated.Queries := fun _ _ _ => Annotated.Queries.unique
  rw [List.right_unique_forall₂' hunique hsaid hsaid']

/-- Settings name one operator, one column and one list of search targets at most. -/
structure NamesOnce (settings : List QuerySetting) : Prop where
  operators : (settings.filterMap QuerySetting.operator?).length ≤ 1
  columns : (settings.filterMap QuerySetting.column?).length ≤ 1
  targets : (settings.filterMap QuerySetting.targets?).length ≤ 1

/-- The annotations of a member are well formed and do not contradict each other. -/
def Member.IsConsistent (m : Member) : Prop := ∃ settings, m.Says settings ∧ NamesOnce settings

/-- An entry carries a setting. -/
def Entry.Carries (e : Entry) : QuerySetting → Prop
  | .operator op => e.operator = op
  | .column name => e.column = some name
  | .blurry targets => e.targets = targets

/-- An entry heeds a member if the member is consistent and the entry carries all that it says. -/
def Entry.Heeds (e : Entry) (m : Member) : Prop :=
  ∃ settings, m.Says settings ∧ NamesOnce settings ∧ ∀ s ∈ settings, e.Carries s

/-- No annotation of the members of a record is passed over: if the record is accepted, each
annotated member has an entry that heeds it, and it is refused if a member is not consistent. -/
structure Declaration.IsHeeded (d : Declaration) : Prop where
  heeds : ∀ members t, d.shape = .record members → FieldTable.ofDeclaration d = .ok t →
    List.Forall₂ (fun m e => e.Heeds m) (members.filter fun m => !m.queries.isEmpty) t.entries
  refuses : ∀ members, d.shape = .record members → ∀ m ∈ members, ¬m.IsConsistent →
    ∀ t, FieldTable.ofDeclaration d ≠ .ok t

/-! ## What is passed over -/

/-- More settings add nothing to some: there are none, or only the test for equality, which goes
without saying where no operator is named. -/
def AddsNothing (settings more : List QuerySetting) : Prop :=
  more = [] ∨ more = [.operator .equal] ∧ settings.filterMap QuerySetting.operator? = []

/-- A member says everything with the first of its annotations, and nothing twice. Those after it
are well formed and add nothing. -/
inductive Member.SaysAllFirst (m : Member) : Prop
  | mk {a : Annotated} {rest : List Annotated} {settings : List QuerySetting}
      {later : List (List QuerySetting)} (hqueries : m.queries = a :: rest)
      (hfirst : a.Queries settings) (hlater : List.Forall₂ Annotated.Queries rest later)
      (honce : NamesOnce settings) (hmore : AddsNothing settings later.flatten) : SaysAllFirst m

section Added

variable {settings more : List QuerySetting} {member : Word}

theorem NamesOnce.of_append (h : NamesOnce (settings ++ more)) : NamesOnce settings := by
  have hle : ∀ {β : Type} (take : QuerySetting → Option β),
      (settings.filterMap take).length ≤ ((settings ++ more).filterMap take).length := by
    intro β take
    exact ((List.sublist_append_left settings more).filterMap take).length_le
  exact ⟨Nat.le_trans (hle _) h.operators, Nat.le_trans (hle _) h.columns,
    Nat.le_trans (hle _) h.targets⟩

/-- What is named once in all, and later, is not named before. -/
theorem filterMap_eq_nil_of_later {β : Type} {take : QuerySetting → Option β}
    (honce : ((settings ++ more).filterMap take).length ≤ 1) {s : QuerySetting} {x : β}
    (hs : s ∈ more) (hx : take s = some x) : settings.filterMap take = [] := by
  have hlater : 0 < (more.filterMap take).length :=
    List.length_pos_of_mem (List.mem_filterMap.mpr ⟨s, hs, hx⟩)
  rw [List.filterMap_append, List.length_append] at honce
  exact List.eq_nil_of_length_eq_zero (by omega)

/-- An entry made of some settings carries a later one only if that is the test for equality. -/
theorem eq_equal_of_carries (honce : NamesOnce (settings ++ more)) {s : QuerySetting}
    (hs : s ∈ more) (hne : s ≠ .blurry [])
    (hcarries : (Entry.ofQuery member (.saying settings)).Carries s) :
    s = .operator .equal ∧ settings.filterMap QuerySetting.operator? = [] := by
  cases s with
  | operator op =>
    have hnone := filterMap_eq_nil_of_later honce.operators hs rfl
    have hop : (settings.filterMap QuerySetting.operator?).head?.getD .equal = op := hcarries
    rw [hnone] at hop
    exact ⟨congrArg QuerySetting.operator hop.symm, hnone⟩
  | column name =>
    have hnone := filterMap_eq_nil_of_later honce.columns hs rfl
    have hname : (settings.filterMap QuerySetting.column?).getLast? = some name := hcarries
    rw [hnone] at hname
    cases hname
  | blurry targets =>
    have hnone := filterMap_eq_nil_of_later honce.targets hs rfl
    have htargets : (settings.filterMap QuerySetting.targets?).getLast?.getD [] = targets :=
      hcarries
    rw [hnone] at htargets
    exact absurd (congrArg QuerySetting.blurry htargets.symm) hne

theorem Entry.Says.carries {e : Entry} (h : e.Says settings) {s : QuerySetting} (hs : s ∈ settings)
    (hne : s ≠ .blurry []) : e.Carries s := by
  cases s with
  | operator op => exact h.operator op hs
  | column name => exact (h.column name).mpr hs
  | blurry targets => exact (h.targets targets fun hnil => hne (congrArg _ hnil)).mpr hs

/-- **Beside the settings that an entry is made of** it carries others, none of them for a second
time, exactly if these add nothing. -/
theorem carries_append_iff (hne : ∀ s ∈ settings ++ more, s ≠ .blurry []) :
    (NamesOnce (settings ++ more) ∧
        ∀ s ∈ settings ++ more, (Entry.ofQuery member (.saying settings)).Carries s) ↔
      NamesOnce settings ∧ AddsNothing settings more := by
  constructor
  · rintro ⟨honce, hcarries⟩
    have hequal : ∀ s ∈ more,
        s = .operator .equal ∧ settings.filterMap QuerySetting.operator? = [] := fun s hs =>
      eq_equal_of_carries honce hs (hne s (List.mem_append_right _ hs))
        (hcarries s (List.mem_append_right _ hs))
    refine ⟨honce.of_append, ?_⟩
    cases more with
    | nil => exact .inl rfl
    | cons s rest =>
      obtain ⟨rfl, hnone⟩ := hequal s List.mem_cons_self
      cases rest with
      | nil => exact .inr ⟨rfl, hnone⟩
      | cons s' rest =>
        -- Another setting would be the test for equality again, and so a second operator.
        obtain ⟨rfl, -⟩ := hequal s' (List.mem_cons_of_mem _ List.mem_cons_self)
        have htwo := honce.operators
        simp only [List.filterMap_append, List.filterMap_cons, QuerySetting.operator?,
          List.length_append, List.length_cons] at htwo
        omega
  · rintro ⟨honce, hmore⟩
    have hsays : (Entry.ofQuery member (.saying settings)).Says settings :=
      Entry.says_ofQuery honce.operators honce.columns honce.targets
    have hcarries : ∀ s ∈ settings, (Entry.ofQuery member (.saying settings)).Carries s :=
      fun s hs => hsays.carries hs (hne s (List.mem_append_left _ hs))
    obtain rfl | ⟨rfl, hnone⟩ := hmore
    · rw [List.append_nil]
      exact ⟨honce, hcarries⟩
    · have hkept : ∀ {β : Type} (take : QuerySetting → Option β), take (.operator .equal) = none →
          (settings ++ [QuerySetting.operator .equal]).filterMap take =
            settings.filterMap take := by
        intro β take htake
        rw [List.filterMap_append, List.filterMap_cons_none htake, List.filterMap_nil,
          List.append_nil]
      refine ⟨⟨?operators, ?columns, ?targets⟩, ?carried⟩
      case operators =>
        rw [List.filterMap_append, hnone]
        exact Nat.le_refl 1
      case columns =>
        rw [hkept _ rfl]
        exact honce.columns
      case targets =>
        rw [hkept _ rfl]
        exact honce.targets
      case carried =>
        intro s hs
        rcases List.mem_append.mp hs with hs | hs
        · exact hcarries s hs
        · obtain rfl := List.mem_singleton.mp hs
          show (settings.filterMap QuerySetting.operator?).head?.getD .equal = .equal
          rw [hnone]
          rfl

end Added

/-! ## Members -/

theorem Entry.Heeds.isConsistent {e : Entry} {m : Member} (h : e.Heeds m) : m.IsConsistent := by
  obtain ⟨settings, hsays, honce, -⟩ := h
  exact ⟨settings, hsays, honce⟩

/-- A member that is not annotated says nothing. -/
theorem Member.isConsistent_of_queries_eq_nil {m : Member} (h : m.queries = []) :
    m.IsConsistent := by
  refine ⟨[], ⟨[], ?_, rfl⟩, ⟨Nat.zero_le 1, Nat.zero_le 1, Nat.zero_le 1⟩⟩
  rw [h]
  exact .nil

/-- **A member is heeded** exactly if it says everything with the first of its annotations. -/
theorem Member.Becomes.heeds_iff {m : Member} {e : Entry} (h : m.Becomes e) :
    e.Heeds m ↔ m.SaysAllFirst := by
  obtain ⟨a, settings, ha, hsettings, rfl⟩ := h
  rw [m.query?_eq_head?] at ha
  obtain ⟨rest, hqueries⟩ := List.head?_eq_some_iff.mp ha
  have hne : ∀ {later : List (List QuerySetting)}, List.Forall₂ Annotated.Queries rest later →
      ∀ s ∈ settings ++ later.flatten, s ≠ .blurry [] := by
    intro later hlater s hs
    rw [← List.flatten_cons] at hs
    obtain ⟨said, hsaid, hs⟩ := List.mem_flatten.mp hs
    obtain ⟨b, -, hb⟩ := Outcome.exists_of_forall₂_right (.cons hsettings hlater) hsaid
    exact hb.ne_blurry_nil hs
  constructor
  · rintro ⟨_, ⟨said, hsaid, rfl⟩, hcarried⟩
    rw [hqueries] at hsaid
    obtain _ | ⟨hfirst, hlater⟩ := hsaid
    obtain rfl := hfirst.unique hsettings
    obtain ⟨honce, hmore⟩ := (carries_append_iff (hne hlater)).mp hcarried
    exact ⟨hqueries, hfirst, hlater, honce, hmore⟩
  · rintro ⟨hqueries', hfirst, hlater, honce, hmore⟩
    rw [hqueries] at hqueries'
    cases hqueries'
    obtain rfl := hfirst.unique hsettings
    refine ⟨_, ⟨_ :: _, ?_, rfl⟩, (carries_append_iff (hne hlater)).mpr ⟨honce, hmore⟩⟩
    rw [hqueries]
    exact .cons hfirst hlater

/-! ## Records -/

section Declared

variable {d : Declaration} {members : List Member} {t : FieldTable}

/-- Only records are accepted. -/
theorem exists_members_of_ofDeclaration (h : FieldTable.ofDeclaration d = .ok t) :
    ∃ members, d.shape = .record members := by
  unfold FieldTable.ofDeclaration at h
  split at h
  · exact ⟨_, ‹_›⟩
  all_goals cases h

/-- Of the annotations of a member only the first has to be well formed. -/
theorem exists_ofDeclaration_eq_ok_iff :
    (∃ t, FieldTable.ofDeclaration d = .ok t) ↔
      ∃ members, d.shape = .record members ∧ (∀ a ∈ d.criteria, a.IsCriteria) ∧
        ∀ m ∈ members, ∀ a, m.queries.head? = some a → a.IsQuery := by
  have hrecord : ∀ {members}, d.shape = .record members →
      ((∃ t, FieldTable.ofDeclaration d = .ok t) ↔ (∀ a ∈ d.criteria, a.IsCriteria) ∧
        ∀ m ∈ members, ∀ a, m.queries.head? = some a → a.IsQuery) := by
    intro members hshape
    rw [← Outcome.refusal?_eq_none_iff, refusal?_ofDeclaration hshape, Option.or_eq_none_iff,
      List.findSome?_eq_none_iff, List.findSome?_eq_none_iff]
    simp only [refusal?_library_eq_none_iff, refusal?_entry?_eq_bind, Option.bind_eq_none_iff,
      refusal?_ofAnnotated_eq_none_iff, Member.query?_eq_head?]
  constructor
  · rintro ⟨t, ht⟩
    obtain ⟨members, hshape⟩ := exists_members_of_ofDeclaration ht
    exact ⟨members, hshape, (hrecord hshape).mp ⟨t, ht⟩⟩
  · rintro ⟨members, hshape, hwell⟩
    exact (hrecord hshape).mpr hwell

/-- The annotated members of an accepted record become its entries, in order. -/
theorem forall₂_becomes_of_ofDeclaration (hshape : d.shape = .record members)
    (ht : FieldTable.ofDeclaration d = .ok t) :
    List.Forall₂ Member.Becomes (members.filter fun m => !m.queries.isEmpty) t.entries := by
  rw [filter_annotated_eq]
  exact ((ofDeclaration_eq_ok_iff hshape).mp ht).2.2

/-- Where members become entries, all are heeded exactly if all say everything first. -/
theorem forall₂_heeds_iff {ms : List Member} {es : List Entry}
    (h : List.Forall₂ Member.Becomes ms es) :
    List.Forall₂ (fun m e => Entry.Heeds e m) ms es ↔ ∀ m ∈ ms, m.SaysAllFirst := by
  induction h with
  | nil => simp
  | cons hbecomes _ ih =>
    rw [List.forall₂_cons, List.forall_mem_cons, hbecomes.heeds_iff, ih]

theorem mem_annotated_iff {m : Member} :
    m ∈ (members.filter fun m => !m.queries.isEmpty) ↔ m ∈ members ∧ m.queries ≠ [] := by
  simp

/-- A record whose annotated members are heeded once it is accepted is refused if one of them is not
consistent: no entry could heed that one. -/
theorem isHeeded_of_heeds
    (hheeds : ∀ members t, d.shape = .record members → FieldTable.ofDeclaration d = .ok t →
      List.Forall₂ (fun m e => Entry.Heeds e m) (members.filter fun m => !m.queries.isEmpty)
        t.entries) : d.IsHeeded := by
  refine ⟨hheeds, fun members hshape m hm hnot t ht => hnot ?_⟩
  by_cases hqueries : m.queries = []
  · exact Member.isConsistent_of_queries_eq_nil hqueries
  · have hannotated := mem_annotated_iff.mpr ⟨hm, hqueries⟩
    obtain ⟨e, -, he⟩ := Outcome.exists_of_forall₂_left (hheeds members t hshape ht) hannotated
    exact he.isConsistent

/-- **Which annotations are heeded.** A record is accepted if its own annotations are well formed
and so is the first of each member, whatever those after it are. Each annotated member then has one
entry in the vector that is written, in order. The entry says what the first annotation says, and
heeds the member exactly if the member says everything there. So no annotation is passed over
exactly if all annotated members do this, or the record is refused anyway. -/
theorem isHeeded_iff (d : Declaration) :
    ((∃ t, FieldTable.ofDeclaration d = .ok t) ↔
      ∃ members, d.shape = .record members ∧ (∀ a ∈ d.criteria, a.IsCriteria) ∧
        ∀ m ∈ members, ∀ a, m.queries.head? = some a → a.IsQuery) ∧
    (∀ members t, d.shape = .record members → FieldTable.ofDeclaration d = .ok t →
      List.Forall₂ (fun m e => m.Becomes e ∧ (e.Heeds m ↔ m.SaysAllFirst))
        (members.filter fun m => !m.queries.isEmpty) t.entries ∧
      vector? t.implementation =
        some ([comma].intercalate (t.entries.map (Entry.tokens t.library))) ∧
      ∀ e ∈ t.entries, ∀ spec member,
        Constructs t.library spec member (e.tokens t.library) ↔ spec = e.spec ∧ member = e.member) ∧
    (d.IsHeeded ↔
      ∀ members t, d.shape = .record members → FieldTable.ofDeclaration d = .ok t →
        ∀ m ∈ members, m.queries ≠ [] → m.SaysAllFirst) := by
  refine ⟨exists_ofDeclaration_eq_ok_iff, ?written, ?heeded⟩
  case written =>
    intro members t hshape ht
    have hbecomes := forall₂_becomes_of_ofDeclaration hshape ht
    exact ⟨hbecomes.imp fun m e h => ⟨h, h.heeds_iff⟩, vector?_implementation t,
      fun e _ spec member => constructs_tokens_iff⟩
  case heeded =>
    constructor
    · intro h members t hshape ht m hm hne
      have hbecomes := forall₂_becomes_of_ofDeclaration hshape ht
      exact (forall₂_heeds_iff hbecomes).mp (h.heeds members t hshape ht) m
        (mem_annotated_iff.mpr ⟨hm, hne⟩)
    · intro h
      refine isHeeded_of_heeds fun members t hshape ht => ?_
      refine (forall₂_heeds_iff (forall₂_becomes_of_ofDeclaration hshape ht)).mpr fun m hm => ?_
      obtain ⟨hm, hne⟩ := mem_annotated_iff.mp hm
      exact h members t hshape ht m hm hne

end Declared

/-- A member with a second annotation that says nothing. -/
def kindMember : Member where
  annotations := [⟨⟨false, [⟨"query", false⟩]⟩, .listed .round [
      Token.plain "in", comma, Token.plain "column", .mark '=' false, Token.quoted "kind"]⟩,
    ⟨⟨false, [⟨"query", false⟩]⟩, .nothing⟩]
  name := ⟨"kinds", false⟩

/-- A record whose members say everything first. -/
def kindFilter : Declaration where
  annotations := []
  name := ⟨"KindFilter", false⟩
  parameters := []
  conditions := []
  shape := .record [kindMember, pageMember]

/-- The one annotated member is heeded, though it is annotated twice. -/
theorem isHeeded_kindFilter :
    kindFilter.IsHeeded ∧ ∃ t, FieldTable.ofDeclaration kindFilter = .ok t ∧
      t.entries = [⟨⟨"kinds", false⟩, .isIn, some "kind", []⟩] ∧
      ∀ e ∈ t.entries, e.Heeds kindMember := by
  have haccepted : ∃ t, FieldTable.ofDeclaration kindFilter = .ok t ∧
      t.entries = [⟨⟨"kinds", false⟩, .isIn, some "kind", []⟩] := ⟨_, rfl, rfl⟩
  have hfirst : kindMember.SaysAllFirst := by
    have hin : CommaList QuerySetting.Spells [.operator .isIn, .column "kind"]
        [Token.plain "in", comma, Token.plain "column", .mark '=' false, Token.quoted "kind"] :=
      .cons false (QuerySetting.Spells.operator .isIn)
        (.last (QuerySetting.Spells.column false ⟨_, _⟩))
    exact .mk rfl (.listed rfl hin (by decide)) (.cons (.bare rfl) .nil)
      ⟨by decide, by decide, by decide⟩ (.inl rfl)
  obtain ⟨-, hwritten, hheeded⟩ := isHeeded_iff kindFilter
  refine ⟨hheeded.mpr ?all, ?entry⟩
  case all =>
    rintro _ t ⟨⟩ - m hm hne
    rcases List.mem_pair.mp hm with rfl | rfl
    · exact hfirst
    · exact absurd rfl hne
  case entry =>
    obtain ⟨t, ht, hentries⟩ := haccepted
    have hentry : List.Forall₂ (fun m e => m.Becomes e ∧ (e.Heeds m ↔ m.SaysAllFirst))
        [kindMember] t.entries := (hwritten _ t rfl ht).1
    refine ⟨t, ht, hentries, fun e he => ?_⟩
    obtain ⟨m, hm, -, hiff⟩ := Outcome.exists_of_forall₂_right hentry he
    obtain rfl := List.mem_singleton.mp hm
    exact hiff.mpr hfirst

/-- A member with an operator in each of two annotations. -/
def amountMember : Member where
  annotations := [⟨⟨false, [⟨"query", false⟩]⟩, .listed .round [Token.plain "equal"]⟩,
    ⟨⟨false, [⟨"query", false⟩]⟩, .listed .round [Token.plain "in"]⟩]
  name := ⟨"a", false⟩

/-- A record whose member has two operators. -/
def amountFilter : Declaration where
  annotations := []
  name := ⟨"S", false⟩
  parameters := []
  conditions := []
  shape := .record [amountMember]

/-- **An operator in a second annotation is passed over**: the record is accepted, though its member
names two operators, and the entry of the member has but the first of them. -/
theorem not_isHeeded_of_secondAnnotation :
    (∃ t, FieldTable.ofDeclaration amountFilter = .ok t ∧
      t.entries = [⟨⟨"a", false⟩, .equal, none, []⟩]) ∧
    amountMember.Says [.operator .equal, .operator .isIn] ∧ ¬amountFilter.IsHeeded := by
  have haccepted : ∃ t, FieldTable.ofDeclaration amountFilter = .ok t ∧
      t.entries = [⟨⟨"a", false⟩, .equal, none, []⟩] := ⟨_, rfl, rfl⟩
  have hsays : amountMember.Says [.operator .equal, .operator .isIn] :=
    ⟨[[.operator .equal], [.operator .isIn]],
      .cons (.listed rfl (.last (.operator .equal)) (by decide))
        (.cons (.listed rfl (.last (.operator .isIn)) (by decide)) .nil), rfl⟩
  have hcontradicts : ¬amountMember.IsConsistent := by
    rintro ⟨settings, hsettings, honce⟩
    obtain rfl := hsettings.unique hsays
    exact absurd honce.operators (by decide)
  refine ⟨haccepted, hsays, fun h => ?_⟩
  obtain ⟨t, ht, -⟩ := haccepted
  exact h.refuses _ rfl amountMember List.mem_cons_self hcontradicts t ht

end RowFilter.Record
