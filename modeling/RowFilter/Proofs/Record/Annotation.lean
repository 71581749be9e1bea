import RowFilter.Proofs.Record.CommaList
import RowFilter.Record.FieldTable

/-!
# The grammar of annotations

What an annotation may say, as a grammar of its own: a member is annotated with the word of an
operator, once at most, with `column = "name"` and with `blurry("name", ...)`, a record with
`crate = "path"`. The readers of annotations accept exactly this, and make of an annotation what
its settings say.

Headlines:
* `Query.set_eq_ok_iff` and `readLibrarySetting_eq_ok_iff`: one setting;
* `Annotated.Queries.unique`: an annotation says its settings and no others;
* **`Query.ofAnnotated_eq_ok_iff`** and `Annotated.library_eq_ok_iff`: whole annotations.
-/

namespace RowFilter.Record

/-! ## Grammar -/

/-- A text, with whatever suffix. -/
inductive SpellsText (value : String) : List Token → Prop
  | mk (spelling suffix : String) : SpellsText value [.literal (.text value) spelling suffix]

/-- What a setting of a member says. -/
inductive QuerySetting where
  | operator (op : Operator)
  | column (name : String)
  | blurry (targets : List String)
  deriving DecidableEq

/-- How a setting of a member is written. -/
inductive QuerySetting.Spells : QuerySetting → List Token → Prop
  | operator (op : Operator) : Spells (.operator op) [Token.plain (operatorWord op)]
  | column {name : String} {ts : List Token} (isJoined : Bool) (hname : SpellsText name ts) :
      Spells (.column name) (Token.plain "column" :: .mark '=' isJoined :: ts)
  | blurry {targets : List String} {content : List Token} (hne : targets ≠ [])
      (htargets : CommaList SpellsText targets content) :
      Spells (.blurry targets) [Token.plain "blurry", .group .round content]

/-- A setting of a record names a library by its path. -/
inductive SpellsLibrary (library : Library) : List Token → Prop
  | mk {text spelling : String} {path : List Token} (isJoined : Bool)
      (htext : Scan.tokens? text = some path) (hpath : pathOfTokens path = .ok library) :
      SpellsLibrary library
        [Token.plain "crate", .mark '=' isJoined, .literal (.text text) spelling ""]

namespace QuerySetting

/-- The operator of a setting. -/
def operator? : QuerySetting → Option Operator
  | operator op => some op
  | _ => none

/-- The column of a setting. -/
def column? : QuerySetting → Option String
  | column name => some name
  | _ => none

/-- The search targets of a setting. -/
def targets? : QuerySetting → Option (List String)
  | blurry targets => some targets
  | _ => none

variable {s : QuerySetting}

theorem operator?_eq_some_iff {op : Operator} : s.operator? = some op ↔ s = .operator op := by
  cases s <;> simp [operator?]

theorem column?_eq_some_iff {name : String} : s.column? = some name ↔ s = .column name := by
  cases s <;> simp [column?]

theorem targets?_eq_some_iff {targets : List String} :
    s.targets? = some targets ↔ s = .blurry targets := by
  cases s <;> simp [targets?]

end QuerySetting

/-- The annotation of a member is well formed and says some settings, of which one at most is an
operator. -/
inductive Annotated.Queries (a : Annotated) : List QuerySetting → Prop
  | bare (h : a.arguments = .nothing) : Queries a []
  | listed {b : Bracket} {content : List Token} {settings : List QuerySetting}
      (h : a.arguments = .listed b content)
      (hsettings : CommaList QuerySetting.Spells settings content)
      (honce : (settings.filterMap QuerySetting.operator?).length ≤ 1) : Queries a settings

/-- The annotation of a record is well formed and names some libraries. -/
inductive Annotated.Names (a : Annotated) : List Library → Prop
  | listed {b : Bracket} {content : List Token} {libraries : List Library}
      (h : a.arguments = .listed b content)
      (hlibraries : CommaList SpellsLibrary libraries content) : Names a libraries

namespace Annotated

variable {a : Annotated} {b : Bracket} {content value : List Token} {libraries : List Library}
  {settings : List QuerySetting}

theorem queries_iff_of_nothing (h : a.arguments = .nothing) :
    a.Queries settings ↔ settings = [] := by
  constructor
  · rintro (_ | ⟨hlisted, -, -⟩)
    · rfl
    · rw [h] at hlisted
      cases hlisted
  · rintro rfl
    exact .bare h

theorem queries_iff_of_listed (h : a.arguments = .listed b content) :
    a.Queries settings ↔ CommaList QuerySetting.Spells settings content ∧
      (settings.filterMap QuerySetting.operator?).length ≤ 1 := by
  constructor
  · rintro (hbare | ⟨hlisted, hsettings, honce⟩)
    · rw [h] at hbare
      cases hbare
    · rw [h] at hlisted
      cases hlisted
      exact ⟨hsettings, honce⟩
  · rintro ⟨hsettings, honce⟩
    exact .listed h hsettings honce

theorem not_queries_of_assigned (h : a.arguments = .assigned value) : ¬a.Queries settings := by
  rintro (hbare | ⟨hlisted, -, -⟩)
  · rw [h] at hbare
    cases hbare
  · rw [h] at hlisted
    cases hlisted

theorem names_iff_of_listed (h : a.arguments = .listed b content) :
    a.Names libraries ↔ CommaList SpellsLibrary libraries content := by
  constructor
  · rintro ⟨hlisted, hlibraries⟩
    rw [h] at hlisted
    cases hlisted
    exact hlibraries
  · exact .listed h

end Annotated

/-! ## Parts of a setting -/

theorem Path.isPlain_iff {p : Path} {name : String} :
    p.isPlain name = true ↔ p.word? = some ⟨name, false⟩ := beq_iff_eq

theorem Path.word?_eq_some_iff {p : Path} {w : Word} : p.word? = some w ↔ p = ⟨false, [w]⟩ := by
  unfold Path.word?
  obtain ⟨isRooted, words⟩ := p
  constructor
  · intro h
    split at h
    · rename_i u hr hw
      simp_all
    · cases h
  · rintro h
    cases h
    rfl

/-- Where no separator follows, no words do. -/
theorem readMoreWords_of_not_atSign {atEnd : Bool} {ts : List Token} (h : atSign "::" ts = false) :
    readMoreWords atEnd ts = .ok ([], ts) := by
  unfold readMoreWords
  split
  · cases h
  · cases h
  · rfl

theorem eq_of_readMoreWords {atEnd : Bool} {ts rest : List Token}
    (h : readMoreWords atEnd ts = .ok ([], rest)) : ts = rest := by
  unfold readMoreWords at h
  split at h
  · obtain ⟨⟨ws, us⟩, -, h⟩ := Outcome.bind_ok_iff.mp h
    cases h
  · cases h
  · cases h
    rfl

theorem readSettingName_word {atEnd : Bool} {w : Word} {ts : List Token}
    (h : atSign "::" ts = false) :
    readSettingName atEnd (.word w :: ts) = .ok (⟨false, [w]⟩, ts) := by
  show (readMoreWords atEnd ts >>= _) = _
  rw [readMoreWords_of_not_atSign h]
  rfl

/-- A setting whose name is one word begins with it. -/
theorem eq_of_readSettingName {atEnd : Bool} {ts rest : List Token} {p : Path} {w : Word}
    (h : readSettingName atEnd ts = .ok (p, rest)) (hw : p.word? = some w) :
    ts = .word w :: rest := by
  obtain rfl := Path.word?_eq_some_iff.mp hw
  unfold readSettingName at h
  dsimp only at h
  split at h
  · rename_i u us hts
    obtain ⟨⟨ws, vs⟩, hmore, h⟩ := Outcome.bind_ok_iff.mp h
    obtain ⟨⟨hroot, rfl, rfl⟩, rfl⟩ : (atSign "::" ts = false ∧ u = w ∧ ws = []) ∧ vs = rest := by
      simpa [pure, Except.pure] using h
    rw [hroot, if_neg Bool.false_ne_true] at hts
    rw [hts, eq_of_readMoreWords hmore]
  · cases h
  · cases h

theorem readText_eq_ok_iff {atEnd : Bool} {ts rest : List Token} {value suffix : String} :
    readText atEnd ts = .ok (value, suffix, rest) ↔
      ∃ spelling, ts = .literal (.text value) spelling suffix :: rest := by
  unfold readText
  constructor
  · intro h
    split at h
    · cases h
      exact ⟨_, rfl⟩
    · cases h
  · rintro ⟨spelling, rfl⟩
    rfl

theorem readAssigned_eq_ok_iff {atEnd : Bool} {ts rest : List Token} {value suffix : String} :
    readAssigned atEnd ts = .ok (value, suffix, rest) ↔
      ∃ isJoined spelling,
        ts = .mark '=' isJoined :: .literal (.text value) spelling suffix :: rest := by
  unfold readAssigned
  constructor
  · intro h
    split at h
    · rename_i hsign
      match ts, hsign with
      | .mark c isJoined :: us, hsign =>
        obtain rfl : '=' = c := by simpa [atSign, atMarks] using hsign
        obtain ⟨spelling, hus⟩ := readText_eq_ok_iff.mp h
        exact ⟨isJoined, spelling, congrArg _ hus⟩
    · cases h
  · rintro ⟨isJoined, spelling, rfl⟩
    rfl

theorem finished_eq_ok_iff {ts : List Token} {u : Unit} : finished ts = .ok u ↔ ts = [] := by
  cases ts <;> simp [finished]

/-! ## Settings of a member -/

theorem isSeparable_spellsText : IsSeparable SpellsText := by
  rintro value _ ⟨spelling, suffix⟩
  exact ⟨List.cons_ne_nil _ _, by simp [IsCommaFree, Token.isMark]⟩

theorem foldlM_append_singleton {α : Type} (xs before : List α) :
    xs.foldlM (fun gathered x => some (gathered ++ [x])) before = some (before ++ xs) := by
  induction xs generalizing before with
  | nil => simp
  | cons x xs ih => simp [List.foldlM_cons, ih]

theorem readTexts_eq_ok_iff {content : List Token} {texts : List String} :
    readTexts content = .ok texts ↔ texts ≠ [] ∧ CommaList SpellsText texts content := by
  unfold readTexts
  rw [Outcome.bind_ok_iff]
  refine (exists_congr fun gathered => and_congr_left' (@readPieces_eq_ok_iff _ _ _ SpellsText
    (fun texts value => some (texts ++ [value])) isSeparable_spellsText ?read _ _ _)).trans ?_
  case read =>
    intro gathered atEnd piece more
    rw [Outcome.bind_ok_iff]
    constructor
    · rintro ⟨⟨value, suffix, rest⟩, htext, h⟩
      obtain ⟨spelling, rfl⟩ := readText_eq_ok_iff.mp htext
      obtain ⟨_, hend, h⟩ := Outcome.bind_ok_iff.mp h
      obtain rfl := finished_eq_ok_iff.mp hend
      exact ⟨value, ⟨spelling, suffix⟩, congrArg some (Except.ok.inj h)⟩
    · rintro ⟨value, ⟨spelling, suffix⟩, h⟩
      exact ⟨_, readText_eq_ok_iff.mpr ⟨spelling, rfl⟩, congrArg Except.ok (Option.some.inj h)⟩
  simp only [foldlM_append_singleton, List.nil_append, Option.some.injEq]
  constructor
  · rintro ⟨_, ⟨values, hvalues, rfl⟩, h⟩
    split at h
    · cases h
    · rename_i hne
      obtain rfl := Except.ok.inj h
      exact ⟨by simpa using hne, hvalues⟩
  · rintro ⟨hne, hvalues⟩
    refine ⟨texts, ⟨texts, hvalues, rfl⟩, if_neg ?_⟩
    simpa using hne

theorem operatorOf?_eq_some_iff {word : String} {op : Operator} :
    operatorOf? word = some op ↔ word = operatorWord op := by
  constructor
  · intro h
    have hfound := List.find?_some (p := fun op => operatorWord op == word) h
    exact (beq_iff_eq.mp hfound).symm
  · rintro rfl
    exact operatorOf?_operatorWord op

/-- A word is written like that of an operator only if it is that word, and not raw. -/
theorem text_eq_operatorWord_iff {w : Word} {op : Operator} :
    w.text = operatorWord op ↔ w = ⟨operatorWord op, false⟩ := by
  constructor
  · intro h
    obtain ⟨name, isRaw⟩ := w
    cases isRaw with
    | false => exact congrArg (Word.mk · false) h
    | true =>
      have hlist : 'r' :: '#' :: name.toList = (operatorWord op).toList := by
        rw [← h, Word.text, if_pos rfl, String.toList_append]
        rfl
      cases op <;> simp [operatorWord] at hlist
  · rintro rfl
    rfl

theorem operatorWord_ne_column (op : Operator) : operatorWord op ≠ "column" := by
  cases op <;> decide

theorem operatorWord_ne_blurry (op : Operator) : operatorWord op ≠ "blurry" := by
  cases op <;> decide

theorem readOperator_eq_ok_iff {p : Path} {op : Operator} :
    readOperator p = .ok op ↔ p.word? = some ⟨operatorWord op, false⟩ := by
  unfold readOperator
  cases hw : p.word? with
  | none => simp
  | some w =>
    dsimp only
    rw [Option.some.injEq, ← text_eq_operatorWord_iff]
    constructor
    · intro h
      split at h
      · rename_i other hfound
        obtain rfl := Except.ok.inj h
        exact operatorOf?_eq_some_iff.mp hfound
      · cases h
    · intro h
      rw [operatorOf?_eq_some_iff.mpr h]

namespace Query

/-- What is known of a member, with one more setting; a second operator is refused. -/
def adding (q : Query) : QuerySetting → Option Query
  | .operator op => if q.operator.isSome then none else some { q with operator := some op }
  | .column name => some { q with column := some name }
  | .blurry targets => some { q with targets }

/-- What is accepted is well formed, and no second operator. -/
theorem exists_spells_of_set {q q' : Query} {atEnd : Bool} {piece : List Token}
    (h : q.set atEnd piece = .ok q') : ∃ s, QuerySetting.Spells s piece ∧ q.adding s = some q' := by
  obtain ⟨⟨path, rest⟩, hname, hrest⟩ := Outcome.bind_ok_iff.mp h
  dsimp only at hrest
  split at hrest
  · rename_i hcolumn
    obtain rfl := eq_of_readSettingName hname (Path.isPlain_iff.mp hcolumn)
    obtain ⟨⟨name, suffix, more⟩, hvalue, hmore⟩ := Outcome.bind_ok_iff.mp hrest
    obtain ⟨isJoined, spelling, rfl⟩ := readAssigned_eq_ok_iff.mp hvalue
    obtain ⟨_, hend, hset⟩ := Outcome.bind_ok_iff.mp hmore
    obtain rfl := finished_eq_ok_iff.mp hend
    exact ⟨.column name, .column isJoined ⟨spelling, suffix⟩,
      congrArg some (Except.ok.inj hset)⟩
  · split at hrest
    · rename_i hblurry
      obtain rfl := eq_of_readSettingName hname (Path.isPlain_iff.mp hblurry)
      split at hrest
      · obtain ⟨targets, htexts, hmore⟩ := Outcome.bind_ok_iff.mp hrest
        obtain ⟨_, hend, hset⟩ := Outcome.bind_ok_iff.mp hmore
        obtain rfl := finished_eq_ok_iff.mp hend
        obtain ⟨hne, htargets⟩ := readTexts_eq_ok_iff.mp htexts
        exact ⟨.blurry targets, .blurry hne htargets, congrArg some (Except.ok.inj hset)⟩
      · cases hrest
    · obtain ⟨op, hop, hmore⟩ := Outcome.bind_ok_iff.mp hrest
      obtain rfl := eq_of_readSettingName hname (readOperator_eq_ok_iff.mp hop)
      split at hmore
      · cases hmore
      · rename_i hfirst
        obtain ⟨_, hend, hset⟩ := Outcome.bind_ok_iff.mp hmore
        obtain rfl := finished_eq_ok_iff.mp hend
        exact ⟨.operator op, .operator op,
          (if_neg hfirst).trans (congrArg some (Except.ok.inj hset))⟩

/-- What is well formed and no second operator is accepted. -/
theorem set_of_spells {q q' : Query} {atEnd : Bool} {s : QuerySetting} {piece : List Token}
    (hs : QuerySetting.Spells s piece) (h : q.adding s = some q') :
    q.set atEnd piece = .ok q' := by
  cases hs with
  | operator op =>
    have hcolumn : Path.isPlain ⟨false, [⟨operatorWord op, false⟩]⟩ "column" = false := by
      simp [Path.isPlain, Path.word?, operatorWord_ne_column]
    have hblurry : Path.isPlain ⟨false, [⟨operatorWord op, false⟩]⟩ "blurry" = false := by
      simp [Path.isPlain, Path.word?, operatorWord_ne_blurry]
    refine Outcome.bind_ok_iff.mpr ⟨_, readSettingName_word rfl, ?_⟩
    dsimp only
    rw [hcolumn, hblurry, if_neg Bool.false_ne_true, if_neg Bool.false_ne_true,
      readOperator_eq_ok_iff.mpr rfl]
    rw [adding] at h
    split at h
    · cases h
    · rename_i hfirst
      obtain rfl := Option.some.inj h
      exact if_neg hfirst
  | column isJoined hname =>
    obtain ⟨spelling, suffix⟩ := hname
    refine Outcome.bind_ok_iff.mpr
      ⟨_, readSettingName_word (by cases isJoined <;> rfl), ?_⟩
    exact congrArg Except.ok (Option.some.inj h)
  | blurry hne htargets =>
    refine Outcome.bind_ok_iff.mpr ⟨_, readSettingName_word rfl, ?_⟩
    show (readTexts _ >>= _) = _
    rw [readTexts_eq_ok_iff.mpr ⟨hne, htargets⟩]
    exact congrArg Except.ok (Option.some.inj h)

/-- **One setting of a member**: it is accepted exactly if it is well formed and no second operator,
and then counts for what it says. -/
theorem set_eq_ok_iff {q q' : Query} {atEnd : Bool} {piece : List Token} :
    q.set atEnd piece = .ok q' ↔ ∃ s, QuerySetting.Spells s piece ∧ q.adding s = some q' :=
  ⟨exists_spells_of_set, fun ⟨_, hs, h⟩ => set_of_spells hs h⟩

end Query

theorem isSeparable_spells : IsSeparable QuerySetting.Spells := by
  intro s ts hs
  cases hs with
  | operator op => exact ⟨List.cons_ne_nil _ _, by simp [IsCommaFree, Token.isMark, Token.plain]⟩
  | column isJoined hname =>
    obtain ⟨spelling, suffix⟩ := hname
    exact ⟨List.cons_ne_nil _ _, by simp [IsCommaFree, Token.isMark, Token.plain]⟩
  | blurry hne htargets =>
    exact ⟨List.cons_ne_nil _ _, by simp [IsCommaFree, Token.isMark, Token.plain]⟩

namespace Query

/-- Where nothing is known yet any setting can be added. -/
theorem exists_adding_eq_some (s : QuerySetting) : ∃ q, ({} : Query).adding s = some q := by
  cases s <;> exact ⟨_, rfl⟩

/-- What is known then tells which setting was added. -/
theorem adding_injective : Function.Injective (adding {}) := by
  intro s s' h
  cases s <;> cases s' <;> simp_all [adding]

end Query

/-- **A setting is read off its tokens**: no other is written with the same. -/
theorem leftUnique_spells : Relator.LeftUnique QuerySetting.Spells := by
  intro s s' piece h h'
  obtain ⟨q, hq⟩ := Query.exists_adding_eq_some s
  obtain ⟨q', hq'⟩ := Query.exists_adding_eq_some s'
  have hread : ({} : Query).set false piece = .ok q := Query.set_of_spells h hq
  obtain rfl : q = q' := Except.ok.inj (hread.symm.trans (Query.set_of_spells h' hq'))
  exact Query.adding_injective (hq.trans hq'.symm)

namespace Annotated.Queries

variable {a : Annotated} {settings settings' : List QuerySetting}

/-- An annotation says its settings and no others. -/
theorem unique (h : a.Queries settings) (h' : a.Queries settings') : settings = settings' := by
  cases h with
  | bare hbare => exact ((queries_iff_of_nothing hbare).mp h').symm
  | listed hlisted hsettings _ =>
    obtain ⟨hsettings', -⟩ := (queries_iff_of_listed hlisted).mp h'
    exact hsettings.unique isSeparable_spells leftUnique_spells hsettings'

/-- A list of search targets is never empty. -/
theorem ne_blurry_nil (h : a.Queries settings) {s : QuerySetting} (hs : s ∈ settings) :
    s ≠ .blurry [] := by
  rintro rfl
  cases h with
  | bare _ => exact List.not_mem_nil hs
  | listed _ hsettings _ =>
    have hpieces := (commaList_iff isSeparable_spells).mp hsettings
    obtain ⟨piece, -, hpiece⟩ := Outcome.exists_of_forall₂_left hpieces hs
    obtain _ | _ | ⟨hne, -⟩ := hpiece
    exact hne rfl

end Annotated.Queries

/-! ## Annotations of a member -/

namespace Query

/-- What settings say together. Of several columns, and of several lists of targets, the last
counts. -/
def saying (settings : List QuerySetting) : Query where
  operator := (settings.filterMap QuerySetting.operator?).head?
  column := (settings.filterMap QuerySetting.column?).getLast?
  targets := (settings.filterMap QuerySetting.targets?).getLast?.getD []

/-- Settings are added one after another unless they name a second operator. -/
theorem foldlM_adding_eq_some_iff {settings : List QuerySetting} {q q' : Query} :
    settings.foldlM adding q = some q' ↔
      (q.operator.toList ++ settings.filterMap QuerySetting.operator?).length ≤ 1 ∧
      q' = { operator :=
               (q.operator.toList ++ settings.filterMap QuerySetting.operator?).head?
             column := (settings.filterMap QuerySetting.column?).getLast?.or q.column
             targets := (settings.filterMap QuerySetting.targets?).getLast?.getD q.targets } := by
  induction settings generalizing q with
  | nil =>
    obtain ⟨operator, column, targets⟩ := q
    cases operator <;> simp [eq_comm]
  | cons s settings ih =>
    rw [List.foldlM_cons]
    cases s with
    | operator op =>
      rw [List.filterMap_cons_some (f := QuerySetting.operator?) rfl,
        List.filterMap_cons_none (f := QuerySetting.column?) rfl,
        List.filterMap_cons_none (f := QuerySetting.targets?) rfl]
      cases hop : q.operator with
      | none =>
        have hadd : q.adding (.operator op) = some { q with operator := some op } := by
          rw [adding, hop]
          rfl
        rw [hadd, Option.bind_eq_bind, Option.bind_some, ih]
        rfl
      | some first =>
        have hadd : q.adding (.operator op) = none := by
          rw [adding, hop]
          rfl
        rw [hadd]
        simp
    | column name =>
      rw [List.filterMap_cons_none (f := QuerySetting.operator?) rfl,
        List.filterMap_cons_some (f := QuerySetting.column?) rfl,
        List.filterMap_cons_none (f := QuerySetting.targets?) rfl,
        adding, Option.bind_eq_bind, Option.bind_some, ih, List.getLast?_cons, Option.or_some]
      rfl
    | blurry targets =>
      rw [List.filterMap_cons_none (f := QuerySetting.operator?) rfl,
        List.filterMap_cons_none (f := QuerySetting.column?) rfl,
        List.filterMap_cons_some (f := QuerySetting.targets?) rfl,
        adding, Option.bind_eq_bind, Option.bind_some, ih, List.getLast?_cons]
      rfl

/-- **Annotations of a member** are accepted exactly if they are well formed. -/
theorem ofAnnotated_eq_ok_iff {a : Annotated} {q : Query} :
    ofAnnotated a = .ok q ↔ ∃ settings, a.Queries settings ∧ q = saying settings := by
  have hsettings : ∀ content, ofSettings content = .ok q ↔
      ∃ settings, CommaList QuerySetting.Spells settings content ∧
        (settings.filterMap QuerySetting.operator?).length ≤ 1 ∧ q = saying settings := by
    intro content
    rw [ofSettings, readPieces_eq_ok_iff isSeparable_spells fun q _ _ q' => @set_eq_ok_iff q q' _ _]
    refine exists_congr fun settings => and_congr_right fun _ => ?_
    rw [foldlM_adding_eq_some_iff]
    simp [saying]
  unfold ofAnnotated Annotated.arguments?
  cases harguments : a.arguments with
  | nothing =>
    simp only [Annotated.queries_iff_of_nothing harguments, exists_eq_left]
    exact ⟨fun h => (Except.ok.inj h).symm, fun h => congrArg Except.ok h.symm⟩
  | listed b content =>
    simp only [Annotated.queries_iff_of_listed harguments, and_assoc]
    exact hsettings content
  | assigned value =>
    simp only [Annotated.not_queries_of_assigned harguments, false_and, exists_false, iff_false]
    exact fun h => by cases h

end Query

/-! ## Annotations of a record -/

theorem Library.ofText_eq_ok_iff {text suffix : String} {library : Library} :
    ofText text suffix = .ok library ↔
      suffix = "" ∧ ∃ path, Scan.tokens? text = some path ∧ pathOfTokens path = .ok library := by
  unfold ofText
  cases Scan.tokens? text with
  | none => simp
  | some path =>
    rw [Outcome.bind_ok_iff]
    cases hpath : pathOfTokens path with
    | error r => simp [Except.mapError, hpath]
    | ok library =>
      by_cases hsuffix : suffix = "" <;> simp [Except.mapError, hpath, hsuffix]

/-- **One setting of a record** is accepted exactly if it is well formed, and counts whatever was
said before. -/
theorem readLibrarySetting_eq_ok_iff {before library : Library} {atEnd : Bool}
    {piece : List Token} :
    readLibrarySetting before atEnd piece = .ok library ↔
      ∃ l, SpellsLibrary l piece ∧ some l = some library := by
  unfold readLibrarySetting
  rw [Outcome.bind_ok_iff]
  constructor
  · rintro ⟨⟨path, rest⟩, hname, hrest⟩
    dsimp only at hrest
    split at hrest
    · rename_i hcrate
      obtain rfl := eq_of_readSettingName hname (Path.isPlain_iff.mp hcrate)
      obtain ⟨⟨text, suffix, more⟩, hvalue, hmore⟩ := Outcome.bind_ok_iff.mp hrest
      obtain ⟨isJoined, spelling, rfl⟩ := readAssigned_eq_ok_iff.mp hvalue
      obtain ⟨l, hlibrary, hend⟩ := Outcome.bind_ok_iff.mp hmore
      obtain ⟨rfl, path, htext, hpath⟩ := Library.ofText_eq_ok_iff.mp hlibrary
      obtain ⟨_, hfinished, hset⟩ := Outcome.bind_ok_iff.mp hend
      obtain rfl := finished_eq_ok_iff.mp hfinished
      exact ⟨l, ⟨isJoined, htext, hpath⟩, congrArg some (Except.ok.inj hset)⟩
    · cases hrest
  · rintro ⟨_, ⟨isJoined, htext, hpath⟩, h⟩
    obtain rfl := Option.some.inj h
    refine ⟨_, readSettingName_word (by cases isJoined <;> rfl), ?_⟩
    have hlibrary := Library.ofText_eq_ok_iff.mpr ⟨rfl, _, htext, hpath⟩
    exact Outcome.bind_ok_iff.mpr ⟨_, rfl, Outcome.bind_ok_iff.mpr ⟨_, hlibrary, rfl⟩⟩

theorem isSeparable_spellsLibrary : IsSeparable SpellsLibrary := by
  rintro library _ ⟨isJoined, -, -⟩
  exact ⟨List.cons_ne_nil _ _, by simp [IsCommaFree, Token.isMark, Token.plain]⟩

namespace Annotated

/-- The library after an annotation of a record, given the one before it. -/
def library (a : Annotated) (before : Library) : Checked Library := do
  readPieces readLibrarySetting (← a.arguments? "criteria") before

/-- Of several libraries the last counts. -/
theorem foldlM_library (libraries : List Library) (before : Library) :
    libraries.foldlM (fun _ l => some l) before = some (libraries.getLast?.getD before) := by
  induction libraries generalizing before with
  | nil => rfl
  | cons l libraries ih => rw [List.foldlM_cons, List.getLast?_cons]; exact ih l

/-- **Annotations of a record** are accepted exactly if they are well formed. -/
theorem library_eq_ok_iff {a : Annotated} {before after : Library} :
    a.library before = .ok after ↔
      ∃ libraries, a.Names libraries ∧ after = libraries.getLast?.getD before := by
  unfold library arguments?
  cases harguments : a.arguments with
  | listed b content =>
    show readPieces readLibrarySetting content before = .ok after ↔ _
    rw [readPieces_eq_ok_iff isSeparable_spellsLibrary fun _ _ _ _ => readLibrarySetting_eq_ok_iff]
    refine exists_congr fun libraries => ?_
    rw [foldlM_library, Option.some.injEq, names_iff_of_listed harguments, eq_comm (a := after)]
  | _ =>
    constructor
    · intro h
      cases h
    · rintro ⟨libraries, ⟨hlisted, -⟩, -⟩
      rw [harguments] at hlisted
      cases hlisted

end Annotated

end RowFilter.Record
