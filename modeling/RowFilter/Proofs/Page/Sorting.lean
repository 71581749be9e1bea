import Mathlib.Data.List.TakeWhile
import RowFilter.Page.Request
import RowFilter.Proofs.Outcome
import RowFilter.Proofs.Sql.Identifier

/-!
# Sort entries become clauses

A sort entry is whatever text a client sends. It is looked at once: what is before its first comma
names a column, and what is after it is a direction. A name is checked after it has been spelt as a
column, so whatever the spelling makes of it, only safe names are left, and no clause fails later.

Headlines:
* `SortKey.parse_eq_ok_iff`: the entries that can be read, and the key that each asks for;
* `Order.toSql_eq_ok_iff`: the clause of an order, and when there is one;
* `writesClause` and `tokens_clauseText`: it holds keywords, columns, directions and commas, and
  nothing else, as characters and as the dialect reads them;
* **`order_sorts_safely`**: the entries of a request become a clause that sorts by them, or are
  refused with the first that cannot be read.
-/

namespace RowFilter.Page

open Sql

/-! ## Entries -/

namespace Direction

variable {text : Option String} {direction : Direction} {e : Fault}

/-- The direction that an entry gives, in any case; it ascends where none is given. -/
inductive Means : Option String → Direction → Prop where
  | unsaid : Means none ascending
  | asc {text : String} (h : text.toList.map Char.toLower = ['a', 's', 'c']) :
      Means (some text) ascending
  | desc {text : String} (h : text.toList.map Char.toLower = ['d', 'e', 's', 'c']) :
      Means (some text) descending

theorem ofList_eq_iff {cs : List Char} {s : String} : String.ofList cs = s ↔ cs = s.toList := by
  rw [← String.toList_inj, String.toList_ofList]

theorem parse_eq_ok_iff : parse text = .ok direction ↔ Means text direction := by
  cases text with
  | none =>
    constructor
    · intro h
      obtain rfl := Except.ok.inj h
      exact .unsaid
    · rintro ⟨⟩
      rfl
  | some text =>
    constructor
    · intro h
      rw [parse] at h
      split at h
      · rename_i hasc
        obtain rfl := Except.ok.inj h
        exact .asc (ofList_eq_iff.mp hasc)
      · rename_i hdesc
        obtain rfl := Except.ok.inj h
        exact .desc (ofList_eq_iff.mp hdesc)
      · cases h
    · intro h
      rw [parse]
      cases h with
      | asc h => rw [h]; rfl
      | desc h => rw [h]; rfl

/-- A direction that cannot be read is a fault about the entries. -/
theorem exists_invalidParameter_of_parse (h : parse text = .error e) :
    ∃ message, e = .invalidParameter "sort" message := by
  cases text with
  | none => cases h
  | some text =>
    rw [parse] at h
    split at h
    · cases h
    · cases h
    · exact ⟨_, (Except.error.inj h).symm⟩

end Direction

namespace SortKey

variable {entry name : String} {text : Option String} {k : SortKey} {e : Fault}

/-- The parts of an entry: the name before the first comma and, if there is a comma, the text after
it. Blanks at their ends do not count. -/
inductive Parts : String → String → Option String → Prop where
  | name {entry : String} (h : ',' ∉ entry.toList) : Parts entry (Text.trim entry) none
  | both {name rest : String} (h : ',' ∉ name.toList) :
      Parts (name ++ "," ++ rest) (Text.trim name) (some (Text.trim rest))

/-- An entry asks for a key if its name is spelt as the column, which is safe, and its direction is
that of the key. -/
def Asks (entry : String) (k : SortKey) : Prop :=
  ∃ name text, Parts entry name text ∧ k.column = Text.underscore name ∧
    isSafe k.column = true ∧ Direction.Means text k.direction

theorem bne_of_not_mem {cs : List Char} (h : ',' ∉ cs) : ∀ c ∈ cs, (c != ',') = true := by
  intro c hc
  rw [bne_iff_ne]
  rintro rfl
  exact h hc

theorem splitEntry_of_parts (h : Parts entry name text) : splitEntry entry = (name, text) := by
  cases h with
  | name h =>
    have hcs := bne_of_not_mem h
    simp only [splitEntry, List.takeWhile_eq_self_iff.mpr hcs, List.dropWhile_eq_nil_iff.mpr hcs,
      String.ofList_toList]
  | @both name rest h =>
    have hcs := bne_of_not_mem h
    have hchars : (name ++ "," ++ rest).toList = name.toList ++ ',' :: rest.toList := by simp
    have htake : (name.toList ++ ',' :: rest.toList).takeWhile (· != ',') = name.toList := by
      rw [List.takeWhile_append_of_pos hcs]
      simp
    have hdrop : (name.toList ++ ',' :: rest.toList).dropWhile (· != ',') =
        ',' :: rest.toList := by
      rw [List.dropWhile_append_of_pos hcs]
      simp
    simp only [splitEntry, hchars, htake, hdrop, String.ofList_toList]

theorem exists_parts (entry : String) : ∃ name text, Parts entry name text := by
  by_cases h : ',' ∈ entry.toList
  · obtain ⟨before, rest, hsplit, hbefore⟩ := List.eq_append_cons_of_mem h
    have hentry : entry = String.ofList before ++ "," ++ String.ofList rest := by
      rw [← String.toList_inj, hsplit]
      simp
    rw [hentry]
    exact ⟨_, _, .both (by rwa [String.toList_ofList])⟩
  · exact ⟨_, _, .name h⟩

/-- Every entry has its parts, and they are those that it is cut into. -/
theorem parts_iff : Parts entry name text ↔ splitEntry entry = (name, text) := by
  constructor
  · exact splitEntry_of_parts
  · intro h
    obtain ⟨name', text', hparts⟩ := exists_parts entry
    obtain ⟨rfl, rfl⟩ := Prod.mk.inj (h.symm.trans (splitEntry_of_parts hparts))
    exact hparts

/-- **An entry can be read** exactly if it asks for a key. -/
theorem parse_eq_ok_iff : parse entry = .ok k ↔ Asks entry k := by
  rw [parse, Outcome.bind_ok_iff]
  constructor
  · rintro ⟨direction, hdirection, hname⟩
    obtain ⟨hsafe, hcolumn, rfl⟩ := ofName_eq_ok_iff.mp hname
    exact ⟨_, _, parts_iff.mpr rfl, hcolumn, hsafe, Direction.parse_eq_ok_iff.mp hdirection⟩
  · rintro ⟨name, text, hparts, hcolumn, hsafe, hmeans⟩
    -- The direction is looked at first, so it has to be known before the name is.
    rw [parts_iff.mp hparts]
    exact ⟨_, Direction.parse_eq_ok_iff.mpr hmeans, ofName_eq_ok_iff.mpr ⟨hsafe, hcolumn, rfl⟩⟩

/-- An entry that cannot be read is a fault about the entries. -/
theorem exists_invalidParameter_of_parse (h : parse entry = .error e) :
    ∃ message, e = .invalidParameter "sort" message := by
  rw [parse, Outcome.bind_error_iff] at h
  rcases h with h | ⟨direction, -, h⟩
  · exact Direction.exists_invalidParameter_of_parse h
  · unfold ofName at h
    split at h
    · cases h
    · exact ⟨_, (Except.error.inj h).symm⟩

end SortKey

/-! ## Clauses -/

/-- How sort keys are written: each as its column and its direction, with commas between them. -/
inductive WritesKeys (d : Dialect) : List SortKey → List Char → Prop where
  | last {k : SortKey} {text : List Char} (h : WritesName d k.column.toList text) :
      WritesKeys d [k] (text ++ ' ' :: k.direction.keyword.toList)
  | comma {k : SortKey} {keys : List SortKey} {text more : List Char}
      (h : WritesName d k.column.toList text) (hmore : WritesKeys d keys more) :
      WritesKeys d (k :: keys) (text ++ ' ' :: (k.direction.keyword.toList ++ ',' :: ' ' :: more))

/-- How an order is written: not at all if it has no keys, and else as a keyword and its keys. -/
inductive WritesClause (d : Dialect) : List SortKey → List Char → Prop where
  | nothing : WritesClause d [] []
  | orderBy {keys : List SortKey} {text : List Char} (h : WritesKeys d keys text) :
      WritesClause d keys ("ORDER BY ".toList ++ text)

/-- The keyword of a direction, as a token. -/
def Direction.token : Direction → Token
  | ascending => .keyword "asc"
  | descending => .keyword "desc"

/-- The tokens of a sort key: its column and its direction. -/
def SortKey.tokens (k : SortKey) : List Token :=
  pathTokens (splitDots k.column.toList) ++ [k.direction.token]

/-- The tokens of sort keys, with commas between them. -/
def keysTokens : List SortKey → List Token
  | [] => []
  | [k] => k.tokens
  | k :: next :: rest => k.tokens ++ .sign "," :: keysTokens (next :: rest)

/-- The tokens of an order. -/
def clauseTokens (keys : List SortKey) : List Token :=
  if keys = [] then [] else .keyword "order" :: .keyword "by" :: keysTokens keys

variable {d : Dialect}

/-- The text of a sort key whose column is safe. -/
def keyText (d : Dialect) (k : SortKey) : String :=
  columnText d k.column ++ " " ++ k.direction.keyword

/-- The text of an order whose columns are safe. -/
def clauseText (d : Dialect) (keys : List SortKey) : String :=
  if keys = [] then "" else "ORDER BY " ++ ", ".intercalate (keys.map (keyText d))

theorem SortKey.toSql_eq_ok_iff (k : SortKey) (text : String) :
    k.toSql d = .ok text ↔ isSafe k.column = true ∧ text = keyText d k := by
  rw [toSql, Outcome.bind_ok_iff]
  constructor
  · rintro ⟨column, hcolumn, h⟩
    obtain ⟨hsafe, rfl⟩ := quoteIdentifier_eq_ok_iff.mp hcolumn
    exact ⟨hsafe, (Except.ok.inj h).symm⟩
  · rintro ⟨hsafe, rfl⟩
    exact ⟨_, quoteIdentifier_eq_ok_iff.mpr ⟨hsafe, rfl⟩, rfl⟩

/-- **The clause of an order**: there is one exactly if the columns are safe. -/
theorem Order.toSql_eq_ok_iff {o : Order} {text : String} : o.toSql d = .ok text ↔
    (∀ k ∈ o.keys, isSafe k.column = true) ∧ text = clauseText d o.keys := by
  unfold toSql clauseText
  by_cases hkeys : o.keys = []
  · rw [if_pos (List.isEmpty_iff.mpr hkeys), if_pos hkeys, hkeys]
    constructor
    · intro h
      exact ⟨fun _ hk => absurd hk List.not_mem_nil, (Except.ok.inj h).symm⟩
    · rintro ⟨-, rfl⟩
      rfl
  · have hmap : ∀ {texts}, o.keys.mapM (SortKey.toSql d) = .ok texts ↔
        (∀ k ∈ o.keys, isSafe k.column = true) ∧ texts = o.keys.map (keyText d) :=
      Outcome.mapM_eq_ok_map_iff SortKey.toSql_eq_ok_iff
    rw [if_neg (by simpa using hkeys), if_neg hkeys]
    constructor
    · intro h
      obtain ⟨texts, htexts, h⟩ := Outcome.bind_ok_iff.mp h
      obtain ⟨hsafe, rfl⟩ := hmap.mp htexts
      exact ⟨hsafe, (Except.ok.inj h).symm⟩
    · rintro ⟨hsafe, rfl⟩
      exact Outcome.bind_ok_iff.mpr ⟨_, hmap.mpr ⟨hsafe, rfl⟩, rfl⟩

theorem toList_keyText (k : SortKey) : (keyText d k).toList =
    (columnText d k.column).toList ++ ' ' :: k.direction.keyword.toList := by
  simp [keyText]

theorem toList_keyTexts (k next : SortKey) (rest : List SortKey) :
    (", ".intercalate ((k :: next :: rest).map (keyText d))).toList =
      (keyText d k).toList ++
        (", ".toList ++ (", ".intercalate ((next :: rest).map (keyText d))).toList) := by
  rw [List.map_cons, List.map_cons, String.intercalate_cons_cons, String.toList_append,
    String.toList_append, List.append_assoc]

theorem writesKeys : ∀ {keys : List SortKey}, keys ≠ [] →
    (∀ k ∈ keys, isSafe k.column = true) →
    WritesKeys d keys (", ".intercalate (keys.map (keyText d))).toList
  | [], hne, _ => absurd rfl hne
  | [k], _, h => by
    rw [List.map_singleton, String.intercalate_singleton, toList_keyText]
    exact .last (writesName_column (h k List.mem_cons_self))
  | k :: next :: rest, _, h => by
    obtain ⟨hk, hrest⟩ := List.forall_mem_cons.mp h
    rw [toList_keyTexts, toList_keyText, List.append_assoc]
    exact .comma (writesName_column hk) (writesKeys (List.cons_ne_nil next rest) hrest)

/-- **A clause is written** with its keyword, columns, directions and commas, and nothing else. -/
theorem writesClause {keys : List SortKey} (h : ∀ k ∈ keys, isSafe k.column = true) :
    WritesClause d keys (clauseText d keys).toList := by
  unfold clauseText
  by_cases hkeys : keys = []
  · rw [if_pos hkeys, hkeys]
    exact .nothing
  · rw [if_neg hkeys, String.toList_append]
    exact .orderBy (writesKeys hkeys h)

theorem lexes_keyword (direction : Direction) :
    Lexes d (' ' :: direction.keyword.toList) [direction.token] := by
  cases direction with
  | ascending =>
    exact ⟨[], .word "ASC".toList, _, by cases d <;> decide, trivial, rfl, by decide⟩
  | descending =>
    exact ⟨[], .word "DESC".toList, _, by cases d <;> decide, trivial, rfl, by decide⟩

theorem lexes_keyText {k : SortKey} (h : isSafe k.column = true) :
    Lexes d (keyText d k).toList k.tokens := by
  rw [toList_keyText]
  refine (lexes_column h).append (lexes_keyword k.direction) ?_
  -- The blank before the direction does not go on with the column.
  rintro _ ⟨⟩
  rfl

theorem lexes_keys : ∀ {keys : List SortKey}, keys ≠ [] →
    (∀ k ∈ keys, isSafe k.column = true) →
    Lexes d (", ".intercalate (keys.map (keyText d))).toList (keysTokens keys)
  | [], hne, _ => absurd rfl hne
  | [k], _, h => by
    rw [List.map_singleton, String.intercalate_singleton]
    exact lexes_keyText (h k List.mem_cons_self)
  | k :: next :: rest, _, h => by
    obtain ⟨hk, hrest⟩ := List.forall_mem_cons.mp h
    have hcomma : Closes d ", ".toList [.sign ","] := by cases d <;> decide
    have hmore := hcomma.append (lexes_keys (List.cons_ne_nil next rest) hrest)
    rw [toList_keyTexts]
    refine (lexes_keyText hk).append hmore ?_
    rintro _ ⟨⟩
    rfl

/-- **A clause is read** by its dialect as the keyword and the keys, and as nothing else. -/
theorem tokens_clauseText {keys : List SortKey} (h : ∀ k ∈ keys, isSafe k.column = true) :
    tokens d (clauseText d keys).toList = some (clauseTokens keys) := by
  unfold clauseText clauseTokens
  by_cases hkeys : keys = []
  · rw [if_pos hkeys, if_pos hkeys]
    rfl
  · have horder : Closes d "ORDER BY ".toList [.keyword "order", .keyword "by"] := by
      cases d <;> decide
    rw [if_neg hkeys, if_neg hkeys, String.toList_append]
    exact (horder.append (lexes_keys hkeys h)).tokens_eq

/-! ## Requests -/

namespace Request

variable {r : Request} {o : Order} {e : Fault}

theorem order_eq_ok_iff : r.order = .ok o ↔ List.Forall₂ SortKey.Asks r.sort o.keys := by
  rw [order, Order.parse, Outcome.bind_ok_iff]
  simp only [Outcome.mapM_eq_ok_iff, SortKey.parse_eq_ok_iff]
  constructor
  · rintro ⟨keys, hkeys, h⟩
    obtain rfl := Except.ok.inj h
    exact hkeys
  · intro h
    exact ⟨o.keys, h, rfl⟩

theorem exists_order_eq_ok_iff :
    (∃ o, r.order = .ok o) ↔ ∀ entry ∈ r.sort, ∃ k, SortKey.parse entry = .ok k := by
  rw [← Outcome.exists_mapM_eq_ok_iff]
  simp only [Outcome.mapM_eq_ok_iff, order_eq_ok_iff, SortKey.parse_eq_ok_iff]
  constructor
  · rintro ⟨o, ho⟩
    exact ⟨o.keys, ho⟩
  · rintro ⟨keys, hkeys⟩
    exact ⟨⟨keys⟩, hkeys⟩

theorem order_eq_error_iff : r.order = .error e ↔ ∃ before entry after,
    r.sort = before ++ entry :: after ∧ SortKey.parse entry = .error e ∧
      ∀ b ∈ before, ∃ k, SortKey.parse b = .ok k := by
  rw [← Outcome.mapM_eq_error_iff, order, Order.parse, Outcome.bind_error_iff]
  constructor
  · rintro (h | ⟨_, _, ⟨⟩⟩)
    exact h
  · exact .inl

/-- The columns of an order that was asked for are safe. -/
theorem isSafe_of_order (h : r.order = .ok o) : ∀ k ∈ o.keys, isSafe k.column = true := by
  intro k hk
  obtain ⟨entry, -, _, _, -, -, hsafe, -⟩ :=
    Outcome.exists_of_forall₂_right (order_eq_ok_iff.mp h) hk
  exact hsafe

/-- What becomes of the sort entries of a request. -/
structure Sorts (r : Request) : Prop where
  /-- An entry can be read exactly if it asks for a key. -/
  parse_eq_ok_iff : ∀ entry k, SortKey.parse entry = .ok k ↔ SortKey.Asks entry k
  /-- There is an order exactly if every entry can be read. -/
  exists_ok_iff : (∃ o, r.order = .ok o) ↔ ∀ entry ∈ r.sort, ∃ k, SortKey.parse entry = .ok k
  /-- Otherwise the first entry that cannot be read decides. -/
  eq_error_iff : ∀ e, r.order = .error e ↔ ∃ before entry after,
    r.sort = before ++ entry :: after ∧ SortKey.parse entry = .error e ∧
      ∀ b ∈ before, ∃ k, SortKey.parse b = .ok k
  /-- The fault is the client's and names the entries. -/
  client : ∀ e, r.order = .error e →
    e.code = .invalidParameter ∧ e.isClient = true ∧ e.Names "sort"
  /-- There is one key for each entry, in their order. -/
  keys : ∀ o, r.order = .ok o →
    List.Forall₂ (fun entry k => SortKey.parse entry = .ok k) r.sort o.keys
  /-- Every column passes the check of identifiers. -/
  checked : ∀ o, r.order = .ok o → ∀ k ∈ o.keys, checkIdentifier k.column = .ok ()
  /-- There is a clause in every dialect, and it holds nothing but the keys. -/
  written : ∀ o, r.order = .ok o → ∀ d, ∃ text, o.toSql d = .ok text ∧
    WritesClause d o.keys text.toList ∧ tokens d text.toList = some (clauseTokens o.keys)

/-- **Sort entries are safe**: whatever a client sends as entries, they become a clause that holds
nothing but the keys that they ask for, or are refused with the first that asks for none. -/
theorem order_sorts_safely (r : Request) : r.Sorts where
  parse_eq_ok_iff _ _ := SortKey.parse_eq_ok_iff
  exists_ok_iff := exists_order_eq_ok_iff
  eq_error_iff _ := order_eq_error_iff
  client e he := by
    obtain ⟨_, entry, _, -, hentry, -⟩ := order_eq_error_iff.mp he
    obtain ⟨message, rfl⟩ := SortKey.exists_invalidParameter_of_parse hentry
    exact ⟨rfl, rfl, Fault.names_invalidParameter "sort" message⟩
  keys o ho := by
    simp only [SortKey.parse_eq_ok_iff]
    exact order_eq_ok_iff.mp ho
  checked o ho k hk := if_pos (isSafe_of_order ho k hk)
  written o ho d := by
    have hsafe := isSafe_of_order ho
    exact ⟨clauseText d o.keys, Order.toSql_eq_ok_iff.mpr ⟨hsafe, rfl⟩, writesClause hsafe,
      tokens_clauseText hsafe⟩

/-- The names are spelt as columns, and one of them is a reserved word. -/
example : (do (← order { sort := ["createTime , Desc", "t.user"] }).toSql .mssql) =
    .ok "ORDER BY create_time DESC, t.[user] ASC" := by
  rfl

end Request

end RowFilter.Page
