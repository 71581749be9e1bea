import RowFilter.Json.Numeral

/-!
# Reading JSON

A text is first cut into tokens by an automaton that sees one character at a time, and the tokens
are then put together on a stack of open arrays and objects. Both passes are folds, so reading
takes one step per character and one per token.
-/

namespace RowFilter.Json

open Text

/-! ## Tokens -/

/-- A piece of JSON text. -/
inductive Token where
  | openArray
  | closeArray
  | openObject
  | closeObject
  | comma
  | colon
  | text (s : String)
  /-- A number or one of the three names. -/
  | scalar (v : Json)

/-- What the automaton is inside of; collected characters stand last first. -/
inductive Inside where
  | nothing
  | word (cs : List Char)
  | quotes (cs : List Char)
  /-- After a backslash. -/
  | escape (cs : List Char)
  /-- Inside a code unit, with the digits to come, its value so far and an open high surrogate. -/
  | unit (cs : List Char) (left value : Nat) (high : Option Nat)
  /-- After a high surrogate: a backslash must come, and after it a `u`. -/
  | surrogate (cs : List Char) (high : Nat) (slash : Bool)

/-- A word that is no string: one of the three names or a number. -/
def word? (cs : List Char) : Option Json :=
  match String.ofList cs with
  | "null" => some .null
  | "true" => some (.bool true)
  | "false" => some (.bool false)
  | _ => Numeral.number? cs

/-- The token of a punctuation mark. -/
def mark? : Char → Option Token
  | '[' => some .openArray
  | ']' => some .closeArray
  | '\x7b' => some .openObject
  | '\x7d' => some .closeObject
  | ',' => some .comma
  | ':' => some .colon
  | _ => none

/-- The character that a letter stands for after a backslash. -/
def escaped? : Char → Option Char
  | '"' => some '"'
  | '\\' => some '\\'
  | '/' => some '/'
  | 'b' => some (Char.ofNat 8)
  | 'f' => some (Char.ofNat 12)
  | 'n' => some '\n'
  | 'r' => some '\r'
  | 't' => some '\t'
  | _ => none

/-- A finished code unit: a character, or the first half of one. -/
def unit? (cs : List Char) (value : Nat) : Option Nat → Option Inside
  | some high =>
    if 0xDC00 ≤ value ∧ value ≤ 0xDFFF then
      some (.quotes (Char.ofNat (0x10000 + (high - 0xD800) * 0x400 + (value - 0xDC00)) :: cs))
    else none
  | none =>
    if 0xD800 ≤ value ∧ value ≤ 0xDBFF then some (.surrogate cs value false)
    else if 0xDC00 ≤ value ∧ value ≤ 0xDFFF then none
    else some (.quotes (Char.ofNat value :: cs))

/-- The automaton's place and the tokens so far, the last first. -/
structure Scan where
  inside : Inside
  tokens : List Token

/-- A character outside strings. -/
def Scan.outside (s : Scan) (c : Char) : Option Scan :=
  if c = '"' then some ⟨.quotes [], s.tokens⟩
  else if c = ' ' ∨ c = '\t' ∨ c = '\n' ∨ c = '\r' then some ⟨.nothing, s.tokens⟩
  else match mark? c with
    | some t => some ⟨.nothing, t :: s.tokens⟩
    | none => some ⟨.word [c], s.tokens⟩

/-- Ends a word, if one is open. -/
def Scan.endWord (s : Scan) : Option Scan :=
  match s.inside with
  | .word cs => (word? cs.reverse).map fun v => ⟨.nothing, .scalar v :: s.tokens⟩
  | .nothing => some s
  | _ => none

/-- The character ends a word. -/
def endsWord (c : Char) : Bool :=
  c == '"' || c == ' ' || c == '\t' || c == '\n' || c == '\r' || (mark? c).isSome

/-- One character. -/
def Scan.step (s : Scan) (c : Char) : Option Scan :=
  match s.inside with
  | .nothing => s.outside c
  | .word cs =>
    if endsWord c then s.endWord.bind (·.outside c) else some ⟨.word (c :: cs), s.tokens⟩
  | .quotes cs =>
    if c = '"' then some ⟨.nothing, .text (String.ofList cs.reverse) :: s.tokens⟩
    else if c = '\\' then some ⟨.escape cs, s.tokens⟩
    else if c.toNat < 32 then none
    else some ⟨.quotes (c :: cs), s.tokens⟩
  | .escape cs =>
    if c = 'u' then some ⟨.unit cs 4 0 none, s.tokens⟩
    else (escaped? c).map fun d => ⟨.quotes (d :: cs), s.tokens⟩
  | .unit cs left value high => do
    let value := value * 16 + (← Digits.hex? c)
    if left = 1 then (unit? cs value high).map fun i => ⟨i, s.tokens⟩
    else some ⟨.unit cs (left - 1) value high, s.tokens⟩
  | .surrogate cs high slash =>
    if slash then if c = 'u' then some ⟨.unit cs 4 0 (some high), s.tokens⟩ else none
    else if c = '\\' then some ⟨.surrogate cs high true, s.tokens⟩
    else none

/-- The tokens of a text. -/
def tokens? (cs : List Char) : Option (List Token) := do
  let s ← cs.foldlM Scan.step ⟨.nothing, []⟩
  return (← s.endWord).tokens.reverse

/-! ## Values -/

/-- An array or object that is still open, with what it holds so far, the last first. -/
inductive Frame where
  | array (items : List Json)
  /-- An object about to receive the value of a name. -/
  | member (members : List (String × Json)) (name : String)

/-- What must come next. -/
inductive Awaited where
  | value
  /-- A value or the end of an empty array. -/
  | item
  /-- A name or the end of an empty object, whose frame is not yet open. -/
  | name
  /-- A name, after the members so far. -/
  | nextName (members : List (String × Json))
  | colon
  /-- A comma or the end of what is open. -/
  | afterItem (items : List Json)
  | afterMember (members : List (String × Json))
  | nothing (v : Json)

/-- The open frames, the innermost first, and what must come next. -/
structure Build where
  frames : List Frame
  awaited : Awaited

/-- Hands a finished value to what is open. -/
def Build.give (frames : List Frame) (v : Json) : Build :=
  match frames with
  | [] => ⟨[], .nothing v⟩
  | .array items :: rest => ⟨rest, .afterItem (v :: items)⟩
  | .member members name :: rest => ⟨rest, .afterMember ((name, v) :: members)⟩

/-- The first token of a value. -/
def Build.begin (frames : List Frame) : Token → Option Build
  | .openArray => some ⟨.array [] :: frames, .item⟩
  | .openObject => some ⟨frames, .name⟩
  | .text s => some (give frames (.string s))
  | .scalar v => some (give frames v)
  | _ => none

/-- One token. -/
def Build.step (b : Build) (t : Token) : Option Build :=
  match b.awaited, t with
  | .value, t => begin b.frames t
  | .item, .closeArray => some (give (b.frames.drop 1) (.array []))
  | .item, t => begin b.frames t
  | .name, .closeObject => some (give b.frames (.object []))
  | .name, .text s => some ⟨.member [] s :: b.frames, .colon⟩
  | .nextName members, .text s => some ⟨.member members s :: b.frames, .colon⟩
  | .colon, .colon => some ⟨b.frames, .value⟩
  | .afterItem items, .comma => some ⟨.array items :: b.frames, .value⟩
  | .afterItem items, .closeArray => some (give b.frames (.array items.reverse))
  | .afterMember members, .comma => some ⟨b.frames, .nextName members⟩
  | .afterMember members, .closeObject => some (give b.frames (ofMembers members.reverse))
  | _, _ => none

/-- The value that tokens spell. -/
def ofTokens? (ts : List Token) : Option Json :=
  match ts.foldlM Build.step ⟨[], .value⟩ with
  | some ⟨_, .nothing v⟩ => some v
  | _ => none

/-- The value that a text spells. -/
def read? (text : String) : Option Json := (tokens? text.toList).bind ofTokens?

end RowFilter.Json
