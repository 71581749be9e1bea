import RowFilter.Record.Declaration
import RowFilter.Record.Refusal

/-!
# Reading phrases

A phrase is read from the head of some tokens and written out again as it goes, with its signs in
their settled form: of the marks that stood joined in the text only those stay joined that make up
one sign. What the tokens mean is not kept; a reader gives back only what decides how reading goes
on.

Tokens left over inside a group do not stop the reading. They are remembered, and count against the
whole once it has been read.
-/

namespace RowFilter.Record

/-! ## Words -/

/-- The words of the language that name nothing. -/
def reserved : List String :=
  ["_", "abstract", "as", "async", "await", "become", "box", "break", "const", "continue", "crate",
   "do", "dyn", "else", "enum", "extern", "false", "final", "fn", "for", "if", "impl", "in", "let",
   "loop", "macro", "match", "mod", "move", "mut", "override", "priv", "pub", "ref", "return",
   "Self", "self", "static", "struct", "super", "trait", "true", "try", "type", "typeof", "unsafe",
   "unsized", "use", "virtual", "where", "while", "yield"]

/-- The word can name something. -/
def Word.isName (w : Word) : Bool := w.isRaw || !reserved.contains w.name

namespace Token

/-- The token is a mark. -/
def isMark (c : Char) : Token → Bool
  | mark d _ => c == d
  | _ => false

/-- The token is a word that is not raw. -/
def isPlain (name : String) : Token → Bool
  | word w => !w.isRaw && w.name == name
  | _ => false

end Token

/-! ## What stands at the head -/

/-- Marks stand at the head that make up a sign: all but the last are joined to the next. -/
def atMarks : List Char → List Token → Bool
  | [c], .mark d _ :: _ => c == d
  | c :: cs, .mark d true :: ts => c == d && atMarks cs ts
  | _, _ => false

/-- A sign stands at the head. -/
def atSign (s : String) (ts : List Token) : Bool := atMarks s.toList ts

/-- A word stands at the head that is not raw. -/
def atWord (name : String) (ts : List Token) : Bool := ts.head?.any (Token.isPlain name)

/-- One of some words stands at the head. -/
def atOneOf (names : List String) (ts : List Token) : Bool := names.any fun n => atWord n ts

/-- Any word stands at the head. -/
def atAnyWord : List Token → Bool
  | .word _ :: _ => true
  | _ => false

/-- A name stands at the head. -/
def atName : List Token → Bool
  | .word w :: _ => w.isName
  | _ => false

/-- A lifetime stands at the head. -/
def atLifetime : List Token → Bool
  | .lifetime _ :: _ => true
  | _ => false

/-- A text stands at the head. -/
def atText : List Token → Bool
  | .literal (.text _) _ _ :: _ => true
  | _ => false

/-- A group stands at the head. -/
def atGroup (b : Bracket) : List Token → Bool
  | .group d _ :: _ => b == d
  | _ => false

/-- The number of tokens that make up the literal at the head, which may be a number below nought or
a word for a truth value. -/
def literalLength : List Token → Nat
  | .literal _ _ _ :: _ => 1
  | .mark '-' _ :: .literal .number _ _ :: _ => 2
  | ts => if atOneOf ["true", "false"] ts then 1 else 0

/-- A literal stands at the head. -/
def atLiteral (ts : List Token) : Bool := literalLength ts != 0

/-- The tokens without a word at their head. -/
def dropWord (name : String) (ts : List Token) : List Token :=
  if atWord name ts then ts.drop 1 else ts

/-- The tokens that stand before others they end in. -/
def upTo (ts rest : List Token) : List Token := ts.take (ts.length - rest.length)

/-! ## Readers -/

/-- How far reading has come. -/
structure Cursor where
  /-- What is left to read. -/
  rest : List Token
  /-- What has been written, the last first. -/
  written : List Token := []
  /-- The brackets of the first group that something was left over in. -/
  surplus : Option Bracket := none

/-- A reader of phrases. -/
abbrev Phrase := StateT Cursor (Except Refusal)

namespace Phrase

variable {α : Type}

/-- What is left to read. -/
def ahead : Phrase (List Token) := fun c => .ok (c.rest, c)

/-- Writes tokens. -/
def write (ts : List Token) : Phrase Unit :=
  fun c => .ok ((), { c with written := ts.reverse ++ c.written })

/-- Passes over tokens. -/
def pass (n : Nat) : Phrase Unit := fun c => .ok ((), { c with rest := c.rest.drop n })

/-- Refuses what stands at the head. -/
def wanted (what : String) : Phrase α := fun c => .error (.expected what c.rest.isEmpty)

/-- Refuses what stands at the head, where one of several things was wanted. -/
def wantedOneOf (what : List String) : Phrase α := wanted (Refusal.oneOf what)

/-- Refuses for a rule. -/
def broken (r : Rule) : Phrase α := fun _ => .error (.broken r)

/-! ### Single tokens -/

/-- Takes tokens as they stand. -/
def copy (n : Nat) : Phrase Unit := do
  write ((← ahead).take n)
  pass n

/-- Takes a sign. -/
def sign (s : String) : Phrase Unit := fun c =>
  if atSign s c.rest then
    .ok ((), { c with rest := c.rest.drop s.length,
                      written := (Token.sign s.toList).reverse ++ c.written })
  else .error (.expectedSign s)

/-- Takes a word that is not raw. -/
def keyword (w : String) : Phrase Unit := fun c =>
  if atWord w c.rest then
    .ok ((), { c with rest := c.rest.drop 1, written := Token.plain w :: c.written })
  else .error (.expected ("`" ++ w ++ "`") c.rest.isEmpty)

/-- Takes a sign if it stands at the head, and says whether it did. -/
def trySign (s : String) : Phrase Bool := do
  if atSign s (← ahead) then
    sign s
    return true
  else return false

/-- Takes a word if it stands at the head, and says whether it did. -/
def tryKeyword (w : String) : Phrase Bool := do
  if atWord w (← ahead) then
    keyword w
    return true
  else return false

/-- Takes any word. -/
def anyWord : Phrase Word := do
  match ← ahead with
  | .word w :: _ =>
    copy 1
    return w
  | _ => wanted "ident"

/-- Takes a name. -/
def name : Phrase Word := do
  match ← ahead with
  | .word w :: _ =>
    if w.isName then
      copy 1
      return w
    else throw (.reservedWord w.text)
  | _ => wanted "identifier"

/-- Takes a lifetime. -/
def lifetime : Phrase String := do
  match ← ahead with
  | .lifetime l :: _ =>
    copy 1
    return l
  | _ => wanted "lifetime"

/-- Takes a lifetime if one stands at the head. -/
def tryLifetime : Phrase Bool := do
  if atLifetime (← ahead) then
    copy 1
    return true
  else return false

/-- Takes a literal. -/
def literal : Phrase Unit := do
  match literalLength (← ahead) with
  | 0 => wanted "literal"
  | 1 => copy 1
  | _ =>
    sign "-"
    copy 1

/-! ### Groups -/

/-- Reads inside brackets. -/
def within (b : Bracket) (p : Phrase α) : Phrase α := fun c =>
  match c.rest with
  | .group d content :: rest =>
    if d = b then
      match p { rest := content, surplus := c.surplus } with
      | .ok (a, inner) =>
        .ok (a, { rest
                  written := .group b inner.written.reverse :: c.written
                  surplus := inner.surplus.or (if inner.rest.isEmpty then none else some b) })
      | .error e => .error e
    else .error (.expected b.name false)
  | ts => .error (.expected b.name ts.isEmpty)

/-- Takes a group as it stands, and says between which brackets. -/
def anyGroup : Phrase Bracket := do
  match ← ahead with
  | .group b _ :: _ =>
    copy 1
    return b
  | _ => wanted "delimiter"

/-! ### Looking on -/

/-- Reads on if a reader succeeds, and stays otherwise; says which. -/
def attempt (p : Phrase α) : Phrase Bool := fun c =>
  match p c with
  | .ok (_, d) => .ok (true, d)
  | .error _ => .ok (false, c)

/-- What would be left after a reader, if it succeeds. -/
def after? (p : Phrase α) : Phrase (Option (List Token)) := fun c =>
  match p c with
  | .ok (_, d) => .ok (some d.rest, c)
  | .error _ => .ok (none, c)

/-- Reads without writing, and gives what would have been written. -/
def captured (p : Phrase α) : Phrase (α × List Token) := fun c =>
  match p { c with written := [] } with
  | .ok (a, d) => .ok ((a, d.written.reverse), { d with written := c.written })
  | .error e => .error e

/-- Reads, and gives what has been written. -/
def noted (p : Phrase α) : Phrase (α × List Token) := do
  let (a, ts) ← captured p
  write ts
  return (a, ts)

/-- Writes what has been read since a start as it stood, signs and all. -/
def asItStood (start : Cursor) : Phrase Unit := fun c =>
  .ok ((), { c with written := (upTo start.rest c.rest).reverse ++ start.written })

/-- The first of some readers that fits tokens. -/
def among (ts : List Token) (readers : List ((List Token → Bool) × Phrase α))
    (otherwise : Phrase α) : Phrase α :=
  match readers.find? fun r => r.1 ts with
  | some (_, p) => p
  | none => otherwise

/-- Reads with the first of some readers that fits what stands at the head. -/
def choose (readers : List ((List Token → Bool) × Phrase α)) (otherwise : Phrase α) : Phrase α := do
  among (← ahead) readers otherwise

/-! ### Repetition -/

/-- Repeats a step as long as it asks for more. A step that does has taken a token, so there are no
more steps than tokens. -/
def iterate (step : α → Phrase (α × Bool)) (a : α) : Phrase α := fun c => go (c.rest.length + 1) a c
where
  /-- The steps that are left. -/
  go : Nat → α → Phrase α
    | 0, a => pure a
    | n + 1, a => do
      let (b, more) ← step a
      if more then go n b else return b

/-- Reads items as long as more of them stand at the head. -/
def many (more : List Token → Bool) (item : Phrase α) : Phrase (List α) :=
  iterate (fun read => do
    if more (← ahead) then return (read ++ [← item], true) else return (read, false)) []

/-- Items up to an end, with a sign between them and perhaps after the last. -/
def series (ends : List Token → Bool) (separator : String) (item : Phrase α) : Phrase (List α) :=
  iterate (fun read => do
    if ends (← ahead) then return (read, false)
    let read := read ++ [← item]
    if ends (← ahead) then return (read, false)
    sign separator
    return (read, true)) []

/-- Items as long as a sign stands between them; it may stand after the last one before an end. -/
def chain (ends : List Token → Bool) (separator : String) (item : Phrase α) : Phrase (List α) :=
  iterate (fun read => do
    if ends (← ahead) then return (read, false)
    let read := read ++ [← item]
    return (read, ← trySign separator)) []

/-- Items with commas between them that fill a group. -/
def list (item : Phrase α) : Phrase (List α) := series List.isEmpty "," item

/-- Items with commas between them up to the closing angle bracket, not yet written. -/
def listed (isLifetime : α → Bool) (item : Phrase α) : Phrase (List (Listed α)) :=
  iterate (fun read => do
    if atSign ">" (← ahead) then return (read, false)
    let (a, ts) ← captured item
    if atSign ">" (← ahead) then return (read ++ [⟨a, isLifetime a, ts, false⟩], false)
    let _ ← captured (sign ",")
    return (read ++ [⟨a, isLifetime a, ts, true⟩], true)) []

/-- Items between angle brackets, written with the lifetimes first. -/
def angles (isLifetime : α → Bool) (item : Phrase α) : Phrase (List (Listed α)) := do
  let _ ← captured (sign "<")
  let items ← listed isLifetime item
  let _ ← captured (sign ">")
  write (angled items)
  return items

/-! ### Running -/

/-- Reads all of some tokens. -/
def whole (p : Phrase α) (ts : List Token) : Except Refusal (α × List Token) :=
  match p { rest := ts } with
  | .ok (a, c) =>
    match c.surplus with
    | some b => .error (.surplus (some b))
    | none => if c.rest.isEmpty then .ok (a, c.written.reverse) else .error (.surplus none)
  | .error e => .error e

end Phrase
end RowFilter.Record
