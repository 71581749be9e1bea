import RowFilter.Record.Number
import RowFilter.Record.Token
import RowFilter.Text.Blank

/-!
# Scanning

Text becomes trees of tokens in two steps: it is cut into lexemes, and then the brackets among them
are matched. Blanks and comments fall away, except that a comment that documents what follows counts
as an annotation named `doc`. Cutting stops at the first text that begins no lexeme, and each lexeme
takes at least one character, which is what makes it end.
-/

namespace RowFilter.Record

open Text (isBlank isIdentifierStart isIdentifierPart)

/-- A token, or a bracket that is still to be matched. -/
inductive Lexeme where
  | leaf (t : Token)
  | opening (b : Bracket)
  | closing (b : Bracket)

namespace Scan

/-! ## Escapes -/

/-- What a quoted text may hold. -/
inductive Content where
  /-- Any characters. -/
  | text
  /-- Bytes. -/
  | bytes
  /-- Characters, none of which is the nought that ends the text. -/
  | terminated
  deriving DecidableEq

/-- A carriage return that ends no line. -/
def hasBareReturn : List Char → Bool
  | [] => false
  | '\r' :: '\n' :: cs => hasBareReturn cs
  | c :: cs => c == '\r' || hasBareReturn cs

/-- Up to six hexadecimal digits, with underscores after the first, and a closing brace. -/
def codePoint? (cs : List Char) : Option (Char × List Char) :=
  let isDigit (c : Char) : Bool := c == '_' || (Text.Digits.hex? c).isSome
  let run := cs.takeWhile isDigit
  let digits := run.filter (· != '_')
  match cs.dropWhile isDigit with
  | '}' :: rest =>
    if run.head?.any (· != '_') && digits.length ≤ 6 then
      (Text.Digits.valueIn? 16 digits).bind fun n =>
        if n.isValidChar then some (Char.ofNat n, rest) else none
    else none
  | _ => none

/-- A text may hold the character that an escape by number stands for. -/
def Content.admits (k : Content) (n : Nat) : Bool :=
  match k with
  | .text => n < 128
  | .bytes => true
  | .terminated => n != 0

/-- A text may hold a character as it stands. -/
def Content.holds (k : Content) (c : Char) : Bool :=
  match k with
  | .text => true
  | .bytes => c.toNat < 128
  | .terminated => c.toNat != 0

/-- The character that an escape stands for, after its backslash. -/
def escape? (k : Content) : List Char → Option (Char × List Char)
  | 'n' :: cs => some ('\n', cs)
  | 'r' :: cs => some ('\r', cs)
  | 't' :: cs => some ('\t', cs)
  | '0' :: cs => if k = .terminated then none else some (Char.ofNat 0, cs)
  | '\\' :: cs => some ('\\', cs)
  | '\'' :: cs => some ('\'', cs)
  | '"' :: cs => some ('"', cs)
  | 'x' :: a :: b :: cs =>
    (Text.Digits.valueIn? 16 [a, b]).bind fun n =>
      if k.admits n then some (Char.ofNat n, cs) else none
  | 'u' :: '{' :: cs =>
    if k = .bytes then none
    else (codePoint? cs).bind fun (c, rest) =>
      if k = .terminated ∧ c.toNat = 0 then none else some (c, rest)
  | _ => none

/-- The characters that the first unit of a quoted text stands for: a line may be broken after a
backslash, and the blanks that follow fall away. -/
def unit? (k : Content) : List Char → Option (List Char × List Char)
  | '\\' :: '\n' :: cs => broken cs
  | '\\' :: '\r' :: '\n' :: cs => broken cs
  | '\\' :: cs => (escape? k cs).map fun (c, rest) => ([c], rest)
  | '\r' :: '\n' :: cs => some (['\n'], cs)
  | '\r' :: _ => none
  | c :: cs => if k.holds c then some ([c], cs) else none
  | [] => none
where
  /-- What follows a broken line. -/
  broken (cs : List Char) : Option (List Char × List Char) :=
    let isFree := if k = .bytes then Char.isWhitespace else isBlank
    if hasBareReturn (cs.takeWhile isFree) then none else some ([], cs.dropWhile isFree)

/-! ## Literals -/

/-- The text up to the closing quote. -/
def quotedText (k : Content) (cs : List Char) : Option (List Char × List Char) :=
  if cs.head? = some '"' then some ([], cs.tail)
  else
    match unit? k cs with
    | some (us, rest) =>
      if _h : rest.length < cs.length then
        (quotedText k rest).map fun (value, after) => (us ++ value, after)
      else none
    | none => none
termination_by cs.length

/-- The text up to a closing quote with as many hash signs after it as stood before the opening one.
Nothing in it is an escape. -/
def rawText (k : Content) (hashes : Nat) : List Char → Option (List Char × List Char)
  | [] => none
  | c :: cs =>
    if c == '"' && cs.take hashes == List.replicate hashes '#' then some ([], cs.drop hashes)
    else if c == '\r' && cs.head? != some '\n' then none
    else if k.holds c then (rawText k hashes cs).map fun (value, rest) => (c :: value, rest)
    else none

/-- A raw text, after the letter that announces it. -/
def rawText? (k : Content) (cs : List Char) : Option (List Char × List Char) :=
  match cs.dropWhile (· == '#') with
  | '"' :: rest =>
    let hashes := (cs.takeWhile (· == '#')).length
    if hashes < 256 then rawText k hashes rest else none
  | _ => none

/-- What follows a quoted character, after its opening quote. -/
def afterLetter (k : Content) : List Char → Option (List Char)
  | '\\' :: cs =>
    match escape? k cs with
    | some (_, '\'' :: rest) => some rest
    | _ => none
  | c :: '\'' :: rest => if k.holds c then some rest else none
  | _ => none

/-- The literal at the head and what follows it. -/
def literal? : List Char → Option (Literal × List Char)
  | '"' :: cs => (quotedText .text cs).map fun (value, rest) => (.text (String.ofList value), rest)
  | '\'' :: cs => (afterLetter .text cs).map fun rest => (.other, rest)
  | 'b' :: '"' :: cs => (quotedText .bytes cs).map fun (_, rest) => (.other, rest)
  | 'c' :: '"' :: cs => (quotedText .terminated cs).map fun (_, rest) => (.other, rest)
  | 'b' :: '\'' :: cs => (afterLetter .bytes cs).map fun rest => (.other, rest)
  | 'b' :: 'r' :: cs => (rawText? .bytes cs).map fun (_, rest) => (.other, rest)
  | 'c' :: 'r' :: cs => (rawText? .terminated cs).map fun (_, rest) => (.other, rest)
  | 'r' :: cs =>
    (rawText? .text cs).map fun (value, rest) => (.text (String.ofList value), rest)
  | cs => (Number.afterNumber cs).map fun rest => (.number, rest)

/-- The characters that stand before others they end in. -/
def upTo (cs rest : List Char) : List Char := cs.take (cs.length - rest.length)

/-- A word at the head, as the suffix of a literal. -/
def suffixOf (cs : List Char) : List Char :=
  if cs.head?.any isIdentifierStart then cs.takeWhile isIdentifierPart else []

/-- A literal with its suffix. -/
def readLiteral (cs : List Char) : Option (List Lexeme × List Char) :=
  (literal? cs).map fun (l, rest) =>
    let suffix := suffixOf rest
    ([.leaf (.literal l (String.ofList (upTo cs rest)) (String.ofList suffix))],
      rest.drop suffix.length)

/-! ## Words and marks -/

/-- The text begins as a literal does, so that no word stands here. -/
def announcesLiteral : List Char → Bool
  | 'r' :: '"' :: _ => true
  | 'r' :: '#' :: '"' :: _ => true
  | 'r' :: '#' :: '#' :: _ => true
  | 'b' :: '"' :: _ => true
  | 'b' :: '\'' :: _ => true
  | 'b' :: 'r' :: '"' :: _ => true
  | 'b' :: 'r' :: '#' :: _ => true
  | 'c' :: '"' :: _ => true
  | 'c' :: 'r' :: '"' :: _ => true
  | 'c' :: 'r' :: '#' :: _ => true
  | _ => false

/-- Words that cannot be raw. -/
def neverRaw : List String := ["_", "super", "self", "Self", "crate"]

/-- A word that is not raw. -/
def plainWord? (cs : List Char) : Option (String × List Char) :=
  if cs.head?.any isIdentifierStart then
    some (String.ofList (cs.takeWhile isIdentifierPart), cs.dropWhile isIdentifierPart)
  else none

/-- The word at the head and what follows it. -/
def word? : List Char → Option (Word × List Char)
  | 'r' :: '#' :: cs =>
    (plainWord? cs).bind fun (name, rest) =>
      if neverRaw.contains name then none else some (⟨name, true⟩, rest)
  | cs => (plainWord? cs).map fun (name, rest) => (⟨name, false⟩, rest)

/-- The marks that stand alone or form signs. -/
def marks : List Char := "~!@#$%^&*-=+|;:,<.>/?'".toList

/-- A comment begins here. -/
def beginsComment : List Char → Bool
  | '/' :: '/' :: _ => true
  | '/' :: '*' :: _ => true
  | _ => false

/-- A mark begins here. -/
def beginsMark (cs : List Char) : Bool := cs.head?.any marks.contains && !beginsComment cs

/-- A lifetime, after its quote. -/
def readLifetime (cs : List Char) : Option (List Lexeme × List Char) :=
  (word? cs).bind fun (w, rest) =>
    match rest with
    | '\'' :: _ => none
    | '#' :: _ => if w.isRaw then some ([.leaf (.lifetime w.text)], rest) else none
    | _ => some ([.leaf (.lifetime w.text)], rest)

/-- A mark, a lifetime or a word. -/
def readMarkOrWord (cs : List Char) : Option (List Lexeme × List Char) :=
  match cs with
  | '\'' :: rest => readLifetime rest
  | c :: rest =>
    if beginsMark cs then some ([.leaf (.mark c (beginsMark rest))], rest)
    else if announcesLiteral cs then none
    else (word? cs).map fun (w, after) => ([.leaf (.word w)], after)
  | [] => none

/-! ## Comments -/

/-- What follows a comment between brackets of its own, which may be nested, after the opening. -/
def afterBlock : Nat → List Char → Option (List Char)
  | _, [] => none
  | depth, '/' :: '*' :: cs => afterBlock (depth + 1) cs
  | 0, '*' :: '/' :: cs => some cs
  | depth + 1, '*' :: '/' :: cs => afterBlock depth cs
  | depth, _ :: cs => afterBlock depth cs

/-- The annotation that a documenting comment stands for; it is about the thing around it, or about
the thing after it. -/
def documentation (isInner : Bool) (content : List Char) : Option (List Lexeme) :=
  if hasBareReturn content then none
  else
    let note := Token.group .square
      [Token.plain "doc", .mark '=' false, Token.quoted (String.ofList content)]
    some (.leaf (.mark '#' false) :: (if isInner then [.leaf (.mark '!' false)] else [])
      ++ [.leaf note])

/-- The rest of a line, without what ends it. -/
def lineOf (cs : List Char) : List Char :=
  let line := cs.takeWhile (· != '\n')
  if (cs.drop line.length).isEmpty || line.getLast? != some '\r' then line else line.dropLast

/-- A documenting comment that ends with its line. -/
def documentLine (isInner : Bool) (text : List Char) : Option (List Lexeme × List Char) :=
  let line := lineOf text
  (documentation isInner line).map fun ls => (ls, text.drop line.length)

/-- A comment that ends with its line, after its two strokes. -/
def readLineComment : List Char → Option (List Lexeme × List Char)
  | '!' :: text => documentLine true text
  | '/' :: '/' :: text => some ([], text.dropWhile (· != '\n'))
  | '/' :: text => documentLine false text
  | text => some ([], text.dropWhile (· != '\n'))

/-- A comment between brackets of its own, after the opening. -/
def readBlockComment (cs : List Char) : Option (List Lexeme × List Char) :=
  (afterBlock 0 cs).bind fun rest =>
    let content := (upTo cs rest).dropLast.dropLast
    match cs with
    | '!' :: _ => (documentation true content.tail).map fun ls => (ls, rest)
    | '*' :: '/' :: _ => some ([], rest)
    | '*' :: '*' :: _ => some ([], rest)
    | '*' :: _ => (documentation false content.tail).map fun ls => (ls, rest)
    | _ => some ([], rest)

/-! ## Lexemes -/

/-- Blanks, and the two marks that say which way text runs. -/
def isGap (c : Char) : Bool := isBlank c || c.toNat == 0x200E || c.toNat == 0x200F

/-- The first lexemes of a text, none for a blank or a comment, and what follows. -/
def lexeme? (cs : List Char) : Option (List Lexeme × List Char) :=
  match cs with
  | [] => none
  | '/' :: '/' :: rest => readLineComment rest
  | '/' :: '*' :: rest => readBlockComment rest
  | '(' :: rest => some ([.opening .round], rest)
  | '[' :: rest => some ([.opening .square], rest)
  | '{' :: rest => some ([.opening .curly], rest)
  | ')' :: rest => some ([.closing .round], rest)
  | ']' :: rest => some ([.closing .square], rest)
  | '}' :: rest => some ([.closing .curly], rest)
  | c :: rest =>
    if isGap c then some ([], rest)
    else (readLiteral cs).or (readMarkOrWord cs)

/-- All lexemes of a text. -/
def lexemes (cs : List Char) : Option (List Lexeme) :=
  if cs.isEmpty then some []
  else
    match lexeme? cs with
    | some (ls, rest) =>
      if _h : rest.length < cs.length then (lexemes rest).map (ls ++ ·) else none
    | none => none
termination_by cs.length

/-! ## Brackets -/

/-- Matches brackets. `done` holds the tokens read between the innermost open brackets, the last
first, and the list of open brackets holds those read before each of them. -/
def nest (done : List Token) : List (Bracket × List Token) → List Lexeme → Option (List Token)
  | [], [] => some done.reverse
  | _ :: _, [] => none
  | outer, .leaf t :: ls => nest (t :: done) outer ls
  | outer, .opening b :: ls => nest [] ((b, done) :: outer) ls
  | (b, before) :: outer, .closing c :: ls =>
    if b = c then nest (.group b done.reverse :: before) outer ls else none
  | [], .closing _ :: _ => none

/-- The trees of tokens of a text, without a byte order mark at its head. -/
def tokens? (s : String) : Option (List Token) :=
  let cs := match s.toList with
    | c :: cs => if c.toNat = 0xFEFF then cs else c :: cs
    | [] => []
  (lexemes cs).bind (nest [] [])

end Scan
end RowFilter.Record
