import RowFilter.Text.Quoted

/-!
# Tokens

The text of a declaration is read as trees of tokens: words, lifetimes, punctuation marks, literals,
and groups between brackets. A mark that is joined to the mark after it is part of one sign, such as
`::` or `->`. Written out, tokens stand one blank apart, except that a joined mark touches the next.
-/

namespace RowFilter.Record

/-- A word of a declaration. A raw word may be one that the language has reserved. -/
structure Word where
  name : String
  isRaw : Bool := false
  deriving DecidableEq

/-- The word as it is written. -/
def Word.text (w : Word) : String := if w.isRaw then "r#" ++ w.name else w.name

/-- The brackets around a group. -/
inductive Bracket where
  | round
  | square
  | curly
  deriving DecidableEq

/-- What a literal denotes, as far as it matters. -/
inductive Literal where
  /-- A text. -/
  | text (value : String)
  | number
  /-- A character, or bytes. -/
  | other
  deriving DecidableEq

/-- A token, or a group of them. -/
inductive Token where
  | word (w : Word)
  | lifetime (name : String)
  | mark (c : Char) (isJoined : Bool)
  | literal (l : Literal) (spelling suffix : String)
  | group (b : Bracket) (content : List Token)

namespace Bracket

/-- The content of a group between its brackets. -/
def around (content : String) : Bracket → String
  | round => "(" ++ content ++ ")"
  | square => "[" ++ content ++ "]"
  | curly => "\x7b " ++ content ++ (if content.isEmpty then "" else " ") ++ "\x7d"

end Bracket

namespace Token

/-- The token is a mark that touches the next. -/
def isJoined : Token → Bool
  | mark _ j => j
  | _ => false

/-- What stands between a token and the next. -/
def gap (t : Token) : String := if t.isJoined then "" else " "

mutual

/-- A token as it is written. -/
def text : Token → String
  | word w => w.text
  | lifetime name => "'" ++ name
  | mark c _ => String.singleton c
  | literal _ spelling suffix => spelling ++ suffix
  | group b content => b.around (spelled content)

/-- Tokens as they are written. -/
def spelled : List Token → String
  | [] => ""
  | t :: ts =>
    match ts with
    | [] => t.text
    | u :: us => t.text ++ t.gap ++ spelled (u :: us)

end

/-! ## Making tokens -/

/-- A word that is not raw. -/
def plain (name : String) : Token := word ⟨name, false⟩

/-- A sign of several marks. -/
def sign : List Char → List Token
  | [] => []
  | [c] => [mark c false]
  | c :: d :: cs => mark c true :: sign (d :: cs)

/-- A quoted text. -/
def quoted (s : String) : Token := literal (.text s) (Text.Quoted.literal s) ""

end Token
end RowFilter.Record
