import RowFilter.Record.Phrase.Item
import RowFilter.Record.Phrase.Statement

/-!
# The complete grammar

The readers of each kind of phrase, written for a given grammar, are tied together: a grammar of
some depth calls on that of the depth before it, and a phrase as deep as its tokens are many finds
the grammar deep enough. From a phrase to the phrases inside it a reader goes down a few times at
most before it takes a token, so that a small multiple of the number of tokens will do.
-/

namespace RowFilter.Record

/-- The grammar of phrases of some depth. -/
def grammar : Nat → Grammar
  | 0 => .empty
  | depth + 1 =>
    let g := grammar depth
    { type := Phrase.type g
      path := Phrase.path g false
      parameter := Phrase.parameter g false
      expression := Phrase.expression g
      operand := Phrase.operand g
      operators := Phrase.operators g
      arm := Phrase.arm g
      statements := Phrase.statements g
      pattern := Phrase.pattern g
      member := Phrase.member g
      item := Phrase.item g
      use := Phrase.used g }

namespace Token

mutual

/-- The number of tokens in a tree of tokens. -/
def size : Token → Nat
  | group _ content => 1 + sizes content
  | _ => 1

/-- The number of tokens in trees of tokens. -/
def sizes : List Token → Nat
  | [] => 0
  | t :: ts => t.size + sizes ts

end

end Token

/-- The grammar for phrases of some tokens. -/
def Grammar.reading (ts : List Token) : Grammar := grammar (8 * (Token.sizes ts + 1))

end RowFilter.Record
