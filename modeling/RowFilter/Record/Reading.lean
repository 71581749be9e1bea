import RowFilter.Record.Phrase.Complete
import RowFilter.Record.Scan

/-!
# Reading declarations and paths

The text of a declaration, or of a path, is cut into tokens, and the tokens are read as one phrase
that leaves nothing over.
-/

namespace RowFilter.Record

/-- The kinds of declarations: a word, and the reader of what follows name and parameters. -/
def Phrase.kinds (g : Grammar) : List (String × Phrase (List Token × Shape)) :=
  [("struct", recordShape g), ("enum", choiceShape g), ("union", overlayShape g)]

/-- A declaration. -/
def Phrase.declaration (g : Grammar) : Phrase Declaration := do
  let annotations ← annotations g
  visibility
  let ts ← ahead
  match (kinds g).find? fun k => atWord k.1 ts with
  | none => wantedOneOf ["`struct`", "`enum`", "`union`"]
  | some (word, body) =>
    keyword word
    let name ← name
    let parameters ← parameters g
    let (conditions, shape) ← body
    return { annotations, name, parameters, conditions, shape }

/-- The declaration that tokens make up, if they do. -/
def Declaration.ofTokens? (ts : List Token) : Option Declaration :=
  match Phrase.whole (Phrase.declaration (.reading ts)) ts with
  | .ok (d, _) => some d
  | .error _ => none

/-- The declaration that a text makes up, if it does. -/
def Declaration.ofText? (s : String) : Option Declaration :=
  (Scan.tokens? s).bind Declaration.ofTokens?

/-- The tokens of a path, written out with its signs settled. -/
def pathOfTokens (ts : List Token) : Except Refusal (List Token) :=
  (Phrase.whole (Phrase.path (.reading ts) false) ts).map Prod.snd

end RowFilter.Record
