import RowFilter.Record.Phrase.Grammar

/-!
# Annotations

An annotation has a path of words for its name, and perhaps arguments: a group, whose content is
kept as it stands, or an expression that is assigned. Annotations stand before what they are about,
or at the head of what is around them; so does the word that says who can see it.
-/

namespace RowFilter.Record.Phrase

variable (g : Grammar)

/-- A path of words alone, which may be reserved. -/
def wordPath : Phrase Path := do
  let isRooted ← trySign "::"
  let goesOn (ts : List Token) : Bool :=
    atName ts || atOneOf ["super", "self", "Self", "crate"] ts
  let (words, isOpen) ← iterate (fun ((words, _) : List Word × Bool) => do
    if goesOn (← ahead) then
      let words := words ++ [← anyWord]
      let isOpen ← trySign "::"
      return ((words, isOpen), isOpen)
    else return ((words, !words.isEmpty), false)) ([], false)
  if words.isEmpty then discard name
  if isOpen then wanted "path segment after `::`"
  return { isRooted, words }

/-- An annotation, inside its brackets. -/
def annotated : Phrase Annotated := do
  let path ←
    if ← tryKeyword "unsafe" then pure ⟨false, [⟨"unsafe", false⟩]⟩ else wordPath
  match ← ahead with
  | .group b content :: _ =>
    copy 1
    return ⟨path, .listed b content⟩
  | ts =>
    if atSign "=" ts && !atSign "==" ts && !atSign "=>" ts then
      sign "="
      let ts ← ahead
      if atSign "#" ts && atGroup .square (ts.drop 1) then broken .assignedAnnotated
      let (_, value) ← noted (g.expression true)
      return ⟨path, .assigned value⟩
    else return ⟨path, .nothing⟩

/-- Annotations of what follows. -/
def annotations : Phrase (List Annotated) :=
  many (atSign "#") do
    sign "#"
    within .square (annotated g)

/-- Annotations of what is around. -/
def innerAnnotations : Phrase (List Annotated) :=
  many (fun ts => atSign "#" ts && atSign "!" (ts.drop 1)) do
    sign "#"
    sign "!"
    within .square (annotated g)

/-- Who can see what follows: it is only said of what others can see. -/
def visibility : Phrase Unit := do
  if ← tryKeyword "pub" then
    match ← ahead with
    | .group .round content :: _ =>
      if atWord "in" content then
        within .round do
          keyword "in"
          discard wordPath
      else if content.length == 1 && atOneOf ["crate", "self", "super"] content then copy 1
    | _ => pure ()

end RowFilter.Record.Phrase
