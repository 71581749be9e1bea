import RowFilter.Record.Phrase.Parameter

/-!
# Members

A record has members with names between braces; a tuple has members without names between
parentheses; a choice has alternatives, which have members of either kind or none, and perhaps a
number. A member without a name may be a record of its own, which is kept as it stands.
-/

namespace RowFilter.Record.Phrase

variable (g : Grammar)

/-! ## Members -/

/-- A record in place of a type begins here. -/
def beginsNestedRecord (ts : List Token) : Bool :=
  atWord "struct" ts || atWord "union" ts && atGroup .curly (ts.drop 1)

/-- A member with a name. -/
def member : Phrase Member := do
  let annotations ← annotations g
  visibility
  let isUnnamed := atWord "_" (← ahead)
  let name ← if isUnnamed then anyWord else name
  sign ":"
  if isUnnamed && beginsNestedRecord (← ahead) then
    let start ← get
    discard anyWord
    discard (within .curly (list g.member))
    asItStood start
  else discard (g.type true)
  return { annotations, name }

/-- Members between braces. -/
def members : Phrase (List Member) := within .curly (list (member g))

/-- Members without names, between parentheses. -/
def unnamedMembers : Phrase Unit :=
  discard (within .round (list do
    discard (annotations g)
    visibility
    g.type true))

/-! ## Bodies -/

/-- One of several alternatives. Who can see it is not written. -/
def alternative : Phrase Unit := do
  discard (annotations g)
  discard (captured visibility)
  discard name
  let ts ← ahead
  if atGroup .curly ts then discard (members g)
  else if atGroup .round ts then unnamedMembers g
  if ← trySign "=" then discard (g.expression true)

/-- What a record is made of, and the conditions on its parameters, which stand before its members
if they have names. -/
def recordShape : Phrase (List Token × Shape) := do
  let hasConditions := atWord "where" (← ahead)
  let before ← conditions g
  let ts ← ahead
  if atGroup .round ts && !hasConditions then
    unnamedMembers g
    let mayHave := !atWord "where" (← ahead)
    let after ← conditions g
    if !(← trySign ";") then wantedOneOf (if mayHave then ["`where`", "`;`"] else ["`;`"])
    return (after, .tuple)
  else if atGroup .curly ts then return (before, .record (← members g))
  else if ← trySign ";" then return (before, .unit)
  else if hasConditions then wantedOneOf ["curly braces", "`;`"]
  else wantedOneOf ["`where`", "parentheses", "curly braces", "`;`"]

/-- The alternatives of a choice, with conditions on its parameters. -/
def choiceShape : Phrase (List Token × Shape) := do
  let before ← conditions g
  discard (within .curly (list (alternative g)))
  return (before, .choice)

/-- Members that share their place, with conditions on their parameters. -/
def overlayShape : Phrase (List Token × Shape) := do
  let before ← conditions g
  discard (members g)
  return (before, .overlay)

end RowFilter.Record.Phrase
