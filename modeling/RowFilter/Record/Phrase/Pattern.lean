import RowFilter.Record.Number
import RowFilter.Record.Phrase.Type

/-!
# Patterns

A pattern is a name, a literal, a range, a path with patterns inside, or made of other patterns
between brackets; several may stand as alternatives. Some ranges lack one of their ends, and a
reader of patterns says which do, since lists of patterns have no place for them.
-/

namespace RowFilter.Record.Phrase

variable (g : Grammar)

/-! ## Places -/

/-- The place of a member without a name, from the digits of a number. -/
def placeOf (digits : List Char) : Phrase Unit := do
  match Number.whole? (String.ofList digits) with
  | none => throw (.expected "integer literal" false)
  | some (n, suffix) =>
    if !suffix.isEmpty then broken .suffixedPlace
    if n < 4294967296 then write [.literal .number (toString n) ""] else broken .hugePlace

/-- A member by its name or its place; says whether it is named. -/
def memberName : Phrase Bool := do
  match ← ahead with
  | .literal .number spelling _ :: _ =>
    if (Number.whole? spelling).isNone then wantedOneOf ["identifier", "integer"]
    pass 1
    placeOf spelling.toList
    return false
  | ts =>
    if !atName ts then wantedOneOf ["identifier", "integer"]
    discard name
    return true

/-! ## Alternatives -/

/-- An alternative may follow here. -/
def goesOnWithAlternative (ts : List Token) : Bool :=
  atSign "|" ts && !atSign "||" ts && !atSign "|=" ts

/-- Alternatives, with a sign before the first if there are several; says whether there is but one,
and that a range without one of its ends. -/
def alternatives : Phrase Bool := do
  let leads ← trySign "|"
  let isOpen ← g.pattern
  let others ← many goesOnWithAlternative do
    sign "|"
    g.pattern
  return isOpen && !leads && others.isEmpty

/-! ## Ranges -/

/-- The sign of a range; says whether the range has its end. A sign of old is written anew. -/
def rangeSign (mayBeOld : Bool) : Phrase Bool := do
  let ts ← ahead
  if atSign "..=" ts then
    sign "..="
    return true
  else if mayBeOld && atSign "..." ts then
    discard (captured (sign "..."))
    write (Token.sign "..=".toList)
    return true
  else if atSign ".." ts && !atSign "..." ts then
    sign ".."
    return false
  else wantedOneOf ["`..`", "`..=`"]

/-- No end of a range stands here. -/
def endsRange (ts : List Token) : Bool :=
  ts.isEmpty || atSign "|" ts || atSign "=" ts || atSign ":" ts && !atSign "::" ts || atSign "," ts
    || atSign ";" ts || atWord "if" ts

/-- A block for a constant. -/
def constantBlock : Phrase Unit := do
  keyword "const"
  block g

/-- An end of a range. -/
def rangeEnd : Phrase Unit :=
  choose
    [(atLiteral, literal), (beginsPath, discard (qualifiedPath g true)),
      (atWord "const", constantBlock g)]
    (wantedOneOf ["literal", "identifier", "`::`", "`<`", "`self`", "`Self`", "`super`", "`crate`",
      "`const`"])

/-- The sign of a range and its end, if it has one; says whether it has none. -/
def restOfRange (mayBeOld : Bool) : Phrase Bool := do
  let isClosed ← rangeSign mayBeOld
  if endsRange (← ahead) then
    if isClosed then wanted "range upper bound" else return true
  else
    rangeEnd g
    return false

/-- A literal or a constant, perhaps with a range that begins with it. -/
def bounded : Phrase Bool := do
  rangeEnd g
  if atSign ".." (← ahead) then restOfRange g true else return false

/-- A range that begins with its sign, or the sign alone, which stands for what is left. -/
def unbounded : Phrase Bool := do
  let isRest ← restOfRange g false
  return !isRest

/-! ## Paths -/

/-- A member in a pattern. A name alone stands for a pattern. -/
def memberPattern : Phrase Unit := do
  let start ← get
  let isBoxed ← tryKeyword "box"
  let isReferred ← tryKeyword "ref"
  let isMutable ← tryKeyword "mut"
  if isBoxed || isReferred || isMutable then
    discard name
    if isBoxed then asItStood start
  else
    let isNamed ← memberName
    if !isNamed || atSign ":" (← ahead) then
      sign ":"
      discard (alternatives g)

/-- Members between braces, perhaps with a sign for what is left. -/
def membersPattern : Phrase Unit :=
  discard (iterate (fun () => do
    if (← ahead).isEmpty then return ((), false)
    discard (annotations g)
    if ← trySign ".." then return ((), false)
    memberPattern g
    if (← ahead).isEmpty then return ((), false)
    sign ","
    return ((), true)) ())

/-- A pattern that begins with a path. -/
def pathPattern : Phrase Bool := do
  let p ← qualifiedPath g true
  let ts ← ahead
  if beginsCall p ts then
    discard call
    return false
  else if atGroup .curly ts then
    within .curly (membersPattern g)
    return false
  else if atGroup .round ts then
    discard (within .round (list (alternatives g)))
    return false
  else if atSign ".." ts then restOfRange g true
  else return false

/-- A path stands at the head, and not just a name. -/
def beginsPathPattern (ts : List Token) : Bool :=
  let next := ts.drop 1
  let goesOn := atSign "::" next || atSign "!" next || atGroup .curly next || atGroup .round next
    || atSign ".." next
  atName ts && goesOn || atWord "self" ts && atSign "::" next || atSign "::" ts || atSign "<" ts
    || atOneOf ["Self", "super", "crate"] ts

/-! ## All patterns -/

/-- A name, perhaps with a pattern for what it names. -/
def namePattern : Phrase Bool := do
  discard (tryKeyword "ref")
  discard (tryKeyword "mut")
  if atWord "self" (← ahead) then discard anyWord else discard name
  if ← trySign "@" then discard g.pattern
  return false

/-- A pattern for what a reference leads to. -/
def referencePattern : Phrase Bool := do
  sign "&"
  discard (tryKeyword "mut")
  discard g.pattern
  return false

/-- A pattern for what a box holds. -/
def boxPattern : Phrase Bool := do
  let start ← get
  keyword "box"
  discard g.pattern
  asItStood start
  return false

/-- A pattern without alternatives; says whether it is a range without one of its ends. -/
def pattern : Phrase Bool :=
  choose
    [(beginsPathPattern, pathPattern g),
      (atWord "_", do keyword "_"; return false),
      (atWord "box", boxPattern g),
      (fun ts => atSign "-" ts || atLiteral ts || atWord "const" ts, bounded g),
      (fun ts => atOneOf ["ref", "mut", "self"] ts || atName ts, namePattern g),
      (atSign "&", referencePattern g),
      (atGroup .round, do discard (within .round (list (alternatives g))); return false),
      (atGroup .square, do
        discard (within .square (list do if ← alternatives g then broken .openRange))
        return false),
      (fun ts => atSign ".." ts && !atSign "..." ts, unbounded g)]
    (wantedOneOf ["identifier", "`::`", "`<`", "`_`", "literal", "`const`", "`ref`", "`mut`", "`&`",
      "parentheses", "square brackets", "`..`"])

end RowFilter.Record.Phrase
