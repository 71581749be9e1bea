import RowFilter.Record.Phrase.Annotation

/-!
# Paths and bounds

A path is made of steps with separators between them; a step may have arguments between angle
brackets. A bound is a lifetime, a trait, or the lifetimes that a hidden type captures.
-/

namespace RowFilter.Record.Phrase

variable (g : Grammar)

/-! ## Arguments -/

/-- A block. -/
def block : Phrase Unit := within .curly do
  discard (innerAnnotations g)
  g.statements

/-- A block that has no annotations inside. -/
def plainBlock : Phrase Unit := within .curly g.statements

/-- A constant as an argument or a default: a literal, a name or a block. -/
def constant : Phrase Unit := do
  let ts ← ahead
  if atLiteral ts then literal
  else if atName ts then discard name
  else if atGroup .curly ts then block g
  else throw (.unexpected ts.isEmpty)

/-- A bound may begin here, after a plus. -/
def beginsBound (mayBeConst : Bool) (ts : List Token) : Bool :=
  atAnyWord ts || atSign "::" ts || atSign "?" ts || atLifetime ts || atGroup .round ts
    || mayBeConst && (atGroup .square ts || atWord "const" ts)

/-- The lifetimes that a phrase is bound by, if there are any; says whether there are. -/
def binder : Phrase Bool := do
  if ← tryKeyword "for" then
    sign "<"
    let _ ← series (atSign ">") "," do
      let p ← captured g.parameter
      write p.1.tokens
    sign ">"
    return true
  else return false

/-- What a function gives back, if it says so; the flag says whether bounds may be added. -/
def result (mayAdd : Bool) : Phrase Unit := do
  if ← trySign "->" then discard (g.type mayAdd)

/-- Takes back the empty arguments that have just been written. -/
def withoutArguments : Phrase Unit :=
  modify fun c => { c with written := (c.written.drop 2).dropWhile (Token.isMark ':') }

/-- A trait as a bound; says whether it is constant. -/
def trait (mayBeConst : Bool) : Phrase Bool := do
  let isBound ← binder g
  let ts ← ahead
  let isConditional := atGroup .square ts
  let isConst := isConditional || atWord "const" ts
  if isConditional then within .square (keyword "const")
  else discard (tryKeyword "const")
  if isConst && !mayBeConst then broken (.strayConst isConditional)
  let isOptional ← trySign "?"
  let isBound ← if isOptional && !isBound then binder g else pure isBound
  let p ← g.path
  let ts ← ahead
  if p.endsBare && (atGroup .round ts || atSign "::" ts && atGroup .round (ts.drop 2)) then
    if p.steps.getLast? == some .empty then withoutArguments
    if atSign "::" ts then discard (captured (sign "::"))
    discard (within .round (list (g.type true)))
    result g false
  if isBound && isOptional then broken .boundOptional
  return isConst

/-- The lifetimes and names that a hidden type captures. -/
def capture : Phrase Unit := do
  keyword "use"
  discard (angles (fun isLifetime => isLifetime) do
    let ts ← ahead
    if atLifetime ts then discard lifetime
    else if atName ts || atWord "Self" ts then discard anyWord
    else wantedOneOf ["lifetime", "identifier", "`>`"]
    let next ← ahead
    if !atSign "," next && !atSign ">" next then wantedOneOf ["`,`", "`>`"]
    return atLifetime ts)

/-- A bound; it may be a capture, or constant, where that is allowed. -/
def bound (mayCapture mayBeConst : Bool) : Phrase BoundForm := do
  let ts ← ahead
  if ← tryLifetime then return .lifetime
  else if atWord "use" ts then
    capture
    if !mayCapture then broken .strayCapture
    return .capture
  else
    let start ← get
    let isConst ←
      if atGroup .round ts then within .round (trait g mayBeConst) else trait g mayBeConst
    if isConst then asItStood start
    return .trait

/-- A bound of a parameter, or of a condition on one. -/
def bareBound : Phrase Unit := discard (bound g false true)

/-- Bounds with pluses between them, one at least. -/
def bounds (joins mayCapture mayBeConst : Bool) : Phrase (List BoundForm) :=
  iterate (fun read => do
    let read := read ++ [← bound g mayCapture mayBeConst]
    if joins && (← trySign "+") then return (read, beginsBound mayBeConst (← ahead))
    else return (read, false)) []

/-- An argument; says whether it is a lifetime. -/
def argument : Phrase Bool := do
  let ts ← ahead
  if atLifetime ts && !atSign "+" (ts.drop 1) then
    discard lifetime
    return true
  if atLiteral ts || atGroup .curly ts then
    constant g
    return false
  match ← g.type true with
  | .path { isQualified := false, isRooted := false, steps := [_] } =>
    if ← trySign "=" then
      let ts ← ahead
      if atLiteral ts || atGroup .curly ts then constant g else discard (g.type true)
    else if ← trySign ":" then
      discard (chain (fun ts => atSign "," ts || atSign ">" ts) "+" (bareBound g))
  | _ => pure ()
  return false

/-- Arguments between angle brackets. -/
def arguments : Phrase StepArguments := do
  discard (trySign "::")
  if !atSign "<" (← ahead) then throw (.expectedSign "<")
  let items ← angles (fun isLifetime => isLifetime) (argument g)
  return if items.isEmpty then .empty else .present

/-! ## Paths -/

/-- Words that lead out of a module, and one that stands for a name of its own. -/
def leadingWords : List String := ["super", "self", "crate", "try"]

/-- A step of a path. In an expression, arguments have a separator before them. -/
def step (inExpression : Bool) : Phrase StepArguments := do
  if atOneOf leadingWords (← ahead) then
    discard anyWord
    return .absent
  if atWord "Self" (← ahead) then discard anyWord else discard name
  let ts ← ahead
  if !inExpression && atSign "<" ts && !atSign "<=" ts && !atSign "<<=" ts
      || atSign "::" ts && atSign "<" (ts.drop 2) then
    arguments g
  else return .absent

/-- Steps with separators before them, after some others. -/
def moreSteps (goes : List Token → Bool) (inExpression : Bool) (steps : List StepArguments) :
    Phrase (List StepArguments) :=
  iterate (fun steps => do
    let ts ← ahead
    if atSign "::" ts && goes (ts.drop 2) then
      sign "::"
      return (steps ++ [← step g inExpression], true)
    else return (steps, false)) steps

/-- A path. A separator before parentheses belongs to what follows. -/
def path (inExpression : Bool) : Phrase PathForm := do
  let isRooted ← trySign "::"
  let first ← step g inExpression
  let steps ← moreSteps g (fun ts => !atGroup .round ts) inExpression [first]
  return { isRooted, steps }

/-- A path that may begin with a type. -/
def qualifiedPath (inExpression : Bool) : Phrase PathForm := do
  if !atSign "<" (← ahead) then return ← path g inExpression
  sign "<"
  discard (g.type true)
  if ← tryKeyword "as" then discard g.path
  sign ">"
  sign "::"
  let first ← step g inExpression
  let steps ← moreSteps g (fun _ => true) inExpression [first]
  return { isQualified := true, steps }

/-! ## Calls that another program replaces -/

/-- Such a call begins here, after its path. -/
def beginsCall (p : PathForm) (ts : List Token) : Bool :=
  !p.isQualified && p.isBare && atSign "!" ts && !atSign "!=" ts

/-- The rest of such a call, with its brackets. -/
def call : Phrase Bracket := do
  sign "!"
  anyGroup

end RowFilter.Record.Phrase
