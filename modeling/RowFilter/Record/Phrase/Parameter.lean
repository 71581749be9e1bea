import RowFilter.Record.Phrase.Path

/-!
# Parameters and conditions

A parameter is a lifetime, a type or a constant, with bounds and perhaps a default. Conditions say
more about the bounds of parameters, and of types that are made from them. Bounds that are announced
but not given are written as if they had not been announced, and so are conditions.
-/

namespace RowFilter.Record.Phrase

variable (g : Grammar)

/-! ## Bounds -/

/-- Items after a colon, if one stands here, and what is written for them. -/
def afterColon {α : Type} (items : Phrase α) : Phrase (List Token) := do
  if !atSign ":" (← ahead) then return []
  let _ ← captured (sign ":")
  return (← captured items).2

/-- The bounds of a lifetime, up to an end. -/
def outlives (ends : List Token → Bool) : Phrase (List String) := chain ends "+" lifetime

/-- Bounds up to an end, with pluses between them. -/
def boundsUntil (ends : List Token → Bool) : Phrase (List Unit) := chain ends "+" (bareBound g)

/-! ## Parameters -/

/-- What may stand after a parameter. -/
def endsParameter (ts : List Token) : Bool := ts.isEmpty || atSign "," ts || atSign ">" ts

/-- A default, if one stands here, and what is written for it. -/
def defaultOf {α : Type} (p : Phrase α) : Phrase (List Token) := do
  if !atSign "=" (← ahead) then return []
  let _ ← captured (sign "=")
  return (← captured p).2

/-- What a parameter stands for. In a list of its own, a parameter may be without a name. -/
def parameterKind (mayBeUnnamed : Bool) : Phrase ParameterKind := do
  let ts ← ahead
  if atName ts then
    let n ← name
    let bounds ← afterColon (boundsUntil g fun ts => endsParameter ts || atSign "=" ts)
    return .type n bounds (← defaultOf (g.type true))
  else if atLifetime ts then
    let l ← lifetime
    return .lifetime l (← afterColon (outlives endsParameter))
  else if atWord "const" ts then
    keyword "const"
    let n ← name
    sign ":"
    let (_, type) ← captured (g.type true)
    return .const n type (← defaultOf (constant g))
  else if mayBeUnnamed && atWord "_" ts then
    return .type (← anyWord) [] []
  else if mayBeUnnamed then wantedOneOf ["lifetime", "identifier", "`const`"]
  else wantedOneOf ["identifier", "lifetime", "`const`"]

/-- A parameter. -/
def parameter (mayBeUnnamed : Bool) : Phrase Parameter := do
  let annotations ← annotations g
  return { annotations, kind := ← parameterKind g mayBeUnnamed }

/-- Parameters between angle brackets, if there are any. -/
def parameters : Phrase (List (Listed Parameter)) := do
  if !atSign "<" (← ahead) then return []
  let _ ← captured (sign "<")
  let ps ← listed Parameter.isLifetime (parameter g true)
  let _ ← captured (sign ">")
  write (parameterTokens Parameter.tokens ps)
  return ps

/-- Parameters stand here, not a path that begins with a type. -/
def beginsParameters (ts : List Token) : Bool :=
  let next := ts.drop 1
  let third := ts.drop 2
  let goesOn := atSign ">" third || atSign "," third || atSign ":" third && !atSign "::" third
    || atSign "=" third
  atSign "<" ts
    && (atSign ">" next || atSign "#" next || (atLifetime next || atName next) && goesOn
      || atWord "const" next)

/-! ## Conditions -/

/-- What may stand after conditions, and after the bounds of one. -/
def endsConditions (ts : List Token) : Bool :=
  ts.isEmpty || atGroup .curly ts || atSign "," ts || atSign ";" ts
    || atSign ":" ts && !atSign "::" ts || atSign "=" ts

/-- A condition. -/
def condition : Phrase Unit := do
  let ts ← ahead
  if atLifetime ts && atSign ":" (ts.drop 1) then
    discard lifetime
    sign ":"
    discard (outlives fun ts => endsConditions ts || atSign ":" ts)
  else
    discard (binder g)
    discard (g.type true)
    sign ":"
    discard (boundsUntil g endsConditions)

/-- Conditions with the word before them, if there are any. -/
def conditions : Phrase (List Token) := do
  if !atWord "where" (← ahead) then return []
  let _ ← captured (keyword "where")
  if beginsParameters (← ahead) then broken .parametersOfConditions
  let (_, ts) ← captured (chain endsConditions "," (condition g))
  let conditions := if ts.isEmpty then [] else Token.plain "where" :: ts
  write conditions
  return conditions

end RowFilter.Record.Phrase
