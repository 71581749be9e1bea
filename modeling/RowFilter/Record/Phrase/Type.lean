import RowFilter.Record.Phrase.Parameter

/-!
# Types

A type is a path, bounds, a function, a reference or pointer, or made of other types between
brackets. Where bounds may be added to a type, a plus after it makes it a list of bounds.
-/

namespace RowFilter.Record.Phrase

variable (g : Grammar)

/-! ## Functions -/

/-- How a function is called from outside. -/
def convention : Phrase Unit := do
  keyword "extern"
  if atText (← ahead) then copy 1

/-- How a function is called from outside, if it says so. -/
def tryConvention : Phrase Unit := do
  if atWord "extern" (← ahead) then convention

/-- A name before a colon stands at the head; the flag says whether the receiver counts. -/
def atNamed (mayBeReceiver : Bool) (ts : List Token) : Bool :=
  (atName ts || atWord "_" ts || mayBeReceiver && atWord "self" ts)
    && atSign ":" (ts.drop 1) && !atSign "::" (ts.drop 1)

/-- A mutable receiver stands at the head. -/
def atMutableReceiver (ts : List Token) : Bool := atWord "mut" ts && atWord "self" (ts.drop 1)

/-- What a function is given. Only the first of its inputs may be a receiver, which is kept as it
stands if it is mutable. -/
def input (isFirst : Bool) : Phrase Unit := do
  let start ← get
  let isMutable := isFirst && atMutableReceiver (← ahead)
  if isMutable then keyword "mut"
  let ts ← ahead
  let isNamed := atNamed isFirst ts
  let isReceiver := isNamed && atWord "self" ts
  if isNamed then
    discard anyWord
    sign ":"
  if isFirst && !isReceiver && atMutableReceiver (← ahead) then
    copy 2
    asItStood start
  else
    if isMutable && !isNamed then keyword "self" else discard (g.type true)
    if isMutable then asItStood start

/-- Any number of further inputs may stand here. -/
def beginsRest (ts : List Token) : Bool :=
  atSign "..." ts
    || (atName ts || atWord "_" ts) && atSign ":" (ts.drop 1) && atSign "..." (ts.drop 2)

/-- Any number of further inputs. -/
def restOfInputs : Phrase Unit := do
  if atAnyWord (← ahead) then
    discard anyWord
    sign ":"
  sign "..."
  discard (trySign ",")

/-- The inputs of a function as a type. -/
def inputs : Phrase Unit :=
  discard (iterate (fun isFirst => do
    if (← ahead).isEmpty then return (isFirst, false)
    discard (annotations g)
    if beginsRest (← ahead) then
      restOfInputs
      return (false, false)
    input g isFirst
    if (← ahead).isEmpty then return (false, false)
    sign ","
    return (false, true)) true)

/-- A function as a type. -/
def functionType : Phrase TypeForm := do
  discard (tryKeyword "unsafe")
  tryConvention
  keyword "fn"
  within .round (inputs g)
  result g false
  return .other

/-! ## Bounds as types -/

/-- Bounds after a first one, each after a plus. -/
def moreBounds : Phrase Unit :=
  discard (many (atSign "+") do
    sign "+"
    bound g false false)

/-- The bounds of an object, one of them a trait. -/
def objectBounds (mayAdd : Bool) : Phrase Unit := do
  let bs ← bounds g mayAdd false false
  if !bs.contains .trait then broken .objectWithoutTrait

/-- An object. -/
def object (mayAdd : Bool) : Phrase TypeForm := do
  let start ← get
  keyword "dyn"
  let isStarred ← trySign "*"
  objectBounds g mayAdd
  if isStarred then asItStood start
  return .other

/-- A hidden type. -/
def hidden (mayAdd : Bool) : Phrase TypeForm := do
  keyword "impl"
  let bs ← bounds g mayAdd true true
  if !bs.contains .trait then broken .hiddenWithoutTrait
  return .other

/-! ## Paths as types -/

/-- A path, with the bounds that are added to it, or a call that another program replaces. -/
def pathType (isBound mayAdd : Bool) : Phrase TypeForm := do
  let p ← qualifiedPath g false
  if p.isQualified then return .path p
  let ts ← ahead
  if beginsCall p ts then
    discard call
    return .other
  let isAdded := mayAdd && atSign "+" ts
  if isAdded then
    sign "+"
    if beginsBound false (← ahead) then discard (bounds g true false false)
    return .bounds false
  else if isBound then return .bounds true
  else return .path p

/-! ## Types between brackets -/

/-- What stands between parentheses. -/
inductive Enclosed where
  /-- Several types, or none, or bounds. -/
  | complete
  /-- A trait that need not hold. -/
  | optional
  /-- One type. -/
  | single (t : TypeForm)

/-- What stands between parentheses. -/
def enclosed : Phrase Enclosed := do
  let ts ← ahead
  if ts.isEmpty then return .complete
  else if atLifetime ts then
    objectBounds g true
    return .complete
  else if atSign "?" ts then
    discard (trait g false)
    return .optional
  else
    let t ← g.type true
    if ← trySign "," then
      discard (list (g.type true))
      return .complete
    else return .single t

/-- Types between parentheses, or a bound, which others may follow. -/
def enclosedType (mayAdd : Bool) : Phrase TypeForm := do
  let inside ← within .round (enclosed g)
  let isAdded := atSign "+" (← ahead)
  let isBound := match inside with
    | .single (.path p) => !p.isQualified
    | .single (.bounds isSingle) => isSingle
    | _ => false
  match inside with
  | .optional =>
    moreBounds g
    return .bounds !isAdded
  | _ =>
    if isAdded && mayAdd && isBound then
      moreBounds g
      return .bounds false
    else return .other

/-- Several values of a type, perhaps a number of them. -/
def sequenceType : Phrase TypeForm := do
  within .square do
    discard (g.type true)
    if ← trySign ";" then discard (g.expression true)
  return .other

/-! ## Pointers -/

/-- A pointer. -/
def pointer : Phrase TypeForm := do
  sign "*"
  if !((← tryKeyword "const") || (← tryKeyword "mut")) then wantedOneOf ["`const`", "`mut`"]
  discard (g.type false)
  return .other

/-- A reference. -/
def reference : Phrase TypeForm := do
  sign "&"
  discard tryLifetime
  discard (tryKeyword "mut")
  discard (g.type false)
  return .other

/-! ## All types -/

/-- Words that a path begins with, besides names. -/
def pathWords : List String := ["super", "self", "Self", "crate"]

/-- A path begins here. -/
def beginsPath (ts : List Token) : Bool :=
  atName ts || atOneOf pathWords ts || atSign "::" ts || atSign "<" ts

/-- A type; the flag says whether bounds may be added to it. -/
def type (mayAdd : Bool) : Phrase TypeForm := do
  let isBound ← binder g
  let ts ← ahead
  if isBound && !(atName ts || atOneOf (["fn", "unsafe", "extern"] ++ pathWords) ts) then
    wantedOneOf ["identifier", "`fn`", "`unsafe`", "`extern`", "`super`", "`self`", "`Self`",
      "`crate`"]
  else
    choose
      [(atGroup .round, enclosedType g mayAdd),
        (atOneOf ["fn", "unsafe", "extern"], functionType g),
        (beginsPath, pathType g isBound mayAdd),
        (atWord "dyn", object g mayAdd),
        (atGroup .square, sequenceType g),
        (atSign "*", pointer g),
        (atSign "&", reference g),
        (atSign "!", do sign "!"; return .other),
        (atWord "impl", hidden g mayAdd),
        (atWord "_", do keyword "_"; return .other),
        (atLifetime, do objectBounds g true; return .bounds false)]
      (wantedOneOf ["`for`", "parentheses", "`fn`", "`unsafe`", "`extern`", "identifier", "`::`",
        "`<`", "`dyn`", "square brackets", "`*`", "`&`", "`!`", "`impl`", "`_`", "lifetime"])

end RowFilter.Record.Phrase
