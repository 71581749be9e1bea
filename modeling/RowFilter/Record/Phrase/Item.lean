import RowFilter.Record.Phrase.Member
import RowFilter.Record.Phrase.Expression

/-!
# Items

Items declare functions, types, constants, modules and traits, or say what is used from elsewhere.
Some forms are read though they mean nothing yet; these are kept as they stand, with the annotations
before them.
-/

namespace RowFilter.Record.Phrase

variable (g : Grammar)

/-! ## Functions -/

/-- A function begins here, after words that say how it is called. -/
def beginsFunction (mayBeSafe : Bool) (ts : List Token) : Bool :=
  let ts := dropWord "async" (dropWord "const" ts)
  let ts := if mayBeSafe && atWord "safe" ts then ts.drop 1 else dropWord "unsafe" ts
  atWord "fn" (if atWord "extern" ts then ts.drop (if atText (ts.drop 1) then 2 else 1) else ts)

/-- What an input of a function is. -/
inductive InputForm where
  | receiver
  | value
  /-- Any number of further inputs. -/
  | rest
  deriving DecidableEq

/-- What a method is called on. -/
def receiver : Phrase Unit := do
  let isReferred ← trySign "&"
  if isReferred then discard tryLifetime
  discard (tryKeyword "mut")
  keyword "self"
  if !isReferred && (← trySign ":") then discard (g.type true)

/-- An input of a function. One that is only a type with arguments is written with a pattern. -/
def patternInput : Phrase InputForm := do
  if ← attempt (receiver g) then return .receiver
  let ts ← ahead
  if atName ts && atSign "<" (ts.drop 1) then write [Token.plain "_", .mark ':' false]
  else
    discard g.pattern
    sign ":"
    if ← trySign "..." then return .rest
  discard (g.type true)
  return .value

/-- Inputs of a function; a receiver comes first. -/
def patternInputs : Phrase Unit :=
  discard (iterate (fun read => do
    if (← ahead).isEmpty then return (read, false)
    discard (annotations g)
    let form ← if ← trySign "..." then pure .rest else patternInput g
    if form == .rest then
      if !(← ahead).isEmpty then sign ","
      return (read, false)
    if form == .receiver && !read.isEmpty then broken (.lateReceiver (read.contains .receiver))
    let read := read ++ [form]
    if (← ahead).isEmpty then return (read, false)
    sign ","
    return (read, true)) [])

/-- A function without its body; says whether it is called safe. -/
def signature (mayBeSafe : Bool) : Phrase Bool := do
  discard (tryKeyword "const")
  discard (tryKeyword "async")
  let isUnsafe ← tryKeyword "unsafe"
  let isSafe ← if mayBeSafe && !isUnsafe then tryKeyword "safe" else pure false
  tryConvention
  keyword "fn"
  discard name
  discard (parameters g)
  within .round (patternInputs g)
  result g true
  discard (conditions g)
  return isSafe

/-! ## Values -/

/-- A value, if one is given; says whether one is. -/
def value : Phrase Bool := do
  let isGiven ← trySign "="
  if isGiven then discard (g.expression true)
  return isGiven

/-- A constant. It is kept as it stands if it has parameters, or no value where it needs one. -/
def constItem (start : Cursor) (needsValue : Bool) : Phrase Unit := do
  keyword "const"
  let ts ← ahead
  if atName ts || atWord "_" ts then discard anyWord else wantedOneOf ["identifier", "`_`"]
  let hasParameters := atSign "<" (← ahead)
  discard (parameters g)
  sign ":"
  discard (g.type true)
  let hasValue ← value g
  let hasConditions := atWord "where" (← ahead)
  discard (conditions g)
  sign ";"
  if hasParameters || hasConditions || needsValue && !hasValue then asItStood start

/-- A variable of its own place. It is kept as it stands if it lacks its type or its value. -/
def staticItem (start : Cursor) : Phrase Unit := do
  keyword "static"
  discard (tryKeyword "mut")
  discard name
  let hasType := !atSign "=" (← ahead)
  if hasType then
    sign ":"
    discard (g.type true)
  let hasValue := !(hasType && atSign ";" (← ahead))
  if hasValue then
    sign "="
    discard (g.expression true)
  sign ";"
  if !hasType || !hasValue then asItStood start

/-! ## Types -/

/-- What a named type stands for: its bounds, its definition, and where its conditions stand. -/
structure TypeItemForm where
  isBound : Bool
  isDefined : Bool

/-- The bounds of a type or a trait after a colon, if there are any. -/
def boundsAfterColon (ends : List Token → Bool) : Phrase Unit := do
  write (boundTokens (← afterColon (series ends "+" (bareBound g))))

/-- A name for a type. Conditions stand before its definition, after it, or in either place. -/
def typeItem (mayStandBefore mayStandAfter : Bool) : Phrase TypeItemForm := do
  keyword "type"
  discard name
  discard (parameters g)
  let isBound := atSign ":" (← ahead)
  boundsAfterColon g fun ts => atWord "where" ts || atSign "=" ts || atSign ";" ts
  let standsBefore := mayStandBefore && atWord "where" (← ahead)
  if standsBefore then discard (conditions g)
  let isDefined ← trySign "="
  if isDefined then discard (g.type true)
  if mayStandAfter && !standsBefore then discard (conditions g)
  sign ";"
  return { isBound, isDefined }

/-- A declared type, after the word for its kind. -/
def declaredType {α : Type} (word : String) (shape : Phrase α) : Phrase Unit := do
  keyword word
  discard name
  discard (parameters g)
  discard shape

/-! ## Calls that another program replaces -/

/-- Such a call as an item, perhaps with a name. -/
def callItem (mayBeNamed : Bool) : Phrase Unit := do
  discard wordPath
  sign "!"
  if mayBeNamed then
    let ts ← ahead
    if atWord "try" ts || atName ts then discard anyWord
  let b ← anyGroup
  if b != .curly then sign ";"

/-- Such a call may begin here. -/
def beginsCallItem (ts : List Token) : Bool :=
  atName ts || atOneOf ["self", "super", "crate"] ts || atSign "::" ts

/-! ## Traits and implementations -/

/-- An item of a trait. -/
def traitItem : Phrase Unit := do
  let start ← get
  discard (annotations g)
  let isSeen := atWord "pub" (← ahead)
  visibility
  let isDefault ← tryKeyword "default"
  choose
    [(beginsFunction false, do
        discard (signature g false)
        let ts ← ahead
        if atGroup .curly ts then block g
        else if !(← trySign ";") then wantedOneOf ["curly braces", "`;`"]),
      (atWord "const", constItem g start false),
      (atWord "type", discard (typeItem g false true)),
      (fun ts => !isSeen && !isDefault && beginsCallItem ts, callItem false)]
    (wantedOneOf ["`fn`", "`const`", "`type`"])
  if isSeen || isDefault then asItStood start

/-- A trait, or another name for traits. -/
def traitDeclaration : Phrase Unit := do
  let isUnsafe ← tryKeyword "unsafe"
  let isAuto ← tryKeyword "auto"
  keyword "trait"
  discard name
  discard (parameters g)
  if !isUnsafe && !isAuto && (← trySign "=") then
    discard (series (fun ts => atWord "where" ts || atSign ";" ts) "+" (bound g false false))
    discard (conditions g)
    sign ";"
  else
    boundsAfterColon g fun ts => atWord "where" ts || atGroup .curly ts
    discard (conditions g)
    within .curly do
      discard (innerAnnotations g)
      discard (many (fun ts => !ts.isEmpty) (traitItem g))

/-- An item of an implementation. -/
def memberItem : Phrase Unit := do
  let start ← get
  discard (annotations g)
  let isSeen := atWord "pub" (← ahead)
  visibility
  let ts ← ahead
  let isDefault := atWord "default" ts && !atSign "!" (ts.drop 1)
  if isDefault then keyword "default"
  choose
    [(beginsFunction false, do
        discard (signature g false)
        if ← trySign ";" then asItStood start else block g),
      (atWord "const", constItem g start true),
      (atWord "type", do
        let form ← typeItem g false true
        if form.isBound || !form.isDefined then asItStood start),
      (fun ts => !isSeen && !isDefault && beginsCallItem ts, callItem false)]
    (wantedOneOf ["`fn`", "`const`", "`type`"])

/-- An implementation. One that can be seen, that is constant, or whose trait is no path, is kept as
it stands. -/
def implementation (start : Cursor) (isSeen : Bool) : Phrase Unit := do
  discard (tryKeyword "default")
  discard (tryKeyword "unsafe")
  keyword "impl"
  if beginsParameters (← ahead) then discard (parameters g)
  let ts ← ahead
  let isConst := atWord "const" ts || atSign "?" ts && atWord "const" (ts.drop 1)
  if isConst then
    discard (trySign "?")
    keyword "const"
  let ts ← ahead
  let isNegated := atSign "!" ts && !atGroup .curly (ts.drop 1)
  if isNegated then sign "!"
  let isTrait := match ← g.type true with
    | .path p => !p.isQualified
    | _ => false
  let isFor ← tryKeyword "for"
  if isFor then discard (g.type true)
  else if isNegated then broken .negatedInherent
  discard (conditions g)
  within .curly do
    discard (innerAnnotations g)
    discard (many (fun ts => !ts.isEmpty) (memberItem g))
  if isSeen || isConst || isFor && !isTrait then asItStood start

/-! ## What comes from elsewhere -/

/-- An item that is defined elsewhere. -/
def foreignItem : Phrase Unit := do
  let start ← get
  discard (annotations g)
  let isSeen := atWord "pub" (← ahead)
  visibility
  choose
    [(beginsFunction true, do
        let isSafe ← signature g true
        let hasBody := atGroup .curly (← ahead)
        if hasBody then block g else sign ";"
        if isSafe || hasBody then asItStood start),
      (fun ts => atWord "static" ts || atOneOf ["unsafe", "safe"] ts && atWord "static" (ts.drop 1),
        do
        let isMarked := !atWord "static" (← ahead)
        if isMarked then discard anyWord
        keyword "static"
        discard (tryKeyword "mut")
        discard name
        sign ":"
        discard (g.type true)
        let hasValue ← value g
        sign ";"
        if isMarked || hasValue then asItStood start),
      (atWord "type", do
        let form ← typeItem g true true
        if form.isBound || form.isDefined then asItStood start),
      (fun ts => !isSeen && beginsCallItem ts, callItem false)]
    (wantedOneOf ["`fn`", "`static`", "`type`"])

/-- Items that are defined elsewhere. -/
def foreignItems : Phrase Unit := do
  discard (tryKeyword "unsafe")
  convention
  within .curly do
    discard (innerAnnotations g)
    discard (many (fun ts => !ts.isEmpty) (foreignItem g))

/-- A name, or the word for none. -/
def otherName : Phrase Unit := do
  if ← tryKeyword "as" then
    let ts ← ahead
    if atName ts || atWord "_" ts then discard anyWord else wantedOneOf ["identifier", "underscore"]

/-- What is used of a path; the flag says whether it may begin with a separator, and the answer
whether something in it did. -/
def used (mayBeRooted : Bool) : Phrase Bool := do
  let ts ← ahead
  if atName ts || atOneOf ["self", "super", "crate", "try"] ts then
    discard anyWord
    if ← trySign "::" then discard (g.use false) else otherName
    return false
  else if atSign "*" ts then
    sign "*"
    return false
  else if atGroup .curly ts then
    let rooted ← within .curly (list do
      let isRooted ← if mayBeRooted then trySign "::" else pure false
      return (← g.use (mayBeRooted && !isRooted)) || isRooted)
    return rooted.any id
  else wantedOneOf ["identifier", "`self`", "`super`", "`crate`", "`try`", "`*`", "curly braces"]

/-- What is used from elsewhere. -/
def useItem (start : Cursor) : Phrase Unit := do
  keyword "use"
  let isRooted ← trySign "::"
  let holdsRooted ← used g (!isRooted)
  sign ";"
  if holdsRooted then asItStood start

/-- A library that is used. -/
def libraryItem : Phrase Unit := do
  keyword "extern"
  keyword "crate"
  if atWord "self" (← ahead) then discard anyWord else discard name
  otherName
  sign ";"

/-! ## Modules -/

/-- A module, with its items or without. -/
def moduleItem : Phrase Unit := do
  discard (tryKeyword "unsafe")
  keyword "mod"
  if atWord "try" (← ahead) then discard anyWord else discard name
  let ts ← ahead
  if atGroup .curly ts then
    within .curly do
      discard (innerAnnotations g)
      discard (many (fun ts => !ts.isEmpty) g.item)
  else if !(← trySign ";") then wantedOneOf ["`;`", "curly braces"]

/-- How texts are replaced, which is kept as it stands. -/
def replacementItem (start : Cursor) : Phrase Unit := do
  keyword "macro"
  discard name
  let hasInput := atGroup .round (← ahead)
  if hasInput then discard anyGroup
  if atGroup .curly (← ahead) then discard anyGroup
  else if hasInput then wanted "curly braces"
  else wantedOneOf ["parentheses", "curly braces"]
  asItStood start

/-! ## All items -/

/-- A function with its body. One without is kept as it stands. -/
def functionItem (start : Cursor) : Phrase Unit := do
  discard (signature g false)
  if ← trySign ";" then asItStood start else block g

/-- Items that begin with the word for what comes from outside. Only a library can be seen by
others. -/
def externItem (isSeen : Bool) : Phrase Unit := do
  let next := (← ahead).drop 1
  if atWord "crate" next then libraryItem
  else if isSeen then throw (.expected "`extern`" false)
  else if atGroup .curly next then foreignItems g
  else if !atText next then
    throw (.expected (Refusal.oneOf ["`crate`", "curly braces", "string literal"]) next.isEmpty)
  else if atGroup .curly (next.drop 1) then foreignItems g
  else throw (.expected "curly braces" (next.drop 1).isEmpty)

/-- An item. -/
def item : Phrase Unit := do
  let start ← get
  discard (annotations g)
  let isSeen := atWord "pub" (← ahead)
  visibility
  choose
    [(beginsFunction false, functionItem g start),
      (atWord "extern", externItem g isSeen),
      (atWord "use", useItem g start),
      (atWord "static", staticItem g start),
      (atWord "const", constItem g start true),
      (fun ts => atWord "unsafe" ts && atWord "extern" (ts.drop 1), do
        if isSeen then throw (.expected "`extern`" false) else foreignItems g),
      (fun ts => atWord "mod" ts || atWord "unsafe" ts && atWord "mod" (ts.drop 1), moduleItem g),
      (atWord "type", do
        let form ← typeItem g true false
        if form.isBound || !form.isDefined then asItStood start),
      (atWord "struct", declaredType g "struct" (recordShape g)),
      (atWord "enum", declaredType g "enum" (choiceShape g)),
      (fun ts => atWord "union" ts && atName (ts.drop 1),
        declaredType g "union" (overlayShape g)),
      (fun ts => let ts := dropWord "unsafe" ts
          atWord "trait" ts || atWord "auto" ts && atWord "trait" (ts.drop 1),
        traitDeclaration g),
      (fun ts => atWord "impl" ts || atWord "unsafe" ts && atWord "impl" (ts.drop 1)
          || atWord "default" ts && !atSign "!" (ts.drop 1),
        implementation g start isSeen),
      (atWord "macro", replacementItem start),
      (fun ts => !isSeen && beginsCallItem ts, callItem true)]
    (wantedOneOf ["`fn`", "`extern`", "`use`", "`static`", "`const`", "`unsafe`", "`mod`", "`type`",
      "`struct`", "`enum`", "`union`", "`trait`", "`auto`", "`impl`", "`default`", "`macro`",
      "identifier", "`self`", "`super`", "`crate`", "`::`"])

end RowFilter.Record.Phrase
