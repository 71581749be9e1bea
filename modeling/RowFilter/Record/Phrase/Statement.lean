import RowFilter.Record.Phrase.Expression

/-!
# Statements

The statements of a block are items, names with what they are bound to, and expressions. An
expression needs a sign after it unless it is the last or ends with a block. A call that another
program replaces is a statement of its own if it has braces, or an item if it has a name.
-/

namespace RowFilter.Record.Phrase

variable (g : Grammar)

/-- A constant begins here that is an item. -/
def beginsConstItem (next third : List Token) : Bool :=
  !(atGroup .curly next || atWord "static" next
    || atWord "async" next && !atOneOf ["unsafe", "extern", "fn"] third
    || atWord "move" next || atSign "|" next)

/-- An item begins here. -/
def beginsItem (ts : List Token) : Bool :=
  let next := ts.drop 1
  let third := ts.drop 2
  atOneOf ["pub", "extern", "use", "fn", "mod", "type", "struct", "enum", "trait", "impl", "macro"]
      ts
    || atWord "crate" ts && !atSign "::" next
    || atWord "static" ts && (atWord "mut" next || atName next)
    || atWord "const" ts && beginsConstItem next third
    || atWord "unsafe" ts && !atGroup .curly next
    || atWord "async" ts && atOneOf ["unsafe", "extern", "fn"] next
    || atWord "union" ts && atName next
    || atWord "auto" ts && atWord "trait" next
    || atWord "default" ts && atOneOf ["unsafe", "impl"] next

/-- How a call begins, after its path, that another program replaces. -/
inductive CallForm where
  /-- It has a name, and is an item. -/
  | item
  /-- It has braces, and is a statement. -/
  | statement
  /-- There is no such call, or it is part of an expression. -/
  | none
  deriving DecidableEq

/-- How a call begins, after its path, that another program replaces. -/
def callForm (ts : List Token) : CallForm :=
  let next := ts.drop 1
  let third := ts.drop 2
  if !atSign "!" ts then .none
  else if atName next || atWord "try" next then .item
  else if atGroup .curly next && !(atSign "." third && !atSign ".." third || atSign "?" third) then
    .statement
  else .none

/-- A name, or several, with what they are bound to. What is done if nothing is bound does not
follow a brace. -/
def localBinding : Phrase Unit := do
  keyword "let"
  discard g.pattern
  if ← trySign ":" then discard (g.type true)
  if ← trySign "=" then
    discard (g.expression true)
    let endsBraced := atGroup .curly ((← get).written.take 1)
    if !endsBraced && (← tryKeyword "else") then plainBlock g
  sign ";"

/-- A statement; says whether it needs a sign after it. -/
def statement : Phrase Bool := do
  let start ← get
  discard (annotations g)
  let ts ← ahead
  let form := callForm ((← after? wordPath).getD [])
  if form == .statement then
    discard wordPath
    discard call
    discard (trySign ";")
    return false
  else if atWord "let" ts then
    localBinding g
    return false
  else if form == .item || beginsItem ts then
    set start
    g.item
    return false
  else
    let e ← boundedExpression g
    let isEnded ← trySign ";"
    return !(isEnded || e == .block || e == .call .curly)

/-- Statements that fill a block. -/
def statements : Phrase Unit :=
  discard (iterate (fun () => do
    discard (many (atSign ";") (sign ";"))
    if (← ahead).isEmpty then return ((), false)
    let needsSign ← statement g
    if (← ahead).isEmpty then return ((), false)
    if needsSign then broken .unendedStatement
    return ((), true)) ())

end RowFilter.Record.Phrase
