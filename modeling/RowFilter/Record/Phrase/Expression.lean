import RowFilter.Record.Phrase.Pattern

/-!
# Expressions

An expression is made of operands with operators between them. An operand begins with an atom, may
have signs before it, and goes on with calls, members and places. Operators bind by precedence;
comparisons do not chain, and a range is not an operand of what follows it. Where a block follows an
expression, braces after a path do not belong to it.
-/

namespace RowFilter.Record.Phrase

variable (g : Grammar)

/-! ## Operators -/

/-- Signs between two operands, the longer ones first where one begins another. -/
def operatorSigns : List (String × Precedence) :=
  [("+=", .assign), ("-=", .assign), ("*=", .assign), ("/=", .assign), ("%=", .assign),
    ("^=", .assign), ("&=", .assign), ("|=", .assign), ("<<=", .assign), (">>=", .assign),
    ("&&", .and), ("||", .or), ("<<", .shift), (">>", .shift), ("==", .compare), ("<=", .compare),
    ("!=", .compare), (">=", .compare), ("+", .sum), ("-", .sum), ("*", .product),
    ("/", .product), ("%", .product), ("^", .bitXor), ("&", .bitAnd), ("|", .bitOr),
    ("<", .compare), (">", .compare)]

/-- The operator at the head. -/
def atOperator (ts : List Token) : Option (String × Precedence) :=
  operatorSigns.find? fun o => atSign o.1 ts

/-- The precedence of what stands at the head, if it goes on with an expression. -/
def precedenceOf (ts : List Token) : Option Precedence :=
  match atOperator ts with
  | some (_, p) => some p
  | none =>
    if atSign "=" ts && !atSign "=>" ts then some .assign
    else if atSign ".." ts then some .range
    else if atWord "as" ts then some .cast
    else none

/-- What binds in some precedence takes in what comes next: that binds tighter, or it assigns. -/
def takesIn (p next : Precedence) : Bool :=
  p.rank < next.rank || next == p && p == .assign

/-- What follows an operator. -/
def rightSide (allowsBraces : Bool) (p : Precedence) : Phrase Unit := do
  discard (iterate (fun e => do
    let ts ← ahead
    match precedenceOf ts with
    | none => return (e, false)
    | some next =>
      if takesIn p next then
        let e ← g.operators allowsBraces next e
        return (e, (← ahead).length < ts.length)
      else return (e, false)) (← g.operand allowsBraces))

/-- No expression for the end of a range stands here. -/
def endsOpenRange (allowsBraces : Bool) (ts : List Token) : Bool :=
  ts.isEmpty || atSign "," ts || atSign ";" ts || atSign "." ts && !atSign ".." ts || atSign "?" ts
    || atSign "=>" ts || !allowsBraces && atGroup .curly ts
    || ["=", "+", "/", "%", "^", ">", "<=", "!=", "-=", "*=", "&=", "|=", "<<="].any (atSign · ts)
    || atWord "as" ts

/-- The sign of a range, and its end if it has one. -/
def rangeTail (allowsBraces : Bool) : Phrase ExpressionForm := do
  let isClosed ← rangeSign false
  if isClosed || !endsOpenRange allowsBraces (← ahead) then rightSide g allowsBraces .range
  return .range

/-- A cast stands alone, or between other operators. -/
def checkCast : Phrase Unit := do
  let ts ← ahead
  let next := ts.drop 1
  let third := ts.drop 2
  if atSign "." ts && !atSign ".." ts then
    if atWord "await" next then broken (.afterCast "`.await`")
    else if atName next && (atGroup .round third || atSign "::" third) then
      broken (.afterCast "a method call")
    else broken (.afterCast "a field access")
  else if atSign "?" ts then broken (.afterCast "`?`")
  else if atGroup .square ts then broken (.afterCast "indexing")
  else if atGroup .round ts then broken (.afterCast "a function call")

/-- Operators of a precedence and above, with what follows them, after an expression. -/
def operators (allowsBraces : Bool) (base : Precedence) (e : ExpressionForm) :
    Phrase ExpressionForm :=
  iterate (fun e => do
    if e == .range then return (e, false)
    let ts ← ahead
    match precedenceOf ts with
    | none => return (e, false)
    | some p =>
      if p.rank < base.rank then return (e, false)
      match p with
      | .cast =>
        keyword "as"
        discard (g.type false)
        checkCast
        return (.other, true)
      | .range => return (← rangeTail g allowsBraces, true)
      | _ =>
        if p == .compare && e == .comparison then broken .chainedComparison
        sign ((atOperator ts).elim "=" (·.1))
        rightSide g allowsBraces p
        return (if p == .compare then .comparison else .other, true)) e

/-! ## Calls and members -/

/-- Expressions with commas between them, between parentheses. -/
def values : Phrase Unit := discard (within .round (list (g.expression true)))

/-- Places that are spelled as one number, with points between them; says whether a point is left
over after them. -/
def places (spelling : String) : Phrase Bool := do
  let cut := Number.pieces spelling.toList
  let isOpen := cut.getLast? == some []
  let ps := if isOpen then cut.dropLast else cut
  match ps with
  | [] => pure ()
  | first :: rest =>
    placeOf first
    discard (rest.mapM fun p => do
      write (Token.sign ['.'])
      placeOf p)
  if isOpen then write (Token.sign ['.'])
  return isOpen

/-- A member or a call of a method, or a wait, after a point. -/
def access : Phrase Unit := do
  if ← tryKeyword "await" then return
  let isNamed ← memberName
  let hasArguments := isNamed && atSign "::" (← ahead)
  if hasArguments then discard (arguments g)
  if hasArguments || isNamed && atGroup .round (← ahead) then values g

/-- What is called, looked up or asked for after an atom. -/
def trailers (e : ExpressionForm) : Phrase ExpressionForm :=
  iterate (fun e => do
    let ts ← ahead
    if atGroup .round ts then
      values g
      return (.other, true)
    else if atGroup .square ts then
      discard (within .square (g.expression true))
      return (.other, true)
    else if e != .range && atSign "." ts && !atSign ".." ts then
      sign "."
      match ← ahead with
      | .literal .number spelling _ :: _ =>
        if (Number.whole? spelling).isSome then access g
        else
          pass 1
          if ← places spelling then access g
      | _ => access g
      return (.other, true)
    else if e != .range && atSign "?" ts then
      sign "?"
      return (.other, true)
    else return (e, false)) e

/-! ## Paths -/

/-- A member and its value, which may be left out if it has a name. -/
def fieldValue : Phrase Unit := do
  discard (annotations g)
  let isNamed ← memberName
  if !isNamed || atSign ":" (← ahead) then
    sign ":"
    discard (g.expression true)

/-- Members between braces, and perhaps where the others come from. -/
def fieldValues : Phrase Unit :=
  discard (iterate (fun () => do
    if (← ahead).isEmpty then return ((), false)
    if ← trySign ".." then
      if !(← ahead).isEmpty then discard (g.expression true)
      return ((), false)
    fieldValue g
    if (← ahead).isEmpty then return ((), false)
    sign ","
    return ((), true)) ())

/-- A path, a record that is named by one, or a call that another program replaces. -/
def pathExpression (allowsBraces : Bool) : Phrase ExpressionForm := do
  let p ← qualifiedPath g true
  let ts ← ahead
  if beginsCall p ts then return .call (← call)
  if allowsBraces && atGroup .curly ts then within .curly (fieldValues g)
  return .other

/-! ## Blocks -/

/-- Blocks under conditions. -/
def conditional : Phrase ExpressionForm := do
  discard (iterate (fun () => do
    keyword "if"
    discard (g.expression false)
    plainBlock g
    if ← tryKeyword "else" then
      let ts ← ahead
      if atWord "if" ts then return ((), true)
      if !atGroup .curly ts then wantedOneOf ["`if`", "curly braces"]
      plainBlock g
    return ((), false)) ())
  return .block

/-- A loop under a condition. -/
def whileLoop : Phrase ExpressionForm := do
  keyword "while"
  discard (g.expression false)
  block g
  return .block

/-- A loop over what an expression gives. -/
def forLoop : Phrase ExpressionForm := do
  keyword "for"
  discard (alternatives g)
  keyword "in"
  discard (g.expression false)
  block g
  return .block

/-- A block after words. -/
def blockAfter (words : List String) (isPlain : Bool) (form : ExpressionForm) :
    Phrase ExpressionForm := do
  words.forM keyword
  if isPlain then plainBlock g else block g
  return form

/-- A block or a loop with a name. -/
def labelled : Phrase ExpressionForm := do
  discard lifetime
  sign ":"
  choose
    [(atWord "while", whileLoop g), (atWord "for", forLoop g),
      (atWord "loop", blockAfter g ["loop"] false .block),
      (atGroup .curly, blockAfter g [] false .block)]
    (wanted "loop or block expression")

/-- A function without a name begins here, after a word that may begin a loop. -/
def beginsBoundClosure (ts : List Token) : Bool :=
  atWord "for" ts && atSign "<" (ts.drop 1) && (atLifetime (ts.drop 2) || atSign ">" (ts.drop 2))

/-! ## Leaving -/

/-- An expression may begin here. -/
def beginsExpression (ts : List Token) : Bool :=
  atAnyWord ts || atGroup .round ts || atGroup .square ts || atGroup .curly ts || atLiteral ts
    || atSign "!" ts && !atSign "!=" ts
    || atSign "-" ts && !atSign "-=" ts && !atSign "->" ts
    || atSign "*" ts && !atSign "*=" ts
    || atSign "|" ts && !atSign "|=" ts
    || atSign "&" ts && !atSign "&=" ts
    || atSign ".." ts
    || atSign "<" ts && !atSign "<=" ts && !atSign "<<=" ts
    || atSign "::" ts || atLifetime ts || atSign "#" ts

/-- A word, and perhaps the value that is handed on. -/
def handing (word : String) : Phrase ExpressionForm := do
  keyword word
  if beginsExpression (← ahead) then discard (g.expression true)
  return .other

/-- A break out of a loop, perhaps a named one, and perhaps with a value. -/
def breaking (allowsBraces : Bool) : Phrase ExpressionForm := do
  keyword "break"
  let ts ← ahead
  if atLifetime ts && atSign ":" (ts.drop 1) then
    discard (g.expression true)
    broken .bareLoop
  discard tryLifetime
  let ts ← ahead
  if beginsExpression ts && (allowsBraces || !atGroup .curly ts) then discard (g.expression true)
  return .other

/-- A call in place of the function it stands in, which is kept as it stands. -/
def becoming : Phrase ExpressionForm := do
  let start ← get
  keyword "become"
  discard (g.expression true)
  asItStood start
  return .other

/-! ## Functions without a name -/

/-- An input of a function without a name. -/
def closureInput : Phrase Unit := do
  discard (annotations g)
  discard g.pattern
  if ← trySign ":" then discard (g.type true)

/-- A function without a name. -/
def closure (allowsBraces : Bool) : Phrase ExpressionForm := do
  discard (binder g)
  discard (tryKeyword "const")
  discard (tryKeyword "static")
  discard (tryKeyword "async")
  discard (tryKeyword "move")
  sign "|"
  discard (series (atSign "|") "," (closureInput g))
  sign "|"
  if ← trySign "->" then
    discard (g.type true)
    plainBlock g
  else discard (g.expression allowsBraces)
  return .other

/-- A function without a name begins here. -/
def beginsClosure (ts : List Token) : Bool :=
  let next := ts.drop 1
  atSign "|" ts || atWord "move" ts || beginsBoundClosure ts
    || atWord "const" ts && !atGroup .curly next || atWord "static" ts
    || atWord "async" ts && (atSign "|" next || atWord "move" next)

/-! ## Atoms -/

/-- A part of the language that is not settled yet, kept as it stands. -/
def builtin : Phrase ExpressionForm := do
  let start ← get
  keyword "builtin"
  sign "#"
  discard name
  if atGroup .round (← ahead) then discard anyGroup else wanted "parentheses"
  asItStood start
  return .other

/-- Values in a row, or one of them several times. -/
def row : Phrase Unit := do
  if (← ahead).isEmpty then return
  discard (g.expression true)
  let ts ← ahead
  if ts.isEmpty then return
  else if atSign "," ts then
    sign ","
    discard (list (g.expression true))
  else if atSign ";" ts then
    sign ";"
    discard (g.expression true)
  else wantedOneOf ["`,`", "`;`"]

/-- A pattern that is tried on what an expression gives. -/
def binding (allowsBraces : Bool) : Phrase ExpressionForm := do
  keyword "let"
  discard (alternatives g)
  sign "="
  discard (g.operators allowsBraces .compare (← g.operand allowsBraces))
  return .other

/-- Cases that are tried in turn on what an expression gives. -/
def cases : Phrase ExpressionForm := do
  keyword "match"
  discard (g.expression false)
  within .curly do
    discard (innerAnnotations g)
    discard (many (fun ts => !ts.isEmpty) g.arm)
  return .block

/-- Readers of what ends with a block, and is a statement of its own. -/
def blocks : List ((List Token → Bool) × Phrase ExpressionForm) :=
  [(atWord "if", conditional g),
    (atWord "while", whileLoop g),
    (fun ts => atWord "for" ts && !beginsBoundClosure ts, forLoop g),
    (atWord "loop", blockAfter g ["loop"] false .block),
    (atWord "match", cases g),
    (fun ts => atWord "try" ts && atGroup .curly (ts.drop 1), blockAfter g ["try"] true .block),
    (atWord "unsafe", blockAfter g ["unsafe"] false .block),
    (fun ts => atWord "const" ts && atGroup .curly (ts.drop 1),
      blockAfter g ["const"] false .block),
    (atGroup .curly, blockAfter g [] false .block),
    (atLifetime, labelled g)]

/-- Readers of all other atoms. -/
def atoms (allowsBraces : Bool) : List ((List Token → Bool) × Phrase ExpressionForm) :=
  [(atLiteral, do literal; return .other),
    (fun ts => atWord "async" ts && atGroup .curly (ts.drop 1), blockAfter g ["async"] true .other),
    (fun ts => atWord "async" ts && atWord "move" (ts.drop 1) && atGroup .curly (ts.drop 2),
      blockAfter g ["async", "move"] true .other),
    (beginsClosure, closure g allowsBraces),
    (fun ts => atWord "builtin" ts && atSign "#" (ts.drop 1), builtin),
    (fun ts => beginsPath ts
        || atWord "try" ts && (atSign "!" (ts.drop 1) || atSign "::" (ts.drop 1)),
      pathExpression g allowsBraces),
    (atGroup .round, do values g; return .other),
    (atWord "break", breaking g allowsBraces),
    (atWord "continue", do keyword "continue"; discard tryLifetime; return .other),
    (atWord "return", handing g "return"),
    (atWord "become", becoming g),
    (atGroup .square, do within .square (row g); return .other),
    (atWord "let", binding g allowsBraces),
    (atWord "yield", handing g "yield"),
    (atSign "..", rangeTail g allowsBraces),
    (atWord "_", do keyword "_"; return .other)]

/-! ## Operands -/

/-- The sign before an operand, if there is one. -/
def operandSign (ts : List Token) : Option String := ["&", "*", "!", "-"].find? (atSign · ts)

/-- What a reference gives access to. -/
def referred : Phrase Unit := do
  let ts ← ahead
  if atWord "raw" ts && atOneOf ["mut", "const"] (ts.drop 1) then copy 2
  else discard (tryKeyword "mut")

/-- An expression without operators between its parts. -/
def operand (allowsBraces : Bool) : Phrase ExpressionForm := do
  let before ← annotations g
  match operandSign (← ahead) with
  | some s =>
    sign s
    if s == "&" then referred
    discard (g.operand allowsBraces)
    return .other
  | none =>
    let e ← choose (blocks g ++ atoms g allowsBraces) (wanted "an expression")
    let e ← trailers g e
    if e == .range && !before.isEmpty then broken .annotatedRange
    return e

/-- An expression; the flag says whether braces after a path belong to it. -/
def expression (allowsBraces : Bool) : Phrase ExpressionForm := do
  operators g allowsBraces .jump (← operand g allowsBraces)

/-- An expression as a statement, or as what a case gives: it goes no further than a block that it
begins with, unless what that gives is called or looked up. -/
def boundedExpression : Phrase ExpressionForm := do
  discard (annotations g)
  let ts ← ahead
  match (blocks g).find? fun r => r.1 ts with
  | some (_, p) =>
    let e ← p
    let ts ← ahead
    if atSign "." ts && !atSign ".." ts || atSign "?" ts then
      operators g true .jump (← trailers g e)
    else return e
  | none => expression g true

/-- One case of several: a pattern, perhaps a condition, and what the case gives. -/
def arm : Phrase Unit := do
  discard (annotations g)
  discard (alternatives g)
  if ← tryKeyword "if" then discard (g.expression true)
  sign "=>"
  let e ← boundedExpression g
  if e != .block && !(← ahead).isEmpty then sign "," else discard (trySign ",")

end RowFilter.Record.Phrase
