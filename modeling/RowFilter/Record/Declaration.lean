import RowFilter.Record.Token

/-!
# Declarations

A declaration gives a type its name, its parameters and its members, each with annotations of its
own. Only a record has members that are named; the other kinds are told apart from text that
declares nothing.
-/

namespace RowFilter.Record

/-! ## What is declared -/

/-- A path as the name of an annotation. -/
structure Path where
  isRooted : Bool
  words : List Word
  deriving DecidableEq

/-- The one word of a path, if it has but one. -/
def Path.word? (p : Path) : Option Word :=
  match p.isRooted, p.words with
  | false, [w] => some w
  | _, _ => none

/-- The path is one word that is not raw. -/
def Path.isPlain (p : Path) (name : String) : Bool := p.word? == some ⟨name, false⟩

/-- What is given to an annotation. -/
inductive Arguments where
  | nothing
  | listed (b : Bracket) (content : List Token)
  | assigned (value : List Token)

/-- An annotation. -/
structure Annotated where
  path : Path
  arguments : Arguments

/-- A member of a record. -/
structure Member where
  annotations : List Annotated
  name : Word

/-- What a parameter stands for, with its bounds or its type, and its default if it has one. -/
inductive ParameterKind where
  | lifetime (name : String) (bounds : List Token)
  | type (name : Word) (bounds default : List Token)
  | const (name : Word) (type default : List Token)

/-- A parameter of a type. -/
structure Parameter where
  annotations : List Annotated
  kind : ParameterKind

/-- An item of a list with commas: what was read, how it is written, and whether a comma stands
after it. -/
structure Listed (α : Type) where
  value : α
  isLifetime : Bool
  tokens : List Token
  hasComma : Bool

/-- What a type is made of. -/
inductive Shape where
  /-- Named members. -/
  | record (members : List Member)
  /-- Members without names. -/
  | tuple
  /-- No members. -/
  | unit
  /-- One of several alternatives. -/
  | choice
  /-- Members that share their place. -/
  | overlay

/-- A declared type. -/
structure Declaration where
  annotations : List Annotated
  name : Word
  parameters : List (Listed Parameter)
  /-- What is asked of the parameters, with the word before it; nothing if there is no condition. -/
  conditions : List Token
  shape : Shape

/-! ## Writing paths and annotations -/

/-- A path. -/
def Path.tokens (p : Path) : List Token :=
  let words := p.words.map Token.word
  (if p.isRooted then Token.sign [':', ':'] else [])
    ++ (words.intersperse (.mark ':' true)).flatMap fun
      | .mark c _ => Token.sign [c, c]
      | t => [t]

/-- An annotation. -/
def Annotated.tokens (a : Annotated) : List Token :=
  let arguments := match a.arguments with
    | .nothing => []
    | .listed b content => [Token.group b content]
    | .assigned value => Token.mark '=' false :: value
  [.mark '#' false, .group .square (a.path.tokens ++ arguments)]

/-! ## Writing parameters -/

/-- Bounds after a colon, if there are any. -/
def boundTokens (bounds : List Token) : List Token :=
  if bounds.isEmpty then [] else Token.mark ':' false :: bounds

/-- A default after its sign, if there is one. -/
def defaultTokens (default : List Token) : List Token :=
  if default.isEmpty then [] else Token.mark '=' false :: default

namespace Parameter

/-- The parameter is a lifetime. -/
def isLifetime (p : Parameter) : Bool :=
  match p.kind with
  | .lifetime _ _ => true
  | _ => false

/-- A parameter as it is declared, without its default. -/
def declared (p : Parameter) : List Token :=
  p.annotations.flatMap Annotated.tokens ++
    match p.kind with
    | .lifetime name bounds => .lifetime name :: boundTokens bounds
    | .type name bounds _ => .word name :: boundTokens bounds
    | .const name type _ => Token.plain "const" :: .word name :: .mark ':' false :: type

/-- The default of a parameter, after its sign. -/
def default (p : Parameter) : List Token :=
  match p.kind with
  | .lifetime _ _ => []
  | .type _ _ default => defaultTokens default
  | .const _ _ default => defaultTokens default

/-- A parameter as it is declared, with its default. -/
def tokens (p : Parameter) : List Token := p.declared ++ p.default

/-- A parameter as it is used. -/
def used (p : Parameter) : List Token :=
  match p.kind with
  | .lifetime name _ => [.lifetime name]
  | .type name _ _ => [.word name]
  | .const name _ _ => [.word name]

end Parameter

/-! ## Writing lists -/

namespace Listed

/-- An item with its comma. -/
def withComma {α : Type} (i : Listed α) : List Token :=
  i.tokens ++ if i.hasComma then [.mark ',' false] else []

/-- An item written in another way. -/
def writtenBy {α : Type} (write : α → List Token) (i : Listed α) : Listed α :=
  { i with tokens := write i.value }

end Listed

/-- Items between angle brackets, the lifetimes first. A comma is put after the last lifetime if it
had none and others follow. -/
def angled {α : Type} (items : List (Listed α)) : List Token :=
  let lifetimes := items.filter Listed.isLifetime
  let others := items.filter fun i => !i.isLifetime
  let between :=
    if lifetimes.getLast?.any (fun i => !i.hasComma) && !others.isEmpty then [Token.mark ',' false]
    else []
  [.mark '<' false] ++ lifetimes.flatMap Listed.withComma ++ between
    ++ others.flatMap Listed.withComma ++ [.mark '>' false]

/-- Parameters between angle brackets, if there are any. -/
def parameterTokens (write : Parameter → List Token) (ps : List (Listed Parameter)) : List Token :=
  if ps.isEmpty then [] else angled (ps.map (Listed.writtenBy write))

end RowFilter.Record
