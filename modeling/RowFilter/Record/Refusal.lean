import RowFilter.Record.Token

/-!
# Refusals

Why some tokens are not the phrase that was looked for. A refusal says what was expected, or which
rule the tokens break. Where nothing stands any more, the message says so first; only a missing sign
is reported in the same words wherever it is missing.
-/

namespace RowFilter.Record

/-- Rules that go beyond what may follow what. -/
inductive Rule where
  /-- Comparisons stand alone. -/
  | chainedComparison
  /-- What may not follow a cast. -/
  | afterCast (what : String)
  /-- A loop with a name, as the value of a break, stands between parentheses. -/
  | bareLoop
  /-- An object type has a trait. -/
  | objectWithoutTrait
  /-- A hidden type has a trait. -/
  | hiddenWithoutTrait
  /-- Lifetimes are captured by hidden types only. -/
  | strayCapture
  /-- A bound may not be constant, on condition or at all. -/
  | strayConst (onCondition : Bool)
  /-- An optional bound binds no lifetimes. -/
  | boundOptional
  /-- A range that begins with its sign has no annotations. -/
  | annotatedRange
  /-- An annotation assigns no annotation. -/
  | assignedAnnotated
  /-- Conditions bind no parameters. -/
  | parametersOfConditions
  /-- A statement ends with its sign. -/
  | unendedStatement
  /-- A receiver comes first. -/
  | lateReceiver (isSecond : Bool)
  /-- A place has no suffix. -/
  | suffixedPlace
  /-- A place is a number of thirty-two bits. -/
  | hugePlace
  /-- Only a trait can be left out. -/
  | negatedInherent
  /-- A range without one of its ends stands between parentheses, inside a list. -/
  | openRange
  deriving DecidableEq

/-- The rule in words. -/
def Rule.message : Rule → String
  | chainedComparison => "comparison operators cannot be chained"
  | afterCast what => "casts cannot be followed by " ++ what
  | bareLoop => "parentheses required"
  | objectWithoutTrait => "at least one trait is required for an object type"
  | hiddenWithoutTrait => "at least one trait must be specified"
  | strayCapture => "`use<...>` precise capturing syntax is not allowed here"
  | strayConst true => "`[const]` is not allowed here"
  | strayConst false => "`const` is not allowed here"
  | boundOptional => "`for<...>` binder not allowed with `?` trait polarity modifier"
  | annotatedRange => "attributes are not allowed on range expressions starting with `..`"
  | assignedAnnotated => "unexpected attribute inside of attribute"
  | parametersOfConditions =>
    "generic parameters on `where` clauses are reserved for future use"
  | unendedStatement => "unexpected token, expected `;`"
  | lateReceiver true => "unexpected second method receiver"
  | lateReceiver false => "unexpected method receiver"
  | suffixedPlace => "expected unsuffixed integer"
  | hugePlace => "number too large to fit in target type"
  | negatedInherent => "inherent impls cannot be negative"
  | openRange => "range pattern is not allowed unparenthesized inside slice pattern"

/-- Why some tokens are not a phrase. -/
inductive Refusal where
  /-- Something else was expected, perhaps where nothing stands. -/
  | expected (what : String) (atEnd : Bool)
  /-- A sign was expected. -/
  | expectedSign (sign : String)
  /-- Nothing that could be named was expected. -/
  | unexpected (atEnd : Bool)
  /-- A reserved word stands in for a name. -/
  | reservedWord (word : String)
  /-- Something follows where nothing should, perhaps before a closing bracket. -/
  | surplus (around : Option Bracket)
  /-- A rule is broken. -/
  | broken (rule : Rule)
  deriving DecidableEq

/-- The closing bracket. -/
def Bracket.closing : Bracket → Char
  | .round => ')'
  | .square => ']'
  | .curly => '\x7d'

/-- What a group between brackets is called. -/
def Bracket.name : Bracket → String
  | .round => "parentheses"
  | .square => "square brackets"
  | .curly => "curly braces"

namespace Refusal

/-- What was expected, said so that a missing end shows. -/
def wanting (what : String) (atEnd : Bool) : String :=
  if atEnd then "unexpected end of input, " ++ what else what

/-- The refusal in words. -/
def message : Refusal → String
  | expected what atEnd => wanting ("expected " ++ what) atEnd
  | expectedSign s => "expected `" ++ s ++ "`"
  | unexpected true => "unexpected end of input"
  | unexpected false => "unexpected token"
  | reservedWord w => "expected identifier, found keyword `" ++ w ++ "`"
  | surplus none => "unexpected token"
  | surplus (some b) => "unexpected token, expected `" ++ String.singleton b.closing ++ "`"
  | broken r => r.message

/-- One of several things that were expected. -/
def oneOf : List String → String
  | [] => ""
  | [a] => a
  | [a, b] => a ++ " or " ++ b
  | as => "one of: " ++ ", ".intercalate as

end Refusal
end RowFilter.Record
