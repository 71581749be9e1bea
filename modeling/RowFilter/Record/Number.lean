import RowFilter.Text.Digits
import RowFilter.Text.Identifier

/-!
# Numbers

A number is cut from a text as far as its digits, its fraction and its exponent go, together with
the word that may follow as a suffix. Spelled, it is whole unless it has a point or an exponent.
-/

namespace RowFilter.Record.Number

open Text (isIdentifierStart isIdentifierPart)

/-! ## Cutting -/

/-- What follows decimal digits and underscores. -/
def afterDecimals (cs : List Char) : List Char := cs.dropWhile fun c => c.isDigit || c == '_'

/-- What follows an exponent, after its letter: one sign at most, and one digit at least. -/
def afterExponent (hasSign hasDigit : Bool) : List Char → Option (List Char)
  | [] => if hasDigit then some [] else none
  | c :: cs =>
    if (c == '+' || c == '-') && !hasDigit then
      if hasSign then none else afterExponent true false cs
    else if c.isDigit then afterExponent hasSign true cs
    else if c == '_' then afterExponent hasSign hasDigit cs
    else if hasDigit then some (c :: cs)
    else none

/-- The letter of an exponent. -/
def isExponentLetter (c : Char) : Bool := c == 'e' || c == 'E'

/-- What follows a number with a fraction or an exponent. A point belongs to a number unless a
second one or a word comes next. -/
def afterFraction (cs : List Char) : Option (List Char) :=
  match afterDecimals cs with
  | '.' :: more =>
    if more.head?.any fun c => c == '.' || isIdentifierStart c then none
    else
      match afterDecimals more with
      | c :: rest =>
        if isExponentLetter c then some ((afterExponent false false rest).getD (c :: rest))
        else some (c :: rest)
      | [] => some []
  | c :: rest => if isExponentLetter c then afterExponent false false rest else none
  | [] => none

/-- The base that a number announces, and its digits. -/
def base : List Char → Nat × List Char
  | '0' :: 'x' :: cs => (16, cs)
  | '0' :: 'o' :: cs => (8, cs)
  | '0' :: 'b' :: cs => (2, cs)
  | cs => (10, cs)

/-- What follows the digits of a base, one at least. A decimal digit beyond the base is none. -/
def afterDigits (base : Nat) (hasDigit : Bool) : List Char → Option (List Char)
  | [] => if hasDigit then some [] else none
  | c :: cs =>
    if c == '_' then afterDigits base hasDigit cs
    else
      match Text.Digits.hex? c with
      | some d =>
        if d < base then afterDigits base true cs
        else if c.isDigit then none
        else if hasDigit then some (c :: cs)
        else none
      | none => if hasDigit then some (c :: cs) else none

/-- What follows a suffix, if there is one; no letter or digit may be left over. -/
def afterSuffix (cs : List Char) : Option (List Char) :=
  let rest := if cs.head?.any isIdentifierStart then cs.dropWhile isIdentifierPart else cs
  if rest.head?.any isIdentifierPart then none else some rest

/-- What follows the number at the head. -/
def afterNumber (cs : List Char) : Option (List Char) :=
  if cs.head?.any Char.isDigit then
    ((afterFraction cs).bind afterSuffix).or
      ((afterDigits (base cs).1 false (base cs).2).bind afterSuffix)
  else none

/-! ## Spelling -/

/-- What stands after the letter is an exponent, not the rest of a suffix. -/
def isExponent (hasDigit : Bool) : List Char → Bool
  | [] => hasDigit
  | c :: cs =>
    if c == '_' then isExponent hasDigit cs
    else if c == '+' || c == '-' then true
    else if c.isDigit then isExponent true cs
    else hasDigit

/-- The value of the digits at the head, on what has been read so far, and the suffix after them;
nothing if the number is not whole. -/
def wholeFrom (base : Nat) (value : Option Nat) : List Char → Option (Nat × List Char)
  | [] => value.map (·, [])
  | c :: cs =>
    if c == '_' then wholeFrom base value cs
    else if c.isDigit || (base == 16 && (Text.Digits.hex? c).isSome) then
      match Text.Digits.hex? c with
      | some d => if d < base then wholeFrom base (some (value.getD 0 * base + d)) cs else none
      | none => none
    else if base == 10 && (c == '.' || isExponentLetter c && isExponent false cs) then none
    else value.map (·, c :: cs)

/-- The value of a whole number, and its suffix. -/
def whole? (spelling : String) : Option (Nat × List Char) :=
  wholeFrom (base spelling.toList).1 none (base spelling.toList).2

/-- The pieces of a number between its points. -/
def pieces : List Char → List (List Char)
  | [] => [[]]
  | c :: cs =>
    if c == '.' then [] :: pieces cs
    else
      match pieces cs with
      | [] => [[c]]
      | p :: ps => (c :: p) :: ps

end RowFilter.Record.Number
