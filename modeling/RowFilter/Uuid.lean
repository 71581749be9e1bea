import RowFilter.Text.Digits

/-!
# Universally unique identifiers

A UUID is a number of 128 bits. It is written as thirty-two lower-case hexadecimal digits in five
groups; it is read with or without the hyphens, and with them also between braces or after
`urn:uuid:`, digits being of either case.
-/

namespace RowFilter

/-- A number of 128 bits. -/
structure Uuid where
  value : Nat
  bound : value < 0x100000000000000000000000000000000
  deriving DecidableEq

namespace Uuid

open Text

/-- A number's hexadecimal digits, a given count of them. -/
def hexDigits : Nat → Nat → List Char
  | 0, _ => []
  | n + 1, value => hexDigits n (value / 16) ++ [Nat.digitChar (value % 16)]

/-- The groups of digits with hyphens between them. -/
def hyphenated (digits : List Char) : List Char :=
  digits.take 8 ++ '-' :: (digits.drop 8).take 4 ++ '-' :: (digits.drop 12).take 4
    ++ '-' :: (digits.drop 16).take 4 ++ '-' :: digits.drop 20

/-- The written form. -/
def text (u : Uuid) : String := String.ofList (hyphenated (hexDigits 32 u.value))

/-- The UUID of thirty-two digits. -/
def ofDigits? (digits : List Char) : Option Uuid :=
  if digits.length = 32 then
    (Digits.valueIn? 16 digits).bind fun v =>
      if h : v < 0x100000000000000000000000000000000 then some ⟨v, h⟩ else none
  else none

/-- The UUID of a text with its hyphens in place. -/
def ofHyphenated? (cs : List Char) : Option Uuid :=
  let digits := cs.filter (· != '-')
  if hyphenated digits = cs then ofDigits? digits else none

/-- The UUID of a text in any of its forms. -/
def ofText? (text : String) : Option Uuid :=
  let cs := text.toList
  if cs.length = 32 then ofDigits? cs
  else if cs.length = 38 ∧ cs.head? = some '\x7b' ∧ cs.getLast? = some '\x7d' then
    ofHyphenated? ((cs.drop 1).take 36)
  else if cs.length = 45 ∧ cs.take 9 = "urn:uuid:".toList then ofHyphenated? (cs.drop 9)
  else ofHyphenated? cs

end Uuid
end RowFilter
