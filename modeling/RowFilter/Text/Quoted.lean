import RowFilter.Text.Printable

/-!
# Quoted texts

Three ways to write a text between double quotes. `json` escapes what JSON must: the quote, the
backslash and the controls. `shown` escapes whatever a reader could not see as well. `literal` does
so for text that goes into a program, where a nought before an octal digit would be misread.
-/

namespace RowFilter.Text.Quoted

/-- The lower-case hexadecimal digits of a number. -/
def hexDigits (n : Nat) : List Char := Nat.toDigits 16 n

/-- Four hexadecimal digits at least. -/
def hexFour (n : Nat) : List Char :=
  let ds := hexDigits n
  List.replicate (4 - ds.length) '0' ++ ds

/-- One character inside a JSON string. -/
def jsonChar (c : Char) : List Char :=
  match c with
  | '"' => ['\\', '"']
  | '\\' => ['\\', '\\']
  | '\n' => ['\\', 'n']
  | '\r' => ['\\', 'r']
  | '\t' => ['\\', 't']
  | c =>
    if c.toNat = 8 then ['\\', 'b']
    else if c.toNat = 12 then ['\\', 'f']
    else if c.toNat < 32 then '\\' :: 'u' :: hexFour c.toNat
    else [c]

/-- A text as a JSON string. -/
def json (s : String) : String :=
  String.ofList ('"' :: (s.toList.flatMap jsonChar ++ ['"']))

/-- One character of a shown text: hidden ones by their code point. -/
def shownChar (c : Char) : List Char :=
  match c with
  | '"' => ['\\', '"']
  | '\\' => ['\\', '\\']
  | '\n' => ['\\', 'n']
  | '\r' => ['\\', 'r']
  | '\t' => ['\\', 't']
  | c =>
    if c.toNat = 0 then ['\\', '0']
    else if isPrintable c then [c]
    else '\\' :: 'u' :: '\x7b' :: (hexDigits c.toNat ++ ['\x7d'])

/-- A text as it is shown between quotes. -/
def shown (s : String) : String :=
  String.ofList ('"' :: (s.toList.flatMap shownChar ++ ['"']))

/-- The characters of a literal: as shown, except for a nought before an octal digit. -/
def literalChars : List Char → List Char
  | [] => []
  | c :: cs =>
    (if c.toNat = 0 ∧ cs.head?.any fun d => '0' ≤ d && d ≤ '7' then ['\\', 'x', '0', '0']
      else shownChar c) ++ literalChars cs

/-- A text as a literal. -/
def literal (s : String) : String := String.ofList ('"' :: (literalChars s.toList ++ ['"']))

end RowFilter.Text.Quoted
