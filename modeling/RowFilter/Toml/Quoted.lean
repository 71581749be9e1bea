import RowFilter.Text.Digits

/-!
# Quoted texts of TOML

There are four ways to write a text. Between double quotes there are escapes, between single quotes
there are none. Three quotes on each side allow line breaks, and one or two quotes, inside the text;
a line break right after the opening is dropped, and one after a backslash is dropped together with
all blanks and line breaks that follow it.

Each unit of a text takes at least one character, which is what makes reading end.
-/

namespace RowFilter.Toml

/-! ## Characters -/

/-- A blank within a line. -/
def isSpace (c : Char) : Bool := c == ' ' || c == '\t'

/-- A character that may stand in a comment or a text. -/
def isVisible (c : Char) : Bool :=
  c == '\t' || (32 ≤ c.toNat && c.toNat != 127)

/-- A line break at the head, and the rest. -/
def newline? : List Char → Option (List Char)
  | '\n' :: cs => some cs
  | '\r' :: '\n' :: cs => some cs
  | _ => none

/-! ## Escapes -/

/-- The character with a code point of so many hexadecimal digits. -/
def codePoint? (width : Nat) (cs : List Char) : Option (Char × List Char) :=
  if (cs.take width).length = width then
    (Text.Digits.valueIn? 16 (cs.take width)).bind fun n =>
      if n.isValidChar then some (Char.ofNat n, cs.drop width) else none
  else none

/-- The character that an escape stands for, after its backslash. -/
def escape? : List Char → Option (Char × List Char)
  | 'b' :: cs => some (Char.ofNat 8, cs)
  | 't' :: cs => some ('\t', cs)
  | 'n' :: cs => some ('\n', cs)
  | 'f' :: cs => some (Char.ofNat 12, cs)
  | 'r' :: cs => some ('\r', cs)
  | '"' :: cs => some ('"', cs)
  | '\\' :: cs => some ('\\', cs)
  | 'u' :: cs => codePoint? 4 cs
  | 'U' :: cs => codePoint? 8 cs
  | _ => none

/-! ## On one line -/

/-- The characters that a unit of a text with escapes stands for. -/
def unit? : List Char → Option (List Char × List Char)
  | '\\' :: cs => (escape? cs).map fun (c, rest) => ([c], rest)
  | c :: cs => if isVisible c then some ([c], cs) else none
  | [] => none

/-- Units up to a closing double quote. -/
def escapedText (cs : List Char) : Option (List Char × List Char) :=
  if cs.head? = some '"' then some ([], cs.tail)
  else
    match unit? cs with
    | some (us, rest) =>
      if _h : rest.length < cs.length then
        (escapedText rest).map fun (value, after) => (us ++ value, after)
      else none
    | none => none
termination_by cs.length

/-- Characters up to a closing single quote. -/
def plainText : List Char → Option (List Char × List Char)
  | [] => none
  | c :: cs =>
    if c = '\'' then some ([], cs)
    else if isVisible c then (plainText cs).map fun (value, rest) => (c :: value, rest)
    else none

/-! ## On several lines -/

/-- What follows a line break that has been joined, after the backslash. -/
def afterJoin (cs : List Char) : Option (List Char) :=
  (newline? (cs.dropWhile isSpace)).map fun rest => skip rest
where
  /-- Blanks and line breaks fall away; a lone carriage return does not. -/
  skip : List Char → List Char
    | '\r' :: '\n' :: cs => skip cs
    | c :: cs => if isSpace c || c == '\n' then skip cs else c :: cs
    | [] => []

/-- The characters that a unit of a text on several lines stands for. -/
def lineUnit? (escapes : Bool) (cs : List Char) : Option (List Char × List Char) :=
  match newline? cs with
  | some rest => some (['\n'], rest)
  | none =>
    match cs with
    | '\\' :: rest =>
      if escapes then
        match afterJoin rest with
        | some after => some ([], after)
        | none => (escape? rest).map fun (c, after) => ([c], after)
      else some (['\\'], rest)
    | c :: rest => if isVisible c then some ([c], rest) else none
    | [] => none

/-- Units up to three closing quotes. Of up to five quotes in a row the last three close. -/
def lines (quote : Char) (escapes : Bool) (cs : List Char) : Option (List Char × List Char) :=
  let run := (cs.takeWhile (· == quote)).length
  if 3 ≤ run then
    let inside := min (run - 3) 2
    some (List.replicate inside quote, cs.drop (inside + 3))
  else
    match lineUnit? escapes cs with
    | some (us, rest) =>
      if _h : rest.length < cs.length then
        (lines quote escapes rest).map fun (value, after) => (us ++ value, after)
      else none
    | none => none
termination_by cs.length

/-- A text on several lines, after its opening quotes. -/
def readLines (quote : Char) (escapes : Bool) (cs : List Char) : Option (List Char × List Char) :=
  lines quote escapes ((newline? cs).getD cs)

/-! ## Any text -/

/-- A text on one line. -/
def readLine? : List Char → Option (String × List Char)
  | '"' :: cs => (escapedText cs).map fun (value, rest) => (String.ofList value, rest)
  | '\'' :: cs => (plainText cs).map fun (value, rest) => (String.ofList value, rest)
  | _ => none

/-- A text written in any of the four ways. -/
def readText? : List Char → Option (String × List Char)
  | '"' :: '"' :: '"' :: cs =>
    (readLines '"' true cs).map fun (value, rest) => (String.ofList value, rest)
  | '\'' :: '\'' :: '\'' :: cs =>
    (readLines '\'' false cs).map fun (value, rest) => (String.ofList value, rest)
  | cs => readLine? cs

end RowFilter.Toml
