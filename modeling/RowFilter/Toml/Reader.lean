import RowFilter.Toml.Quoted
import RowFilter.Toml.Scalar
import RowFilter.Toml.Tree

/-!
# Reading TOML

A document is read line by line. Values may nest, lists over several lines and tables between braces
on one; how deep is limited, and so is the number of parts of a key.
-/

namespace RowFilter.Toml

/-- Lists and tables between braces nest less deep than this, and keys have fewer parts. -/
def nestingLimit : Nat := 80

/-! ## Gaps -/

/-- What follows blanks, line breaks and comments; a comment ends with a line break. -/
def skipGaps (inComment : Bool) : List Char → Option (List Char)
  | [] => if inComment then none else some []
  | '\r' :: '\n' :: cs => skipGaps false cs
  | c :: cs =>
    if c = '\n' then skipGaps false cs
    else if inComment then if isVisible c then skipGaps true cs else none
    else if isSpace c then skipGaps false cs
    else if c = '#' then skipGaps true cs
    else if c = '\r' then none
    else some (c :: cs)

/-- What follows the end of a line, after blanks and a comment. -/
def afterLine (cs : List Char) : Option (List Char) :=
  let cs := cs.dropWhile isSpace
  let cs := match cs with
    | '#' :: rest => rest.dropWhile isVisible
    | _ => cs
  if cs.isEmpty then some [] else newline? cs

/-! ## Keys -/

/-- A character of a key without quotes. -/
def isKeyChar (c : Char) : Bool := c.isAlphanum || c == '_' || c == '-'

/-- One part of a key. -/
def keyPart? (cs : List Char) : Option (String × List Char) :=
  match cs with
  | '"' :: _ => readLine? cs
  | '\'' :: _ => readLine? cs
  | _ =>
    let part := cs.takeWhile isKeyChar
    if part.isEmpty then none else some (String.ofList part, cs.drop part.length)

/-- The parts of a key, with points between them. -/
def keyParts? (cs : List Char) : Option (Key × List Char) :=
  match keyPart? (cs.dropWhile isSpace) with
  | none => none
  | some (part, rest) =>
    match rest.dropWhile isSpace with
    | '.' :: more =>
      if _h : more.length < cs.length then
        (keyParts? more).map fun (k, rest) => (⟨part :: k.parents, k.name⟩, rest)
      else none
    | rest => some (⟨[], part⟩, rest)
termination_by cs.length

/-- A key. -/
def key? (cs : List Char) : Option (Key × List Char) :=
  (keyParts? cs).bind fun (k, rest) =>
    if k.parts.length < nestingLimit then some (k, rest) else none

/-! ## Values -/

/-- What reads a value. -/
abbrev ReadValue := List Char → Option (Toml × List Char)

/-- The items of a list, after its opening bracket; a comma may stand after the last. -/
def items (value : ReadValue) (cs : List Char) : Option (List Toml × List Char) :=
  match skipGaps false cs with
  | none => none
  | some (']' :: rest) => some ([], rest)
  | some cs' =>
    match value cs' with
    | none => none
    | some (v, rest) =>
      match skipGaps false rest with
      | some (']' :: rest) => some ([v], rest)
      | some (',' :: rest) =>
        if _h : rest.length < cs.length then
          (items value rest).map fun (vs, rest) => (v :: vs, rest)
        else none
      | _ => none
termination_by cs.length

/-- An assignment: a key and a value. -/
def assignment? (value : ReadValue) (cs : List Char) : Option ((Key × Toml) × List Char) :=
  (key? cs).bind fun (k, rest) =>
    match rest with
    | '=' :: rest => (value (rest.dropWhile isSpace)).map fun (v, rest) => ((k, v), rest)
    | _ => none

/-- The assignments of a table between braces, one at least. -/
def assignments (value : ReadValue) (cs : List Char) : Option (List (Key × Toml) × List Char) :=
  match assignment? value cs with
  | none => none
  | some (a, rest) =>
    match rest.dropWhile isSpace with
    | '}' :: rest => some ([a], rest)
    | ',' :: rest =>
      if _h : rest.length < cs.length then
        (assignments value rest).map fun (as, rest) => (a :: as, rest)
      else none
    | _ => none
termination_by cs.length

/-- A table between braces, after the opening one. -/
def braced (value : ReadValue) (cs : List Char) : Option (Toml × List Char) :=
  match cs.dropWhile isSpace with
  | '}' :: rest => some (.table [], rest)
  | _ =>
    (assignments value cs).bind fun (as, rest) =>
      (ofAssignments? as).map fun t => (t, rest)

/-- A value that is a text or a scalar. -/
def flat? (cs : List Char) : Option (Toml × List Char) :=
  match cs with
  | '"' :: _ => (readText? cs).map fun (s, rest) => (.text s, rest)
  | '\'' :: _ => (readText? cs).map fun (s, rest) => (.text s, rest)
  | _ => scalar? cs

/-- A value, nested so deep at most. -/
def value? : Nat → ReadValue
  | 0, cs => flat? cs
  | depth + 1, cs =>
    match cs with
    | '[' :: rest => (items (value? depth) rest).map fun (vs, rest) => (.array vs, rest)
    | '{' :: rest => braced (value? depth) rest
    | _ => flat? cs

/-! ## Documents -/

/-- The header of a table, after its opening bracket. -/
def header? (cs : List Char) : Option (Statement × List Char) :=
  match cs with
  | '[' :: rest =>
    (key? rest).bind fun
      | (k, ']' :: ']' :: rest) => (afterLine rest).map fun rest => (.entry k, rest)
      | _ => none
  | _ =>
    (key? cs).bind fun
      | (k, ']' :: rest) => (afterLine rest).map fun rest => (.header k, rest)
      | _ => none

/-- The statement of a line, if it has one, and the lines after it. -/
def statement? (cs : List Char) : Option (List Statement × List Char) :=
  match cs.dropWhile isSpace with
  | [] => some ([], [])
  | '[' :: rest => (header? rest).map fun (s, rest) => ([s], rest)
  | c :: rest =>
    if c = '#' ∨ c = '\n' ∨ c = '\r' then (afterLine (c :: rest)).map fun rest => ([], rest)
    else
      (assignment? (value? (nestingLimit - 1)) (c :: rest)).bind fun ((k, v), rest) =>
        (afterLine rest).map fun rest => ([.assign k v], rest)

/-- The statements of a text. -/
def statements (cs : List Char) : Option (List Statement) :=
  if cs.isEmpty then some []
  else
    match statement? cs with
    | some (s, rest) =>
      if _h : rest.length < cs.length then (statements rest).map (s ++ ·) else none
    | none => none
termination_by cs.length

/-- The table that a text holds, without a byte order mark at its head. -/
def read? (text : String) : Option Toml :=
  let cs := match text.toList with
    | c :: cs => if c.toNat = 0xFEFF then cs else c :: cs
    | [] => []
  (statements cs).bind ofStatements?

end RowFilter.Toml
