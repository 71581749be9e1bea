import RowFilter.Json
import RowFilter.Binary64.Notation
import RowFilter.Text.Quoted

/-!
# Writing JSON

`Json.text` writes a value without blanks. Numbers with a fraction take the JSON layout of
`Binary64.Notation`; strings are escaped by `Quoted.json`.
-/

namespace RowFilter

/-- The text of a number. -/
def Number.text : Number → String
  | .whole n _ _ => toString n
  | .real x _ => x.toJsonText

/-- A name and the text of its value, as an object holds them. -/
def Json.memberText (name value : String) : String := Text.Quoted.json name ++ ":" ++ value

/-- Texts between brackets, separated by commas. -/
def Json.enclose (opening closing : String) (items : List String) : String :=
  opening ++ ",".intercalate items ++ closing

mutual

/-- The text of a value. -/
def Json.text : Json → String
  | .null => "null"
  | .bool b => if b then "true" else "false"
  | .number n => n.text
  | .string s => Text.Quoted.json s
  | .array items => Json.enclose "[" "]" (Json.itemTexts items)
  | .object members => Json.enclose "\x7b" "\x7d" (Json.memberTexts members)

/-- The texts of the items of an array. -/
def Json.itemTexts : List Json → List String
  | [] => []
  | v :: vs => v.text :: Json.itemTexts vs

/-- The texts of the members of an object. -/
def Json.memberTexts : List (String × Json) → List String
  | [] => []
  | (k, v) :: ms => Json.memberText k v.text :: Json.memberTexts ms

end

end RowFilter
