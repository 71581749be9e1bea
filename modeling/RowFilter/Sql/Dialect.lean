import RowFilter.Json.Decode

/-!
# SQL dialects

What differs between the four dialects: the spelling of placeholders, the quotes of identifiers
and the escaping in patterns.
-/

namespace RowFilter.Sql

/-- The dialect of SQL to write (`DatabaseType`). -/
inductive Dialect where
  | postgresql
  | mysql
  | sqlite
  | mssql
  deriving DecidableEq, Inhabited

namespace Dialect

/-- Every dialect. -/
def all : List Dialect := [postgresql, mysql, sqlite, mssql]

/-- The name of a dialect. -/
def name : Dialect → String
  | postgresql => "postgresql"
  | mysql => "mysql"
  | sqlite => "sqlite"
  | mssql => "mssql"

/-- Every name a dialect goes by, in alphabetical order. -/
def names : Dialect → List String
  | postgresql => ["postgres", "postgresql"]
  | mssql => ["mssql", "sqlserver"]
  | d => [d.name]

/-- A dialect by one of its names. -/
def ofJson (v : Json) : Json.Reading Dialect := v.readName names all

/-- The placeholder of the parameter with this number (`DatabaseType::placeholder`). -/
def placeholder (index : Nat) : Dialect → String
  | postgresql => "$" ++ toString index
  | mssql => "@P" ++ toString index
  | _ => "?"

/-- The quotes around an identifier. -/
def quotes : Dialect → Char × Char
  | mysql => ('\x60', '\x60')
  | mssql => ('[', ']')
  | _ => ('"', '"')

/-- A segment of an identifier between quotes. -/
def quoteChars (d : Dialect) (segment : List Char) : List Char :=
  d.quotes.1 :: (segment ++ [d.quotes.2])

/-- A segment of an identifier between quotes (`DatabaseType::quote`). -/
def quote (d : Dialect) (segment : String) : String := String.ofList (d.quoteChars segment.toList)

/-- What follows the placeholder of a pattern (`DatabaseType::like_escape`): the backslash is named
as the escape character, doubled where it escapes inside literals too. -/
def escapeClause : Dialect → String
  | mysql => " ESCAPE '\\\\'"
  | _ => " ESCAPE '\\'"

/-- The character means something of its own in a pattern. -/
def isSpecial (d : Dialect) (c : Char) : Bool :=
  c == '\\' || c == '%' || c == '_' || (c == '[' && d == mssql)

/-- A text in which no character means anything of its own: each that would has a backslash before
it. -/
def escapeChars (d : Dialect) (cs : List Char) : List Char :=
  cs.flatMap fun c => if d.isSpecial c then ['\\', c] else [c]

/-- A text escaped for use in a pattern (`DatabaseType::escape_like`). -/
def escape (d : Dialect) (s : String) : String := String.ofList (d.escapeChars s.toList)

end Dialect
end RowFilter.Sql
