import RowFilter.Fault
import RowFilter.Page.Limits

/-!
# Problems with settings

Settings cannot be read, are no settings, or hold a value that cannot be used. A problem has a
message and a code of its own, and becomes a fault where faults are expected.
-/

namespace RowFilter.Settings

/-- Why a value of settings cannot be used. -/
inductive Unusable where
  /-- A name that may not stand in SQL text, under its key. -/
  | unsafeName (key name : String)
  /-- Pages without a row. -/
  | noDefaultSize
  /-- A largest page without a row. -/
  | noMaxLimit
  /-- A largest page that is negative, and does not stand for no limit. -/
  | negativeMaxLimit (n : Int64)
  deriving DecidableEq

/-- What is wrong with the value. -/
def Unusable.message : Unusable → String
  | unsafeName key name => s!"{key} = \"{name}\" is not a safe SQL identifier"
  | noDefaultSize => "pagination.default_size must be at least 1"
  | noMaxLimit => "pagination.max_limit must be positive, or -1 for no limit"
  | negativeMaxLimit n => Page.badLimit n

/-- Why there are no settings (`ConfigError`). -/
inductive Problem where
  /-- The file at a path cannot be read. -/
  | unreadable (path : String)
  /-- The text is no TOML or does not have the form of settings. Where a value has been refused for
  a reason of its own, this is the reason. -/
  | malformed (reason : Option String)
  | unusable (what : Unusable)
  deriving DecidableEq

namespace Problem

/-- What a problem says. -/
def message : Problem → String
  | unreadable path => s!"failed to read config file: {path}"
  | malformed _ => "failed to parse TOML"
  | unusable what => s!"invalid configuration: {what.message}"

/-- The code of a problem. -/
def code : Problem → String
  | unreadable _ => "sift::config::io_error"
  | malformed _ => "sift::config::toml_error"
  | unusable _ => "sift::config::invalid"

/-- The help that comes with a problem. -/
def help : Problem → Option String
  | unusable _ => some "column names may only contain letters, digits and underscores"
  | _ => none

/-- The problem as a fault, which it is also the source of. -/
def toFault (p : Problem) : Fault := (Fault.invalidConfiguration p.message).causedBy p.message

end Problem
end RowFilter.Settings
