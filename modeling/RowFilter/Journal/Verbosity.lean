import RowFilter.Environment

/-!
# Verbosity

Three environment variables say how much of what the library does is told, and in what form.
`SIFT_DEBUG` switches debugging on, `SIFT_LOG_LEVEL` names a level, and `SIFT_LOG_FORMAT` a form.
Case does not matter; a level or form that is not known counts as none.
-/

namespace RowFilter.Journal

/-! ## Levels -/

/-- How much an event matters, the least first. -/
inductive Level where
  | trace
  | debug
  | info
  | warn
  | error
  deriving DecidableEq

namespace Level

/-- Every level. -/
def all : List Level := [trace, debug, info, warn, error]

/-- The name of a level. -/
def name : Level → String
  | trace => "trace"
  | debug => "debug"
  | info => "info"
  | warn => "warn"
  | error => "error"

/-- The level as events carry it. -/
def label : Level → String
  | trace => "TRACE"
  | debug => "DEBUG"
  | info => "INFO"
  | warn => "WARN"
  | error => "ERROR"

/-- The level of a name, in any case. -/
def ofName? (text : String) : Option Level :=
  all.find? fun l =>
    l.name == String.ofList (text.toList.map Char.toLower)

end Level

/-! ## Forms -/

/-- How events are written (`LogFormat`). -/
inductive Form where
  | json
  | pretty
  | compact
  deriving DecidableEq

namespace Form

/-- The name of a form. -/
def name : Form → String
  | json => "json"
  | pretty => "pretty"
  | compact => "compact"

/-- Every form. -/
def all : List Form := [json, pretty, compact]

/-- The form of a name, in any case; JSON when there is no such form. -/
def ofName (text : String) : Form :=
  (all.find? fun f => f.name == String.ofList (text.toList.map Char.toLower)).getD json

end Form

/-! ## Variables -/

/-- The variable that switches debugging on. -/
def debugVariable : String := "SIFT_DEBUG"

/-- The variable that names a level. -/
def levelVariable : String := "SIFT_LOG_LEVEL"

/-- The variable that names a form. -/
def formVariable : String := "SIFT_LOG_FORMAT"

/-- A value that switches something on (`debug_flag`). -/
def isOn (value : String) : Bool :=
  ["true", "1", "yes"].contains (String.ofList (value.toList.map Char.toLower))

/-- Debugging is on (`is_debug_enabled`). -/
def isDebug (env : Environment) : Bool := (env.get? debugVariable).any isOn

/-- The level (`log_level`): the one asked for, else `debug` while debugging is on, else `warn`. -/
def level (env : Environment) : Level :=
  ((env.get? levelVariable).bind Level.ofName?).getD
    (if isDebug env then .debug else .warn)

/-- The form (`get_log_format`): the one asked for, else JSON. -/
def form (env : Environment) : Form :=
  ((env.get? formVariable).map Form.ofName).getD .json

/-- The environment with a level asked for (`init_with_level`). -/
def leveled (env : Environment) (level : String) : Environment := env.set levelVariable level

/-- The environment with debugging on (`init_debug`). -/
def debugging (env : Environment) : Environment := env.set debugVariable "true"

end RowFilter.Journal
