import RowFilter.Journal.Verbosity

/-!
# Events

What the library does is told as a list of events, in the order in which the things happen. An event
has a level, the topic it belongs to, a message and named details.
-/

namespace RowFilter.Journal

/-- The parts of the library that tell what they do. -/
inductive Topic where
  | criteria
  | compiler
  | assembler
  | resolver
  deriving DecidableEq

/-- The name of a topic. -/
def Topic.name : Topic → String
  | criteria => "sift_query::criteria"
  | compiler => "sift_query::compiler"
  | assembler => "sift_query::assembler"
  | resolver => "sift_query::scope::resolver"

/-- Something that happened. -/
structure Event where
  level : Level
  topic : Topic
  message : String
  details : List (String × String)
  deriving DecidableEq

end RowFilter.Journal
