import RowFilter.Text.Case
import RowFilter.Text.Cluster

/-!
# Words of a name

A name in any of the usual spellings is cut into words: at an underscore, a hyphen or a space,
which is dropped; before a capital that follows a small letter or a digit; and before the last
capital of a run when a small letter follows it. `underscore` joins the words, in lower case, with
underscores.
-/

namespace RowFilter.Text

/-- The cluster separates words and belongs to none. -/
def isSeparator (g : List Char) : Bool := g == ['_'] || g == ['-'] || g == [' ']

/-- The cluster has two cases and is written in the upper one. -/
def isCapital (g : List Char) : Bool := upper g != lower g && g == upper g

/-- The cluster has two cases and is written in the lower one. -/
def isSmall (g : List Char) : Bool := upper g != lower g && g == lower g

/-- The cluster is a decimal digit. -/
def isNumeral (g : List Char) : Bool := g.all Char.isDigit

/-- A word begins at a cluster, seen between its neighbours. -/
def beginsWord (previous this : List Char) (next : Option (List Char)) : Bool :=
  isCapital this &&
    (isSmall previous || isNumeral previous || (isCapital previous && next.any isSmall))

/-- The words of the rest of a name, empty ones included, given the cluster before and the word so
far. -/
def wordsFrom (previous : Option (List Char)) (word : List Char) :
    List (List Char) → List (List Char)
  | [] => [word]
  | g :: gs =>
    if isSeparator g then word :: wordsFrom (some g) [] gs
    else if previous.any fun p => beginsWord p g gs.head? then word :: wordsFrom (some g) g gs
    else wordsFrom (some g) (word ++ g) gs

/-- The words of a name, as they are written in it. -/
def words (name : List Char) : List (List Char) :=
  (wordsFrom none [] (clusters name)).filter (· != [])

/-- The characters of the words of a name in lower case, joined by underscores. -/
def underscoreChars (name : List Char) : List Char :=
  List.intercalate ['_'] ((words name).map lower)

/-- The words of a name in lower case, joined by underscores (`underscore_case`). -/
def underscore (name : String) : String := String.ofList (underscoreChars name.toList)

end RowFilter.Text
