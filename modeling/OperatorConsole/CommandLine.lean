import OperatorConsole.Text.Blank
import OperatorConsole.Text.Lowercase

/-!
# Command lines

A line that is not blank, split at single spaces.  Quotes have no meaning here:
the router looks at three words at most, and a line that goes to the service
travels as it was typed.
-/

namespace OperatorConsole

/-- A line that is not blank: the line as typed, and its words. -/
structure CommandLine where
  raw : String
  /-- The first word.  There is always one. -/
  head : String
  /-- The words after the first; two spaces in a row make an empty one. -/
  arguments : List String
deriving DecidableEq, Repr

namespace CommandLine

/-- The words of a text: the pieces between single spaces. -/
def wordsOf (text : String) : List String :=
  (text.toList.splitOn ' ').map String.ofList

/-- Split a line, or `none` when nothing is left of it after trimming. -/
def ofLine? (line : String) : Option CommandLine :=
  let trimmed := Text.trim line
  if trimmed.isEmpty then none
  else
    match wordsOf trimmed with
    | [] => none
    | head :: arguments => some { raw := line, head, arguments }

def words (line : CommandLine) : List String :=
  line.head :: line.arguments

/-- The first word in lowercase, which decides where the line goes. -/
def verb (line : CommandLine) : String :=
  Text.lowercase line.head

/-- The second word in lowercase. -/
def subVerb? (line : CommandLine) : Option String :=
  line.arguments[0]?.map Text.lowercase

/-- The third word in lowercase. -/
def qualifier? (line : CommandLine) : Option String :=
  line.arguments[1]?.map Text.lowercase

end CommandLine

end OperatorConsole
