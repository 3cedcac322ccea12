import OperatorConsole.Text.Percent

/-!
# Characters of URLs

Which characters stand for themselves in each part of a URL.  The sets grow
from the fragment to the user name; characters outside ASCII and controls are
always percent-encoded.
-/

namespace OperatorConsole.Url

/-- Printable ASCII: all that an opaque host or a flat path keeps. -/
def keepPrintable (c : Char) : Bool :=
  0x20 ≤ c.toNat && c.toNat ≤ 0x7e

def keepFragment (c : Char) : Bool :=
  keepPrintable c && !([' ', '"', '<', '>', '\x60'].contains c)

def keepQuery (c : Char) : Bool :=
  keepPrintable c && !([' ', '"', '#', '<', '>'].contains c)

/-- In the query of a URL with a special scheme an apostrophe is encoded too. -/
def keepSpecialQuery (c : Char) : Bool :=
  keepQuery c && c != '\''

def keepPath (c : Char) : Bool :=
  keepFragment c && !(['#', '?', '{', '}'].contains c)

def keepUserinfo (c : Char) : Bool :=
  keepPath c &&
    !(['/', ':', ';', '=', '@', '[', '\\', ']', '^', '|'].contains c)

def encodeText (keep : Char → Bool) (cs : List Char) : String :=
  String.ofList (Text.percentEncode keep cs)

end OperatorConsole.Url
