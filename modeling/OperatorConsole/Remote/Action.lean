import OperatorConsole.Text.Percent

/-!
# Actions in a query

The form in which a typed line stands in a request's query: ASCII letters,
digits and nine marks stand for themselves, everything else is
percent-encoded, so that a space is `%20` and never `+`.
-/

namespace OperatorConsole.Remote

/-- The characters that stand for themselves in an encoded action. -/
def isActionChar (c : Char) : Bool :=
  c.isAlphanum ||
    ['-', '_', '.', '!', '~', '*', '\'', '(', ')'].contains c

def encodeAction (line : String) : String :=
  String.ofList (Text.percentEncode isActionChar line.toList)

/-- Undo percent encoding.  Bytes that are no UTF-8 become U+FFFD. -/
def decodeAction (encoded : String) : String :=
  String.ofList (Text.percentDecode encoded.toList)

end OperatorConsole.Remote
