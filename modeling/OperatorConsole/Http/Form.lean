import OperatorConsole.Http.Message
import OperatorConsole.Text.Percent

/-!
# Forms

The fields of a form as one text: names and values percent-encoded, with a plus
sign for each space.
-/

namespace OperatorConsole.Http.Form

def keepsInField (c : Char) : Bool :=
  c.isAlphanum || ['*', '-', '.', '_'].contains c

def encodeField (text : String) : String :=
  String.ofList (text.toList.flatMap fun c =>
    if c = ' ' then ['+'] else Text.percentEncodeChar keepsInField c)

def encode (fields : List (String × String)) : String :=
  String.intercalate "&" (fields.map fun field =>
    encodeField field.1 ++ "=" ++ encodeField field.2)

/-- A form as the content of a request. -/
def content (fields : List (String × String)) : Content :=
  ⟨"application/x-www-form-urlencoded", encode fields⟩

end OperatorConsole.Http.Form
