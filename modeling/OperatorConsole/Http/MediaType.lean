import OperatorConsole.Http.Message
import OperatorConsole.Text.Charset

/-!
# Media types

A header that names the type of a body may name its charset too, as one of the
parameters behind the type.
-/

namespace OperatorConsole.Http.MediaType

/-- A character that may stand in quotes. -/
def isQuotable (c : Char) : Bool :=
  0x1f < c.toNat && c.toNat < 0x7f

/-- Drop the name in front of the parameters. -/
def afterType? (cs : List Char) : Option (List Char) :=
  match cs.span isToken with
  | (_ :: _, '/' :: rest) =>
      match rest.span isToken with
      | (_ :: _, []) => some []
      | (_ :: _, ';' :: rest) => some rest
      | _ => none
  | _ => none

/-- Read the rest of a value in quotes, and what follows it.  A value has one
character at least, so a quote at its front is part of it. -/
def quoted? : List Char → Option (List Char × List Char)
  | [] => none
  | first :: rest =>
      match rest.span fun c => isQuotable c && c != '"' with
      | (more, '"' :: rest) =>
          if isQuotable first then some (first :: more, rest) else none
      | _ => none

/-- What follows a value, up to the next parameter. -/
def afterValue? (cs : List Char) : Option (List Char) :=
  match cs.dropWhile (· == ' ') with
  | [] => some []
  | ';' :: rest => some rest
  | _ => none

def value? (cs : List Char) : Option (List Char × List Char) :=
  match cs with
  | '"' :: rest => do
      let (value, rest) ← quoted? rest
      return (value, ← afterValue? rest)
  | _ =>
      match cs.span isToken with
      | (value, []) => some (value, [])
      | (first :: more, ';' :: rest) => some (first :: more, rest)
      | _ => none

/-- The names and values of parameters.  Each takes a character at least. -/
def parameters? : Nat → List Char →
    Option (List (List Char × List Char))
  | 0, _ => some []
  | fuel + 1, cs =>
      match cs.dropWhile (· == ' ') with
      | [] => some []
      | cs =>
          match cs.span isToken with
          | (first :: more, '=' :: rest) => do
              let (value, rest) ← value? rest
              let others ← parameters? fuel rest
              return ((first :: more, value) :: others)
          | _ => none

/-- The label of the charset that a media type names. -/
def charsetLabel? (text : String) : Option String := do
  let rest ← afterType? text.toList
  let parameters ← parameters? (rest.length + 1) rest
  let (_, value) ← parameters.find? fun parameter =>
    parameter.1.map Char.toLower == "charset".toList
  return bareField (String.ofList (value.map Char.toLower))

end OperatorConsole.Http.MediaType

namespace OperatorConsole.Http

/-- The text of a response, in UTF-8 if no other charset is named. -/
def Response.text? (response : Response) : Option String :=
  let label := (response.fields "content-type").head?.bind
    MediaType.charsetLabel?
  let charset := (label.bind Text.Charset.ofLabel?).getD .utf8
  response.body.map charset.read

end OperatorConsole.Http
