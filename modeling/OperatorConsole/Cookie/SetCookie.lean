import OperatorConsole.Cookie.Date
import OperatorConsole.Text.Blank
import OperatorConsole.Text.Lowercase

/-!
# Set-Cookie headers

A header names a cookie and its value and then attributes in any order.  Of an
attribute that comes again the last valid one counts; attributes of other names
are passed over.
-/

namespace OperatorConsole

/-- What a header says about a cookie. -/
structure SetCookie where
  name : String
  value : String
  maxAge : Option Int
  expires : Option Int
  domain : Option String
  path : Option String
  secure : Bool
deriving DecidableEq, Repr

namespace SetCookie

/-- The greatest number of seconds there is. -/
def endOfTime : Int := 9223372036854775807

/-- The trimmed texts on both sides of the first equals sign. -/
def splitPair (cs : List Char) : List Char × Option (List Char) :=
  match cs.span (· != '=') with
  | (name, _ :: value) =>
      (Text.trimChars name, some (Text.trimChars value))
  | (name, []) => (Text.trimChars name, none)

/-- A value without the pair of quotes around it, if there is one. -/
def unquote (cs : List Char) : List Char :=
  match cs with
  | '"' :: rest =>
      if rest.getLast? = some '"' then Text.trimChars rest.dropLast else cs
  | _ => cs

/-- The lifetime in seconds that an attribute names.  Negative ones count as
zero, and one that is too long or missing lasts for all time. -/
def lifetime? (cs : List Char) : Option Int :=
  match cs with
  | '-' :: digits => if digits.all Char.isDigit then some 0 else none
  | digits =>
      if !digits.all Char.isDigit then none
      else if digits.isEmpty then some endOfTime
      else some (min (Date.digitsValue digits) endOfTime)

/-- Take up one attribute. -/
def withAttribute (cookie : SetCookie) (cs : List Char) : SetCookie :=
  let (key, value) := splitPair cs
  match String.ofList (key.map Char.toLower), value with
  | "secure", _ => { cookie with secure := true }
  | "max-age", some value =>
      { cookie with maxAge := (lifetime? value).or cookie.maxAge }
  | "expires", some value =>
      { cookie with
        expires := ((Date.ofText? value).map Date.seconds).or cookie.expires }
  | "domain", some value =>
      if value.isEmpty then cookie
      else
        let domain := if value.head? = some '.' then value.drop 1 else value
        { cookie with domain := some (String.ofList domain) }
  | "path", some value => { cookie with path := some (String.ofList value) }
  | _, _ => cookie

/-- Read a header.  One without a name or an equals sign says nothing. -/
def ofHeader? (header : String) : Option SetCookie :=
  match header.toList.splitOn ';' with
  | [] => none
  | pair :: attributes =>
      match splitPair pair with
      | (_, none) => none
      | (name, some value) =>
          if name.isEmpty then none
          else
            some (attributes.foldl withAttribute
              ⟨String.ofList name, String.ofList (unquote value), none, none,
                none, none, false⟩)

end SetCookie

end OperatorConsole
