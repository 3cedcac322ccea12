import OperatorConsole.Cookie.Basic
import OperatorConsole.Cookie.SetCookie

/-!
# Cookie jars

A jar holds one cookie per domain, path and name.  A header stores its cookie
over the one with the same key or, if it comes without a value or already
expired, removes that one.  Expired cookies stay unseen in the jar.
-/

namespace OperatorConsole

/-- Cookies in the order of their keys. -/
abbrev CookieJar : Type :=
  OrderedBy Cookie.key

namespace CookieJar

/-- The cookie whose presence means that an operator is logged in. -/
def sessionName : String := "session"

/-- The cookies that have not expired. -/
def live (jar : CookieJar) (now : Int) : List Cookie :=
  jar.toList.filter (!·.isExpired now)

/-- Texts in order, each once. -/
def distinct (texts : List String) : List String :=
  (OrderedBy.empty.putAll texts : OrderedBy (id : String → String)).toList

/-- The names of the live cookies. -/
def names (jar : CookieJar) (now : Int) : List String :=
  distinct ((jar.live now).map Cookie.name)

/-- The names of all cookies, expired ones among them. -/
def allNames (jar : CookieJar) : List String :=
  distinct (jar.toList.map Cookie.name)

def hasSession (jar : CookieJar) (now : Int) : Bool :=
  (jar.live now).any (·.name == sessionName)

/-- The live cookies that go to a URL. -/
def applicable (jar : CookieJar) (url : Url) (now : Int) : List Cookie :=
  (jar.live now).filter (·.appliesTo url)

/-- The text of the cookies in a request to a URL, if there are any. -/
def header? (jar : CookieJar) (url : Url) (now : Int) : Option String :=
  match jar.applicable url now with
  | [] => none
  | cookies => some (String.intercalate "; " (cookies.map Cookie.pair))

/-! ## Receiving headers -/

/-- The domain of a cookie set by a host and whether it is the host itself;
none if the host must not set cookies for the domain it asks for. -/
def scopeOf? (host : String) (asked : Option String) :
    Option (String × Bool) :=
  match asked.filter (!·.isEmpty) with
  | none => some (host, true)
  | some domain =>
      let domain := Text.asciiLowercase
        (String.ofList (domain.toList.dropWhile (· == '.')))
      if Cookie.domainMatches host domain then some (domain, false) else none

def pathOf (url : Url) (asked : Option String) : String :=
  match asked with
  | some path =>
      if path.toList.head? = some '/' then path
      else Cookie.directoryOf url.path.text
  | none => Cookie.directoryOf url.path.text

/-- When a cookie expires that is set now.  A lifetime wins over a date. -/
def expiryOf (said : SetCookie) (now : Int) : Option Int :=
  match said.maxAge with
  | some lifetime => some (min (now + lifetime) SetCookie.endOfTime)
  | none => said.expires

/-- A value without the quotes at its ends. -/
def bareValue (value : String) : String :=
  String.ofList
    ((value.toList.dropWhile (· == '"')).reverse.dropWhile (· == '"')).reverse

/-- The cookie that a header from a URL sets, unless it is rejected. -/
def cookieOf? (header : String) (url : Url) (now : Int) : Option Cookie := do
  let said ← SetCookie.ofHeader? header
  let host ← Cookie.hostName? url
  let (domain, hostOnly) ← scopeOf? host said.domain
  return {
    name := said.name
    value := bareValue said.value
    domain := domain
    hostOnly := hostOnly
    path := pathOf url said.path
    secure := said.secure
    expires := expiryOf said now }

/-- Store a cookie, or remove the one it stands for. -/
def store (jar : CookieJar) (cookie : Cookie) (now : Int) : CookieJar :=
  if cookie.value.isEmpty || cookie.isExpired now then jar.erase cookie.key
  else jar.put cookie

/-- Take a header that came from a URL. -/
def receive (jar : CookieJar) (header : String) (url : Url) (now : Int) :
    CookieJar :=
  match cookieOf? header url now with
  | none => jar
  | some cookie => jar.store cookie now

/-- A character that a header from the network may hold to be read. -/
def isVisible (c : Char) : Bool :=
  c == '\t' || (0x20 ≤ c.toNat && c.toNat < 0x7f)

/-- Take the headers of a response.  Those with other characters are passed
over. -/
def receiveAll (jar : CookieJar) (headers : List String) (url : Url)
    (now : Int) : CookieJar :=
  (headers.filter fun header => header.toList.all isVisible).foldl
    (fun jar header => jar.receive header url now) jar

/-- A character that no header may hold. -/
def isUnsendable (c : Char) : Bool :=
  (c.toNat < 0x20 && c != '\t') || c.toNat == 0x7f

/-- The header of a request to a URL, if there is one that can be sent. -/
def sentHeader? (jar : CookieJar) (url : Url) (now : Int) : Option String :=
  (jar.header? url now).filter fun header => !header.toList.any isUnsendable

end CookieJar

end OperatorConsole
