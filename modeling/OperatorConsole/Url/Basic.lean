import OperatorConsole.Url.Encoding
import OperatorConsole.Url.Ipv4
import OperatorConsole.Url.Ipv6

/-!
# URLs

A URL in its parts, each kept in the encoded form in which it is shown.  An
authority without a host is written `//` and nothing more, which is why user
name, password and port stand in the same structure as the host.
-/

namespace OperatorConsole

namespace Url

inductive Host where
  | domain (name : String)
  | ipv4 (address : Ipv4.Address)
  | ipv6 (address : Ipv6.Address)
deriving DecidableEq, Repr

def Host.text : Host → String
  | .domain name => name
  | .ipv4 address => address.text
  | .ipv6 address => "[" ++ address.text ++ "]"

/-- Where a resource is served and as whom to ask for it.  A port that the
scheme implies is left out. -/
structure Authority where
  username : String
  password : String
  host : Option Host
  port : Option Nat
deriving DecidableEq, Repr

def Authority.empty : Authority :=
  ⟨"", "", none, none⟩

def Authority.userinfoText (authority : Authority) : String :=
  if authority.username.isEmpty && authority.password.isEmpty then ""
  else if authority.password.isEmpty then authority.username ++ "@"
  else authority.username ++ ":" ++ authority.password ++ "@"

def Authority.hostText (authority : Authority) : String :=
  (authority.host.map Host.text).getD ""

def Authority.portText (authority : Authority) : String :=
  match authority.port with
  | none => ""
  | some port => ":" ++ port.repr

def Authority.text (authority : Authority) : String :=
  authority.userinfoText ++ authority.hostText ++ authority.portText

end Url

/-- A path is a list of segments, each of which is written after a slash, or a
text that no reference can change. -/
inductive UrlPath where
  | segments (names : List String)
  | flat (text : String)
deriving DecidableEq, Repr

def UrlPath.text : UrlPath → String
  | .segments names => String.join (names.map ("/" ++ ·))
  | .flat text => text

structure Url where
  scheme : String
  authority : Option Url.Authority
  path : UrlPath
  query : Option String
  fragment : Option String
deriving DecidableEq, Repr

namespace Url

/-- How the parts of a URL are delimited depends on its scheme. -/
inductive SchemeKind where
  | file
  | special
  | general
deriving DecidableEq, Repr

def SchemeKind.ofScheme (scheme : String) : SchemeKind :=
  if scheme = "file" then .file
  else if ["http", "https", "ws", "wss", "ftp"].contains scheme then .special
  else .general

/-- A backslash stands for a slash. -/
def SchemeKind.backslashes : SchemeKind → Bool
  | .general => false
  | _ => true

def impliedPort? (scheme : String) : Option Nat :=
  match scheme with
  | "http" | "ws" => some 80
  | "https" | "wss" => some 443
  | "ftp" => some 21
  | _ => none

def kind (url : Url) : SchemeKind :=
  .ofScheme url.scheme

def host? (url : Url) : Option Host :=
  url.authority.bind (·.host)

/-- The port that a connection takes. -/
def port? (url : Url) : Option Nat :=
  (url.authority.bind (·.port)).or (impliedPort? url.scheme)

/-- Without an authority a path must not start with two slashes. -/
def authorityText (url : Url) : String :=
  match url.authority with
  | some authority => "//" ++ authority.text
  | none => if url.path.text.startsWith "//" then "/." else ""

def queryText (url : Url) : String :=
  match url.query with
  | none => ""
  | some query => "?" ++ query

def fragmentText (url : Url) : String :=
  match url.fragment with
  | none => ""
  | some fragment => "#" ++ fragment

def text (url : Url) : String :=
  url.scheme ++ ":" ++ url.authorityText ++ url.path.text ++ url.queryText ++
    url.fragmentText

/-- A flat path, as in an address for mail, holds no segments to go on from. -/
def isFlat (url : Url) : Bool :=
  match url.path with
  | .flat _ => true
  | .segments _ => false

def keepsInQuery (url : Url) : Char → Bool :=
  match url.kind with
  | .general => keepQuery
  | _ => keepSpecialQuery

/-- The URL with `query` for its query, encoded as far as needed. -/
def withQuery (url : Url) (query : String) : Url :=
  { url with query := some (encodeText url.keepsInQuery query.toList) }

def withoutFragment (url : Url) : Url :=
  { url with fragment := none }

/-- Why a text is no URL. -/
inductive Fault where
  | emptyHost
  | domainName
  | domainCharacter
  | port
  | ipv4
  | ipv6
  | relativeWithoutBase
  | relativeToFlat
deriving DecidableEq, Repr

def Fault.message : Fault → String
  | .emptyHost => "empty host"
  | .domainName => "invalid international domain name"
  | .domainCharacter => "invalid domain character"
  | .port => "invalid port number"
  | .ipv4 => "invalid IPv4 address"
  | .ipv6 => "invalid IPv6 address"
  | .relativeWithoutBase => "relative URL without a base"
  | .relativeToFlat => "relative URL with a cannot-be-a-base base"

end Url

end OperatorConsole
