import OperatorConsole.OrderedBy
import OperatorConsole.Text.Lowercase
import OperatorConsole.Url.Basic

/-!
# Cookies

A cookie is sent to the hosts and paths that it was set for, until it expires.
Two cookies that agree in domain, path and name are one cookie.
-/

namespace OperatorConsole

structure Cookie where
  name : String
  value : String
  domain : String
  /-- Only the host that set the cookie gets it back. -/
  hostOnly : Bool
  path : String
  secure : Bool
  /-- Seconds from the beginning of 1970, or never. -/
  expires : Option Int
deriving DecidableEq, Repr

namespace Cookie

/-- What tells cookies apart, in the order in which they are kept. -/
structure Key where
  domain : String
  path : String
  name : String
deriving DecidableEq, Repr

def Key.order : Key → Key → Ordering :=
  compareLex (compareOn Key.domain)
    (compareLex (compareOn Key.path) (compareOn Key.name))

instance : Ord Key := ⟨Key.order⟩

instance : Std.TransOrd Key :=
  inferInstanceAs (Std.TransCmp (compareLex (compareOn Key.domain)
    (compareLex (compareOn Key.path) (compareOn Key.name))))

instance : Std.LawfulEqOrd Key where
  eq_of_compare := by
    intro left right same
    change Key.order left right = .eq at same
    simp only [Key.order, compareLex_eq_eq, compareOn] at same
    cases left
    cases right
    simp_all

def key (cookie : Cookie) : Key :=
  ⟨cookie.domain, cookie.path, cookie.name⟩

def isExpired (now : Int) (cookie : Cookie) : Bool :=
  match cookie.expires with
  | none => false
  | some instant => instant ≤ now

/-! ## Scope -/

/-- The name of a URL's host in small letters. -/
def hostName? (url : Url) : Option String :=
  url.host?.map fun host => Text.asciiLowercase host.text

/-- A host name is an address and no domain. -/
def isAddress (host : String) : Bool :=
  let bare := ((host.toList.dropWhile (· == '[')).reverse.dropWhile
    (· == ']')).reverse
  Url.Ipv4.isLiteral bare || (Url.Ipv6.ofText? bare).isSome

/-- A host is a domain or lies below it. -/
def domainMatches (host domain : String) : Bool :=
  host == domain ||
    (!isAddress host && ('.' :: domain.toList).isSuffixOf host.toList)

/-- A path is another one or lies below it. -/
def pathMatches (path scope : String) : Bool :=
  let path := path.toList
  let scope := scope.toList
  path == scope ||
    (scope.isPrefixOf path &&
      (scope.getLast? == some '/' ||
        (path.drop scope.length).head? == some '/'))

/-- The directory of a path. -/
def directoryOf (path : String) : String :=
  match path.toList.reverse.dropWhile (· != '/') with
  | [] | [_] => "/"
  | _ :: before => String.ofList before.reverse

/-- The cookie goes to a URL. -/
def appliesTo (url : Url) (cookie : Cookie) : Bool :=
  match hostName? url with
  | none => false
  | some host =>
      (if cookie.hostOnly then host == cookie.domain
        else domainMatches host cookie.domain) &&
        pathMatches url.path.text cookie.path &&
        (!cookie.secure || url.scheme == "https")

/-- The cookie as it is written in a request. -/
def pair (cookie : Cookie) : String :=
  cookie.name ++ "=" ++ cookie.value

end Cookie

end OperatorConsole
