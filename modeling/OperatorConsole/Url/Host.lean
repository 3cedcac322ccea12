import OperatorConsole.Url.Basic
import OperatorConsole.Url.Domain

/-!
# Hosts

A host in brackets is an IPv6 address.  Elsewhere the scheme decides: a special
one has domain names and IPv4 addresses, any other takes the text as it is.
-/

namespace OperatorConsole.Url.Host

/-- Characters that no host of a general scheme may hold. -/
def isForbidden (c : Char) : Bool :=
  ['\x00', '\t', '\n', '\r', ' ', '#', '/', ':', '<', '>', '?', '@', '[',
    '\\', ']', '^', '|'].contains c

/-- The address between the brackets of a host that opens one. -/
def ofBrackets (cs : List Char) : Except Fault Host :=
  let inside := cs.drop 1
  if inside.getLast? = some ']' then
    match Ipv6.ofText? inside.dropLast with
    | some address => .ok (.ipv6 address)
    | none => .error .ipv6
  else .error .ipv6

/-- A host of a special scheme. -/
def ofSpecial (cs : List Char) : Except Fault Host :=
  if cs.head? = some '[' then ofBrackets cs
  else
    match Domain.ofText? cs with
    | none => .error .domainName
    | some name =>
        if name.isEmpty then .error .emptyHost
        else if Ipv4.endsInNumber name then
          match Ipv4.ofHost? name with
          | some address => .ok (.ipv4 address)
          | none => .error .ipv4
        else .ok (.domain (String.ofList name))

/-- A host of a general scheme, of which there may be none. -/
def ofGeneral (cs : List Char) : Except Fault (Option Host) :=
  if cs.isEmpty then .ok none
  else if cs.head? = some '[' then (ofBrackets cs).map some
  else if cs.any isForbidden then .error .domainCharacter
  else .ok (some (.domain (encodeText keepPrintable cs)))

/-- The host of a file, of which there may be none.  A file on `localhost` has
no host. -/
def ofFile (cs : List Char) : Except Fault (Option Host) :=
  if cs.isEmpty then .ok none
  else
    (ofSpecial cs).map fun host =>
      if host = .domain "localhost" then none else some host

end OperatorConsole.Url.Host
