import OperatorConsole.Url.Host
import OperatorConsole.Url.Path

/-!
# Authorities

An authority reaches to the next slash, question mark or number sign.  A user
name and a password stand before its last at sign, and a port behind the first
colon after its host.
-/

namespace OperatorConsole.Url

namespace Authority

def ends (kind : SchemeKind) (c : Char) : Bool :=
  kind.isSlash c || c == '?' || c == '#'

/-- The part of a text before the last at sign, if there is one, and the part
after it. -/
def splitUserinfo (cs : List Char) : Option (List Char) × List Char :=
  match cs.reverse.span (· != '@') with
  | (after, _ :: before) => (some before.reverse, after.reverse)
  | (_, []) => (none, cs)

/-- The user name and the password of the text before an at sign. -/
def credentials (userinfo : List Char) : String × String :=
  let (username, password) := userinfo.span (· != ':')
  (encodeText keepUserinfo username, encodeText keepUserinfo (password.drop 1))

/-- The host and what follows it from the colon on.  Colons in brackets belong
to the host. -/
def splitHost (inBrackets : Bool) : List Char → List Char × List Char
  | [] => ([], [])
  | c :: rest =>
      if c = ':' ∧ !inBrackets then ([], c :: rest)
      else
        let (host, after) :=
          splitHost (if c = '[' then true else if c = ']' then false
            else inBrackets) rest
        (c :: host, after)

/-- The port that digits name, if it is not the one implied. -/
def portOf (implied : Option Nat) (cs : List Char) :
    Except Fault (Option Nat) :=
  if !cs.all Char.isDigit then .error .port
  else
    match Ipv4.valueIn? 10 cs with
    | none => .error .port
    | some port =>
        if 65535 < port then .error .port
        else if cs.isEmpty || implied = some port then .ok none
        else .ok (some port)

def hostOf (kind : SchemeKind) (cs : List Char) :
    Except Fault (Option Host) :=
  match kind with
  | .general => Host.ofGeneral cs
  | _ => if cs.isEmpty then .error .emptyHost else (Host.ofSpecial cs).map some

/-- Read an authority and what follows it.  A backslash ends a port in every
scheme. -/
def read (scheme : String) (cs : List Char) :
    Except Fault (Authority × List Char) := do
  let kind := SchemeKind.ofScheme scheme
  let (text, rest) := cs.span (!ends kind ·)
  let (userinfo, place) := splitUserinfo (visible text)
  if userinfo = some [] ∧ place.isEmpty ∧ !rest.isEmpty then
    throw .emptyHost
  let (username, password) := credentials (userinfo.getD [])
  let (hostText, after) := splitHost false place
  let host ← hostOf kind hostText
  if host.isNone && !after.isEmpty then throw .emptyHost
  let (portText, beyond) := (after.drop 1).span (· != '\\')
  let port ← portOf (impliedPort? scheme) portText
  if host.isNone && !(username.isEmpty && password.isEmpty) then
    throw .emptyHost
  return (⟨username, password, host, port⟩, beyond ++ rest)

end Authority

end OperatorConsole.Url
