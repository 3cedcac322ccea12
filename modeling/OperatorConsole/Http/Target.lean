import OperatorConsole.Text.Utf8
import OperatorConsole.Url.Basic

/-!
# Targets of requests

Not every URL can be asked for.  The name of a host may hold characters that a
request cannot, and a URL without an authority is taken for nothing but an
authority.  Paths and queries are encoded so that they always fit.
-/

namespace OperatorConsole.Http.Target

/-- A character that may stand in an authority as it is. -/
def isPlain (c : Char) : Bool :=
  0x21 ≤ c.toNat && c.toNat ≤ 0x7e &&
    !(['"', '<', '>', '\\', '^', '\x60', '{', '|', '}'].contains c)

/-- What has been seen of an authority. -/
structure Seen where
  colons : Nat := 0
  opened : Bool := false
  closed : Bool := false
  percent : Bool := false
  /-- The last character ended the user's name. -/
  named : Bool := false
deriving DecidableEq, Repr

/-- Take the next character.  What has been counted in a user's name or in
brackets does not count for the host and the port. -/
def Seen.next? (seen : Seen) (c : Char) : Option Seen :=
  let seen := { seen with named := false }
  if c = ':' then
    if seen.colons < 8 then some { seen with colons := seen.colons + 1 }
    else none
  else if c = '[' then
    if seen.percent || seen.opened then none
    else some { seen with opened := true }
  else if c = ']' then
    if seen.opened && !seen.closed then
      some { seen with closed := true, colons := 0, percent := false }
    else none
  else if c = '@' then
    some { seen with named := true, colons := 0, percent := false }
  else if c = '%' then some { seen with percent := true }
  else if isPlain c then some seen
  else none

/-- Whether an authority may end here. -/
def Seen.mayEnd (seen : Seen) : Bool :=
  seen.opened == seen.closed && seen.colons ≤ 1 && !seen.named &&
    !seen.percent

/-- What follows an authority, if it is one. -/
def afterAuthority? (seen : Seen) : List Char → Option (List Char)
  | [] => if seen.mayEnd then some [] else none
  | c :: rest =>
      if c = '/' ∨ c = '?' ∨ c = '#' then
        if seen.mayEnd then some (c :: rest) else none
      else (seen.next? c).bind fun seen => afterAuthority? seen rest

/-- Bytes that a URL in a request may have. -/
def mostBytes : Nat := 65534

def longestScheme : Nat := 64

/-- Whether a request can ask for a URL. -/
def isFit (url : Url) : Bool :=
  let text := url.text
  let behind := text.toList.drop (url.scheme.length + 1)
  decide (text.utf8ByteSize ≤ mostBytes) &&
    match behind with
    | '/' :: '/' :: rest =>
        decide (url.scheme.length ≤ longestScheme) &&
          match afterAuthority? {} rest with
          | some after => decide (after.length < rest.length)
          | none => false
    | _ => afterAuthority? {} text.toList == some []

end OperatorConsole.Http.Target
