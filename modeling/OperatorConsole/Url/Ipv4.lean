import OperatorConsole.Text.Percent

/-!
# IPv4 addresses

Hosts whose last label is a number are IPv4 addresses, written with one to four
numbers in base ten, eight or sixteen.  An address is shown as four decimal
numbers.
-/

namespace OperatorConsole.Url.Ipv4

/-- The four numbers of an address, each below 256. -/
structure Address where
  value : Nat
deriving DecidableEq, Repr

def Address.octets (address : Address) : List Nat :=
  [address.value / 0x1000000 % 256, address.value / 0x10000 % 256,
    address.value / 0x100 % 256, address.value % 256]

def Address.text (address : Address) : String :=
  String.intercalate "." (address.octets.map Nat.repr)

/-- The digits of a number and its base: `0x` stands before hexadecimal
digits, a zero before octal ones. -/
def baseAndDigits (cs : List Char) : Nat × List Char :=
  match cs with
  | '0' :: 'x' :: digits | '0' :: 'X' :: digits => (16, digits)
  | '0' :: digit :: digits => (8, digit :: digits)
  | digits => (10, digits)

/-- The value of digits in a base up to sixteen. -/
def valueIn? (base : Nat) (digits : List Char) : Option Nat :=
  digits.foldlM
    (fun value c => do
      let digit ← Text.hexValue? c
      if digit < base then some (value * base + digit) else none)
    0

/-- The value of a number.  A prefix without digits is zero. -/
def number? (cs : List Char) : Option Nat :=
  if cs.isEmpty then none
  else
    let (base, digits) := baseAndDigits cs
    valueIn? base digits

/-- The last label of a host, a dot at the end set aside. -/
def lastLabel (host : List Char) : List Char :=
  match (host.splitOn '.').reverse with
  | [] :: label :: _ => label
  | label :: _ => label
  | [] => []

/-- The host has to be an IPv4 address. -/
def endsInNumber (host : List Char) : Bool :=
  let label := lastLabel host
  (!label.isEmpty && label.all Char.isDigit) || (number? label).isSome

/-- Every number but the last is one octet; the last one fills the rest. -/
def combine? (numbers : List Nat) : Option Address :=
  match numbers.reverse with
  | [] => none
  | last :: before =>
      let octets := before.reverse
      if last < Nat.pow 256 (4 - octets.length) ∧ octets.all (· < 256) then
        let front :=
          octets.foldr (fun octet rest => octet * 0x1000000 + rest / 256) 0
        some ⟨front + last⟩
      else none

/-- Read an address from a host that ends in a number. -/
def ofHost? (host : List Char) : Option Address :=
  let labels := host.splitOn '.'
  let labels := if labels.getLast? = some [] then labels.dropLast else labels
  if 4 < labels.length then none
  else (labels.mapM number?).bind combine?

/-- A decimal number below 256 without a zero in front. -/
def octet? (cs : List Char) : Option Nat :=
  if cs.isEmpty || 3 < cs.length || !cs.all Char.isDigit then none
  else if cs.head? = some '0' ∧ cs ≠ ['0'] then none
  else (valueIn? 10 cs).filter (· < 256)

/-- A text is an address in the form in which addresses are shown. -/
def isLiteral (cs : List Char) : Bool :=
  let labels := cs.splitOn '.'
  labels.length == 4 && labels.all fun label => (octet? label).isSome

end OperatorConsole.Url.Ipv4
