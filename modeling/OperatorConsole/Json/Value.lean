import OperatorConsole.Numeric.Shortest
import OperatorConsole.Text.Quoted

/-!
# JSON values

JSON values as they are read and written here: whole numbers that fit 64 bits
stay whole, other numbers are binary64, and the members of an object keep their
order.  `compact` writes a value without blanks.
-/

namespace OperatorConsole.Json

/-- A number: whole, or a signed binary64 magnitude. -/
inductive Number where
  | whole (value : Int)
  | floating (negative : Bool) (magnitude : Numeric.Binary64)
deriving DecidableEq, Repr

inductive Value where
  | null
  | boolean (value : Bool)
  | number (value : Number)
  | string (value : String)
  | array (items : List Value)
  | object (members : List (String × Value))
deriving Repr

/-- Numbers from 0.00001 up to 16 digits are written in full. -/
def floatStyle : Numeric.DecimalStyle where
  leastPositional := -5
  greatestPositional := 15
  plusSign := true

def wholeText (value : Int) : String :=
  if value < 0 then "-" ++ Nat.repr value.natAbs else Nat.repr value.natAbs

def floatText (negative : Bool) (magnitude : Numeric.Binary64) : String :=
  (if negative then "-" else "") ++
    String.ofList (magnitude.shortest.text floatStyle)

def Number.text : Number → String
  | .whole value => wholeText value
  | .floating negative magnitude => floatText negative magnitude

/-- A control character as `\u` and four digits. -/
def controlEscape (c : Char) : List Char :=
  ['\\', 'u', '0', '0', Nat.digitChar (c.toNat / 16),
    Nat.digitChar (c.toNat % 16)]

/-- One character inside a JSON string. -/
def escapeChar (c : Char) : List Char :=
  if c = '"' then ['\\', '"']
  else if c = '\\' then ['\\', '\\']
  else if c = '\x08' then ['\\', 'b']
  else if c = '\x0c' then ['\\', 'f']
  else if c = '\n' then ['\\', 'n']
  else if c = '\r' then ['\\', 'r']
  else if c = '\t' then ['\\', 't']
  else if c.toNat < 0x20 then controlEscape c
  else [c]

/-- A string in quotes. -/
def stringText (value : String) : List Char :=
  '"' :: value.toList.flatMap escapeChar ++ ['"']

mutual

/-- A value without blanks. -/
def Value.compact : Value → List Char
  | .null => "null".toList
  | .boolean true => "true".toList
  | .boolean false => "false".toList
  | .number value => value.text.toList
  | .string value => stringText value
  | .array items => '[' :: compactItems items ++ [']']
  | .object members => '{' :: compactMembers members ++ ['}']

def compactItems : List Value → List Char
  | [] => []
  | [item] => item.compact
  | item :: rest => item.compact ++ ',' :: compactItems rest

def compactMembers : List (String × Value) → List Char
  | [] => []
  | [(name, value)] => stringText name ++ ':' :: value.compact
  | (name, value) :: rest =>
      stringText name ++ ':' :: value.compact ++ ',' :: compactMembers rest

end

/-- The text of a value without blanks. -/
def Value.compactText (value : Value) : String :=
  String.ofList value.compact

end OperatorConsole.Json
