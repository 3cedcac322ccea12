import OperatorConsole.Json.Value
import OperatorConsole.Text.Utf8

/-!
# Faults of JSON texts

Why a text cannot be read as the value that was asked for.  A fault of the
grammar has its place where it arises.  A fault of a value, such as a missing
member, is placed where that value ends, so it travels with the characters that
follow until a reader knows that place.  Places count bytes.
-/

namespace OperatorConsole.Json

/-- What stood where something else was asked for. -/
inductive Found where
  | null
  | boolean (value : Bool)
  | number (value : Number)
  | string (value : String)
  | sequence
  | map
deriving DecidableEq, Repr

def Found.text : Found → String
  | .null => "null"
  | .boolean value => if value then "boolean `true`" else "boolean `false`"
  | .number (.whole value) => "integer `" ++ wholeText value ++ "`"
  | .number (.floating negative magnitude) =>
      "floating point `" ++ floatText negative magnitude ++ "`"
  | .string value => "string " ++ Text.quote value
  | .sequence => "sequence"
  | .map => "map"

def Value.found : Value → Found
  | .null => .null
  | .boolean value => .boolean value
  | .number value => .number value
  | .string value => .string value
  | .array _ => .sequence
  | .object _ => .map

inductive Cause where
  | endInValue
  | endInList
  | endInObject
  | endInString
  | noColon
  | noListEnd
  | noObjectEnd
  | noIdent
  | noValue
  | invalidEscape
  | invalidNumber
  | numberOutOfRange
  | loneSurrogate
  | endOfHexEscape
  | controlCharacter
  | keyNotString
  | trailingComma
  | trailingCharacters
  | recursionLimit
  | wrongType (found : Found) (expected : String)
  | wrongValue (found : Found) (expected : String)
  | wrongLength (length : Nat) (expected : String)
  | unknownVariant (name : String) (known : List String)
  | missingField (name : String)
  | duplicateField (name : String)
deriving DecidableEq, Repr

/-- A list of alternatives, each in backticks. -/
def alternatives : List String → String
  | [first, second] => "`" ++ first ++ "` or `" ++ second ++ "`"
  | names =>
      "one of " ++
        String.intercalate ", " (names.map fun name => "`" ++ name ++ "`")

def Cause.message : Cause → String
  | .endInValue => "EOF while parsing a value"
  | .endInList => "EOF while parsing a list"
  | .endInObject => "EOF while parsing an object"
  | .endInString => "EOF while parsing a string"
  | .noColon => "expected `:`"
  | .noListEnd => "expected `,` or `]`"
  | .noObjectEnd => "expected `,` or `" ++ String.singleton '}' ++ "`"
  | .noIdent => "expected ident"
  | .noValue => "expected value"
  | .invalidEscape => "invalid escape"
  | .invalidNumber => "invalid number"
  | .numberOutOfRange => "number out of range"
  | .loneSurrogate => "lone leading surrogate in hex escape"
  | .endOfHexEscape => "unexpected end of hex escape"
  | .controlCharacter =>
      "control character (\\u0000-\\u001F) found while parsing a string"
  | .keyNotString => "key must be a string"
  | .trailingComma => "trailing comma"
  | .trailingCharacters => "trailing characters"
  | .recursionLimit => "recursion limit exceeded"
  | .wrongType found expected =>
      "invalid type: " ++ found.text ++ ", expected " ++ expected
  | .wrongValue found expected =>
      "invalid value: " ++ found.text ++ ", expected " ++ expected
  | .wrongLength length expected =>
      "invalid length " ++ Nat.repr length ++ ", expected " ++ expected
  | .unknownVariant name known =>
      "unknown variant `" ++ name ++ "`, expected " ++ alternatives known
  | .missingField name => "missing field `" ++ name ++ "`"
  | .duplicateField name => "duplicate field `" ++ name ++ "`"

/-- A fault in a text that is being read. -/
inductive Fault where
  /-- The fault lies where this many bytes are left. -/
  | placed (cause : Cause) (left : Nat)
  /-- The fault belongs to the value whose reading has come this far. -/
  | pending (cause : Cause) (rest : List Char)
deriving Repr

def byteCount (cs : List Char) : Nat :=
  (Text.Utf8.encode cs).length

namespace Fault

/-- A fault at the next byte to be read. -/
def here (cause : Cause) (rest : List Char) : Fault :=
  .placed cause (byteCount rest)

/-- A fault that includes the next byte, if there is one. -/
def atNext (cause : Cause) (rest : List Char) : Fault :=
  .placed cause (byteCount rest - 1)

/-- Place a pending fault where its value ends. -/
def settle : Fault → Fault
  | .pending cause rest => here cause rest
  | fault => fault

def cause : Fault → Cause
  | .placed cause _ => cause
  | .pending cause _ => cause

def left : Fault → Nat
  | .placed _ left => left
  | .pending _ rest => byteCount rest

end Fault

/-- A fault with its line, from one, and its column, in bytes from the start of
the line. -/
structure ReadError where
  cause : Cause
  line : Nat
  column : Nat
deriving DecidableEq, Repr

def ReadError.message (error : ReadError) : String :=
  error.cause.message ++ " at line " ++ Nat.repr error.line ++
    " column " ++ Nat.repr error.column

/-- The bytes after the last newline. -/
def lastLine (bytes : List UInt8) : List UInt8 :=
  bytes.reverse.takeWhile (· != 0x0a)

/-- Work out the place of a fault in the text in which it arose. -/
def Fault.locate (text : String) (fault : Fault) : ReadError :=
  let bytes := Text.Utf8.encode text.toList
  let before := bytes.take (bytes.length - fault.left)
  { cause := fault.cause
    line := before.count 0x0a + 1
    column := (lastLine before).length }

end OperatorConsole.Json
