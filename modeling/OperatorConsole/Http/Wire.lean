import OperatorConsole.Http.Message
import OperatorConsole.Text.Blank
import OperatorConsole.Text.Percent
import OperatorConsole.Text.Utf8

/-!
# Responses on the wire

A response comes as bytes: a line with the status, a line for each header, an
empty line and the body.  Lines end with a line feed, and a carriage return may
stand before it.  Bytes that are no such thing count as a closed connection.
-/

namespace OperatorConsole.Http.Wire

/-! ## Lines -/

/-- A byte that may stand in a line. -/
def isText (byte : UInt8) : Bool :=
  byte == 0x09 || (0x20 ≤ byte && byte != 0x7f)

/-- The rest of a line, and what follows it. -/
def line? : List UInt8 → Option (List UInt8 × List UInt8)
  | 0x0a :: rest => some ([], rest)
  | 0x0d :: 0x0a :: rest => some ([], rest)
  | byte :: rest =>
      if isText byte then
        (line? rest).map fun (text, rest) => (byte :: text, rest)
      else none
  | [] => none

/-- Leave an empty line. -/
def lineEnd? : List UInt8 → Option (List UInt8)
  | 0x0a :: rest => some rest
  | 0x0d :: 0x0a :: rest => some rest
  | _ => none

def afterEmptyLines : List UInt8 → List UInt8
  | 0x0a :: rest => afterEmptyLines rest
  | 0x0d :: 0x0a :: rest => afterEmptyLines rest
  | bytes => bytes

def textOf (bytes : List UInt8) : String :=
  String.ofList (Text.Utf8.decodeLossy bytes)

/-! ## Heads -/

structure Head where
  /-- The version before this one has fewer ways to send a body. -/
  isOld : Bool
  status : Nat
  headers : List (String × String)
deriving DecidableEq, Repr

/-- Read the version, up to the blank behind it. -/
def version? (bytes : List UInt8) : Option (Bool × List UInt8) :=
  let name := Text.Utf8.encode "HTTP/1.".toList
  if name.isPrefixOf bytes then
    match bytes.drop name.length with
    | 0x30 :: 0x20 :: rest => some (true, rest)
    | 0x31 :: 0x20 :: rest => some (false, rest)
    | _ => none
  else none

def isDigit (byte : UInt8) : Bool :=
  0x30 ≤ byte && byte ≤ 0x39

/-- The value of decimal digits. -/
def decimal (digits : List UInt8) : Nat :=
  digits.foldl (fun value digit => 10 * value + (digit.toNat - 0x30)) 0

/-- Read the three digits of a status and the rest of their line. -/
def status? (bytes : List UInt8) : Option (Nat × List UInt8) := do
  let digits := bytes.take 3
  let status := decimal digits
  if digits.all isDigit && digits.length = 3 && 100 ≤ status then
    match bytes.drop 3 with
    | 0x20 :: rest => (line? rest).map fun (_, rest) => (status, rest)
    | rest => (lineEnd? rest).map fun rest => (status, rest)
  else none

def isTokenByte (byte : UInt8) : Bool :=
  isToken (Char.ofNat byte.toNat)

def header? (bytes : List UInt8) :
    Option ((String × String) × List UInt8) :=
  match bytes.span isTokenByte with
  | (first :: more, 0x3a :: rest) =>
      (line? rest).map fun (value, rest) =>
        ((textOf (first :: more), textOf value), rest)
  | _ => none

/-- Read at most so many headers and the empty line behind them. -/
def headers? (left : Nat) (bytes : List UInt8) :
    Option (List (String × String) × List UInt8) :=
  match lineEnd? bytes with
  | some rest => some ([], rest)
  | none =>
      match left with
      | 0 => none
      | left + 1 => do
          let (header, rest) ← header? bytes
          let (headers, rest) ← headers? left rest
          return (header :: headers, rest)

def mostHeaders : Nat := 100

def head? (bytes : List UInt8) : Option (Head × List UInt8) := do
  let (isOld, rest) ← version? (afterEmptyLines bytes)
  let (status, rest) ← status? rest
  let (headers, rest) ← headers? mostHeaders rest
  return (⟨isOld, status, headers⟩, rest)

/-! ## Bodies -/

/-- How the end of a body is told. -/
inductive Framing where
  | empty
  | sized (length : Nat)
  | chunked
  /-- The body ends with the connection. -/
  | toEnd
deriving DecidableEq, Repr

/-- The parts of a value between commas, without blanks. -/
def listed (value : String) : List String :=
  (value.toList.splitOn ',').map fun part => Text.trim (String.ofList part)

def greatestLength : Nat := 0xfffffffffffffffd

/-- The length that a header names. -/
def length? (text : String) : Option Nat :=
  let bytes := Text.Utf8.encode text.toList
  if bytes.isEmpty || !bytes.all isDigit then none
  else
    let length := decimal bytes
    if length ≤ greatestLength then some length else none

/-- The length that all of them agree upon. -/
def agreed? : List String → Option Nat
  | [] => none
  | text :: others => do
      let length ← length? text
      if others.all fun other => length? other == some length then length
      else none

def framing? (head : Head) : Option Framing :=
  if head.status = 101 ∨ head.status = 204 ∨ head.status = 304 then
    some .empty
  else
    match (fieldsOf head.headers "transfer-encoding").getLast? with
    | some value =>
        if head.isOld then none
        else if ((listed value).getLast?.map (sameName · "chunked")).getD
            false then
          some .chunked
        else some .toEnd
    | none =>
        match fieldsOf head.headers "content-length" with
        | [] => some .toEnd
        | values => (agreed? (values.flatMap listed)).map .sized

def hexDigit? (byte : UInt8) : Option Nat :=
  Text.hexValue? (Char.ofNat byte.toNat)

/-- Read the line with the size of a chunk. -/
def chunkSize? (bytes : List UInt8) : Option (Nat × List UInt8) := do
  let (digits, rest) := bytes.span fun byte => (hexDigit? byte).isSome
  let size := digits.foldl
    (fun size digit => 16 * size + (hexDigit? digit).getD 0) 0
  let rest := rest.dropWhile fun byte => byte == 0x20 || byte == 0x09
  let rest :=
    match rest with
    | 0x3b :: rest =>
        rest.dropWhile fun byte => byte != 0x0d && byte != 0x0a
    | rest => rest
  match rest with
  | 0x0d :: 0x0a :: rest =>
      if digits.isEmpty || 0xffffffffffffffff < size then none
      else some (size, rest)
  | _ => none

/-- The lines behind the last chunk end with an empty one. -/
def closes : Bool → List UInt8 → Bool
  | true, 0x0d :: 0x0a :: _ => true
  | false, 0x0d :: 0x0a :: rest => closes true rest
  | _, 0x0d :: _ => false
  | _, _ :: rest => closes false rest
  | _, [] => false

/-- Put the chunks of a body together.  Each takes a byte at least. -/
def chunks? : Nat → List UInt8 → Option (List UInt8)
  | 0, _ => none
  | fuel + 1, bytes => do
      let (size, rest) ← chunkSize? bytes
      if size = 0 then
        if closes true rest then some [] else none
      else
        match rest.drop size with
        | 0x0d :: 0x0a :: more => do
            let others ← chunks? fuel more
            return rest.take size ++ others
        | _ => none

/-- The body in the bytes behind a head, unless it breaks off. -/
def Framing.body? (framing : Framing) (bytes : List UInt8) :
    Option (List UInt8) :=
  match framing with
  | .empty => some []
  | .sized length =>
      if length ≤ bytes.length then some (bytes.take length) else none
  | .chunked => chunks? (bytes.length + 1) bytes
  | .toEnd => some bytes

/-! ## Responses -/

/-- A status that only announces the response. -/
def isInterim (status : Nat) : Bool :=
  status < 200 && status != 101

/-- Read the response behind those that announce it.  Each of them takes a byte
at least. -/
def responseFrom? : Nat → List UInt8 → Option Response
  | 0, _ => none
  | fuel + 1, bytes => do
      let (head, rest) ← head? bytes
      if isInterim head.status then responseFrom? fuel rest
      else
        let framing ← framing? head
        return ⟨head.status, head.headers, framing.body? rest⟩

def response? (bytes : List UInt8) : Option Response :=
  responseFrom? (bytes.length + 1) bytes

end OperatorConsole.Http.Wire

namespace OperatorConsole.Http

/-- What a service does that sends bytes and closes the connection. -/
def Answer.ofBytes (bytes : List UInt8) : Answer :=
  match Wire.response? bytes with
  | some received => .response received
  | none => .closed

end OperatorConsole.Http
