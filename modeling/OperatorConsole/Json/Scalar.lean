import OperatorConsole.Json.Fault
import OperatorConsole.Text.Percent

/-!
# Reading JSON scalars

Words, strings and numbers at the front of the characters that are left.  A
string is read by a small machine, one character at a time, because an escape
can span twelve of them.
-/

namespace OperatorConsole.Json

/-- A result and the characters that are left. -/
abbrev WithRest (α : Type) := α × List Char

def isBlank (c : Char) : Bool :=
  c = ' ' || c = '\n' || c = '\t' || c = '\r'

def skipBlanks (cs : List Char) : List Char :=
  cs.dropWhile isBlank

/-- Read the rest of a word such as `null`. -/
def word : List Char → List Char → Except Fault (List Char)
  | [], cs => .ok cs
  | _ :: _, [] => .error (.here .endInValue [])
  | expected :: more, c :: rest =>
      if c = expected then word more rest
      else .error (.atNext .noIdent (c :: rest))

/-! ## Strings -/

/-- Where the reading of a string stands between two characters. -/
inductive StringState where
  | plain
  | escape
  /-- Some of the four digits of a `\u` escape have been read; `lead` is the
  leading surrogate before it. -/
  | hex (lead : Option Nat) (digits value : Nat)
  /-- A leading surrogate needs a backslash next, -/
  | pairBackslash (lead : Nat)
  /-- and then a `u`. -/
  | pairLetter (lead : Nat)
deriving DecidableEq, Repr

/-- What a character of a string does. -/
inductive StringMove where
  | closed
  | go (emitted : Option Char) (next : StringState)
deriving DecidableEq, Repr

def isLeading (value : Nat) : Bool :=
  0xd800 ≤ value && value ≤ 0xdbff

def isTrailing (value : Nat) : Bool :=
  0xdc00 ≤ value && value ≤ 0xdfff

/-- The character of a surrogate pair. -/
def paired (lead trail : Nat) : Char :=
  Char.ofNat ((lead - 0xd800) * 0x400 + (trail - 0xdc00) + 0x10000)

/-- What the four digits of a `\u` escape stand for.  Surrogates must come in
pairs, but a string that is only skipped may hold any. -/
def hexMove (skipping : Bool) (lead : Option Nat) (value : Nat)
    (rest : List Char) : Except Fault StringMove :=
  if skipping then .ok (.go none .plain)
  else
    match lead with
    | some high =>
        if isTrailing value then .ok (.go (some (paired high value)) .plain)
        else .error (.here .loneSurrogate rest)
    | none =>
        if isTrailing value then .error (.here .loneSurrogate rest)
        else if isLeading value then .ok (.go none (.pairBackslash value))
        else .ok (.go (some (Char.ofNat value)) .plain)

/-- The character that a one-letter escape stands for. -/
def escaped? (c : Char) : Option Char :=
  if c = '"' ∨ c = '\\' ∨ c = '/' then some c
  else if c = 'b' then some '\x08'
  else if c = 'f' then some '\x0c'
  else if c = 'n' then some '\n'
  else if c = 'r' then some '\r'
  else if c = 't' then some '\t'
  else none

/-- Four bytes belong to a `\u` escape whatever they are; a text that ends
before them ends inside the string. -/
def hexFault (digits : Nat) (cs : List Char) : Fault :=
  let bytes := byteCount cs
  if bytes < 4 - digits then .placed .endInString 0
  else .placed .invalidEscape (bytes - (4 - digits))

def stringMove (skipping : Bool) (state : StringState) (c : Char)
    (rest : List Char) : Except Fault StringMove :=
  match state with
  | .plain =>
      if c = '"' then .ok .closed
      else if c = '\\' then .ok (.go none .escape)
      else if c.toNat < 0x20 then
        .error (.here .controlCharacter (if skipping then c :: rest else rest))
      else .ok (.go (some c) .plain)
  | .escape =>
      if c = 'u' then .ok (.go none (.hex none 0 0))
      else
        match escaped? c with
        | some meant => .ok (.go (some meant) .plain)
        | none => .error (.atNext .invalidEscape (c :: rest))
  | .hex lead digits value =>
      match Text.hexValue? c with
      | none => .error (hexFault digits (c :: rest))
      | some digit =>
          let next := value * 16 + digit
          if digits = 3 then hexMove skipping lead next rest
          else .ok (.go none (.hex lead (digits + 1) next))
  | .pairBackslash lead =>
      if c = '\\' then .ok (.go none (.pairLetter lead))
      else .error (.atNext .endOfHexEscape (c :: rest))
  | .pairLetter lead =>
      if c = 'u' then .ok (.go none (.hex (some lead) 0 0))
      else .error (.atNext .endOfHexEscape (c :: rest))

/-- Read a string from `state` up to and including its closing quote. -/
def stringFrom (skipping : Bool) :
    StringState → List Char → Except Fault (WithRest (List Char))
  | _, [] => .error (.here .endInString [])
  | state, c :: rest =>
      match stringMove skipping state c rest with
      | .error fault => .error fault
      | .ok .closed => .ok ([], rest)
      | .ok (.go emitted next) =>
          match stringFrom skipping next rest with
          | .error fault => .error fault
          | .ok (more, after) => .ok (emitted.toList ++ more, after)

/-- Read a string of which the opening quote has been read. -/
def stringBody (cs : List Char) : Except Fault (WithRest String) :=
  match stringFrom false .plain cs with
  | .ok (content, rest) => .ok (String.ofList content, rest)
  | .error fault => .error fault

/-- Skip a string of which the opening quote has been read. -/
def skipString (cs : List Char) : Except Fault (List Char) :=
  (stringFrom true .plain cs).map Prod.snd

/-! ## Numbers -/

def digitValue (c : Char) : Nat :=
  c.toNat - 0x30

/-- The greatest significand that is kept exactly. -/
def significandBound : Nat := Nat.pow 2 64 - 1

/-- The greatest power of ten that is kept exactly. -/
def powerBound : Nat := Nat.pow 2 31 - 1

/-- Append digits to a significand until it is full, and count the others. -/
def absorb (significand : Nat) (digits : List Char) : Nat × Nat :=
  digits.foldl
    (fun state digit =>
      let grown := state.1 * 10 + digitValue digit
      if state.2 = 0 ∧ grown ≤ significandBound then (grown, 0)
      else (state.1, state.2 + 1))
    (significand, 0)

def floating (negative : Bool) (significand : Nat) (power : Int)
    (rest : List Char) : Except Fault (WithRest Number) :=
  match Numeric.Binary64.ofDecimal? significand power with
  | some magnitude => .ok (.floating negative magnitude, rest)
  | none => .error (.here .numberOutOfRange rest)

/-- Read the digits of a power of ten; the error is what is left after the
digit that makes it too great. -/
def powerDigits (value : Nat) :
    List Char → Except (List Char) (Nat × List Char)
  | [] => .ok (value, [])
  | c :: rest =>
      if c.isDigit then
        let grown := value * 10 + digitValue c
        if powerBound < grown then .error rest else powerDigits grown rest
      else .ok (value, c :: rest)

/-- The sign of a power of ten, and what follows it. -/
def powerSign : List Char → Bool × List Char
  | '+' :: rest => (true, rest)
  | '-' :: rest => (false, rest)
  | cs => (true, cs)

/-- Read the power of ten after `e`, of a number with the significand
`significand * 10 ^ scale`. -/
def exponentPart (negative : Bool) (significand : Nat) (scale : Int)
    (cs : List Char) : Except Fault (WithRest Number) :=
  let (upward, cs) := powerSign cs
  match cs with
  | [] => .error (.here .endInValue [])
  | c :: rest =>
      if !c.isDigit then .error (.atNext .invalidNumber (c :: rest))
      else
        match powerDigits 0 (c :: rest) with
        | .ok (power, rest) =>
            let power : Int := if upward then power else -power
            floating negative significand (scale + power) rest
        | .error rest =>
            if significand ≠ 0 ∧ upward then
              .error (.here .numberOutOfRange rest)
            else
              .ok (.floating negative .zero, rest.dropWhile Char.isDigit)

/-- Read the digits after a decimal point. -/
def fractionPart (negative : Bool) (significand : Nat) (scale : Int)
    (cs : List Char) : Except Fault (WithRest Number) :=
  let digits := cs.takeWhile Char.isDigit
  let rest := cs.dropWhile Char.isDigit
  if digits.isEmpty then
    .error (.atNext (if rest.isEmpty then .endInValue else .invalidNumber) rest)
  else
    let (significand, dropped) := absorb significand digits
    let scale := scale - (digits.length - dropped : Nat)
    match rest with
    | 'e' :: rest | 'E' :: rest =>
        exponentPart negative significand scale rest
    | rest => floating negative significand scale rest

/-- A number without fraction and exponent.  Minus zero and what is below the
64-bit range are floating. -/
def wholeNumber (negative : Bool) (value : Nat) : Number :=
  if !negative then .whole value
  else if value = 0 ∨ Nat.pow 2 63 < value then
    .floating true ((Numeric.Binary64.ofNat? value).getD .zero)
  else .whole (-value)

/-- Read what may follow the digits of a whole number. -/
def numberTail (negative : Bool) (significand dropped : Nat)
    (cs : List Char) : Except Fault (WithRest Number) :=
  match cs with
  | '.' :: rest => fractionPart negative significand dropped rest
  | 'e' :: rest | 'E' :: rest =>
      exponentPart negative significand dropped rest
  | rest =>
      if dropped = 0 then .ok (wholeNumber negative significand, rest)
      else floating negative significand dropped rest

/-- Read a number whose sign has been read. -/
def numberBody (negative : Bool) (cs : List Char) :
    Except Fault (WithRest Number) :=
  match cs with
  | [] => .error (.here .endInValue [])
  | '0' :: rest =>
      if rest.head?.any Char.isDigit then
        .error (.atNext .invalidNumber rest)
      else numberTail negative 0 0 rest
  | c :: rest =>
      if c.isDigit then
        let (significand, dropped) :=
          absorb 0 (c :: rest.takeWhile Char.isDigit)
        numberTail negative significand dropped
          (rest.dropWhile Char.isDigit)
      else .error (.atNext .invalidNumber (c :: rest))

/-! ## Skipping numbers -/

def skipExponent (cs : List Char) : Except Fault (List Char) :=
  match (powerSign cs).2 with
  | [] => .error (.here .invalidNumber [])
  | c :: rest =>
      if c.isDigit then .ok (rest.dropWhile Char.isDigit)
      else .error (.atNext .invalidNumber (c :: rest))

def skipFraction (cs : List Char) : Except Fault (List Char) :=
  let rest := cs.dropWhile Char.isDigit
  if (cs.takeWhile Char.isDigit).isEmpty then
    .error (.atNext .invalidNumber rest)
  else
    match rest with
    | 'e' :: rest | 'E' :: rest => skipExponent rest
    | rest => .ok rest

def skipNumberTail : List Char → Except Fault (List Char)
  | '.' :: rest => skipFraction rest
  | 'e' :: rest | 'E' :: rest => skipExponent rest
  | rest => .ok rest

/-- Skip a number whose sign has been read. -/
def skipNumber : List Char → Except Fault (List Char)
  | [] => .error (.here .invalidNumber [])
  | '0' :: rest =>
      if rest.head?.any Char.isDigit then
        .error (.atNext .invalidNumber rest)
      else skipNumberTail rest
  | c :: rest =>
      if c.isDigit then skipNumberTail (rest.dropWhile Char.isDigit)
      else .error (.atNext .invalidNumber (c :: rest))

end OperatorConsole.Json
