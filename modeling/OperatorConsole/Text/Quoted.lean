import OperatorConsole.Text.CodePoints
import OperatorConsole.Text.PrintData

/-!
# Quoted text

Text as error messages show it: in double quotes, with a backslash before a
quote or a backslash, short escapes for four controls, and a code point escape
for every other character that could not be told apart on a screen.
-/

namespace OperatorConsole.Text

/-- The digits of `value` in base sixteen, in lowercase. -/
def hexDigits (value : Nat) : List Char :=
  Nat.toDigits 16 value

/-- A letter that takes up room and shows nothing. -/
def isFiller (c : Char) : Bool :=
  [0x115f, 0x1160, 0x3164, 0xffa0].contains c.toNat

/-- A sound mark that is as wide as a letter, and not drawn upon one. -/
def isWideMark (c : Char) : Bool :=
  c.toNat = 0xff9e || c.toNat = 0xff9f

/-- The character is shown as it is in quoted text. -/
def isPlain (c : Char) : Bool :=
  isWideMark c ||
    (!inRanges graphemeExtendRanges c && !inRanges unprintableRanges c &&
      !isFiller c)

/-- One character of quoted text. -/
def quoteChar (c : Char) : List Char :=
  if c = '\t' then ['\\', 't']
  else if c = '\r' then ['\\', 'r']
  else if c = '\n' then ['\\', 'n']
  else if c = '\x00' then ['\\', '0']
  else if c = '"' then ['\\', '"']
  else if c = '\\' then ['\\', '\\']
  else if isPlain c then [c]
  else ['\\', 'u', '{'] ++ hexDigits c.toNat ++ ['}']

/-- A text in double quotes. -/
def quote (text : String) : String :=
  String.ofList ('"' :: text.toList.flatMap quoteChar ++ ['"'])

end OperatorConsole.Text
