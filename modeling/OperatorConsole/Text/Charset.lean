import OperatorConsole.Text.Big5
import OperatorConsole.Text.CharsetData
import OperatorConsole.Text.Chinese
import OperatorConsole.Text.Japanese
import OperatorConsole.Text.Korean
import OperatorConsole.Text.Table
import OperatorConsole.Text.Utf8

/-!
# Charsets

The ways in which the bytes of a text may stand for its characters.  A byte
order mark at the front of a text says more than the label that comes with it.
-/

namespace OperatorConsole.Text

/-- How Japanese text is written. -/
inductive JapaneseWriting where
  | shifted
  | high
  | escaped
deriving DecidableEq, Repr

inductive Charset where
  | utf8
  | utf16 (highFirst : Bool)
  /-- One byte each; the first 128 characters are those of ASCII. -/
  | singleByte (upper : List Nat)
  /-- Bytes above 127 stand for private characters. -/
  | userDefined
  | big5
  | chinese
  | korean
  | japanese (writing : JapaneseWriting)
  /-- Text in such a charset is refused as a whole. -/
  | refused
deriving DecidableEq, Repr

namespace Charset

def utf8Labels : List String :=
  ["unicode-1-1-utf-8", "unicode11utf8", "unicode20utf8", "utf-8", "utf8",
    "x-unicode20utf8"]

def utf16LowFirstLabels : List String :=
  ["csunicode", "iso-10646-ucs-2", "ucs-2", "unicode", "unicodefeff",
    "utf-16", "utf-16le"]

def utf16HighFirstLabels : List String :=
  ["unicodefffe", "utf-16be"]

def big5Labels : List String :=
  ["big5", "big5-hkscs", "cn-big5", "csbig5", "x-x-big5"]

def chineseLabels : List String :=
  ["chinese", "csgb2312", "csiso58gb231280", "gb18030", "gb2312", "gb_2312",
    "gb_2312-80", "gbk", "iso-ir-58", "x-gbk"]

def koreanLabels : List String :=
  ["cseuckr", "csksc56011987", "euc-kr", "iso-ir-149", "korean",
    "ks_c_5601-1987", "ks_c_5601-1989", "ksc5601", "ksc_5601", "windows-949"]

def shiftedLabels : List String :=
  ["csshiftjis", "ms932", "ms_kanji", "shift-jis", "shift_jis", "sjis",
    "windows-31j", "x-sjis"]

def highLabels : List String :=
  ["cseucpkdfmtjapanese", "euc-jp", "x-euc-jp"]

def escapedLabels : List String :=
  ["csiso2022jp", "iso-2022-jp"]

def refusedLabels : List String :=
  ["csiso2022kr", "hz-gb-2312", "iso-2022-cn", "iso-2022-cn-ext",
    "iso-2022-kr", "replacement"]

def labelsOf (entry : String × String) : List String :=
  ((entry.1.toList.splitOn ' ').flatMap (·.splitOn '\n')).map String.ofList

/-- The charsets with a name of their own, and their labels. -/
def labelled : List (Charset × List String) := [
  (.utf8, utf8Labels),
  (.utf16 false, utf16LowFirstLabels),
  (.utf16 true, utf16HighFirstLabels),
  (.userDefined, ["x-user-defined"]),
  (.big5, big5Labels),
  (.chinese, chineseLabels),
  (.korean, koreanLabels),
  (.japanese .shifted, shiftedLabels),
  (.japanese .high, highLabels),
  (.japanese .escaped, escapedLabels),
  (.refused, refusedLabels)]

/-- The charset that a label in small letters names. -/
def ofLabel? (label : String) : Option Charset :=
  match labelled.find? fun entry => entry.2.contains label with
  | some (charset, _) => some charset
  | none =>
    (singleByteTables.find? fun entry => (labelsOf entry).contains label).map
      fun entry => .singleByte (Table.numbers entry.2)

/-- The charset that a byte order mark names, and the bytes after it. -/
def ofMark? : List UInt8 → Option (Charset × List UInt8)
  | 0xef :: 0xbb :: 0xbf :: rest => some (.utf8, rest)
  | 0xfe :: 0xff :: rest => some (.utf16 true, rest)
  | 0xff :: 0xfe :: rest => some (.utf16 false, rest)
  | _ => none

open Decoder (fault)

/-- Units of two bytes; `none` stands for a byte that is left over. -/
def units (highFirst : Bool) : List UInt8 → List (Option Nat)
  | first :: second :: rest =>
      let high := if highFirst then first else second
      let low := if highFirst then second else first
      some (high.toNat * 256 + low.toNat) :: units highFirst rest
  | [_] => [none]
  | [] => []

def isLeading (unit : Nat) : Bool :=
  0xd800 ≤ unit && unit < 0xdc00

def isTrailing (unit : Nat) : Bool :=
  0xdc00 ≤ unit && unit < 0xe000

/-- The characters of UTF-16 units; pairs of surrogates make one. -/
def ofUnits : List (Option Nat) → List Char
  | some unit :: some next :: rest =>
      if isLeading unit && isTrailing next then
        Char.ofNat (0x10000 + (unit - 0xd800) * 0x400 + (next - 0xdc00)) ::
          ofUnits rest
      else if isLeading unit || isTrailing unit then
        fault :: ofUnits (some next :: rest)
      else Char.ofNat unit :: ofUnits (some next :: rest)
  | [some unit, none] =>
      if isLeading unit then [fault]
      else [if isTrailing unit then fault else Char.ofNat unit, fault]
  | some unit :: rest =>
      (if isLeading unit || isTrailing unit then fault else Char.ofNat unit) ::
        ofUnits rest
  | none :: rest => fault :: ofUnits rest
  | [] => []

/-- The characters of bytes, with U+FFFD for each fault. -/
def decode (charset : Charset) (bytes : List UInt8) : List Char :=
  match charset with
  | .utf8 => Utf8.decodeLossy bytes
  | .utf16 highFirst => ofUnits (units highFirst bytes)
  | .singleByte upper =>
      bytes.map fun byte =>
        if byte < 0x80 then Char.ofNat byte.toNat
        else Char.ofNat (upper.getD (byte.toNat - 0x80) 0xfffd)
  | .userDefined =>
      bytes.map fun byte =>
        if byte < 0x80 then Char.ofNat byte.toNat
        else Char.ofNat (0xf700 + byte.toNat)
  | .big5 => Big5.decoder.run bytes
  | .chinese => Chinese.decoder.run bytes
  | .korean => Korean.decoder.run bytes
  | .japanese .shifted => Japanese.Shifted.decoder.run bytes
  | .japanese .high => Japanese.High.decoder.run bytes
  | .japanese .escaped => Japanese.Escaped.decoder.run bytes
  | .refused => if bytes.isEmpty then [] else [fault]

/-- The text of bytes that come with a charset. -/
def read (charset : Charset) (bytes : List UInt8) : String :=
  match ofMark? bytes with
  | some (marked, rest) => String.ofList (marked.decode rest)
  | none => String.ofList (charset.decode bytes)

end Charset

end OperatorConsole.Text
