import OperatorConsole.Text.CaseData
import OperatorConsole.Text.CodePoints

/-!
# Lowercase text

Full lowercasing, independent of language: every letter takes its lowercase
mapping, U+0130 becomes two characters, and a capital sigma that ends a word
becomes a final sigma.
-/

namespace OperatorConsole.Text

def CaseRun.covers (run : CaseRun) (codePoint : Nat) : Bool :=
  run.first ≤ codePoint && codePoint ≤ run.last &&
    (codePoint - run.first) % run.step == 0

/-- The lowercase form of one character that stands alone. -/
def lowercaseChar (c : Char) : List Char :=
  if c = '\u0130' then ['i', '\u0307']
  else
    match caseRuns.find? (·.covers c.toNat) with
    | some run => [Char.ofNat (c.toNat + run.shift).toNat]
    | none => [c]

def isCased (c : Char) : Bool :=
  inRanges casedRanges c

def isCaseIgnorable (c : Char) : Bool :=
  inRanges caseIgnorableRanges c

/-- The first character that is not case-ignorable is a cased one. -/
def meetsCased (cs : List Char) : Bool :=
  match cs.dropWhile isCaseIgnorable with
  | [] => false
  | c :: _ => isCased c

/-- A capital sigma between `before`, nearest character first, and `after` ends
a word. -/
def isFinalSigma (before after : List Char) : Bool :=
  meetsCased before && !meetsCased after

/-- Lowercase the characters that follow `before`, nearest character first. -/
def lowercaseAfter (before : List Char) : List Char → List Char
  | [] => []
  | c :: after =>
      (if c = 'Σ' then [if isFinalSigma before after then 'ς' else 'σ']
        else lowercaseChar c) ++
        lowercaseAfter (c :: before) after

def lowercaseChars (cs : List Char) : List Char :=
  lowercaseAfter [] cs

def lowercase (text : String) : String :=
  String.ofList (lowercaseChars text.toList)

/-- Lowercase the letters `A` to `Z` and leave every other character alone. -/
def asciiLowercase (text : String) : String :=
  String.ofList (text.toList.map Char.toLower)

end OperatorConsole.Text
