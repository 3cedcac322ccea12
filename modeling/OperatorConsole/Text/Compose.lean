import OperatorConsole.Text.ComposeData
import OperatorConsole.Text.Table

/-!
# Composed text

Canonical composition: every character is taken apart, marks are put in the
order of their classes, and each mark is joined to the character before it if
there is one character for both.  Hangul syllables follow from arithmetic.
-/

namespace OperatorConsole.Text

/-- Three at a time. -/
def triples : List Nat → List (Nat × Nat × Nat)
  | a :: b :: c :: rest => (a, b, c) :: triples rest
  | _ => []

def compositions : List (Nat × Nat × Nat) :=
  triples (Table.numbers compositionTable)

/-- The ranges of marks that begin at `start` or later, with their classes. -/
def classesFrom (start : Nat) : List Nat → List ((Nat × Nat) × Nat)
  | gap :: more :: mark :: rest =>
      ((start + gap, start + gap + more), mark) ::
        classesFrom (start + gap + more + 1) rest
  | _ => []

def markClasses : List ((Nat × Nat) × Nat) :=
  classesFrom 0 (Table.numbers classTable)

/-- The class of a mark; zero if the character takes part in no order. -/
def markClass (c : Char) : Nat :=
  match markClasses.find? fun entry => inRanges [entry.1] c with
  | some entry => entry.2
  | none => 0

def markRanges : List (Nat × Nat) :=
  Table.ranges markTable

def isMark (c : Char) : Bool :=
  inRanges markRanges c

/-- The parts of a Hangul syllable. -/
def hangulParts? (c : Char) : Option (List Char) :=
  if 0xac00 ≤ c.toNat ∧ c.toNat ≤ 0xd7a3 then
    let index := c.toNat - 0xac00
    let trailing := index % 28
    some
      ([Char.ofNat (0x1100 + index / 588),
          Char.ofNat (0x1161 + index % 588 / 28)] ++
        if trailing = 0 then [] else [Char.ofNat (0x11a7 + trailing)])
  else none

/-- Take a character apart.  No character is made of more than four. -/
def parts : Nat → Char → List Char
  | 0, c => [c]
  | fuel + 1, c =>
      match hangulParts? c with
      | some parts => parts
      | none =>
          match compositions.find? fun entry => entry.2.2 == c.toNat with
          | some (first, second, _) =>
              parts fuel (Char.ofNat first) ++ [Char.ofNat second]
          | none => [c]

/-- Put a mark before all marks of higher classes at the end of a text, which
is given last character first. -/
def insertMark (c : Char) : List Char → List Char
  | [] => [c]
  | last :: before =>
      if markClass c < markClass last ∧ 0 < markClass c then
        last :: insertMark c before
      else c :: last :: before

def decompose (cs : List Char) : List Char :=
  ((cs.flatMap (parts 4)).foldl (fun text c => insertMark c text) []).reverse

/-- The one character for two. -/
def composed? (first second : Char) : Option Char :=
  let lead := first.toNat - 0x1100
  let vowel := second.toNat - 0x1161
  let syllable := first.toNat - 0xac00
  if 0x1100 ≤ first.toNat ∧ lead < 19 ∧
      0x1161 ≤ second.toNat ∧ vowel < 21 then
    some (Char.ofNat (0xac00 + (lead * 21 + vowel) * 28))
  else if 0xac00 ≤ first.toNat ∧ syllable < 11172 ∧ syllable % 28 = 0 ∧
      0x11a7 < second.toNat ∧ second.toNat < 0x11c3 then
    some (Char.ofNat (first.toNat + (second.toNat - 0x11a7)))
  else
    (compositions.find? fun entry =>
      entry.1 == first.toNat && entry.2.1 == second.toNat).map
        fun entry => Char.ofNat entry.2.2

/-- Text of which the last starting character may still be joined: what stands
before it, last first, the character, and the marks after it, last first. -/
structure Composing where
  before : List Char
  starter : Option Char
  marks : List Char
deriving Repr

def Composing.toList (state : Composing) : List Char :=
  (state.marks ++ state.starter.toList ++ state.before).reverse

/-- A mark is cut off from its character by one of the same class. -/
def Composing.isBlocked (state : Composing) (c : Char) : Bool :=
  match state.marks with
  | [] => false
  | last :: _ => markClass c ≤ markClass last

def Composing.pass (state : Composing) (c : Char) : Composing :=
  let joined :=
    if state.isBlocked c then none else state.starter.bind (composed? · c)
  match joined with
  | some starter => { state with starter := some starter }
  | none =>
      if markClass c = 0 then
        ⟨state.marks ++ state.starter.toList ++ state.before, some c, []⟩
      else { state with marks := c :: state.marks }

/-- The composed form of a text. -/
def compose (cs : List Char) : List Char :=
  ((decompose cs).foldl Composing.pass ⟨[], none, []⟩).toList

end OperatorConsole.Text
