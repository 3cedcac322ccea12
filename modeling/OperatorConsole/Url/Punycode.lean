/-!
# Punycode

A label with characters outside ASCII is written with letters, digits and
hyphens: first its ASCII characters, then the steps by which the others are put
in, smallest first, as numbers whose digits weigh according to a bias that
adapts to the steps before.
-/

namespace OperatorConsole.Url.Punycode

/-- Digits are `a` to `z`, then `0` to `9`. -/
def digitChar (digit : Nat) : Char :=
  Char.ofNat (if digit < 26 then 0x61 + digit else 0x30 + digit - 26)

def digitValue? (c : Char) : Option Nat :=
  if 'a' ≤ c ∧ c ≤ 'z' then some (c.toNat - 0x61)
  else if 'A' ≤ c ∧ c ≤ 'Z' then some (c.toNat - 0x41)
  else if '0' ≤ c ∧ c ≤ '9' then some (c.toNat - 0x30 + 26)
  else none

/-- A digit below the threshold of its place is the last one. -/
def threshold (place bias : Nat) : Nat :=
  if place ≤ bias then 1 else min (place - bias) 26

theorem one_le_threshold (place bias : Nat) : 1 ≤ threshold place bias := by
  unfold threshold
  split <;> omega

theorem threshold_le (place bias : Nat) : threshold place bias ≤ 26 := by
  unfold threshold
  split <;> omega

/-- Divide a step by 35 until it is small, counting places. -/
def scaleDown (step places : Nat) : Nat × Nat :=
  if 455 < step then scaleDown (step / 35) (places + 36) else (step, places)
termination_by step
decreasing_by omega

/-- The bias after a step; `length` counts the characters there are now. -/
def adapt (step length : Nat) (isFirst : Bool) : Nat :=
  let damped := if isFirst then step / 700 else step / 2
  let scaled := scaleDown (damped + damped / length) 0
  scaled.2 + 36 * scaled.1 / (scaled.1 + 38)

/-- The digits of a number, from the digit at `place` on. -/
def digits (bias place number : Nat) : List Char :=
  let limit := threshold place bias
  if number < limit then [digitChar number]
  else
    digitChar (limit + (number - limit) % (36 - limit)) ::
      digits bias (place + 36) ((number - limit) / (36 - limit))
termination_by number
decreasing_by
  have lower := one_le_threshold place bias
  have upper := threshold_le place bias
  have := Nat.div_le_self (number - threshold place bias)
    (36 - threshold place bias)
  omega

/-- What encoding has written, and from where it goes on. -/
structure Progress where
  output : List Char
  step : Nat
  bias : Nat
  handled : Nat
deriving Repr

/-- Pass one character while those with the code point `current` are put in. -/
def Progress.pass (basic current : Nat) (state : Progress) (c : Char) :
    Progress :=
  if c.toNat < current then { state with step := state.step + 1 }
  else if c.toNat = current then
    ⟨state.output ++ digits state.bias 36 state.step, 0,
      adapt state.step (state.handled + 1) (state.handled == basic),
      state.handled + 1⟩
  else state

/-- Put in the characters of each code point of a growing list. -/
def encodeFrom (label : List Char) (basic : Nat) :
    List Nat → Nat → Progress → Progress
  | [], _, state => state
  | current :: rest, previous, state =>
      let started := { state with
        step := state.step + (current - previous) * (state.handled + 1) }
      let passed := label.foldl (Progress.pass basic current) started
      encodeFrom label basic rest (current + 1)
        { passed with step := passed.step + 1 }

def isBasic (c : Char) : Bool :=
  c.toNat < 0x80

def encode (label : List Char) : List Char :=
  let basic := label.filter isBasic
  let others :=
    ((label.filter (!isBasic ·)).map Char.toNat).mergeSort.eraseDups
  let start : Progress := ⟨[], 0, 72, basic.length⟩
  basic ++ (if basic.isEmpty then [] else ['-']) ++
    (encodeFrom label basic.length others 0x80 start).output

/-- Read a number from the digit at `place` on: the number, and what follows
it. -/
def number? (bias : Nat) :
    List Char → Nat → Nat → Nat → Option (Nat × List Char)
  | [], _, _, _ => none
  | c :: rest, place, weight, sum =>
      match digitValue? c with
      | none => none
      | some digit =>
          let limit := threshold place bias
          if digit < limit then some (sum + digit * weight, rest)
          else
            number? bias rest (place + 36) (weight * (36 - limit))
              (sum + digit * weight)

theorem length_of_number? {bias : Nat} {cs : List Char}
    {place weight sum : Nat} {result : Nat × List Char}
    (read : number? bias cs place weight sum = some result) :
    result.2.length < cs.length := by
  induction cs generalizing place weight sum with
  | nil => simp [number?] at read
  | cons c rest induction =>
      rw [number?] at read
      split at read
      · simp at read
      · simp only at read
        split at read
        · cases read
          simp
        · have := induction read
          simp only [List.length_cons]
          omega

/-- Put in characters one after another; `position` is where the last one
stands. -/
def decodeFrom (bias current position : Nat) (output : List Char)
    (input : List Char) : Option (List Char) :=
  if input.isEmpty then some output
  else
    match read : number? bias input 36 1 0 with
    | none => none
    | some (step, rest) =>
        let length := output.length + 1
        let codePoint := current + (position + step) / length
        let place := (position + step) % length
        if codePoint.isValidChar then
          decodeFrom (adapt step length (position == 0)) codePoint (place + 1)
            (output.insertIdx place (Char.ofNat codePoint)) rest
        else none
termination_by input.length
decreasing_by exact length_of_number? read

/-- The ASCII characters of an encoded label, and the digits after them. -/
def splitBasic (encoded : List Char) : List Char × List Char :=
  match encoded.reverse.span (· != '-') with
  | (digits, _ :: basic) => (basic.reverse, digits.reverse)
  | (_, []) => ([], encoded)

/-- The label that an encoded label stands for. -/
def decode? (encoded : List Char) : Option (List Char) :=
  let (basic, digits) := splitBasic encoded
  if basic.all isBasic then decodeFrom 72 0x80 0 basic digits else none

end OperatorConsole.Url.Punycode
