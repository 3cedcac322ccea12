import OperatorConsole.Json.Scalar

/-!
# Reading JSON

Readers for typed values.  A reader gets the number of container levels that
are still allowed and the characters that are left.  Members and items are read
in the order in which they stand, so the first fault of the text is the one
that is reported.
-/

namespace OperatorConsole.Json

abbrev Reader (α : Type) := Nat → List Char → Except Fault (WithRest α)

/-- Container levels allowed in a text. -/
def depthLimit : Nat := 128

/-! ## Values of the wrong type -/

def wrongType {α : Type} (found : Found) (expected : String)
    (rest : List Char) : Except Fault α :=
  .error (.here (.wrongType found expected) rest)

/-- The fault of a value that is not of the expected type.  A scalar is read
first, so that a broken one is reported as broken. -/
def mismatch {α : Type} (expected : String) (cs : List Char) :
    Except Fault α :=
  match cs with
  | 'n' :: rest => do wrongType .null expected (← word "ull".toList rest)
  | 't' :: rest => do
      wrongType (.boolean true) expected (← word "rue".toList rest)
  | 'f' :: rest => do
      wrongType (.boolean false) expected (← word "alse".toList rest)
  | '-' :: rest => do
      let (value, rest) ← numberBody true rest
      wrongType (.number value) expected rest
  | '"' :: rest => do
      let (value, rest) ← stringBody rest
      wrongType (.string value) expected rest
  | '[' :: _ => wrongType .sequence expected cs
  | '{' :: _ => wrongType .map expected cs
  | c :: _ =>
      if c.isDigit then do
        let (value, rest) ← numberBody false cs
        wrongType (.number value) expected rest
      else .error (.atNext .noValue cs)
  | [] => .error (.atNext .noValue [])

/-! ## Scalars -/

/-- A string, said to be `expected` when something else stands there. -/
def stringAs (expected : String) : Reader String := fun _ cs =>
  match skipBlanks cs with
  | [] => .error (.atNext .endInValue [])
  | '"' :: rest => stringBody rest
  | cs => mismatch expected cs

def string : Reader String :=
  stringAs "a string"

def boolean : Reader Bool := fun _ cs =>
  match skipBlanks cs with
  | [] => .error (.atNext .endInValue [])
  | 't' :: rest => do return (true, ← word "rue".toList rest)
  | 'f' :: rest => do return (false, ← word "alse".toList rest)
  | cs => mismatch "a boolean" cs

/-- Accept a whole number between two bounds. -/
def boundedNumber (least greatest : Int) (expected : String)
    (value : Number) (rest : List Char) : Except Fault (WithRest Int) :=
  match value with
  | .whole whole =>
      if least ≤ whole ∧ whole ≤ greatest then .ok (whole, rest)
      else .error (.here (.wrongValue (.number value) expected) rest)
  | .floating _ _ => wrongType (.number value) expected rest

/-- A whole number between two bounds. -/
def whole (least greatest : Int) (expected : String) : Reader Int :=
  fun _ cs =>
    match skipBlanks cs with
    | [] => .error (.atNext .endInValue [])
    | '-' :: rest => do
        let (value, rest) ← numberBody true rest
        boundedNumber least greatest expected value rest
    | c :: rest =>
        if c.isDigit then do
          let (value, rest) ← numberBody false (c :: rest)
          boundedNumber least greatest expected value rest
        else mismatch expected (c :: rest)

/-- `null`, or a value. -/
def optional {α : Type} (reader : Reader α) : Reader (Option α) :=
  fun depth cs =>
    match skipBlanks cs with
    | 'n' :: rest => do return (none, ← word "ull".toList rest)
    | cs => do
        let (value, rest) ← reader depth cs
        return (some value, rest)

/-- `null`. -/
def unit : Reader Unit := fun _ cs =>
  match skipBlanks cs with
  | [] => .error (.atNext .endInValue [])
  | 'n' :: rest => do return ((), ← word "ull".toList rest)
  | cs => mismatch "unit" cs

/-! ## Containers -/

/-- Find out whether a list goes on. -/
def moreItems (first : Bool) (cs : List Char) : Except Fault (WithRest Bool) :=
  match skipBlanks cs with
  | [] => .error (.atNext .endInList [])
  | ']' :: rest => .ok (false, ']' :: rest)
  | c :: rest =>
      if first then .ok (true, c :: rest)
      else if c = ',' then
        match skipBlanks rest with
        | [] => .error (.atNext .endInValue [])
        | ']' :: rest => .error (.atNext .trailingComma (']' :: rest))
        | rest => .ok (true, rest)
      else .error (.atNext .noListEnd (c :: rest))

/-- Find out whether an object goes on; if it does, a quote stands next. -/
def moreMembers (first : Bool) (cs : List Char) :
    Except Fault (WithRest Bool) :=
  match skipBlanks cs with
  | [] => .error (.atNext .endInObject [])
  | '}' :: rest => .ok (false, '}' :: rest)
  | c :: rest =>
      if first then
        if c = '"' then .ok (true, c :: rest)
        else .error (.atNext .keyNotString (c :: rest))
      else if c = ',' then
        match skipBlanks rest with
        | [] => .error (.atNext .endInValue [])
        | '"' :: rest => .ok (true, '"' :: rest)
        | '}' :: rest => .error (.atNext .trailingComma ('}' :: rest))
        | rest => .error (.atNext .keyNotString rest)
      else .error (.atNext .noObjectEnd (c :: rest))

def colon (cs : List Char) : Except Fault (List Char) :=
  match skipBlanks cs with
  | [] => .error (.atNext .endInObject [])
  | ':' :: rest => .ok rest
  | rest => .error (.atNext .noColon rest)

/-- Leave a list: the fault, if it does not end here, and how far that was
found out. -/
def closeList (cs : List Char) : Option Fault × List Char :=
  match skipBlanks cs with
  | [] => (some (.atNext .endInList []), [])
  | ']' :: rest => (none, rest)
  | ',' :: rest =>
      match skipBlanks rest with
      | ']' :: rest =>
          (some (.atNext .trailingComma (']' :: rest)), ']' :: rest)
      | rest => (some (.atNext .trailingCharacters rest), rest)
  | rest => (some (.atNext .trailingCharacters rest), rest)

/-- Leave an object: the fault, if it does not end here, and how far that was
found out. -/
def closeObject (cs : List Char) : Option Fault × List Char :=
  match skipBlanks cs with
  | [] => (some (.atNext .endInObject []), [])
  | '}' :: rest => (none, rest)
  | ',' :: rest => (some (.atNext .trailingComma (',' :: rest)), ',' :: rest)
  | rest => (some (.atNext .trailingCharacters rest), rest)

/-- Leave a container after its contents.  A pending fault of the contents
wins over a missing bracket and is placed after the bracket. -/
def enclosed {α : Type} (close : List Char → Option Fault × List Char)
    (contents : Except Fault (WithRest α)) : Except Fault (WithRest α) :=
  match contents with
  | .ok (value, cs) =>
      match close cs with
      | (none, rest) => .ok (value, rest)
      | (some fault, _) => .error fault
  | .error (.pending cause cs) => .error (.here cause (close cs).2)
  | .error fault => .error fault

/-- Enter a container if the depth allows. -/
def nested {α : Type} (close : List Char → Option Fault × List Char)
    (contents : Reader α) : Reader α := fun depth cs =>
  if depth ≤ 1 then .error (.atNext .recursionLimit cs)
  else enclosed close (contents (depth - 1) (cs.drop 1))

/-- A value written as a list, as an object, or as either. -/
def container {α : Type} (expected : String)
    (ofList ofObject : Option (Reader α)) : Reader α := fun depth cs =>
  match skipBlanks cs with
  | [] => .error (.atNext .endInValue [])
  | '[' :: rest =>
      match ofList with
      | some contents => nested closeList contents depth ('[' :: rest)
      | none => mismatch expected ('[' :: rest)
  | '{' :: rest =>
      match ofObject with
      | some contents => nested closeObject contents depth ('{' :: rest)
      | none => mismatch expected ('{' :: rest)
  | cs => mismatch expected cs

/-! ## Items -/

/-- The items of a list.  Each takes a character at least, so there are no more
of them than characters. -/
def itemsFrom {α : Type} (item : Reader α) (depth : Nat) :
    Nat → Bool → List Char → Except Fault (WithRest (List α))
  | 0, _, cs => .ok ([], cs)
  | fuel + 1, first, cs => do
      let (more, cs) ← moreItems first cs
      if more then
        let (value, cs) ← item depth cs
        let (values, cs) ← itemsFrom item depth fuel false cs
        return (value :: values, cs)
      else return ([], cs)

def items {α : Type} (item : Reader α) : Reader (List α) :=
  fun depth cs => itemsFrom item depth (cs.length + 1) true cs

/-- A list of values of one type. -/
def listOf {α : Type} (item : Reader α) : Reader (List α) :=
  container "a sequence" (some (items item)) none

/-- The item at a fixed place of a list, if the list goes so far. -/
def itemAt? {α : Type} (index : Nat) (item : Reader α) :
    Reader (Option α) := fun depth cs => do
  let (more, cs) ← moreItems (index == 0) cs
  if more then
    let (value, cs) ← item depth cs
    return (some value, cs)
  else return (none, cs)

/-- The item at a fixed place of a list that must be `expected`. -/
def itemAt {α : Type} (index : Nat) (expected : String) (item : Reader α) :
    Reader α := fun depth cs => do
  match ← itemAt? index item depth cs with
  | (some value, cs) => return (value, cs)
  | (none, cs) => .error (.pending (.wrongLength index expected) cs)

/-! ## Members -/

/-- Skipped containers, innermost first. -/
inductive Frame where
  | list
  | object
deriving DecidableEq, Repr

/-- Skip the name of a member and the colon. -/
def skipName (cs : List Char) : Except Fault (List Char) :=
  match skipBlanks cs with
  | [] => .error (.atNext .endInObject [])
  | '"' :: rest => do colon (← skipString rest)
  | rest => .error (.atNext .keyNotString rest)

/-- Skip a value that is no container. -/
def skipScalar (cs : List Char) : Except Fault (List Char) :=
  match cs with
  | 'n' :: rest => word "ull".toList rest
  | 't' :: rest => word "rue".toList rest
  | 'f' :: rest => word "alse".toList rest
  | '-' :: rest => skipNumber rest
  | '"' :: rest => skipString rest
  | c :: _ =>
      if c.isDigit then skipNumber cs else .error (.atNext .noValue cs)
  | [] => .error (.atNext .endInValue [])

mutual

/-- Skip a value and the rest of the containers around it. -/
def skipFrom : Nat → List Frame → List Char → Except Fault (List Char)
  | 0, _, cs => .ok cs
  | fuel + 1, frames, cs =>
      match skipBlanks cs with
      | '[' :: rest =>
          match skipBlanks rest with
          | [] => .error (.atNext .endInList [])
          | ']' :: rest => leaveFrom fuel frames rest
          | rest => skipFrom fuel (.list :: frames) rest
      | '{' :: rest =>
          match skipBlanks rest with
          | [] => .error (.atNext .endInObject [])
          | '}' :: rest => leaveFrom fuel frames rest
          | rest => do skipFrom fuel (.object :: frames) (← skipName rest)
      | cs => do leaveFrom fuel frames (← skipScalar cs)

/-- Go on after a value that stands in the given containers. -/
def leaveFrom : Nat → List Frame → List Char → Except Fault (List Char)
  | 0, _, cs => .ok cs
  | _, [], cs => .ok cs
  | fuel + 1, .list :: outer, cs =>
      match skipBlanks cs with
      | [] => .error (.atNext .endInList [])
      | ',' :: rest => skipFrom fuel (.list :: outer) rest
      | ']' :: rest => leaveFrom fuel outer rest
      | rest => .error (.atNext .noListEnd rest)
  | fuel + 1, .object :: outer, cs =>
      match skipBlanks cs with
      | [] => .error (.atNext .endInObject [])
      | ',' :: rest => do skipFrom fuel (.object :: outer) (← skipName rest)
      | '}' :: rest => leaveFrom fuel outer rest
      | rest => .error (.atNext .noObjectEnd rest)

end

/-- Skip a value of any depth.  Every step but the last takes a character. -/
def skipValue (cs : List Char) : Except Fault (List Char) :=
  skipFrom (2 * cs.length + 2) [] cs

/-- What to do with a member: skip it, refuse it, or read its value. -/
inductive MemberPlan (σ : Type) where
  | skip
  | refuse (cause : Cause)
  | read (reader : Reader σ)

/-- The members of an object, read into a state. -/
def membersFrom {σ : Type} (plan : σ → String → MemberPlan σ)
    (depth : Nat) : Nat → Bool → σ → List Char → Except Fault (WithRest σ)
  | 0, _, state, cs => .ok (state, cs)
  | fuel + 1, first, state, cs => do
      let (more, cs) ← moreMembers first cs
      if more then
        let (name, cs) ← stringBody (cs.drop 1)
        match plan state name with
        | .refuse cause => .error (.pending cause cs)
        | .skip =>
            membersFrom plan depth fuel false state
              (← skipValue (← colon cs))
        | .read reader =>
            let (state, cs) ← reader depth (← colon cs)
            membersFrom plan depth fuel false state cs
      else return (state, cs)

def members {σ : Type} (plan : σ → String → MemberPlan σ) (start : σ) :
    Reader σ := fun depth cs =>
  membersFrom plan depth (cs.length + 1) true start cs

/-- The state that a reader's value makes. -/
def Reader.into {α σ : Type} (reader : Reader α) (store : α → σ) :
    Reader σ := fun depth cs => do
  let (value, rest) ← reader depth cs
  return (store value, rest)

/-- The plan for a member that may stand once. -/
def once {α σ : Type} (name : String) (seen : Option α)
    (reader : Reader α) (store : α → σ) : MemberPlan σ :=
  if seen.isSome then .refuse (.duplicateField name)
  else .read (reader.into store)

/-- A member that must have been there when its object ends. -/
def required {α : Type} (name : String) (seen : Option α)
    (rest : List Char) : Except Fault α :=
  match seen with
  | some value => .ok value
  | none => .error (.pending (.missingField name) rest)

/-- An object of values of one type; a name may come again. -/
def mapOf {α : Type} (item : Reader α) : Reader (List (String × α)) :=
  container "a map" none
    (some ((members
      (fun (entries : List (String × α)) name =>
        .read (item.into fun value => (name, value) :: entries))
      []).into List.reverse))

/-! ## Any value -/

/-- Read a value of any type, with at most `depth` levels of containers. -/
def valueFrom : Nat → List Char → Except Fault (WithRest Value)
  | depth, cs =>
      match skipBlanks cs with
      | [] => .error (.atNext .endInValue [])
      | 'n' :: rest => do return (.null, ← word "ull".toList rest)
      | 't' :: rest => do return (.boolean true, ← word "rue".toList rest)
      | 'f' :: rest => do return (.boolean false, ← word "alse".toList rest)
      | '-' :: rest => do
          let (value, rest) ← numberBody true rest
          return (.number value, rest)
      | '"' :: rest => do
          let (value, rest) ← stringBody rest
          return (.string value, rest)
      | '[' :: rest =>
          match depth with
          | 0 => .error (.atNext .recursionLimit ('[' :: rest))
          | inner + 1 =>
              nested closeList
                ((items fun _ cs => valueFrom inner cs).into .array)
                (inner + 1) ('[' :: rest)
      | '{' :: rest =>
          match depth with
          | 0 => .error (.atNext .recursionLimit ('{' :: rest))
          | inner + 1 =>
              nested closeObject
                ((members
                  (fun (entries : List (String × Value)) name =>
                    .read fun _ cs => do
                      let (value, cs) ← valueFrom inner cs
                      return ((name, value) :: entries, cs))
                  []).into fun entries => .object entries.reverse)
                (inner + 1) ('{' :: rest)
      | c :: rest =>
          if c.isDigit then do
            let (value, rest) ← numberBody false (c :: rest)
            return (.number value, rest)
          else .error (.atNext .noValue (c :: rest))

def value : Reader Value :=
  valueFrom

/-! ## Texts -/

/-- Read a text that holds one value and blanks around it. -/
def readText {α : Type} (reader : Reader α) (text : String) :
    Except ReadError α :=
  match reader depthLimit text.toList with
  | .error fault => .error (fault.locate text)
  | .ok (value, cs) =>
      match skipBlanks cs with
      | [] => .ok value
      | rest => .error ((Fault.atNext .trailingCharacters rest).locate text)

end OperatorConsole.Json
