/-!
# The input line

The line that is being typed.  Characters go to its end and are taken off there;
nothing else edits it.
-/

namespace OperatorConsole.Terminal

/-- Keys that the terminal tells apart. -/
inductive KeyCode where
  | char (c : Char)
  | enter
  | backspace
  | escape
  | tab
  | backTab
  | up
  | down
  | left
  | right
  | home
  | last
  | pageUp
  | pageDown
  | delete
  | insert
  | null
  | function (number : Nat)
  | capsLock
  | scrollLock
  | numLock
  | printScreen
  | pause
  | menu
  | keypadBegin
  | media (number : Nat)
  | modifier (number : Nat)
deriving DecidableEq, Repr

inductive KeyKind where
  | press
  | again
  | release
deriving DecidableEq, Repr

structure Key where
  code : KeyCode
  control : Bool
  shift : Bool
  alt : Bool
  kind : KeyKind
deriving DecidableEq, Repr

/-- A key that is pressed alone. -/
def Key.plain (code : KeyCode) : Key :=
  ⟨code, false, false, false, .press⟩

/-- What a key asks for. -/
inductive InputAction where
  | submit (line : String)
  | cancelPending
  | quit
  | edited
  | ignored
deriving DecidableEq, Repr

structure InputLine where
  text : String
deriving DecidableEq, Repr

namespace InputLine

def empty : InputLine :=
  ⟨""⟩

def push (line : InputLine) (c : Char) : InputLine :=
  ⟨line.text.push c⟩

/-- Take off the last character. -/
def pop (line : InputLine) : InputLine :=
  ⟨String.ofList line.text.toList.dropLast⟩

/-- Take a key that goes down. -/
def press (line : InputLine) (code : KeyCode) (control : Bool) :
    InputAction × InputLine :=
  match code with
  | .enter =>
      if line.text.isEmpty then (.ignored, line)
      else (.submit line.text, empty)
  | .char c =>
      if control then
        (if c = 'c' ∨ c = 'd' then .quit else .ignored, line)
      else (.edited, line.push c)
  | .backspace =>
      if line.text.isEmpty then (.ignored, line) else (.edited, line.pop)
  | .escape => (.cancelPending, line)
  | _ => (.ignored, line)

/-- Take a key.  Letting go of one does nothing. -/
def take (line : InputLine) (key : Key) : InputAction × InputLine :=
  match key.kind with
  | .release => (.ignored, line)
  | .press | .again => line.press key.code key.control

end InputLine

end OperatorConsole.Terminal
