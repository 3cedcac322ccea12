import OperatorConsole.Terminal.Frame

/-!
# The screen

The loop that shows the console.  In each round it takes in what calls have come
to, draws a new frame if anything changed, and then waits for one event of the
terminal.
-/

namespace OperatorConsole.Terminal

/-- What the terminal reports. -/
inductive Event where
  | key (key : Key)
  /-- The size or the focus changed. -/
  | other
deriving DecidableEq, Repr

/-- How the loop ends. -/
inductive Ending where
  | leave (url : Url)
  | quit
deriving DecidableEq, Repr

structure Screen where
  console : Console
  input : InputLine
  /-- The frame has to be drawn anew. -/
  dirty : Bool
  /-- The frame that was drawn last. -/
  frame : Frame

namespace Screen

def start (console : Console) : Screen :=
  ⟨console, .empty, true, .blank⟩

/-- Go on with a console of which `changes` things are to be seen. -/
def update (screen : Screen) (changes : Nat) (console : Console) : Screen :=
  { screen with
    console := console
    dirty := screen.dirty || 0 < changes }

/-- Draw a new frame if one is due. -/
def redraw (screen : Screen) (size : Size) : Screen :=
  if screen.dirty then
    { screen with
      dirty := false
      frame := .draw size screen.console screen.input }
  else screen

/-- The part of a round before the wait for an event. -/
def refresh (screen : Screen) (size : Size) : Screen :=
  let (arrived, console) := screen.console.pump
  (screen.update arrived console).redraw size

/-- Hand a submitted line to the console. -/
def submit (screen : Screen) (line : String) : Option Ending × Screen :=
  let (result, console) := screen.console.submitReporting line
  let next := { screen with console := console, dirty := true }
  match result with
  | .ok (.leave url) => (some (.leave url), next)
  | .ok .goOn | .error _ => (none, next)

/-- Do what a key asks for. -/
def act (screen : Screen) : InputAction → Option Ending × Screen
  | .submit line => screen.submit line
  | .cancelPending =>
      let (count, console) := screen.console.cancelPending
      (none, screen.update count console)
  | .quit => (some .quit, screen)
  | .edited => (none, { screen with dirty := true })
  | .ignored => (none, screen)

/-- The part of a round after an event has come. -/
def handle (screen : Screen) : Event → Option Ending × Screen
  | .other => (none, { screen with dirty := true })
  | .key key =>
      let (action, input) := screen.input.take key
      { screen with input := input }.act action

/-- A whole round, from the wait for an event to the next one. -/
def round (screen : Screen) (size : Size) (event : Event) :
    Option Ending × Screen :=
  match screen.handle event with
  | (some ending, screen) => (some ending, screen)
  | (none, screen) => (none, screen.refresh size)

end Screen

end OperatorConsole.Terminal
