import OperatorConsole.CommandTable.Builtin
import OperatorConsole.CommandTable.Load
import OperatorConsole.LogFile
import OperatorConsole.Login
import OperatorConsole.Settings
import OperatorConsole.Terminal.Screen

/-!
# Starting the program

A run reads its settings, sets up its log, loads the command table and makes
sure of a session; then it hands over to the console.  The first step that fails
ends it.
-/

namespace OperatorConsole

/-- Why a run does not reach its console. -/
inductive StartupFault where
  | settings (fault : Settings.Fault)
  | log (trouble : LogFile.Trouble)
  | table (path : String) (fault : CommandTable.LoadFault)
  | login (failure : Login.Failure)

namespace StartupFault

/-- The messages of a fault, the most general one first. -/
def chain : StartupFault → List String
  | .settings fault => fault.chain
  | .log trouble => trouble.chain
  | .table path fault => ("Loading command table " ++ path) :: fault.chain
  | .login failure => failure.chain

/-- Lines after `first` written in front of them and the others indented as
`more` says. -/
def indented (first more message : String) : String :=
  first ++ String.intercalate ("\n" ++ more) (message.splitOn "\n")

/-- The causes of a fault; they are numbered if there are several. -/
def causesText : List String → String
  | [] => ""
  | [cause] => "\n\nCaused by:\n" ++ indented "    " "    " cause
  | causes =>
      "\n\nCaused by:" ++
        String.join (causes.zipIdx.map fun (cause, index) =>
          let number := Nat.repr index
          "\n" ++ indented
            (String.ofList (List.replicate (5 - number.length) ' ') ++
              number ++ ": ")
            "       " cause)

/-- What is printed about the messages of a fault. -/
def report (messages : List String) : String :=
  "Error: " ++ messages.headD "" ++ causesText messages.tail ++ "\n"

end StartupFault

namespace Startup

/-- What a run starts from. -/
structure Environment where
  lookUp : String → Option String
  places : Settings.Places

def tableOf (settings : Settings) (files : Files) :
    Except StartupFault CommandTable :=
  match settings.commandsFile with
  | none => .ok CommandTable.builtin
  | some path => (CommandTable.load files path).mapError (.table path)

/-- The settings, the command table and the files after the log has been set
up. -/
def prepare (environment : Environment) (files : Files) :
    Except StartupFault (Settings × CommandTable × Files) := do
  let settings ←
    (Settings.ofVariables environment.places
      environment.lookUp).mapError .settings
  let (result, files) := LogFile.setUp false files settings.logFile
  let () ← result.mapError .log
  return (settings, ← tableOf settings files, files)

/-- The console of a run that has a session. -/
def console (settings : Settings) (table : CommandTable)
    (session : Session) : Console :=
  .start table settings.mode session settings.base
    (some settings.sessionFile)

/-- What is printed when the console has ended. -/
def farewell : Terminal.Ending → String
  | .leave url => "Continue at " ++ url.text ++ "\n"
  | .quit => ""

end Startup

end OperatorConsole
