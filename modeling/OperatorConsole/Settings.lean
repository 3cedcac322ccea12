import OperatorConsole.Files
import OperatorConsole.Transcript
import OperatorConsole.Url.Reference

/-!
# Settings

What the environment says about a run.  Each setting has a default, so that a
front-end on the same machine needs none of them.
-/

namespace OperatorConsole

structure Settings where
  base : Url
  mode : RenderMode
  /-- Seconds after which a request is given up. -/
  timeout : Nat
  /-- A command table to use in place of the one built in. -/
  commandsFile : Option String
  sessionFile : String
  logFile : String
deriving DecidableEq, Repr

namespace Settings

/-- The directories in which files are kept unless variables say otherwise. -/
structure Places where
  home : Option String
  cache : Option String
deriving DecidableEq, Repr

/-- A setting that cannot be used. -/
inductive Fault where
  | url (text : String) (fault : Url.Fault)
  | mode (word : String)
  | timeout (text : String)
deriving DecidableEq, Repr

/-- The messages of a fault, the most general one first. -/
def Fault.chain : Fault → List String
  | .url text fault =>
      ["Invalid ITISADB_CONSOLE_URL " ++ Text.quote text, fault.message]
  | .mode word =>
      ["Invalid ITISADB_CONSOLE_RENDER", RenderMode.unknownMessage word]
  | .timeout text =>
      ["Invalid ITISADB_CONSOLE_TIMEOUT_SECS " ++ Text.quote text ++
        ", expected a positive number of seconds"]

def defaultUrl : String := "http://127.0.0.1:8087"

def defaultTimeout : Nat := 30

/-- The greatest number of seconds that can be set. -/
def longestTimeout : Nat := 18446744073709551615

def urlOf (asked : Option String) : Except Fault Url :=
  let text := asked.getD defaultUrl
  (Url.ofText text).mapError (.url text)

def modeOf (asked : Option String) : Except Fault RenderMode :=
  match asked with
  | none => .ok .append
  | some text => (RenderMode.ofText text).mapError .mode

/-- The number that a plus sign, if there is one, and digits stand for. -/
def secondsOf? (cs : List Char) : Option Nat :=
  let digits :=
    match cs with
    | '+' :: rest => rest
    | _ => cs
  if digits.isEmpty || !digits.all Char.isDigit then none
  else some (digits.foldl (fun value c => value * 10 + (c.toNat - 0x30)) 0)

def timeoutOf (asked : Option String) : Except Fault Nat :=
  match asked with
  | none => .ok defaultTimeout
  | some text =>
      match secondsOf? (Text.trimChars text.toList) with
      | none => .error (.timeout text)
      | some seconds =>
          if 0 < seconds ∧ seconds ≤ longestTimeout then .ok seconds
          else .error (.timeout text)

/-- Read the settings of an environment. -/
def ofVariables (places : Places) (lookUp : String → Option String) :
    Except Fault Settings := do
  let base ← urlOf (lookUp "ITISADB_CONSOLE_URL")
  let mode ← modeOf (lookUp "ITISADB_CONSOLE_RENDER")
  let timeout ← timeoutOf (lookUp "ITISADB_CONSOLE_TIMEOUT_SECS")
  let home := places.home.getD "."
  let cache := places.cache.getD home
  return {
    base := base
    mode := mode
    timeout := timeout
    commandsFile := lookUp "ITISADB_CONSOLE_COMMANDS"
    sessionFile := (lookUp "ITISADB_CONSOLE_SESSION").getD
      (FilePath.join home ".itisadb_console_session")
    logFile := (lookUp "ITISADB_CONSOLE_LOG").getD
      (FilePath.join (FilePath.join cache "itisadb-console") "console.log") }

end Settings

end OperatorConsole
