import OperatorConsole.Startup
import Std.Time.DateTime.Timestamp

/-!
# The program

Everything that is decided is decided elsewhere; this module reads the
environment, the files and the typed lines, and prints.  The terminal is used
line by line, and there is no connection to any service: every request finds it
closed.
-/

namespace OperatorConsole.Main

/-- What stands at a path of the system. -/
def nodeAt? (path : String) : IO (Option FileNode) := do
  try
    let bytes ← IO.FS.readBinFile path
    return some (.file bytes.toList)
  catch
    | .noFileOrDirectory _ _ _ => return none
    | _ => return some .directory

/-- The path through the first parts of another one. -/
def wayPath (path : String) (parts : List String) : String :=
  let joined := String.intercalate "/" parts
  if path.toList.head? = some '/' then "/" ++ joined else joined

/-- Take a path of the system, and the directories on its way, into a list of
files. -/
def takeIn (files : Files) (path : String) : IO Files := do
  let parts := FilePath.components path
  let mut taken := files
  for count in List.range parts.length do
    let way := parts.take (count + 1)
    match ← nodeAt? (wayPath path way) with
    | some node => taken := taken.set (way.foldl FilePath.enter []) node
    | none => pure ()
  return taken

/-- The part of the system that a run with these settings looks at. -/
def systemFiles (settings : Settings) : IO Files := do
  let mut files := Files.empty
  for path in [settings.logFile, settings.sessionFile] ++
      settings.commandsFile.toList do
    files ← takeIn files path
  return files

/-- Bring a file of the system to what a list of files says about it. -/
def putBack (files : Files) (path : String) : IO Unit := do
  match files.node? (FilePath.parts path) with
  | some (.file bytes) =>
      match FilePath.parent? path with
      | some directory =>
          if directory ≠ "" then IO.FS.createDirAll directory
      | none => pure ()
      IO.FS.writeBinFile path ⟨bytes.toArray⟩
  | _ => pure ()

/-- The environment, as far as it is looked at. -/
def environment : IO Startup.Environment := do
  let mut found : List (String × String) := []
  for name in ["ITISADB_CONSOLE_URL", "ITISADB_CONSOLE_RENDER",
      "ITISADB_CONSOLE_TIMEOUT_SECS", "ITISADB_CONSOLE_COMMANDS",
      "ITISADB_CONSOLE_SESSION", "ITISADB_CONSOLE_LOG"] do
    match ← IO.getEnv name with
    | some value => found := (name, value) :: found
    | none => pure ()
  let home ← IO.getEnv "HOME"
  let cache ← IO.getEnv "XDG_CACHE_HOME"
  return ⟨(found.lookup ·),
    ⟨home, cache.or (home.map (FilePath.join · ".cache"))⟩⟩

def promptLine (prompt : String) : IO (Option String) := do
  IO.print (prompt ++ ": ")
  (← IO.getStdout).flush
  let line ← (← IO.getStdin).getLine
  return if line.isEmpty then none
    else some (String.ofList (line.toList.takeWhile (· != '\n')))

def fail (fault : StartupFault) : IO UInt32 := do
  IO.eprint (StartupFault.report fault.chain)
  return 1

/-- Carry a log-in on to its end. -/
partial def logIn : Login.Progress → IO (Except Login.Failure Http.Link)
  | .done link => return .ok link
  | .failed failure _ => return .error failure
  | .asking dialog => do
      match ← promptLine "Username", ← promptLine "Password" with
      | some username, some password =>
          let (progress, printed) :=
            Login.attempt dialog ⟨username, password⟩
          for line in printed do
            IO.println line
          logIn progress
      | _, _ => return .error .noTerminal

def size : Terminal.Size := ⟨80, 24⟩

def showFrame (frame : Terminal.Frame) : IO Unit := do
  for piece in frame.visible do
    IO.println piece.text

/-- Let all open calls find the connection closed. -/
def answerAll (console : Console) : Console :=
  console.pool.workers.foldl
    (fun console worker =>
      (console.answer? worker.id
        (.error (.transport Remote.transportDetail))).getD console)
    console

/-- Type the lines of the operator until the console ends. -/
partial def converse (screen : Terminal.Screen) :
    IO (Option Terminal.Ending × Terminal.Screen) := do
  let screen :=
    { screen with console := answerAll screen.console }.refresh size
  showFrame screen.frame
  let line ← (← IO.getStdin).getLine
  if line.isEmpty then return (some .quit, screen)
  let codes := line.toList.map fun c =>
    if c = '\n' then Terminal.KeyCode.enter else .char c
  let typed := codes.foldl
    (fun state code =>
      match state.1 with
      | some _ => state
      | none => state.2.round size (.key (.plain code)))
    (none, screen)
  match typed.1 with
  | some _ => return typed
  | none => converse typed.2

def run : IO UInt32 := do
  let environment ← environment
  match Settings.ofVariables environment.places environment.lookUp with
  | .error fault => fail (.settings fault)
  | .ok settings =>
      match Startup.prepare environment (← systemFiles settings) with
      | .error fault => fail fault
      | .ok (settings, table, files) =>
          putBack files settings.logFile
          let now ← Std.Time.Timestamp.now
          let session : Session :=
            ⟨.empty, now.toSecondsSinceUnixEpoch.val, files⟩
          let (progress, printed) := Login.start
            ⟨fun _ => .closed, [], session⟩ settings.base
            settings.sessionFile
          for line in printed do
            IO.println line
          match ← logIn progress with
          | .error failure => fail (.login failure)
          | .ok link =>
              putBack link.session.files settings.sessionFile
              let (ending, screen) ← converse
                (.start (Startup.console settings table link.session))
              putBack screen.console.session.files settings.sessionFile
              match ending with
              | some ending => IO.print (Startup.farewell ending)
              | none => pure ()
              return 0

end OperatorConsole.Main

/-- The program: the console for the environment that it is started in. -/
def main : IO UInt32 :=
  OperatorConsole.Main.run
