import OperatorConsole.Files

/-!
# Log files

The console owns the terminal, so what it logs goes to a file.  The file and its
directory are made if needed, and only one log can be set up in a run.
-/

namespace OperatorConsole.LogFile

inductive Trouble where
  | creating (directory : String) (fault : FileFault)
  | opening (path : String) (fault : FileFault)
  | alreadySet
deriving DecidableEq, Repr

/-- The messages of a trouble, the most general one first. -/
def Trouble.chain : Trouble → List String
  | .creating directory fault =>
      ["Creating log directory " ++ directory, fault.message]
  | .opening path fault => ["Opening log file " ++ path, fault.message]
  | .alreadySet =>
      ["Installing log subscriber: " ++
        "a global default trace dispatcher has already been set"]

/-- Set up a log; `isSet` says that there is one already.  The files are left as
they are after the last step that succeeded. -/
def setUp (isSet : Bool) (files : Files) (path : String) :
    Except Trouble Unit × Files :=
  match files.createParent path Trouble.creating with
  | (.ok (), prepared) =>
      match prepared.openAppend path with
      | .error fault => (.error (.opening path fault), prepared)
      | .ok opened =>
          (if isSet then .error .alreadySet else .ok (), opened)
  | failed => failed

end OperatorConsole.LogFile
