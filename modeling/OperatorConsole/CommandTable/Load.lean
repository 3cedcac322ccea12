import OperatorConsole.CommandTable.Format
import OperatorConsole.Files

/-!
# Command table files

Reading a command table from a file, and the wording of everything that can go
wrong with it.
-/

namespace OperatorConsole.CommandTable

/-- Why there is no table. -/
inductive LoadFault where
  | unreadable (fault : FileFault)
  | text (fault : TextFault)
deriving DecidableEq, Repr

/-- The messages of a fault, the most general one first. -/
def LoadFault.chain : LoadFault → List String
  | .unreadable fault =>
      ["cannot read command table: " ++ fault.message, fault.message]
  | .text (.malformed error) =>
      ["cannot parse command table: " ++ error.message, error.message]
  | .text (.flawed flaw) => [flaw.message]

def LoadFault.message (fault : LoadFault) : String :=
  fault.chain.headD ""

def load (files : Files) (path : String) : Except LoadFault CommandTable :=
  match files.readText path with
  | .error fault => .error (.unreadable fault)
  | .ok text => (ofText text).mapError .text

end OperatorConsole.CommandTable
