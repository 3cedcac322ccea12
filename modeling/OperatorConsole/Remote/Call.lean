/-!
# Remote calls

The fixed resources of the web front-end and the calls that the console makes
to them.
-/

namespace OperatorConsole.Remote

/-- A fixed resource of the web front-end. -/
inductive Resource where
  | history
  | servers
  | act
deriving DecidableEq, Repr

namespace Resource

/-- The name that a command table uses. -/
def name : Resource → String
  | .history => "history"
  | .servers => "servers"
  | .act => "act"

/-- The resource's path on the front-end. -/
def path : Resource → String
  | .history => "/history"
  | .servers => "/servers"
  | .act => "/act"

def all : List Resource := [.history, .servers, .act]

def ofName? (name : String) : Option Resource :=
  all.find? fun resource => resource.name == name

end Resource

/-- A request to a resource.  Only `act` carries an action: a line as it was
typed. -/
structure Call where
  resource : Resource
  action : Option String
deriving DecidableEq, Repr

namespace Call

def named (resource : Resource) : Call :=
  { resource, action := none }

def act (line : String) : Call :=
  { resource := .act, action := some line }

end Call

end OperatorConsole.Remote
