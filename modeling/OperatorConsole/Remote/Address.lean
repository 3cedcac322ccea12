import OperatorConsole.Remote.Action
import OperatorConsole.Remote.Call
import OperatorConsole.Text.Quoted
import OperatorConsole.Url.Reference

/-!
# Addresses of remote calls

A call is made to its resource's path below the front-end's URL; its action is
the one parameter of the query.
-/

namespace OperatorConsole.Remote

/-- A path that cannot be joined to the front-end's URL. -/
structure BadPath where
  path : String
  fault : Url.Fault
deriving DecidableEq, Repr

def BadPath.headline (bad : BadPath) : String :=
  "Invalid path " ++ Text.quote bad.path

def BadPath.chain (bad : BadPath) : List String :=
  [bad.headline, bad.fault.message]

/-- The URL of a page of the front-end. -/
def pageUrl (base : Url) (path : String) : Except BadPath Url :=
  (base.join path).mapError (⟨path, ·⟩)

/-- The URL that a call is sent to. -/
def Call.url (call : Call) (base : Url) : Except BadPath Url :=
  (pageUrl base call.resource.path).map fun url =>
    match call.action with
    | none => url
    | some action => url.withQuery ("action=" ++ encodeAction action)

/-- The path and query by which a call is known. -/
def Call.target (call : Call) : String :=
  match call.action with
  | none => call.resource.path
  | some action => call.resource.path ++ "?action=" ++ encodeAction action

end OperatorConsole.Remote
