/-!
# Failed calls

Why a remote call has no answer, and how the transcript words it.
-/

namespace OperatorConsole.Remote

/-- Why a remote call has no answer. -/
inductive Failure where
  | transport (detail : String)
  | timeout
  | status (code : Nat) (text : String)
  | decode (detail : String)
  | unauthenticated
  | cancelled
deriving DecidableEq, Repr

def Failure.message : Failure → String
  | .transport detail => "network error: " ++ detail
  | .timeout => "request timed out"
  | .status code text =>
      "server answered " ++ Nat.repr code ++ ": " ++ text
  | .decode detail => "malformed response: " ++ detail
  | .unauthenticated =>
      "session expired, restart the console to log in again"
  | .cancelled => "request cancelled"

/-- What a call comes to: the service's text, or a failure. -/
abbrev Outcome := Except Failure String

end OperatorConsole.Remote
