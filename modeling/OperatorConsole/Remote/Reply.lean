import OperatorConsole.Json.Reader
import OperatorConsole.Remote.Failure
import OperatorConsole.Text.Blank

/-!
# Replies

A resource answers with an object whose member `text` is the answer, also when
its status is an error.  `outcomeOf` turns a status and a body into the outcome
of a call.
-/

namespace OperatorConsole.Remote

open Json

/-- Statuses that stand for success. -/
def isSuccess (status : Nat) : Bool :=
  200 ≤ status && status < 300

def replyItems : Reader String :=
  itemAt 0 "struct TextResponse with 1 element" string

def replyMembers : Reader String := fun depth cs => do
  let (text, cs) ←
    members
      (fun (seen : Option String) name =>
        if name = "text" then once name seen string some else .skip)
      none depth cs
  return (← required "text" text cs, cs)

/-- The text of a body: the only item of a list, or the member `text` of an
object. -/
def replyReader : Reader String :=
  container "struct TextResponse" (some replyItems) (some replyMembers)

/-- The characters of a body that is no reply which an error keeps. -/
def excerptLength : Nat := 200

/-- The start of a body, without blanks around the body. -/
def excerpt (body : String) : String :=
  String.ofList ((Text.trimChars body.toList).take excerptLength)

/-- The outcome of a call that was answered with a status and a body. -/
def outcomeOf (status : Nat) (body : String) : Outcome :=
  match readText replyReader body with
  | .ok text =>
      if isSuccess status then .ok text else .error (.status status text)
  | .error error =>
      if isSuccess status then .error (.decode error.message)
      else .error (.status status (excerpt body))

end OperatorConsole.Remote
