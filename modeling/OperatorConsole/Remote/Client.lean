import OperatorConsole.Http.Client
import OperatorConsole.Http.Form
import OperatorConsole.Remote.Address
import OperatorConsole.Remote.Reply

/-!
# The front-end's client

Logging in through the front-end's form and making remote calls.  A call that
ends at the log-in page has no session.
-/

namespace OperatorConsole.Remote

def loginPath : String := "/auth"

/-- The name by which the client makes itself known in every request. -/
def userAgent : String := "itisadb-console/0.1.0"

/-- Why logging in failed. -/
inductive LoginFault where
  | address (bad : BadPath)
  | unsent
  | refused (status : Nat) (text : String)
deriving DecidableEq, Repr

def LoginFault.message : LoginFault → String
  | .address bad => bad.headline
  | .unsent => "Failed to send auth request"
  | .refused status text =>
      "Login failed: " ++ Http.statusText status ++ " - " ++ text

/-- Send the form of the log-in page.  Afterwards there has to be a session
cookie, whatever the response says. -/
def login (link : Http.Link) (base : Url) (username password : String) :
    Except LoginFault Unit × Http.Link :=
  match pageUrl base loginPath with
  | .error bad => (.error (.address bad), link)
  | .ok url =>
      let form := Http.Form.content
        [("username", username), ("password", password)]
      match link.send userAgent .post url (some form) with
      | (.error _, link) => (.error .unsent, link)
      | (.ok arrival, link) =>
          if link.session.hasSession then (.ok (), link)
          else
            (.error (.refused arrival.response.status
              (Text.trim (arrival.response.text?.getD ""))), link)

/-- What the client says about a transport that failed. -/
def transportDetail : String := "error sending request"

/-- What the client says about a body that broke off. -/
def bodyDetail : String := "error decoding response body"

/-- What a call comes to that got a response. -/
def outcomeOfArrival (arrival : Http.Arrival) : Outcome :=
  if arrival.url.path.text = loginPath then .error .unauthenticated
  else
    match arrival.response.text? with
    | some text => outcomeOf arrival.response.status text
    | none => .error (.transport bodyDetail)

/-- Make a remote call. -/
def fetch (link : Http.Link) (base : Url) (call : Call) :
    Outcome × Http.Link :=
  match call.url base with
  | .error bad => (.error (.transport bad.headline), link)
  | .ok url =>
      match link.send userAgent .get url none with
      | (.error .timeout, link) => (.error .timeout, link)
      | (.error .transport, link) =>
          (.error (.transport transportDetail), link)
      | (.ok arrival, link) => (outcomeOfArrival arrival, link)

end OperatorConsole.Remote
