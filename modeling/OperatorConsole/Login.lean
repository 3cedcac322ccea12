import OperatorConsole.Remote.Client

/-!
# Logging in

Before the console starts there has to be a session.  One saved by a previous
run is taken up; otherwise the operator is asked for a name and a password,
three times at most, and the session that results is saved.
-/

namespace OperatorConsole.Login

/-- What is typed at the prompts. -/
structure Credentials where
  username : String
  password : String
deriving DecidableEq, Repr

/-- Why there is no session. -/
inductive Failure where
  | saving (trouble : CookieJar.FileTrouble)
  | tooOften
  | noTerminal
deriving DecidableEq, Repr

def mostAttempts : Nat := 3

/-- The messages of a failure, the most general one first. -/
def Failure.chain : Failure → List String
  | .saving trouble => trouble.chain
  | .tooOften =>
      ["Login failed " ++ Nat.repr mostAttempts ++ " times, giving up"]
  | .noTerminal => ["not a terminal"]

/-- A log-in in progress. -/
structure Dialog where
  link : Http.Link
  base : Url
  sessionFile : String
  attemptsLeft : Nat

/-- How far a log-in has come. -/
inductive Progress where
  | asking (dialog : Dialog)
  | done (link : Http.Link)
  | failed (failure : Failure) (link : Http.Link)

/-- Take up the session of a file.  A broken file is as good as none. -/
def takeUp (link : Http.Link) (sessionFile : String) : Http.Link :=
  { link with
    session := (link.session.restore sessionFile).toOption.getD link.session }

def invitation (base : Url) : String :=
  "Log in to " ++ base.text

/-- Begin a log-in, and say what is printed. -/
def start (link : Http.Link) (base : Url) (sessionFile : String) :
    Progress × List String :=
  let link := takeUp link sessionFile
  if link.session.hasSession then (.done link, [])
  else (.asking ⟨link, base, sessionFile, mostAttempts⟩, [invitation base])

/-- Save the session that a log-in has brought. -/
def save (link : Http.Link) (sessionFile : String) : Progress :=
  match link.session.write sessionFile with
  | (.ok (), session) => .done { link with session := session }
  | (.error trouble, session) =>
      .failed (.saving trouble) { link with session := session }

/-- Try what has been typed, and say what is printed. -/
def attempt (dialog : Dialog) (typed : Credentials) :
    Progress × List String :=
  match Remote.login dialog.link dialog.base typed.username
      typed.password with
  | (.ok (), link) =>
      (save link dialog.sessionFile, ["Welcome " ++ typed.username ++ "!"])
  | (.error fault, link) =>
      (if dialog.attemptsLeft ≤ 1 then .failed .tooOften link
        else
          .asking { dialog with
            link := link
            attemptsLeft := dialog.attemptsLeft - 1 },
        [fault.message])

/-- Go on with what is typed at the prompts in turn. -/
def proceed : Progress → List Credentials →
    Except Failure Unit × Http.Link × List String
  | .done link, _ => (.ok (), link, [])
  | .failed failure link, _ => (.error failure, link, [])
  | .asking dialog, [] => (.error .noTerminal, dialog.link, [])
  | .asking dialog, typed :: rest =>
      let (progress, printed) := attempt dialog typed
      let (result, link, later) := proceed progress rest
      (result, link, printed ++ later)

/-- Make sure that there is a session, and say what is printed. -/
def ensure (link : Http.Link) (base : Url) (sessionFile : String)
    (typed : List Credentials) :
    Except Failure Unit × Http.Link × List String :=
  let (progress, printed) := start link base sessionFile
  let (result, link, later) := proceed progress typed
  (result, link, printed ++ later)

end OperatorConsole.Login
