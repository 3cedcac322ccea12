import OperatorConsole.Remote.Pool
import OperatorConsole.Router
import OperatorConsole.Session
import OperatorConsole.Transcript
import OperatorConsole.Url.Reference

/-!
# The console

Carrying out what submitted lines ask for.  Local text goes into the transcript
at once, remote calls go to the pool and their outcomes into the transcript when
they are taken out of it, and navigation ends the console.
-/

namespace OperatorConsole

/-- What becomes of the console after a line. -/
inductive Flow where
  | goOn
  /-- The operator continues at `url`. -/
  | leave (url : Url)
deriving DecidableEq, Repr

/-- A place to continue at that cannot be joined to the front-end's URL. -/
structure BadTarget where
  target : String
  fault : Url.Fault
deriving DecidableEq, Repr

/-- The messages of a failure, the most general one first. -/
def BadTarget.chain (bad : BadTarget) : List String :=
  ["Invalid navigation target " ++ Text.quote bad.target, bad.fault.message]

structure Console where
  table : CommandTable
  transcript : Transcript
  pool : Remote.Pool
  session : Session
  base : Url
  /-- Where the cookies are written after they have been cleared. -/
  sessionFile : Option String

namespace Console

def start (table : CommandTable) (mode : RenderMode) (session : Session)
    (base : Url) (sessionFile : Option String) : Console :=
  ⟨table, .empty mode, .empty, session, base, sessionFile⟩

/-- The number of calls that are waited for. -/
def pending (console : Console) : Nat :=
  console.pool.pending

/-- Drop every cookie, also from the session file if it can be written. -/
def forgetCookies (console : Console) : Console :=
  let session := console.session.expireAll
  let saved :=
    match console.sessionFile with
    | none => session
    | some path => (session.write path).2
  { console with session := saved }

/-- Give up all calls and go to a page of the front-end. -/
def leave (console : Console) (target : String) :
    Except BadTarget Flow × Console :=
  (((console.base.join target).mapError (⟨target, ·⟩)).map Flow.leave,
    { console with pool := console.pool.cancelAll })

/-- Hand a call to the pool.  Where only the newest answer is shown, older calls
are given up. -/
def call (console : Console) (label : String) (call : Remote.Call) :
    Console :=
  let pool :=
    match console.transcript.mode with
    | .append => console.pool
    | .replace => console.pool.cancelAll
  { console with pool := pool.spawn label call }

/-- Carry out an effect of a line with the given label. -/
def perform (console : Console) (label : String) :
    Effect → Except BadTarget Flow × Console
  | .localRender markup =>
      (.ok .goOn,
        { console with transcript := console.transcript.render label markup })
  | .remoteCall remote => (.ok .goOn, console.call label remote)
  | .navigate target => console.leave target
  | .clearSession redirect => console.forgetCookies.leave redirect

/-- Handle a submitted line. -/
def submit (console : Console) (line : String) :
    Except BadTarget Flow × Console :=
  match console.table.effect? line with
  | none => (.ok .goOn, console)
  | some effect => console.perform (Text.trim line) effect

/-- Put what a call came to into the transcript.  A dead session is
forgotten. -/
def renderOutcome (console : Console) (completion : Remote.Completion) :
    Console :=
  match completion.outcome with
  | .ok text =>
      { console with
        transcript := console.transcript.render completion.label text }
  | .error failure =>
      let console :=
        if failure = .unauthenticated then console.forgetCookies else console
      { console with
        transcript :=
          console.transcript.renderError completion.label failure.message }

def renderAll (console : Console) (completions : List Remote.Completion) :
    Console :=
  completions.foldl renderOutcome console

/-- Show all that has arrived, and say how many outcomes that were. -/
def pump (console : Console) : Nat × Console :=
  let (completions, pool) := console.pool.drain
  (completions.length, { console with pool := pool }.renderAll completions)

/-- Show what has arrived until no call is in flight, and say how many outcomes
that were. -/
def settle (console : Console) : Nat × Console :=
  let (completions, pool) := console.pool.waitIdle
  (completions.length, { console with pool := pool }.renderAll completions)

/-- Give up all calls with an error block for each, and say how many that
were. -/
def cancelPending (console : Console) : Nat × Console :=
  let note := fun (transcript : Transcript) label =>
    transcript.renderError label Remote.Failure.cancelled.message
  (console.pool.pending,
    { console with
      pool := console.pool.cancelAll
      transcript :=
        console.pool.pendingLabels.foldl note console.transcript })

/-- Show a failure that happened while a line was handled. -/
def reportError (console : Console) (line : String) (chain : List String) :
    Console :=
  { console with
    transcript := console.transcript.renderError (Text.trim line)
      (String.intercalate ": " chain) }

/-- Show the failure of a submitted line, if it has one. -/
def submitReporting (console : Console) (line : String) :
    Except BadTarget Flow × Console :=
  match console.submit line with
  | (.error bad, console) => (.error bad, console.reportError line bad.chain)
  | next => next

/-- A worker's call comes to something. -/
def answer? (console : Console) (id : Nat) (outcome : Remote.Outcome) :
    Option Console :=
  (console.pool.answer? id outcome).map fun pool =>
    { console with pool := pool }

end Console

end OperatorConsole
