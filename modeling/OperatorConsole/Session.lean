import OperatorConsole.Cookie.SessionFile

/-!
# Sessions

The cookies of an operator together with what they depend on: the clock by
which they expire and the files in which they outlast a run.
-/

namespace OperatorConsole

structure Session where
  jar : CookieJar
  /-- Seconds from the beginning of 1970. -/
  clock : Int
  files : Files
deriving DecidableEq

namespace Session

/-- The time by which cookies live.  A clock set before 1970 counts as zero. -/
def now (session : Session) : Int :=
  max session.clock 0

def names (session : Session) : List String :=
  session.jar.names session.now

def hasSession (session : Session) : Bool :=
  session.jar.hasSession session.now

def header? (session : Session) (url : Url) : Option String :=
  session.jar.header? url session.now

def sentHeader? (session : Session) (url : Url) : Option String :=
  session.jar.sentHeader? url session.now

def receive (session : Session) (header : String) (url : Url) : Session :=
  { session with jar := session.jar.receive header url session.now }

def receiveAll (session : Session) (headers : List String) (url : Url) :
    Session :=
  { session with jar := session.jar.receiveAll headers url session.now }

/-- Drop every cookie. -/
def expireAll (session : Session) : Session :=
  { session with jar := .empty }

def advance (session : Session) (seconds : Int) : Session :=
  { session with clock := session.clock + seconds }

/-- Write the cookies to a file.  What has been done to the files is done even
if that fails. -/
def write (session : Session) (path : String) :
    Except CookieJar.FileTrouble Unit × Session :=
  let (result, files) :=
    session.jar.persist session.now session.files path
  (result, { session with files := files })

/-- The session once its cookies are in a file. -/
def persist (session : Session) (path : String) :
    Except CookieJar.FileTrouble Session :=
  (session.write path).1.map fun () => (session.write path).2

/-- Put the cookies of a file over those that are there. -/
def restore (session : Session) (path : String) :
    Except CookieJar.FileTrouble Session :=
  (session.jar.restore session.now session.files path).map fun jar =>
    { session with jar := jar }

end Session

end OperatorConsole
