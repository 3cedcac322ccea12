import OperatorConsole.Cookie.Jar
import OperatorConsole.Files
import OperatorConsole.Json.Reader

/-!
# Session files

The live cookies of a jar are kept in a file from one run to the next.  Reading
the file puts its cookies over those that are there, or changes nothing if the
file is broken.
-/

namespace OperatorConsole

open Json

namespace Cookie

def toJson (cookie : Cookie) : Value :=
  .object [
    ("name", .string cookie.name),
    ("value", .string cookie.value),
    ("domain", .string cookie.domain),
    ("host_only", .boolean cookie.hostOnly),
    ("path", .string cookie.path),
    ("secure", .boolean cookie.secure),
    ("expires",
      match cookie.expires with
      | none => .null
      | some instant => .number (.whole instant))]

def instantReader : Reader Int :=
  whole (-SetCookie.endOfTime - 1) SetCookie.endOfTime "i64"

def itemsReader : Reader Cookie := fun depth cs => do
  let expected := "struct StoredCookie with 7 elements"
  let (name, cs) ← itemAt 0 expected string depth cs
  let (value, cs) ← itemAt 1 expected string depth cs
  let (domain, cs) ← itemAt 2 expected string depth cs
  let (hostOnly, cs) ← itemAt 3 expected boolean depth cs
  let (path, cs) ← itemAt 4 expected string depth cs
  let (secure, cs) ← itemAt 5 expected boolean depth cs
  let (expires, cs) ← itemAt 6 expected (optional instantReader) depth cs
  return (⟨name, value, domain, hostOnly, path, secure, expires⟩, cs)

structure Members where
  name : Option String := none
  value : Option String := none
  domain : Option String := none
  hostOnly : Option Bool := none
  path : Option String := none
  secure : Option Bool := none
  expires : Option (Option Int) := none

def Members.plan (state : Members) (name : String) : MemberPlan Members :=
  if name = "name" then
    once name state.name string
      fun text => { state with name := some text }
  else if name = "value" then
    once name state.value string
      fun text => { state with value := some text }
  else if name = "domain" then
    once name state.domain string
      fun text => { state with domain := some text }
  else if name = "host_only" then
    once name state.hostOnly boolean
      fun answer => { state with hostOnly := some answer }
  else if name = "path" then
    once name state.path string
      fun text => { state with path := some text }
  else if name = "secure" then
    once name state.secure boolean
      fun answer => { state with secure := some answer }
  else if name = "expires" then
    once name state.expires (optional instantReader)
      fun instant => { state with expires := some instant }
  else .skip

def membersReader : Reader Cookie := fun depth cs => do
  let (state, cs) ← members Members.plan {} depth cs
  let name ← required "name" state.name cs
  let value ← required "value" state.value cs
  let domain ← required "domain" state.domain cs
  let hostOnly ← required "host_only" state.hostOnly cs
  let path ← required "path" state.path cs
  let secure ← required "secure" state.secure cs
  return (⟨name, value, domain, hostOnly, path, secure, state.expires.join⟩,
    cs)

def reader : Reader Cookie :=
  container "struct StoredCookie" (some itemsReader) (some membersReader)

end Cookie

namespace CookieJar

/-- What went wrong with a session file. -/
inductive FileTrouble where
  | creating (directory : String) (fault : FileFault)
  | writing (path : String) (fault : FileFault)
  | reading (path : String) (fault : FileFault)
  | parsing (path : String) (error : ReadError)
deriving DecidableEq, Repr

/-- The messages of a trouble, the most general one first. -/
def FileTrouble.chain : FileTrouble → List String
  | .creating directory fault => ["Creating " ++ directory, fault.message]
  | .writing path fault => ["Writing " ++ path, fault.message]
  | .reading path fault => ["Reading " ++ path, fault.message]
  | .parsing path error =>
      ["Parsing session file " ++ path, error.message]

/-- The text of a file for the live cookies. -/
def fileText (jar : CookieJar) (now : Int) : String :=
  (Value.array ((jar.live now).map Cookie.toJson)).compactText

/-- The cookies that the text of a file lists. -/
def ofFileText (text : String) : Except ReadError (List Cookie) :=
  readText (listOf Cookie.reader) text

/-- Put the live ones of a list of cookies over those of a jar. -/
def overlay (jar : CookieJar) (cookies : List Cookie) (now : Int) :
    CookieJar :=
  jar.putAll (cookies.filter (!·.isExpired now))

/-- Write the live cookies to a file, in a directory that is made if needed.
Directories that were made stay if the file cannot be written. -/
def persist (jar : CookieJar) (now : Int) (files : Files) (path : String) :
    Except FileTrouble Unit × Files :=
  match files.createParent path FileTrouble.creating with
  | (.ok (), inside) =>
      match inside.write path (jar.fileText now) with
      | .error fault => (.error (.writing path fault), inside)
      | .ok written => (.ok (), written)
  | failed => failed

/-- Read the cookies of a file.  A file that is not there holds none. -/
def restore (jar : CookieJar) (now : Int) (files : Files) (path : String) :
    Except FileTrouble CookieJar :=
  match files.readText path with
  | .error .notFound => .ok jar
  | .error fault => .error (.reading path fault)
  | .ok text =>
      match ofFileText text with
      | .error error => .error (.parsing path error)
      | .ok cookies => .ok (jar.overlay cookies now)

end CookieJar

end OperatorConsole
