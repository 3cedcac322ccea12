import OperatorConsole.OrderedBy
import OperatorConsole.Remote.Call
import OperatorConsole.Text.Lowercase
import OperatorConsole.Text.Quoted

/-!
# Command tables

The verbs that the console knows itself and its help topics, as data.  A verb
that the table does not have goes to the service.  A topic belongs to a word
and, if it has a qualifier, to the word that follows it.
-/

namespace OperatorConsole

/-- Where a verb leads. -/
inductive VerbRoute where
  /-- The summary, or the topic that the line asks for. -/
  | help
  /-- A fixed text in another language. -/
  | localizedHelp
  | remote (resource : Remote.Resource)
  | navigate (target : String)
  | clearSession (redirect : String)
deriving DecidableEq, Repr

/-- The path on the front-end that a route leads to. -/
def VerbRoute.target? : VerbRoute → Option String
  | .navigate target => some target
  | .clearSession redirect => some redirect
  | _ => none

structure Verb where
  name : String
  route : VerbRoute
deriving DecidableEq, Repr

/-- What a help topic shows: a text, or a page of the documentation. -/
inductive HelpEntry where
  | text (markup : String)
  | navigate (target : String)
deriving DecidableEq, Repr

structure HelpTopic where
  sub : String
  qualifier : Option String
  entry : HelpEntry
deriving DecidableEq, Repr

structure CommandTable where
  version : Nat
  summary : String
  localized : String
  verbs : OrderedBy Verb.name
  topics : List HelpTopic
deriving DecidableEq

namespace CommandTable

/-- The table format that this console reads. -/
def supportedVersion : Nat := 2

def route? (table : CommandTable) (verb : String) : Option VerbRoute :=
  (table.verbs.find? verb).map (·.route)

/-- The first topic for a word with exactly this qualifier. -/
def topicFor? (topics : List HelpTopic) (sub : String)
    (qualifier : Option String) : Option HelpTopic :=
  topics.find? fun topic => topic.sub == sub && topic.qualifier == qualifier

/-- The help for a word and the word after it: a topic with that qualifier
comes first, the topic without one second. -/
def topic? (table : CommandTable) (sub : String)
    (qualifier : Option String) : Option HelpEntry :=
  let qualified :=
    match qualifier with
    | some word => topicFor? table.topics sub (some word)
    | none => none
  (qualified.or (topicFor? table.topics sub none)).map (·.entry)

/-- What is wrong with a table that could be read. -/
inductive Flaw where
  | version (found : Nat)
  | badVerb (verb : String)
  | badTarget (owner : String)
deriving DecidableEq, Repr

def Flaw.message : Flaw → String
  | .version found =>
      "unsupported command table version " ++ Nat.repr found ++
        " (expected " ++ Nat.repr supportedVersion ++ ")"
  | .badVerb verb =>
      "verb " ++ Text.quote verb ++ " must be a single lowercase word"
  | .badTarget owner =>
      "navigation target for " ++ Text.quote owner ++
        " must be an absolute path"

/-- A path of the front-end starts with a slash. -/
def isAbsolute (target : String) : Bool :=
  target.toList.head? == some '/'

/-- A name that a typed line can match: not empty, without a space, in
lowercase. -/
def isVerbName (name : String) : Bool :=
  !name.isEmpty && !name.toList.contains ' ' && name == Text.lowercase name

def Verb.flaw? (verb : Verb) : Option Flaw :=
  if !isVerbName verb.name then some (.badVerb verb.name)
  else if verb.route.target?.all isAbsolute then none
  else some (.badTarget verb.name)

def HelpTopic.flaw? (topic : HelpTopic) : Option Flaw :=
  match topic.entry with
  | .navigate target =>
      if isAbsolute target then none else some (.badTarget topic.sub)
  | .text _ => none

/-- The first flaw of a table: the version, then the verbs in order of their
names, then the topics as they stand. -/
def flaw? (table : CommandTable) : Option Flaw :=
  if table.version ≠ supportedVersion then some (.version table.version)
  else
    (table.verbs.toList.findSome? Verb.flaw?).or
      (table.topics.findSome? HelpTopic.flaw?)

end CommandTable

end OperatorConsole
