import OperatorConsole.CommandTable
import OperatorConsole.Json.Reader

/-!
# Command tables as JSON

A table is an object with the members `version`, `summary`, `localized`,
`verbs` and `topics`, or a list of these in that order.  A route is an object
that its `kind` tells apart; a help entry has its `kind` and its `value` side by
side.  `toJson` writes what `ofText` reads.
-/

namespace OperatorConsole.CommandTable

open Json

/-! ## Kinds -/

/-- Accept a name of `known` that has just been read. -/
def knownName (known : List String) (name : String) (rest : List Char) :
    Except Fault (WithRest String) :=
  if known.contains name then .ok (name, rest)
  else .error (.here (.unknownVariant name known) rest)

/-- A string that must be one of `known`. -/
def kindName (known : List String) : Reader String := fun depth cs => do
  let (name, rest) ← stringAs "variant identifier" depth cs
  knownName known name rest

/-- A kind that is the name of an object's first member. -/
def kindKey (known : List String) : Reader String := fun depth cs =>
  match skipBlanks cs with
  | [] => .error (.atNext .endInObject [])
  | '"' :: rest => kindName known depth ('"' :: rest)
  | '}' :: rest => .error (.atNext .noValue ('}' :: rest))
  | rest => .error (.atNext .keyNotString rest)

/-- A kind as a string, or as the only member of an object with the value
`null`. -/
def kindNameOrMap (known : List String) : Reader String := fun depth cs =>
  match skipBlanks cs with
  | [] => .error (.atNext .endInValue [])
  | '"' :: rest => kindName known depth ('"' :: rest)
  | '{' :: rest =>
      if depth ≤ 1 then .error (.atNext .recursionLimit ('{' :: rest))
      else do
        let (name, rest) ← kindKey known (depth - 1) rest
        let (_, rest) ← unit (depth - 1) (← colon rest)
        match skipBlanks rest with
        | [] => .error (.here .endInObject [])
        | '}' :: rest => .ok (name, rest)
        | rest => .error (.here .noValue rest)
  | rest => .error (.atNext .noValue rest)

def routeKinds : List String :=
  ["help", "localized_help", "remote", "navigate", "clear_session"]

def entryKinds : List String :=
  ["text", "navigate"]

/-! ## Routes -/

/-- What a route's text holds beside its kind. -/
inductive RouteContent where
  | items (values : List Value)
  | members (values : List (String × Value))

def stringOf : Value → Except Cause String
  | .string value => .ok value
  | value => .error (.wrongType value.found "a string")

def resourceNamed (name : String) : Except Cause Remote.Resource :=
  match Remote.Resource.ofName? name with
  | some resource => .ok resource
  | none =>
      .error (.unknownVariant name (Remote.Resource.all.map (·.name)))

def resourceOf : Value → Except Cause Remote.Resource
  | .string name => resourceNamed name
  | .object [(name, value)] => do
      let resource ← resourceNamed name
      match value with
      | .null | .object [] => .ok resource
      | value => .error (.wrongType value.found "unit")
  | .object _ => .error (.wrongValue .map "map with a single key")
  | value => .error (.wrongType value.found "string or map")

/-- The one item that a route of some kind has in list form. -/
def soleItem {α : Type} (kind : String) (read : Value → Except Cause α) :
    List Value → Except Cause α
  | [] =>
      .error (.wrongLength 0
        ("struct variant VerbRoute::" ++ kind ++ " with 1 element"))
  | [value] => read value
  | value :: rest => do
      let _ ← read value
      .error (.wrongLength (rest.length + 1) "1 element in sequence")

/-- The one member that a route of some kind has in object form. -/
def soleMember {α : Type} (name : String) (read : Value → Except Cause α) :
    Option α → List (String × Value) → Except Cause α
  | none, [] => .error (.missingField name)
  | some found, [] => .ok found
  | seen, (key, value) :: rest =>
      if key ≠ name then soleMember name read seen rest
      else if seen.isSome then .error (.duplicateField name)
      else do soleMember name read (some (← read value)) rest

def soleContent {α : Type} (kind name : String)
    (read : Value → Except Cause α) : RouteContent → Except Cause α
  | .items values => soleItem kind read values
  | .members values => soleMember name read none values

/-- A route of a kind that has no content.  Members are ignored, items are
not. -/
def noContent (route : VerbRoute) : RouteContent → Except Cause VerbRoute
  | .members _ | .items [] => .ok route
  | .items values =>
      .error (.wrongLength values.length "0 elements in sequence")

def routeOf (kind : String) (content : RouteContent) :
    Except Cause VerbRoute :=
  if kind = "help" then noContent .help content
  else if kind = "localized_help" then noContent .localizedHelp content
  else if kind = "remote" then
    (soleContent "Remote" "resource" resourceOf content).map .remote
  else if kind = "navigate" then
    (soleContent "Navigate" "target" stringOf content).map .navigate
  else
    (soleContent "ClearSession" "redirect" stringOf content).map .clearSession

/-- The kind and the other items of a route in list form. -/
def routeItems : Reader (String × RouteContent) := fun depth cs => do
  match ← itemAt? 0 (kindName routeKinds) depth cs with
  | (none, cs) => .error (.pending (.missingField "kind") cs)
  | (some kind, cs) =>
      let (values, cs) ← itemsFrom value depth (cs.length + 1) false cs
      return ((kind, .items values), cs)

/-- The members of a route that have been read, last first. -/
structure RouteMembers where
  kind : Option String
  others : List (String × Value)

def RouteMembers.plan (state : RouteMembers) (name : String) :
    MemberPlan RouteMembers :=
  if name = "kind" then
    once name state.kind (kindName routeKinds)
      fun kind => { state with kind := some kind }
  else
    .read (value.into fun value =>
      { state with others := (name, value) :: state.others })

/-- The kind and the other members of a route in object form. -/
def routeMembers : Reader (String × RouteContent) := fun depth cs => do
  let (state, cs) ← members RouteMembers.plan ⟨none, []⟩ depth cs
  let kind ← required "kind" state.kind cs
  return ((kind, .members state.others.reverse), cs)

/-- A route.  What is wrong with its content shows only when all of it has been
read. -/
def routeReader : Reader VerbRoute := fun depth cs => do
  let ((kind, content), rest) ←
    container "internally tagged enum VerbRoute"
      (some routeItems) (some routeMembers) depth cs
  match routeOf kind content with
  | .ok route => .ok (route, rest)
  | .error cause => .error (.pending cause rest)

/-! ## Help entries and topics -/

def entryOf (kind content : String) : HelpEntry :=
  if kind = "text" then .text content else .navigate content

/-- The members of a help entry that have been read. -/
inductive EntryMembers where
  | nothing
  | kind (kind : String)
  | content (value : Value)
  | complete (entry : HelpEntry)

/-- The entry of a kind that comes after its content. -/
def lateEntry (content : Value) : Reader EntryMembers :=
  fun depth cs => do
    let (kind, rest) ← kindNameOrMap entryKinds depth cs
    match stringOf content with
    | .ok text => .ok (.complete (entryOf kind text), rest)
    | .error cause => .error (.pending cause rest)

def EntryMembers.plan (state : EntryMembers) (name : String) :
    MemberPlan EntryMembers :=
  if name = "kind" then
    match state with
    | .nothing => .read ((kindNameOrMap entryKinds).into .kind)
    | .content early => .read (lateEntry early)
    | _ => .refuse (.duplicateField name)
  else if name = "value" then
    match state with
    | .nothing => .read (value.into .content)
    | .kind known =>
        .read (string.into fun text => .complete (entryOf known text))
    | _ => .refuse (.duplicateField name)
  else .skip

def entryMembers : Reader HelpEntry := fun depth cs => do
  let (state, cs) ← members EntryMembers.plan .nothing depth cs
  match state with
  | .complete entry => .ok (entry, cs)
  | .kind _ => .error (.pending (.missingField "value") cs)
  | _ => .error (.pending (.missingField "kind") cs)

def entryItems : Reader HelpEntry := fun depth cs => do
  let expected := "adjacently tagged enum HelpEntry"
  let (kind, cs) ← itemAt 0 expected (kindName entryKinds) depth cs
  let (text, cs) ← itemAt 1 expected string depth cs
  return (entryOf kind text, cs)

def entryReader : Reader HelpEntry :=
  container "adjacently tagged enum HelpEntry"
    (some entryItems) (some entryMembers)

def topicItems : Reader HelpTopic := fun depth cs => do
  let expected := "struct HelpTopic with 3 elements"
  let (sub, cs) ← itemAt 0 expected string depth cs
  let (qualifier, cs) ← itemAt? 1 (optional string) depth cs
  let (entry, cs) ← itemAt 2 expected entryReader depth cs
  return (⟨sub, qualifier.join, entry⟩, cs)

structure TopicMembers where
  sub : Option String := none
  qualifier : Option (Option String) := none
  entry : Option HelpEntry := none

def TopicMembers.plan (state : TopicMembers) (name : String) :
    MemberPlan TopicMembers :=
  if name = "sub" then
    once name state.sub string
      fun sub => { state with sub := some sub }
  else if name = "qualifier" then
    once name state.qualifier (optional string)
      fun qualifier => { state with qualifier := some qualifier }
  else if name = "entry" then
    once name state.entry entryReader
      fun entry => { state with entry := some entry }
  else .skip

def topicMembers : Reader HelpTopic := fun depth cs => do
  let (state, cs) ← members TopicMembers.plan {} depth cs
  let sub ← required "sub" state.sub cs
  let entry ← required "entry" state.entry cs
  return (⟨sub, state.qualifier.join, entry⟩, cs)

def topicReader : Reader HelpTopic :=
  container "struct HelpTopic" (some topicItems) (some topicMembers)

/-! ## Tables -/

def versionReader : Reader Nat :=
  (whole 0 4294967295 "u32").into Int.toNat

/-- The verbs of an object; of two with one name the later one stays. -/
def verbsReader : Reader (OrderedBy Verb.name) :=
  (mapOf routeReader).into fun entries =>
    OrderedBy.empty.putAll (entries.map fun entry => ⟨entry.1, entry.2⟩)

def tableItems : Reader CommandTable := fun depth cs => do
  let expected := "struct CommandTable with 5 elements"
  let (version, cs) ← itemAt 0 expected versionReader depth cs
  let (summary, cs) ← itemAt 1 expected string depth cs
  let (localized, cs) ← itemAt 2 expected string depth cs
  let (verbs, cs) ← itemAt 3 expected verbsReader depth cs
  let (topics, cs) ← itemAt? 4 (listOf topicReader) depth cs
  return (⟨version, summary, localized, verbs, topics.getD []⟩, cs)

structure TableMembers where
  version : Option Nat := none
  summary : Option String := none
  localized : Option String := none
  verbs : Option (OrderedBy Verb.name) := none
  topics : Option (List HelpTopic) := none

def TableMembers.plan (state : TableMembers) (name : String) :
    MemberPlan TableMembers :=
  if name = "version" then
    once name state.version versionReader
      fun version => { state with version := some version }
  else if name = "summary" then
    once name state.summary string
      fun summary => { state with summary := some summary }
  else if name = "localized" then
    once name state.localized string
      fun localized => { state with localized := some localized }
  else if name = "verbs" then
    once name state.verbs verbsReader
      fun verbs => { state with verbs := some verbs }
  else if name = "topics" then
    once name state.topics (listOf topicReader)
      fun topics => { state with topics := some topics }
  else .skip

def tableMembers : Reader CommandTable := fun depth cs => do
  let (state, cs) ← members TableMembers.plan {} depth cs
  let version ← required "version" state.version cs
  let summary ← required "summary" state.summary cs
  let localized ← required "localized" state.localized cs
  let verbs ← required "verbs" state.verbs cs
  return (⟨version, summary, localized, verbs, state.topics.getD []⟩, cs)

def tableReader : Reader CommandTable :=
  container "struct CommandTable" (some tableItems) (some tableMembers)

/-- Why a text gives no table. -/
inductive TextFault where
  | malformed (error : ReadError)
  | flawed (flaw : Flaw)
deriving DecidableEq, Repr

/-- Read a table and check it. -/
def ofText (text : String) : Except TextFault CommandTable :=
  match readText tableReader text with
  | .error error => .error (.malformed error)
  | .ok table =>
      match table.flaw? with
      | some flaw => .error (.flawed flaw)
      | none => .ok table

/-! ## Writing -/

def kindMember (kind : String) : String × Value :=
  ("kind", .string kind)

def routeJson : VerbRoute → Value
  | .help => .object [kindMember "help"]
  | .localizedHelp => .object [kindMember "localized_help"]
  | .remote resource =>
      .object [kindMember "remote", ("resource", .string resource.name)]
  | .navigate target =>
      .object [kindMember "navigate", ("target", .string target)]
  | .clearSession redirect =>
      .object [kindMember "clear_session", ("redirect", .string redirect)]

def entryJson : HelpEntry → Value
  | .text markup => .object [kindMember "text", ("value", .string markup)]
  | .navigate target =>
      .object [kindMember "navigate", ("value", .string target)]

/-- A topic; one without a qualifier has no such member. -/
def topicJson (topic : HelpTopic) : Value :=
  .object
    (("sub", .string topic.sub) ::
      (topic.qualifier.toList.map fun word => ("qualifier", .string word)) ++
      [("entry", entryJson topic.entry)])

def toJson (table : CommandTable) : Value :=
  .object [
    ("version", .number (.whole table.version)),
    ("summary", .string table.summary),
    ("localized", .string table.localized),
    ("verbs", .object (table.verbs.toList.map fun verb =>
      (verb.name, routeJson verb.route))),
    ("topics", .array (table.topics.map topicJson))]

def toText (table : CommandTable) : String :=
  table.toJson.compactText

end OperatorConsole.CommandTable
