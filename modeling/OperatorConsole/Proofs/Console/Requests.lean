import OperatorConsole.Proofs.CommandTable.Accepted
import OperatorConsole.Proofs.Console.Runs
import OperatorConsole.Proofs.Remote.Address
import OperatorConsole.Proofs.Text.Split
import OperatorConsole.Proofs.Url.WellFormed

/-!
# Requests for typed lines

A console makes one request for each line that is routed to a remote resource,
in the order of the lines, and no others.  A line that the table does not know
travels as it was typed: the action in its request's query stands for it.
-/

namespace OperatorConsole

/-- The text before the first space. -/
def CommandLine.firstWord (text : String) : String :=
  String.ofList (text.toList.takeWhile (· != ' '))

namespace CommandLine

/-- A line that is not blank has words, and the first one reaches to the first
space of the trimmed line. -/
theorem ofLine?_eq_some {line : String} (notBlank : Text.trim line ≠ "") :
    ∃ arguments, ofLine? line =
      some ⟨line, firstWord (Text.trim line), arguments⟩ := by
  have notEmpty : (Text.trim line).isEmpty = false := by
    simpa using notBlank
  simp only [ofLine?, notEmpty, wordsOf]
  have first := Text.head?_splitOn ' ' (Text.trim line).toList
  cases split : (Text.trim line).toList.splitOn ' ' with
  | nil => exact (List.splitOn_ne_nil ' ' _ split).elim
  | cons word words =>
      rw [split, List.head?_cons, Option.some.injEq] at first
      exact ⟨words.map String.ofList, by simp [first, firstWord]⟩

end CommandLine

namespace CommandTable

/-- The line is not blank, and its first word in lowercase is no verb of the
table or one that leads to `act`. -/
structure Forwards (table : CommandTable) (line : String) : Prop where
  notBlank : Text.trim line ≠ ""
  unknown : ∀ verb ∈ table.verbs.toList,
    verb.name =
        Text.lowercase (CommandLine.firstWord (Text.trim line)) →
      verb.route = .remote .act

theorem route?_of_forwards {table : CommandTable} {line : String}
    (forwards : table.Forwards line) :
    table.route? (Text.lowercase
        (CommandLine.firstWord (Text.trim line))) = none ∨
      table.route? (Text.lowercase
        (CommandLine.firstWord (Text.trim line))) =
          some (.remote .act) := by
  cases routed : table.route? (Text.lowercase
      (CommandLine.firstWord (Text.trim line))) with
  | none => exact .inl rfl
  | some route =>
      have act : route = .remote .act :=
        forwards.unknown ⟨_, route⟩ (route?_eq_some_iff.mp routed) rfl
      exact .inr (congrArg some act)

theorem effect?_of_forwards {table : CommandTable} {line : String}
    (forwards : table.Forwards line) :
    table.effect? line = some (.remoteCall (.act line)) := by
  obtain ⟨arguments, parsed⟩ :=
    CommandLine.ofLine?_eq_some forwards.notBlank
  rw [effect?, parsed, Option.map_some, lineEffect, CommandLine.verb]
  rcases route?_of_forwards forwards with none | act
  · rw [none]
  · rw [act]

/-- The label and the call of the request that a line makes, if it makes
one. -/
def request? (table : CommandTable) (line : String) :
    Option (String × Remote.Call) :=
  match table.effect? line with
  | some (.remoteCall call) => some (Text.trim line, call)
  | _ => none

/-- Only requests to `act` have an action. -/
theorem call_eq_named_of_request? {table : CommandTable} {line label : String}
    {call : Remote.Call} (requested : table.request? line = some (label, call))
    (notAct : call.resource ≠ .act) :
    call = .named call.resource := by
  unfold request? at requested
  split at requested
  · next remote routed =>
      cases requested
      obtain ⟨command, _, effect⟩ := Option.map_eq_some_iff.mp routed
      unfold lineEffect at effect
      split at effect
      · unfold helpEffect at effect
        split at effect
        · cases effect
        · split at effect <;> cases effect
      · cases effect
      · cases effect
        exact (notAct rfl).elim
      · cases effect
        rfl
      · cases effect
      · cases effect
      · cases effect
        exact (notAct rfl).elim
  · cases requested

end CommandTable

namespace Console

/-- The labels and calls that the console has made requests with, oldest
first. -/
def requests (console : Console) : List (String × Remote.Call) :=
  console.pool.errands.map fun errand => (errand.label, errand.call)

theorem requests_eq_of_errands {left right : Console}
    (same : left.pool.errands = right.pool.errands) :
    left.requests = right.requests := by
  rw [requests, same, requests]

theorem requests_submit (console : Console) (line : String) :
    (console.submit line).2.requests =
      console.requests ++ (console.table.request? line).toList := by
  unfold submit CommandTable.request?
  cases routed : console.table.effect? line with
  | none => simp
  | some effect =>
      have same {next : Console}
          (errands : next.pool.errands = console.pool.errands) :
          next.requests = console.requests ++ [] := by
        rw [List.append_nil, requests_eq_of_errands errands]
      cases effect with
      | localRender markup => exact same rfl
      | navigate target => exact same (errands_leave console target)
      | remoteCall call =>
          obtain ⟨id, errands⟩ := errands_call console (Text.trim line) call
          simp [perform, requests, errands]
      | clearSession redirect =>
          exact same (errands_leave console.forgetCookies redirect)

def Operation.line? : Operation → Option String
  | .submit line => some line
  | _ => none

/-- The lines among some operations. -/
def submitted (operations : List Operation) : List String :=
  operations.filterMap Operation.line?

theorem requests_after (console : Console) (operation : Operation) :
    (console.after operation).requests =
      console.requests ++
        (operation.line?.bind console.table.request?).toList := by
  have same (errands : (console.after operation).pool.errands =
        console.pool.errands) :
      (console.after operation).requests = console.requests ++ [] := by
    rw [List.append_nil, requests_eq_of_errands errands]
  cases operation with
  | submit line =>
      rw [after, requests_submit, Operation.line?, Option.bind_some]
  | pump => exact same (errands_pump console)
  | settle => exact same (errands_settle console)
  | cancelPending =>
      exact same (Remote.Pool.errands_cancelAll console.pool)
  | report line chain => exact same rfl
  | work id outcome =>
      exact same (Remote.Pool.errands_step console.pool id outcome)

theorem requests_afterAll (operations : List Operation) :
    ∀ console : Console, (console.afterAll operations).requests =
      console.requests ++
        (submitted operations).filterMap console.table.request? := by
  induction operations with
  | nil => simp [submitted]
  | cons operation operations induction =>
      intro console
      rw [afterAll_cons, induction, requests_after, table_after,
        List.append_assoc]
      congr 1
      cases typed : operation.line? with
      | none => simp [submitted, typed]
      | some line =>
          cases request : console.table.request? line <;>
            simp [submitted, typed, request]

/-- A line that is forwarded is the action of one more request. -/
theorem submit_of_forwards (console : Console) {line : String}
    (forwards : console.table.Forwards line) :
    (console.submit line).1 = .ok .goOn ∧
      (console.submit line).2.transcript = console.transcript ∧
      (console.submit line).2.requests =
        console.requests ++ [(Text.trim line, .act line)] := by
  have effect := CommandTable.effect?_of_forwards forwards
  refine ⟨by simp [submit, effect, perform],
    by simp [submit, effect, perform, Console.call], ?_⟩
  rw [requests_submit, CommandTable.request?, effect]
  rfl

/-- The requests for typed lines and where they go, for a front-end on any web
URL. -/
theorem typed_lines_requested {text : String} {base : Url}
    (read : Url.ofText text = .ok base)
    (web : base.scheme = "http" ∨ base.scheme = "https") :
    (∀ (console : Console) (line : String), console.table.Forwards line →
      (console.submit line).1 = .ok .goOn ∧
        (console.submit line).2.transcript = console.transcript ∧
        (console.submit line).2.requests =
          console.requests ++ [(Text.trim line, .act line)]) ∧
      (∀ line, ∃ url action, (Remote.Call.act line).url base = .ok url ∧
        url.scheme = base.scheme ∧ url.authority = base.authority ∧
        url.path.text = "/act" ∧ url.query = some ("action=" ++ action) ∧
        Remote.decodeAction action = line ∧ url.fragment = none) ∧
      (∀ (console : Console) (operations : List Operation),
        (console.afterAll operations).requests =
          console.requests ++
            (submitted operations).filterMap console.table.request?) ∧
      (∀ (table : CommandTable) (line label : String) (call : Remote.Call),
        table.request? line = some (label, call) → call.resource ≠ .act →
        ∃ url, call.url base = .ok url ∧
          url.path.text = call.resource.path ∧ url.query = none) := by
  have special : base.kind = .special := Url.kind_of_web web
  have layered : base.isFlat = false := by
    refine Url.isFlat_ofText read ?_
    rw [special]
    exact Url.SchemeKind.noConfusion
  refine ⟨fun console line => console.submit_of_forwards, ?_,
    fun console operations => requests_afterAll operations console, ?_⟩
  · intro line
    exact ⟨_, Remote.queryAction line, Remote.url_act special layered line,
      rfl, rfl, Remote.text_path .act, rfl,
      Remote.decodeAction_queryAction line, rfl⟩
  · intro table line label call requested notAct
    obtain ⟨resource, rfl⟩ : ∃ resource, call = .named resource :=
      ⟨_, CommandTable.call_eq_named_of_request? requested notAct⟩
    exact ⟨_, Remote.url_named special layered resource,
      Remote.text_path resource, rfl⟩

def helpOnly : CommandTable :=
  { CommandTable.oneVerb "help" .help with summary := "commands" }

theorem quoted_line_requested :
    ∃ base, Url.ofText "http://op@[::1]:8087/x?q=1#f" = .ok base ∧
      (∀ session file,
        ((start helpOnly .append session base file).submit
            " Set k 'ü' ").2.requests =
          [("Set k 'ü'", .act " Set k 'ü' ")]) ∧
      ∃ url action, (Remote.Call.act " Set k 'ü' ").url base = .ok url ∧
        url.authority = base.authority ∧ url.path.text = "/act" ∧
        url.query = some ("action=" ++ action) ∧
        Remote.decodeAction action = " Set k 'ü' " := by
  have read : Url.ofText "http://op@[::1]:8087/x?q=1#f" =
      .ok ⟨"http", some ⟨"op", "", some (.ipv6 ⟨[0, 0, 0, 0, 0, 0, 0, 1]⟩),
        some 8087⟩, .segments ["x"], some "q=1", some "f"⟩ := rfl
  have word : Text.lowercase (CommandLine.firstWord
      (Text.trim " Set k 'ü' ")) = "set" := rfl
  have forwards : helpOnly.Forwards " Set k 'ü' " := by
    constructor
    · decide
    · intro verb member same
      rw [word] at same
      obtain rfl : verb = ⟨"help", .help⟩ := List.mem_singleton.mp member
      exact absurd same (by decide)
  obtain ⟨made, address, _, _⟩ := typed_lines_requested read (.inl rfl)
  obtain ⟨url, action, success, _, authority, path, query, decoded, _⟩ :=
    address " Set k 'ü' "
  refine ⟨_, read, ?_, url, action, success, authority, path, query, decoded⟩
  intro session file
  exact (made (start helpOnly .append session _ file) _ forwards).2.2

end Console

end OperatorConsole
