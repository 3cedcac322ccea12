import OperatorConsole.Proofs.CommandTable.Accepted
import OperatorConsole.Proofs.Console.Requests
import OperatorConsole.Proofs.Pool.Arrivals

/-!
# Schedules of the console

While the console gives up calls or receives completions, workers go on moving
and sending, and others use the cookies and the files.  A deed is an operation
of the console together with what came of it under some schedule; the executable
operations are the deeds during which everybody else rests.  The requests that a
run of deeds makes are those of its lines, and its pool has gone through a
schedule of its own.
-/

namespace OperatorConsole

/-- The block in which the outcome of a call is shown. -/
def Remote.Completion.block (completion : Remote.Completion) : Block :=
  match completion.outcome with
  | .ok text => ⟨completion.label, text, false⟩
  | .error failure =>
      ⟨completion.label, "error: " ++ failure.message, true⟩

@[simp] theorem Remote.Completion.label_block (completion : Completion) :
    completion.block.label = completion.label := by
  unfold block
  split <;> rfl

/-- The block for a call that is given up. -/
def Remote.Task.cancelledBlock (task : Remote.Task) : Block :=
  ⟨task.label, "error: request cancelled", true⟩

namespace CommandTable

/-- The block of a line that is answered without a request. -/
def localBlock? (table : CommandTable) (line : String) : Option Block :=
  match table.effect? line with
  | some (.localRender markup) => some ⟨Text.trim line, markup, false⟩
  | _ => none

/-- Calls in flight are given up for the line: it leads somewhere else, or only
the newest answer is shown and it asks for one. -/
def givesUp (table : CommandTable) (mode : RenderMode) (line : String) : Bool :=
  match table.effect? line with
  | some (.navigate _) | some (.clearSession _) => true
  | some (.remoteCall _) => mode == .replace
  | some (.localRender _) | none => false

theorem label_of_localBlock? {table : CommandTable} {line : String}
    {block : Block} (answered : table.localBlock? line = some block) :
    block.label = Text.trim line := by
  unfold localBlock? at answered
  split at answered
  · cases answered
    rfl
  · cases answered

/-- The line goes to the service. -/
def isRemote (table : CommandTable) (line : String) : Bool :=
  (table.request? line).isSome

theorem label_of_request? {table : CommandTable} {line label : String}
    {call : Remote.Call}
    (requested : table.request? line = some (label, call)) :
    label = Text.trim line := by
  unfold request? at requested
  split at requested
  · rw [Option.some.injEq, Prod.mk.injEq] at requested
    exact requested.1.symm
  · cases requested

end CommandTable

namespace Console

inductive Deed where
  | submit (line : String) (flow : Except BadTarget Flow)
  /-- Pumping, or settling until some moment; the completions are those that
  were awaited. -/
  | receive (manner : Remote.Manner) (completions : List Remote.Completion)
  | cancelPending (count : Nat)
  | report (line : String) (chain : List String)
  /-- A worker moves; `outcome` is what its call comes to if it ends now. -/
  | work (id : Nat) (outcome : Remote.Outcome)
  /-- The clock, the cookies or the files are changed by others. -/
  | share (session : Session)

def withPool (console : Console) (pool : Remote.Pool) : Console :=
  { console with pool := pool }

section WithPool

variable (console : Console) (pool : Remote.Pool)

@[simp] theorem pool_withPool : (console.withPool pool).pool = pool := rfl

@[simp] theorem table_withPool :
    (console.withPool pool).table = console.table := rfl

@[simp] theorem transcript_withPool :
    (console.withPool pool).transcript = console.transcript := rfl

end WithPool

/-- What a line does to the pool while workers move. -/
inductive Handles (console : Console) (line : String) :
    Remote.Pool → Prop where
  | nothing :
      console.table.effect? line = none →
      console.Handles line console.pool
  | localText {markup : String} :
      console.table.effect? line = some (.localRender markup) →
      console.Handles line console.pool
  | adding {call : Remote.Call} :
      console.table.effect? line = some (.remoteCall call) →
      console.transcript.mode = .append →
      console.Handles line (console.pool.spawn (Text.trim line) call)
  | superseding {call : Remote.Call} {rest : Remote.Pool} :
      console.table.effect? line = some (.remoteCall call) →
      console.transcript.mode = .replace →
      console.pool.GivesUp rest →
      console.Handles line (rest.spawn (Text.trim line) call)
  | leaving {target : String} {last : Remote.Pool} :
      console.table.effect? line = some (.navigate target) →
      console.pool.GivesUp last →
      console.Handles line last
  | clearing {redirect : String} {last : Remote.Pool} :
      console.table.effect? line = some (.clearSession redirect) →
      console.pool.GivesUp last →
      console.Handles line last

inductive Does : Console → Deed → Console → Prop where
  | submit {console next : Console} {line : String}
      {flow : Except BadTarget Flow} {last : Remote.Pool} :
      console.submit line = (flow, next) →
      console.Handles line last →
      Does console (.submit line flow) (next.withPool last)
  | receive {console : Console} {manner : Remote.Manner}
      {completions : List Remote.Completion} {last : Remote.Pool} :
      console.pool.Receives manner completions last →
      Does console (.receive manner completions)
        ((console.withPool last).renderAll completions)
  | cancelPending {console next : Console} {count : Nat}
      {last : Remote.Pool} :
      console.cancelPending = (count, next) →
      console.pool.GivesUp last →
      Does console (.cancelPending count) (next.withPool last)
  | report (console : Console) (line : String) (chain : List String) :
      Does console (.report line chain) (console.reportError line chain)
  | work {console : Console} {worker : Remote.Worker}
      (outcome : Remote.Outcome) :
      worker ∈ console.pool.workers →
      Does console (.work worker.id outcome)
        (console.withPool (console.pool.step worker.id outcome))
  | share (console : Console) (session : Session) :
      Does console (.share session) { console with session := session }

inductive Runs (first : Console) : List Deed → Console → Prop where
  | none : Runs first [] first
  | step {deeds : List Deed} {deed : Deed} {middle last : Console} :
      Runs first deeds middle →
      Does middle deed last →
      Runs first (deeds ++ [deed]) last

theorem Runs.trans {first middle last : Console} {before after : List Deed}
    (earlier : Runs first before middle) (later : Runs middle after last) :
    Runs first (before ++ after) last := by
  induction later with
  | none => simpa using earlier
  | step _ next induction =>
      rw [← List.append_assoc]
      exact .step induction next

theorem Does.runs {first last : Console} {deed : Deed}
    (next : Does first deed last) : Runs first [deed] last :=
  .step .none next

/-! ## Calls that are given up -/

/-- The calls that are given up for a line. -/
def givenUpFor (console : Console) (line : String) : List Nat :=
  if console.table.givesUp console.transcript.mode line then
    console.pool.inFlightIds
  else []

def givenUp (console : Console) : Deed → List Nat
  | .submit line _ => console.givenUpFor line
  | .cancelPending _ => console.pool.inFlightIds
  | .receive _ _ | .report _ _ | .work _ _ | .share _ => []

/-- A run together with the calls that are given up in it. -/
inductive Loses (first : Console) :
    List Deed → List Nat → Console → Prop where
  | none : Loses first [] [] first
  | step {deeds : List Deed} {lost : List Nat} {deed : Deed}
      {middle last : Console} :
      Loses first deeds lost middle →
      Does middle deed last →
      Loses first (deeds ++ [deed]) (lost ++ middle.givenUp deed) last

namespace Loses

variable {first middle last : Console} {before after deeds : List Deed}
  {lost more : List Nat}

theorem trans (earlier : Loses first before lost middle)
    (later : Loses middle after more last) :
    Loses first (before ++ after) (lost ++ more) last := by
  induction later with
  | none => simpa using earlier
  | step _ next induction =>
      rw [← List.append_assoc, ← List.append_assoc]
      exact .step induction next

theorem runs (loses : Loses first deeds lost last) :
    Runs first deeds last := by
  induction loses with
  | none => exact .none
  | step _ next induction => exact .step induction next

end Loses

/-- Keeping track of the calls that are given up rules no run out. -/
theorem runs_iff_exists_loses {first last : Console} {deeds : List Deed} :
    Runs first deeds last ↔ ∃ lost, Loses first deeds lost last := by
  constructor
  · intro run
    induction run with
    | none => exact ⟨[], .none⟩
    | step _ next induction =>
        obtain ⟨lost, loses⟩ := induction
        exact ⟨_, loses.step next⟩
  · rintro ⟨_, loses⟩
    exact loses.runs

/-! ## Undisturbed operations -/

theorem handles_submit (console : Console) (line : String) :
    console.Handles line (console.submit line).2.pool := by
  unfold submit
  cases routed : console.table.effect? line with
  | none => exact .nothing routed
  | some effect =>
      cases effect with
      | localRender markup => exact .localText routed
      | remoteCall remote =>
          dsimp only [perform, Console.call]
          cases mode : console.transcript.mode with
          | append => exact .adding routed mode
          | replace =>
              exact .superseding routed mode console.pool.givesUp_cancelAll
      | navigate target =>
          exact .leaving routed console.pool.givesUp_cancelAll
      | clearSession redirect =>
          exact .clearing routed console.pool.givesUp_cancelAll

theorem does_submit {console next : Console} {line : String}
    {flow : Except BadTarget Flow}
    (submitted : console.submit line = (flow, next)) :
    Does console (.submit line flow) next := by
  have handles := console.handles_submit line
  rw [submitted] at handles
  exact .submit submitted handles

theorem does_pump (console : Console) :
    Does console (.receive .drain console.pool.drain.1) console.pump.2 :=
  .receive (console.pool.receives_receive .drain)

theorem does_settle (console : Console) :
    Does console (.receive .wait console.pool.waitIdle.1) console.settle.2 :=
  .receive (console.pool.receives_receive .wait)

theorem does_cancelPending {console next : Console} {count : Nat}
    (cancelled : console.cancelPending = (count, next)) :
    Does console (.cancelPending count) next := by
  have given : console.pool.GivesUp next.pool := by
    rw [show next = console.cancelPending.2 by rw [cancelled]]
    exact console.pool.givesUp_cancelAll
  exact .cancelPending cancelled given

/-! ## Lines and requests -/

def Deed.line? : Deed → Option String
  | .submit line _ => some line
  | _ => none

def Deed.completions : Deed → List Remote.Completion
  | .receive _ completions => completions
  | _ => []

/-- The lines of a run, oldest first. -/
def typed (deeds : List Deed) : List String :=
  deeds.filterMap Deed.line?

/-- The lines of a run that went to the service.  Their calls are numbered from
one. -/
def remoteLines (table : CommandTable) (deeds : List Deed) : List String :=
  (typed deeds).filter table.isRemote

@[simp] theorem typed_append (before after : List Deed) :
    typed (before ++ after) = typed before ++ typed after :=
  List.filterMap_append

@[simp] theorem remoteLines_append (table : CommandTable)
    (before after : List Deed) :
    remoteLines table (before ++ after) =
      remoteLines table before ++ remoteLines table after := by
  rw [remoteLines, typed_append, List.filter_append]
  rfl

/-- What the lines of a run stand for grows by what its next line stands
for. -/
theorem filterMap_typed_append {α : Type} (meaning : String → Option α)
    (deeds : List Deed) (deed : Deed) :
    (typed (deeds ++ [deed])).filterMap meaning =
      (typed deeds).filterMap meaning ++
        (deed.line?.bind meaning).toList := by
  rw [typed_append, List.filterMap_append]
  cases told : deed.line? with
  | none => simp [typed, told]
  | some line => cases meant : meaning line <;> simp [typed, told, meant]

theorem remoteLines_submit {table : CommandTable} {line : String}
    (isRemote : table.isRemote line = true) (flow : Except BadTarget Flow)
    (deeds : List Deed) :
    remoteLines table (.submit line flow :: deeds) =
      line :: remoteLines table deeds := by
  have lines : typed (.submit line flow :: deeds) = line :: typed deeds := rfl
  rw [remoteLines, lines, List.filter_cons_of_pos isRemote, remoteLines]

theorem labels_of_requests (table : CommandTable) (lines : List String) :
    (lines.filterMap table.request?).map Prod.fst =
      (lines.filter table.isRemote).map Text.trim := by
  induction lines with
  | nil => rfl
  | cons line lines induction =>
      cases requested : table.request? line with
      | none =>
          have isLocal : table.isRemote line = false := by
            rw [CommandTable.isRemote, requested]
            rfl
          rw [List.filterMap_cons_none requested,
            List.filter_cons_of_neg (by simp [isLocal]), induction]
      | some request =>
          have isRemote : table.isRemote line = true := by
            rw [CommandTable.isRemote, requested]
            rfl
          rw [List.filterMap_cons_some requested,
            List.filter_cons_of_pos isRemote, List.map_cons, List.map_cons,
            induction, CommandTable.label_of_request? requested]

/-! ## Operations as deeds -/

/-- The operator does not stay with the console. -/
def leaves : Except BadTarget Flow → Bool
  | .ok (.leave _) => true
  | .ok .goOn | .error _ => false

/-- The deed is part of settling: a line that does not leave the console, even
if it fails, or something that comes of the calls. -/
def Deed.Plain : Deed → Prop
  | .submit _ flow => leaves flow = false
  | .receive _ _ | .work _ _ => True
  | .cancelPending _ | .report _ _ | .share _ => False

def isPlain (console : Console) : Operation → Bool
  | .submit line => !leaves (console.submit line).1
  | .pump | .settle | .work _ _ => true
  | .cancelPending | .report _ _ => false

def allPlain (console : Console) : List Operation → Bool
  | [] => true
  | operation :: operations =>
      console.isPlain operation &&
        (console.after operation).allPlain operations

/-- The calls that an operation gives up. -/
def lost (console : Console) : Operation → List Nat
  | .submit line => console.givenUpFor line
  | .cancelPending => console.pool.inFlightIds
  | .pump | .settle | .report _ _ | .work _ _ => []

def lostAll (console : Console) : List Operation → List Nat
  | [] => []
  | operation :: operations =>
      console.lost operation ++ (console.after operation).lostAll operations

/-- The completions that an operation receives. -/
def received (console : Console) : Operation → List Remote.Completion
  | .pump => console.pool.drain.1
  | .settle => console.pool.waitIdle.1
  | _ => []

def receivedAll (console : Console) :
    List Operation → List Remote.Completion
  | [] => []
  | operation :: operations =>
      console.received operation ++
        (console.after operation).receivedAll operations

/-- The deeds are the operations, carried out while everybody else rests. -/
structure CarriedOut (console : Console) (operations : List Operation)
    (deeds : List Deed) : Prop where
  loses : Loses console deeds (console.lostAll operations)
    (console.afterAll operations)
  lines : typed deeds = submitted operations
  completions : deeds.flatMap Deed.completions = console.receivedAll operations
  plain : console.allPlain operations = true → ∀ deed ∈ deeds, deed.Plain

/-- An operation is a deed, or nothing if there is no such worker. -/
theorem exists_carriedOut (console : Console) (operation : Operation) :
    ∃ deeds, CarriedOut console [operation] deeds := by
  have single {deed : Deed} (next : Does console deed (console.after operation))
      (line : deed.line? = operation.line?)
      (completions : deed.completions = console.received operation)
      (lost : console.givenUp deed = console.lost operation)
      (plain : console.isPlain operation = true → deed.Plain) :
      ∃ deeds, CarriedOut console [operation] deeds := by
    refine ⟨[deed], ?_, ?_, ?_, ?_⟩
    · rw [lostAll, lostAll, List.append_nil, ← lost]
      exact Loses.step .none next
    · simp only [typed, submitted, List.filterMap_cons, line]
      rfl
    · simp [receivedAll, completions]
    · intro allPlain other member
      rw [List.mem_singleton.mp member]
      exact plain (Bool.and_eq_true_iff.mp allPlain).1
  cases operation with
  | submit line =>
      exact single (does_submit (Prod.eta _).symm) rfl rfl rfl
        fun stays => (Bool.not_eq_true' _).mp stays
  | pump => exact single console.does_pump rfl rfl rfl fun _ => trivial
  | settle => exact single console.does_settle rfl rfl rfl fun _ => trivial
  | cancelPending =>
      exact single (does_cancelPending (Prod.eta _).symm) rfl rfl rfl
        Bool.noConfusion
  | report line chain =>
      exact single (Does.report console line chain) rfl rfl rfl
        Bool.noConfusion
  | work id outcome =>
      by_cases known : id ∈ console.pool.workerIds
      · obtain ⟨worker, member, rfl⟩ := List.mem_map.mp known
        exact single (Does.work outcome member) rfl rfl rfl fun _ => trivial
      · refine ⟨[], ?_, rfl, rfl, fun _ _ member =>
          absurd member List.not_mem_nil⟩
        have rests : console.afterAll [.work id outcome] = console := by
          rw [afterAll_cons, after, Remote.Pool.step_of_absent known]
          rfl
        rw [rests]
        exact .none

theorem exists_carriedOut_all (operations : List Operation) :
    ∀ console : Console, ∃ deeds, CarriedOut console operations deeds := by
  induction operations with
  | nil =>
      intro console
      exact ⟨[], .none, rfl, rfl, fun _ _ member =>
        absurd member List.not_mem_nil⟩
  | cons operation operations induction =>
      intro console
      obtain ⟨first, now⟩ := console.exists_carriedOut operation
      obtain ⟨rest, later⟩ := induction (console.after operation)
      refine ⟨first ++ rest, ?_, ?_, ?_, ?_⟩
      · have whole := now.loses.trans later.loses
        rw [lostAll, lostAll, List.append_nil] at whole
        exact whole
      · rw [typed_append, now.lines, later.lines, submitted, submitted,
          submitted, ← List.filterMap_append]
        rfl
      · rw [List.flatMap_append, now.completions, later.completions]
        simp [receivedAll]
      · intro plain deed member
        obtain ⟨firstPlain, restPlain⟩ := Bool.and_eq_true_iff.mp plain
        rcases List.mem_append.mp member with inFirst | inRest
        · refine now.plain ?_ deed inFirst
          rw [allPlain, firstPlain]
          rfl
        · exact later.plain restPlain deed inRest

theorem runs_afterAll (operations : List Operation) (console : Console) :
    ∃ deeds, Runs console deeds (console.afterAll operations) ∧
      typed deeds = submitted operations := by
  obtain ⟨deeds, carried⟩ := exists_carriedOut_all operations console
  exact ⟨deeds, carried.loses.runs, carried.lines⟩

/-! ## What deeds do to the pool -/

theorem Handles.steps {console : Console} {line : String}
    {last : Remote.Pool} (handles : console.Handles line last) :
    ∃ events, Remote.Steps ⟨console.pool, .idle⟩ events ⟨last, .idle⟩ ∧
      Remote.spawns events = (console.table.request? line).toList ∧
      Remote.returned events = [] ∧
      Remote.givenUpIds events = console.givenUpFor line := by
  unfold CommandTable.request? givenUpFor CommandTable.givesUp
  cases handles with
  | nothing routed | localText routed =>
      rw [routed]
      exact ⟨[], .none, rfl, rfl, rfl⟩
  | adding routed mode =>
      rw [routed, mode]
      exact ⟨[.spawned _ _], (Remote.Step.spawn _ _ _).steps,
        Remote.spawns_single _, Remote.returned_single _, rfl⟩
  | superseding routed mode given =>
      rw [routed, mode]
      obtain ⟨events, steps, nothing, back, lost⟩ := given.steps
      refine ⟨events ++ [.spawned _ _], .step steps (.spawn _ _ _), ?_, ?_,
        ?_⟩
      · rw [Remote.spawns_append, nothing, Remote.spawns_single]
        rfl
      · rw [Remote.returned_append, back, Remote.returned_single]
        rfl
      · rw [Remote.givenUpIds_append, Remote.givenUpIds, lost,
          Remote.givenUpIds_single]
        exact List.append_nil _
  | leaving routed given | clearing routed given =>
      rw [routed]
      obtain ⟨events, steps, nothing, back, lost⟩ := given.steps
      exact ⟨events, steps, nothing, back, congrArg (List.map _) lost⟩

/-- The pool of a deed goes through a schedule that hands in the request of its
line, hands over its completions and gives up what the deed gives up. -/
theorem Does.steps {console after : Console} {deed : Deed}
    (next : Does console deed after) :
    ∃ events, Remote.Steps ⟨console.pool, .idle⟩ events ⟨after.pool, .idle⟩ ∧
      Remote.spawns events =
        (deed.line?.bind console.table.request?).toList ∧
      Remote.returned events = deed.completions ∧
      Remote.givenUpIds events = console.givenUp deed := by
  cases next with
  | submit _ handles =>
      rw [pool_withPool, Deed.line?, Option.bind_some]
      exact handles.steps
  | receive received =>
      obtain ⟨events, steps, nothing, back, kept⟩ := received.steps
      rw [pool_renderAll, pool_withPool]
      exact ⟨events, steps, nothing, back, congrArg (List.map _) kept⟩
  | cancelPending _ given =>
      obtain ⟨events, steps, nothing, back, lost⟩ := given.steps
      exact ⟨events, steps, nothing, back, congrArg (List.map _) lost⟩
  | report line chain => exact ⟨[], .none, rfl, rfl, rfl⟩
  | work outcome member =>
      exact ⟨_, (Remote.Step.work outcome member).steps, by simp [Deed.line?],
        by simp [Deed.completions], by simp [givenUp]⟩
  | share session => exact ⟨[], .none, rfl, rfl, rfl⟩

theorem Does.table {console after : Console} {deed : Deed}
    (next : Does console deed after) : after.table = console.table := by
  cases next with
  | @submit _ line _ _ submitted _ =>
      rw [table_withPool, ← table_submit console line, submitted]
  | receive _ => exact table_renderAll _ _
  | cancelPending cancelled _ =>
      rw [table_withPool]
      cases cancelled
      rfl
  | report | work | share => rfl

theorem Runs.table {first last : Console} {deeds : List Deed}
    (run : Runs first deeds last) : last.table = first.table := by
  induction run with
  | none => rfl
  | step _ next induction => rw [next.table, induction]

/-- The requests of a run are those of its lines, in order. -/
theorem Runs.schedule {table : CommandTable} {mode : RenderMode}
    {session : Session} {base : Url} {file : Option String}
    {deeds : List Deed} {console : Console}
    (run : Runs (start table mode session base file) deeds console) :
    ∃ events, Remote.Run events ⟨console.pool, .idle⟩ ∧
      Remote.spawns events = (typed deeds).filterMap table.request? ∧
      Remote.returned events = deeds.flatMap Deed.completions := by
  induction run with
  | none => exact ⟨[], .none, rfl, rfl⟩
  | @step deeds deed middle last run next induction =>
      obtain ⟨events, steps, requests, back⟩ := induction
      obtain ⟨more, moreSteps, request, moreBack, _⟩ := next.steps
      refine ⟨events ++ more, steps.trans moreSteps, ?_, ?_⟩
      · have sameTable : middle.table = table := run.table
        rw [Remote.spawns_append, requests, request, sameTable,
          filterMap_typed_append]
      · rw [Remote.returned_append, back, moreBack]
        simp

/-! ## Origins of calls -/

/-- The call with this number and label was made for a line of the run. -/
def Originates (table : CommandTable) (deeds : List Deed) (id : Nat)
    (label : String) : Prop :=
  ∃ index line, id = index + 1 ∧
    (remoteLines table deeds)[index]? = some line ∧ label = Text.trim line

section Origins

variable {table : CommandTable} {mode : RenderMode} {session : Session}
  {base : Url} {file : Option String} {deeds : List Deed} {console : Console}

theorem Runs.orderly
    (run : Runs (start table mode session base file) deeds console) :
    console.pool.Orderly := by
  obtain ⟨events, steps, _, _⟩ := run.schedule
  exact steps.orderly

theorem Runs.inFlight_sorted
    (run : Runs (start table mode session base file) deeds console) :
    console.pool.inFlight.Pairwise fun first second =>
      first.id < second.id := by
  obtain ⟨events, steps, _, _⟩ := run.schedule
  exact steps.inFlight_sorted

/-- The pool was given the requests of the remote lines. -/
theorem Runs.errands_label
    (run : Runs (start table mode session base file) deeds console) :
    console.pool.errands.map (fun errand => (errand.id, errand.label)) =
      (remoteLines table deeds).mapIdx fun index line =>
        (index + 1, Text.trim line) := by
  obtain ⟨events, steps, requests, _⟩ := run.schedule
  have labels := labels_of_requests table (typed deeds)
  rw [← requests] at labels
  apply List.ext_getElem?
  intro index
  have numbered := congrArg
    (fun list => list[index]?.map fun label => (index + 1, label)) labels
  simpa only [steps.accounts.recorded, Remote.errands, remoteLines,
    List.getElem?_map, List.getElem?_mapIdx, Option.map_map,
    Function.comp_def] using numbered

theorem Runs.errand_originates
    (run : Runs (start table mode session base file) deeds console)
    {errand : Remote.Errand} (known : errand ∈ console.pool.errands) :
    Originates table deeds errand.id errand.label := by
  have member : (errand.id, errand.label) ∈
      (remoteLines table deeds).mapIdx fun index line =>
        (index + 1, Text.trim line) := by
    rw [← run.errands_label]
    exact List.mem_map_of_mem known
  obtain ⟨index, bound, same⟩ := List.mem_mapIdx.mp member
  obtain ⟨number, label⟩ := Prod.mk.inj same
  exact ⟨index, _, number.symm, List.getElem?_eq_getElem bound, label.symm⟩

theorem Runs.length_workers
    (run : Runs (start table mode session base file) deeds console) :
    console.pool.workers.length = (remoteLines table deeds).length := by
  have same := congrArg List.length run.errands_label
  simpa [Remote.Pool.errands] using same

theorem Runs.task_originates
    (run : Runs (start table mode session base file) deeds console)
    {task : Remote.Task} (waiting : task ∈ console.pool.inFlight) :
    Originates table deeds task.id task.label := by
  obtain ⟨events, steps, _, _⟩ := run.schedule
  obtain ⟨errand, known, rfl⟩ := steps.accounts.awaited task waiting
  exact run.errand_originates known

theorem Runs.completion_originates
    (run : Runs (start table mode session base file) deeds console)
    {completion : Remote.Completion}
    (received : completion ∈ deeds.flatMap Deed.completions) :
    Originates table deeds completion.id completion.label := by
  obtain ⟨events, steps, _, back⟩ := run.schedule
  -- The console is idle, so all that counted has been handed over.
  have delivered : completion ∈ Remote.delivered events := by
    rw [steps.accounts.handed, back]
    exact List.mem_append_left _ received
  obtain ⟨errand, known, answers⟩ := steps.accounts.answered completion
    (List.mem_append_right _ delivered)
  rw [← answers.id, ← answers.label]
  exact run.errand_originates known

end Origins

end Console

end OperatorConsole
