import OperatorConsole.Proofs.Console.Clearing
import OperatorConsole.Proofs.Console.Leaving

/-!
# Lines that fail

A line fails if what it leads to cannot be joined to the front-end's URL.  The
console finds out when it has given up the calls in flight and forgotten the
session, if the line ends it, and takes neither back.  So the console that goes
on has its transcript and nothing to wait for.
-/

namespace OperatorConsole

namespace Remote.Pool

/-- The call was handed in, and nobody waits for it. -/
structure Dropped (pool : Pool) (id : Nat) : Prop where
  old : id ≤ pool.errands.length
  idle : id ∉ pool.inFlightIds

namespace Dropped

variable {pool next : Pool} {id : Nat}

theorem of_fewer (dropped : pool.Dropped id)
    (fewer : ∀ task ∈ next.inFlight, task ∈ pool.inFlight)
    (errands : next.errands = pool.errands) : next.Dropped id where
  old := errands ▸ dropped.old
  idle := by
    intro waiting
    obtain ⟨task, member, same⟩ := List.mem_map.mp waiting
    exact dropped.idle (List.mem_map.mpr ⟨task, fewer task member, same⟩)

theorem of_givesUp (dropped : pool.Dropped id) (given : pool.GivesUp next)
    (orderly : pool.Orderly) : next.Dropped id := by
  refine dropped.of_fewer ?_ (given.errands_eq orderly)
  rw [given.inFlight_eq_nil orderly]
  exact fun _ member => absurd member List.not_mem_nil

/-- A new call has a new number. -/
theorem spawn (dropped : pool.Dropped id) (label : String) (call : Call) :
    (pool.spawn label call).Dropped id where
  old := by
    have old := dropped.old
    rw [errands_spawn, List.length_append]
    omega
  idle := by
    intro waiting
    have old := dropped.old
    rw [errands, List.length_map] at old
    simp only [inFlightIds, Pool.spawn, List.map_append, List.mem_append,
      List.map_cons, List.map_nil, List.mem_singleton, nextId] at waiting
    rcases waiting with earlier | new
    · exact dropped.idle earlier
    · omega

end Dropped

end Remote.Pool

namespace Console

/-! ## Which lines fail -/

section Causes

variable {console after : Console} {line target : String} {bad : BadTarget}

theorem leave_eq_error_iff :
    (console.leave target).1 = .error bad ↔
      target = bad.target ∧ console.base.join target = .error bad.fault := by
  rw [leave]
  cases joined : console.base.join target with
  | ok url =>
      constructor
      · intro failed
        cases failed
      · rintro ⟨_, failed⟩
        cases failed
  | error fault =>
      constructor
      · intro failed
        cases failed
        exact ⟨rfl, rfl⟩
      · rintro ⟨rfl, same⟩
        cases same
        rfl

/-- A line fails just if what it leads to cannot be joined. -/
theorem submit_eq_error_iff :
    (console.submit line).1 = .error bad ↔
      console.table.target? line = some bad.target ∧
        console.base.join bad.target = .error bad.fault := by
  cases leads : console.table.target? line with
  | some target =>
      have leaves : (console.submit line).1 = (console.leave target).1 :=
        submit_of_target? leads
      rw [leaves, leave_eq_error_iff, Option.some.injEq]
      constructor
      · rintro ⟨rfl, failed⟩
        exact ⟨rfl, failed⟩
      · rintro ⟨rfl, failed⟩
        exact ⟨rfl, failed⟩
  | none =>
      rw [submit_of_stays leads]
      constructor
      · intro failed
        cases failed
      · rintro ⟨elsewhere, _⟩
        cases elsewhere

theorem Does.error_iff {flow : Except BadTarget Flow}
    (next : Does console (.submit line flow) after) :
    flow = .error bad ↔
      console.table.target? line = some bad.target ∧
        console.base.join bad.target = .error bad.fault := by
  cases next with
  | submit submitted _ => rw [← submit_eq_error_iff, submitted]

/-- A target that an accepted table has fails for one of two reasons. -/
theorem flat_or_names_authority {base : Url} {fault : Url.Fault}
    (sound : console.table.flaw? = none)
    (leads : console.table.target? line = some target)
    (failed : base.join target = .error fault) :
    base.isFlat = true ∨ Url.namesAuthority target = true := by
  obtain ⟨rest, slash⟩ := CommandTable.isAbsolute_iff.mp
    (CommandTable.isAbsolute_of_target? sound leads)
  by_contra neither
  rw [not_or, Bool.not_eq_true, Bool.not_eq_true] at neither
  obtain ⟨url, joined⟩ := Url.exists_join neither.1 slash neither.2
  rw [failed] at joined
  cases joined

/-! ## What a line does that leads somewhere -/

theorem localBlock?_of_target? {table : CommandTable}
    (leads : table.target? line = some target) :
    table.localBlock? line = none := by
  obtain ⟨effect, routed, leads⟩ := Option.bind_eq_some_iff.mp leads
  rw [CommandTable.localBlock?, routed]
  cases effect with
  | navigate | clearSession => rfl
  | localRender | remoteCall => cases leads

theorem Handles.givesUp {last : Remote.Pool}
    (handles : console.Handles line last)
    (leads : console.table.target? line = some target) :
    console.pool.GivesUp last := by
  rw [CommandTable.target?] at leads
  cases handles with
  | leaving _ given | clearing _ given => exact given
  | nothing routed | localText routed | adding routed | superseding routed =>
      rw [routed] at leads
      cases leads

theorem Does.givesUp {flow : Except BadTarget Flow}
    (next : Does console (.submit line flow) after)
    (leads : console.table.target? line = some target) :
    console.pool.GivesUp after.pool := by
  cases next with
  | submit _ handles => exact handles.givesUp leads

end Causes

section Deeds

variable {console after : Console} {deed : Deed} {id : Nat}

theorem base_submit (console : Console) (line : String) :
    (console.submit line).2.base = console.base := by
  unfold submit
  cases console.table.effect? line with
  | none => rfl
  | some effect => cases effect <;> rfl

theorem Does.base (next : Does console deed after) :
    after.base = console.base := by
  cases next with
  | @submit _ line _ _ submitted _ =>
      have same := console.base_submit line
      rw [submitted] at same
      exact same
  | receive _ =>
      rw [renderAll_eq]
      rfl
  | cancelPending cancelled _ =>
      cases cancelled
      rfl
  | report | work | share => rfl

theorem Runs.base {first last : Console} {deeds : List Deed}
    (run : Runs first deeds last) : last.base = first.base := by
  induction run with
  | none => rfl
  | step _ next induction => rw [next.base, induction]

/-! ## Calls that are not waited for -/

theorem Handles.dropped {line : String} {last : Remote.Pool}
    (handles : console.Handles line last) (orderly : console.pool.Orderly)
    (dropped : console.pool.Dropped id) : last.Dropped id := by
  cases handles with
  | nothing _ | localText _ => exact dropped
  | adding _ _ => exact dropped.spawn _ _
  | superseding _ _ given => exact (dropped.of_givesUp given orderly).spawn _ _
  | leaving _ given | clearing _ given =>
      exact dropped.of_givesUp given orderly

theorem Does.dropped (next : Does console deed after)
    (orderly : console.pool.Orderly) (dropped : console.pool.Dropped id) :
    after.pool.Dropped id ∧
      ∀ completion ∈ deed.completions, completion.id ≠ id := by
  cases next with
  | submit _ handles =>
      exact ⟨handles.dropped orderly dropped,
        fun _ member => absurd member List.not_mem_nil⟩
  | receive received =>
      obtain ⟨_, arrived, course, counted⟩ := received.course orderly
      -- Its completion may come out of the channel and does not count then.
      constructor
      · rw [pool_renderAll, pool_withPool]
        refine dropped.of_fewer ?_ course.errands
        intro task member
        rw [course.inFlight] at member
        exact (List.mem_filter.mp member).1
      · rintro completion member rfl
        rw [Deed.completions, counted] at member
        have waiting := (List.mem_filter.mp member).2
        exact dropped.idle (Remote.Pool.isInFlight_iff.mp waiting)
  | cancelPending _ given =>
      exact ⟨dropped.of_givesUp given orderly,
        fun _ member => absurd member List.not_mem_nil⟩
  | work outcome _ =>
      exact ⟨dropped.of_fewer (fun _ member => member)
        (Remote.Pool.errands_step _ _ _),
        fun _ member => absurd member List.not_mem_nil⟩
  | report | share =>
      exact ⟨dropped, fun _ member => absurd member List.not_mem_nil⟩

end Deeds

section Reached

variable {table : CommandTable} {mode : RenderMode} {session : Session}
  {base : Url} {file : Option String} {deeds : List Deed}
  {console after : Console} {line : String} {bad : BadTarget}

/-- A call that nobody waits for is not received in any run. -/
theorem Runs.dropped {later : List Deed} {last : Console} {id : Nat}
    (reached : Runs (start table mode session base file) deeds console)
    (run : Runs console later last) (dropped : console.pool.Dropped id) :
    last.pool.Dropped id ∧
      ∀ completion ∈ later.flatMap Deed.completions, completion.id ≠ id := by
  induction run with
  | none => exact ⟨dropped, fun _ member => absurd member List.not_mem_nil⟩
  | step run next induction =>
      obtain ⟨still, earlier⟩ := induction
      obtain ⟨now, last⟩ := next.dropped (reached.trans run).orderly still
      refine ⟨now, ?_⟩
      intro completion member
      rw [List.flatMap_append, List.flatMap_singleton] at member
      rcases List.mem_append.mp member with old | new
      · exact earlier completion old
      · exact last completion new

theorem Runs.dropped_of_givesUp {task : Remote.Task} {last : Remote.Pool}
    (reached : Runs (start table mode session base file) deeds console)
    (given : console.pool.GivesUp last)
    (waiting : task ∈ console.pool.inFlight) : last.Dropped task.id where
  old := by
    obtain ⟨index, _, same, found, _⟩ := reached.task_originates waiting
    have bound := (List.getElem?_eq_some_iff.mp found).1
    have length := reached.length_workers
    rw [given.errands_eq reached.orderly, Remote.Pool.errands,
      List.length_map]
    omega
  idle := by
    rw [Remote.Pool.inFlightIds, given.inFlight_eq_nil reached.orderly]
    exact List.not_mem_nil

/-- Nothing is lost of what the console had. -/
structure Keeps (console after : Console) : Prop where
  inFlight : after.pool.inFlight = console.pool.inFlight
  transcript : after.transcript = console.transcript
  session : after.session = console.session

/-- A line fails if what it leads to cannot be joined, for which either the
front-end's URL or the target is to blame.  It leaves the transcript alone and
makes no request, but all calls are given up and never shown, and a line that
ends the session has ended it.  So the console is as it was just if it waited
for nothing and had no session to lose. -/
theorem failed_line_drops_calls {json : String}
    (accepted : CommandTable.ofText json = .ok table)
    (reached : Runs (start table mode session base file) deeds console)
    (failed : Does console (.submit line (.error bad)) after) :
    (table.target? line = some bad.target ∧
        base.join bad.target = .error bad.fault ∧
        (base.isFlat = true ∨ Url.namesAuthority bad.target = true)) ∧
      after.transcript = console.transcript ∧
      after.requests = console.requests ∧
      after.session =
        (if table.endsSession line then console.session.forget file
          else console.session) ∧
      after.pending = 0 ∧
      (∀ task ∈ console.pool.inFlight,
        ∀ later last, Runs after later last →
          ∀ completion ∈ later.flatMap Deed.completions,
            completion.id ≠ task.id) ∧
      (console.Keeps after ↔
        console.pending = 0 ∧
          (table.endsSession line = true →
            console.session.forget file = console.session)) := by
  have sameTable : console.table = table := reached.table
  have sameBase : console.base = base := reached.base
  have sameFile : console.sessionFile = file := reached.sessionFile
  obtain ⟨leads, unjoined⟩ := failed.error_iff.mp rfl
  have given := failed.givesUp leads
  have none := given.inFlight_eq_nil reached.orderly
  -- A line that leads somewhere shows nothing of its own.
  have transcript : after.transcript = console.transcript := by
    rw [failed.transcript, shown, localBlock?_of_target? leads]
    rfl
  have forgotten := failed.session trivial
  rw [Deed.endsSession, sameTable, sameFile] at forgotten
  have cause := flat_or_names_authority
    (sameTable ▸ CommandTable.flaw?_of_ofText accepted) leads unjoined
  rw [sameTable] at leads
  rw [sameBase] at unjoined cause
  refine ⟨⟨leads, unjoined, cause⟩, transcript,
    requests_eq_of_errands (given.errands_eq reached.orderly), forgotten,
    List.length_eq_zero_iff.mpr none, ?_, ?_, ?_⟩
  · intro task waiting later last run
    exact (Runs.dropped (reached.step failed) run
      (reached.dropped_of_givesUp given waiting)).2
  · intro keeps
    refine ⟨?_, fun ends => ?_⟩
    · exact List.length_eq_zero_iff.mpr (keeps.inFlight.symm.trans none)
    · rw [ends, if_pos rfl] at forgotten
      exact forgotten.symm.trans keeps.session
  · rintro ⟨waitsForNone, nothingToForget⟩
    refine ⟨?_, transcript, ?_⟩
    · rw [none]
      exact (List.length_eq_zero_iff.mp waitsForNone).symm
    · rw [forgotten]
      split
      · next ends => exact nothingToForget ends
      · rfl

end Reached

/-- A console that waits for an answer. -/
def readingPages : Console :=
  ((start (docTable "//") .append .signedIn .loopback none).submit "get k").2

theorem answer_lost_for_bad_page :
    CommandTable.ofText (docTableText "//") = .ok (docTable "//") ∧
      readingPages.pool.inFlight = [⟨1, "get k"⟩] ∧
      (readingPages.submit "doc").1 = .error ⟨"//", .emptyHost⟩ ∧
      (readingPages.submit "doc").2.session = readingPages.session ∧
      (readingPages.submit "doc").2.pending = 0 ∧
      ∀ later last, Runs (readingPages.submit "doc").2 later last →
        ∀ completion ∈ later.flatMap Deed.completions, completion.id ≠ 1 := by
  have accepted : CommandTable.ofText (docTableText "//") =
      .ok (docTable "//") := rfl
  have asked := does_submit (Prod.eta
    ((start (docTable "//") .append .signedIn .loopback none).submit
      "get k")).symm
  have refused : (readingPages.submit "doc").1 =
      .error ⟨"//", .emptyHost⟩ := by decide +kernel
  have failed := does_submit (Prod.eta (readingPages.submit "doc")).symm
  rw [refused] at failed
  obtain ⟨_, _, _, session, none, lost, _⟩ :=
    failed_line_drops_calls accepted asked.runs failed
  exact ⟨accepted, by decide +kernel, refused, session, none,
    lost ⟨1, "get k"⟩ (by decide +kernel)⟩

/-- The text of a table whose only verb ends the session and leads to no
host. -/
def strayExitText : String :=
  CommandTable.oneVerbText "exit"
    "\"kind\":\"clear_session\",\"redirect\":\"//\""

def strayExit : CommandTable :=
  .oneVerb "exit" (.clearSession "//")

/-- A console that waits for an answer and has a session to lose. -/
def straying : Console :=
  ((start strayExit .append .signedIn .loopback
    (some "state/session.json")).submit "get k").2

/-- A line that fails takes a call, the cookies and the session file with it. -/
theorem all_lost_with_bad_exit :
    CommandTable.ofText strayExitText = .ok strayExit ∧
      (∃ flow, Runs
        (start strayExit .append .signedIn .loopback (some "state/session.json"))
        [.submit "get k" flow] straying) ∧
      (straying.submit "exit").1 = .error ⟨"//", .emptyHost⟩ ∧
      straying.pending = 1 ∧ (straying.submit "exit").2.pending = 0 ∧
      ((straying.answer? 1 (.ok "v")).map fun console => console.pump.1) =
        some 1 ∧
      (((straying.submit "exit").2.answer? 1 (.ok "v")).map
        fun console => console.pump.1) = some 0 ∧
      straying.session.hasSession = true ∧
      (straying.submit "exit").2.session.hasSession = false ∧
      (straying.submit "exit").2.session.files.readText "state/session.json" =
        .ok "[]" := by
  refine ⟨rfl, ⟨_, (does_submit (Prod.eta _).symm).runs⟩, ?_, ?_, ?_, ?_, ?_,
    ?_, ?_, ?_⟩
  all_goals decide +kernel

end Console

end OperatorConsole
