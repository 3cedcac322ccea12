import OperatorConsole.Proofs.Pool.Arrivals

/-!
# Pools that cannot be told apart

Nobody sees what is in the channel for calls that are not waited for: it comes
out without counting, whenever it does.  Two pools that differ in nothing else
allow the same schedules, with the same results and the same number of pending
calls at every moment.
-/

namespace OperatorConsole.Remote

/-- Something comes out of the channel, or receiving ends. -/
def Event.isReception : Event → Bool
  | .took _ | .returned _ => true
  | _ => false

/-- What can be seen of some steps: all events with the number of calls that are
pending after each, but for the single completions that come out of the
channel.  Receiving goes on as long as something is there to take. -/
inductive Watched (first : System) : List (Event × Nat) → System → Prop where
  | none : Watched first [] first
  | take {seen : List (Event × Nat)} {pool next : Pool} {manner : Manner}
      {taken counted : List Completion} :
      Watched first seen ⟨pool, .receiving manner taken⟩ →
      manner.goesOn pool = true →
      pool.receive? = some (counted, next) →
      Watched first seen ⟨next, .receiving manner (taken ++ counted)⟩
  | stop {seen : List (Event × Nat)} {pool : Pool} {manner : Manner}
      {taken : List Completion} :
      Watched first seen ⟨pool, .receiving manner taken⟩ →
      manner.Ends pool →
      Watched first (seen ++ [(.returned taken, pool.pending)]) ⟨pool, .idle⟩
  | step {seen : List (Event × Nat)} {event : Event} {middle last : System} :
      Watched first seen middle →
      Step middle event last →
      event.isReception = false →
      Watched first (seen ++ [(event, last.pool.pending)]) last

theorem Watched.steps {first last : System} {seen : List (Event × Nat)}
    (watched : Watched first seen last) :
    ∃ events, Steps first events last := by
  induction watched with
  | none => exact ⟨[], .none⟩
  | take _ goesOn received induction =>
      obtain ⟨events, steps⟩ := induction
      exact ⟨_, .step steps (.take goesOn received)⟩
  | stop _ ends induction =>
      obtain ⟨events, steps⟩ := induction
      exact ⟨_, .step steps (.stop ends.mayStop)⟩
  | step _ next _ induction =>
      obtain ⟨events, steps⟩ := induction
      exact ⟨_, .step steps next⟩

namespace Pool

/-- What is in the channel for calls that are waited for. -/
def awaited (pool : Pool) : List Completion :=
  pool.channel.filter (pool.isInFlight ·.id)

/-- Two pools with the same workers that wait for the same calls and have the
same answers to them in their channels. -/
structure Alike (left right : Pool) : Prop where
  workers : left.workers = right.workers
  inFlight : left.inFlight = right.inFlight
  awaited : left.awaited = right.awaited

theorem receive?_of_inFlight {pool : Pool} {completion : Completion}
    {rest : List Completion} (channel : pool.channel = completion :: rest)
    (waitedFor : pool.isInFlight completion.id = true) :
    pool.receive? = some ([completion],
      { pool with
        inFlight := pool.inFlight.filter (·.id != completion.id)
        channel := rest }) := by
  have waitedFor : isInFlight { pool with channel := rest } completion.id =
      true := waitedFor
  simp only [receive?, channel, accept, waitedFor, if_true]

theorem receive?_of_absent {pool : Pool} {completion : Completion}
    {rest : List Completion} (channel : pool.channel = completion :: rest)
    (absent : pool.isInFlight completion.id = false) :
    pool.receive? = some ([], { pool with channel := rest }) := by
  have absent : isInFlight { pool with channel := rest } completion.id =
      false := absent
  simp only [receive?, channel, accept, absent, Bool.false_eq_true, if_false]

/-- Nothing in the channel has the number of the next call. -/
def Unforeseen (pool : Pool) : Prop :=
  pool.nextId ∉ pool.channelIds

section Awaited

variable (pool : Pool)

theorem awaited_of_none_inFlight (none : pool.inFlight = []) :
    pool.awaited = [] := by
  simp [awaited, isInFlight, none]

theorem awaited_spawn (unforeseen : pool.Unforeseen) (label : String)
    (call : Call) : (pool.spawn label call).awaited = pool.awaited := by
  refine List.filter_congr fun completion member => ?_
  have other : pool.nextId ≠ completion.id := by
    intro same
    exact unforeseen (same ▸ List.mem_map_of_mem member)
  simp [isInFlight, spawn, other]

theorem awaited_step {worker : Worker} (distinct : pool.workerIds.Nodup)
    (member : worker ∈ pool.workers) (outcome : Outcome) :
    (pool.step worker.id outcome).awaited =
      pool.awaited ++
        (worker.step outcome).2.filter (pool.isInFlight ·.id) := by
  rw [awaited, channel_step distinct member, List.filter_append]
  rfl

/-- Once a call has its answer, answers to it are not waited for. -/
theorem awaited_answered (id : Nat) :
    awaited { pool with inFlight := pool.inFlight.filter (·.id != id) } =
      pool.awaited.filter (·.id != id) := by
  simp only [awaited, List.filter_filter]
  refine List.filter_congr fun completion _ => ?_
  by_cases same : completion.id = id
  · simp [same, isInFlight]
  · simp only [isInFlight, List.any_filter, bne_iff_ne.mpr same, Bool.true_and]
    refine List.any_congr rfl fun task => ?_
    by_cases that : task.id = completion.id
    · simp [that, same]
    · simp [that]

end Awaited

namespace Alike

variable {left right : Pool}

theorem symm (alike : Alike left right) : Alike right left where
  workers := alike.workers.symm
  inFlight := alike.inFlight.symm
  awaited := alike.awaited.symm

theorem isInFlight (alike : Alike left right) (id : Nat) :
    left.isInFlight id = right.isInFlight id := by
  rw [Pool.isInFlight, alike.inFlight, Pool.isInFlight]

theorem pending (alike : Alike left right) : left.pending = right.pending := by
  rw [Pool.pending, alike.inFlight, Pool.pending]

theorem nextId (alike : Alike left right) : left.nextId = right.nextId := by
  rw [Pool.nextId, alike.workers, Pool.nextId]

theorem goesOn (alike : Alike left right) (manner : Manner) :
    manner.goesOn left = manner.goesOn right := by
  cases manner with
  | drain => rfl
  | wait => simp only [Manner.goesOn, alike.inFlight]

theorem spawn (alike : Alike left right) (leftUnforeseen : left.Unforeseen)
    (rightUnforeseen : right.Unforeseen) (label : String) (call : Call) :
    Alike (left.spawn label call) (right.spawn label call) where
  workers := by simp only [Pool.spawn, alike.workers, alike.nextId]
  inFlight := by simp only [Pool.spawn, alike.inFlight, alike.nextId]
  awaited := by
    rw [left.awaited_spawn leftUnforeseen, alike.awaited,
      right.awaited_spawn rightUnforeseen]

theorem cancel (alike : Alike left right) :
    Alike { left with inFlight := [] } { right with inFlight := [] } where
  workers := alike.workers
  inFlight := rfl
  awaited := by
    rw [awaited_of_none_inFlight _ rfl, awaited_of_none_inFlight _ rfl]

theorem tell (alike : Alike left right) (id : Nat) :
    Alike (left.tell id) (right.tell id) where
  workers := by simp only [Pool.tell, alike.workers]
  inFlight := alike.inFlight
  awaited := alike.awaited

theorem work (alike : Alike left right) (distinct : left.workerIds.Nodup)
    {worker : Worker} (member : worker ∈ left.workers) (outcome : Outcome) :
    Alike (left.step worker.id outcome) (right.step worker.id outcome) where
  workers := by rw [workers_step, alike.workers, workers_step]
  inFlight := alike.inFlight
  awaited := by
    have sameIds : left.workerIds = right.workerIds := by
      rw [workerIds, alike.workers, workerIds]
    rw [left.awaited_step distinct member,
      right.awaited_step (sameIds ▸ distinct) (alike.workers ▸ member),
      alike.awaited]
    simp only [alike.isInFlight]

/-- Once a call has its answer, other answers to it do not count. -/
theorem answer (alike : Alike left right) (id : Nat) :
    Alike { left with inFlight := left.inFlight.filter (·.id != id) }
      { right with inFlight := right.inFlight.filter (·.id != id) } where
  workers := alike.workers
  inFlight := by simp only [alike.inFlight]
  awaited := by
    rw [awaited_answered, alike.awaited, awaited_answered]

/-- What the other pool has in its channel before the next answer that counts
does not count. -/
theorem next (alike : Alike left right) {completion : Completion}
    {rest : List Completion} (channel : left.channel = completion :: rest)
    (waitedFor : left.isInFlight completion.id = true) :
    ∃ stale others, right.channel = stale ++ completion :: others ∧
      (∀ other ∈ stale, right.isInFlight other.id = false) ∧
      Alike { left with channel := rest } { right with channel := others } := by
  have first : right.awaited =
      completion :: rest.filter (left.isInFlight ·.id) := by
    rw [← alike.awaited]
    simp [Pool.awaited, channel, waitedFor]
  obtain ⟨stale, others, split, absent, _, remain⟩ :=
    List.filter_eq_cons_iff.mp first
  refine ⟨stale, others, split, ?_, alike.workers, alike.inFlight,
    remain.symm⟩
  intro other member
  exact Bool.eq_false_iff.mpr (absent other member)

theorem skip (alike : Alike left right) {completion : Completion}
    {rest : List Completion} (channel : left.channel = completion :: rest)
    (absent : left.isInFlight completion.id = false) :
    Alike { left with channel := rest } right where
  workers := alike.workers
  inFlight := alike.inFlight
  awaited := by
    have same : left.awaited = rest.filter (left.isInFlight ·.id) := by
      simp [Pool.awaited, channel, absent]
    exact same.symm.trans alike.awaited

/-- Without any answer that is waited for, everything is stale. -/
theorem stale (alike : Alike left right) (nothing : left.channel = []) :
    ∀ other ∈ right.channel, right.isInFlight other.id = false := by
  have none : right.awaited = [] := by
    rw [← alike.awaited, Pool.awaited, nothing, List.filter_nil]
  intro other member
  exact Bool.eq_false_iff.mpr (List.filter_eq_nil_iff.mp none other member)

end Alike

end Pool

/-! ## The same schedules -/

namespace Watched

variable {first : System} {seen : List (Event × Nat)} {manner : Manner}
  {taken : List Completion}

/-- What does not count comes out of the channel unnoticed. -/
theorem skip (stale : List Completion) :
    ∀ {pool : Pool} {rest : List Completion},
      Watched first seen ⟨pool, .receiving manner taken⟩ →
      manner.goesOn pool = true →
      pool.channel = stale ++ rest →
      (∀ other ∈ stale, pool.isInFlight other.id = false) →
      Watched first seen
        ⟨{ pool with channel := rest }, .receiving manner taken⟩ := by
  induction stale with
  | nil =>
      intro pool rest watched _ channel _
      rw [← List.nil_append rest, ← channel]
      exact watched
  | cons completion stale induction =>
      intro pool rest watched goesOn channel absent
      have received := Pool.receive?_of_absent channel
        (absent completion List.mem_cons_self)
      have further := watched.take goesOn received
      rw [List.append_nil] at further
      exact @induction { pool with channel := stale ++ rest } rest further
        (by cases manner <;> exact goesOn) rfl
        fun other member => absent other (List.mem_cons_of_mem _ member)

end Watched

namespace Pool.Alike

variable {first : System} {seen : List (Event × Nat)} {manner : Manner}
  {taken : List Completion} {left right : Pool}

/-- What counts on one side counts on the other one, when enough has come out
there. -/
theorem follow_take (alike : left.Alike right)
    (watched : Watched first seen ⟨right, .receiving manner taken⟩)
    (goesOn : manner.goesOn left = true) {counted : List Completion}
    {after : Pool} (received : left.receive? = some (counted, after)) :
    ∃ other, Watched first seen
        ⟨other, .receiving manner (taken ++ counted)⟩ ∧
      after.Alike other := by
  cases channel : left.channel with
  | nil => simp [receive?, channel] at received
  | cons completion rest =>
      cases waitedFor : left.isInFlight completion.id with
      | false =>
          cases (receive?_of_absent channel waitedFor).symm.trans received
          refine ⟨right, ?_, alike.skip channel waitedFor⟩
          rwa [List.append_nil]
      | true =>
          cases (receive?_of_inFlight channel waitedFor).symm.trans received
          obtain ⟨stale, others, split, absent, alike'⟩ :=
            alike.next channel waitedFor
          rw [alike.goesOn] at goesOn
          have skipped := watched.skip stale goesOn split absent
          rw [alike.isInFlight] at waitedFor
          exact ⟨_, skipped.take (by cases manner <;> exact goesOn)
            (receive?_of_inFlight rfl waitedFor), alike'.answer completion.id⟩

theorem follow_stop (alike : left.Alike right)
    (watched : Watched first seen ⟨right, .receiving manner taken⟩)
    (ends : manner.Ends left) :
    ∃ other, Watched first (seen ++ [(.returned taken, left.pending)])
        ⟨other, .idle⟩ ∧
      left.Alike other := by
  rw [alike.pending]
  by_cases ready : manner.Ends right
  · exact ⟨right, watched.stop ready, alike⟩
  · -- Nothing that counts is left here, but there is something in the way.
    have nothing : left.channel = [] := by
      cases manner with
      | drain => exact ends
      | wait =>
          refine ends.resolve_left fun idle => ready (.inl ?_)
          exact alike.inFlight ▸ idle
    have goesOn : manner.goesOn right = true := by
      cases manner with
      | drain => rfl
      | wait =>
          have flying : right.inFlight ≠ [] := fun idle => ready (.inl idle)
          simpa [Manner.goesOn] using flying
    have skipped := watched.skip right.channel goesOn
      (List.append_nil _).symm (alike.stale nothing)
    refine ⟨_, skipped.stop (Manner.ends_of_empty rfl), alike.workers,
      alike.inFlight, ?_⟩
    rw [Pool.awaited, nothing]
    rfl

end Pool.Alike

theorem Steps.unforeseen {events : List Event} {system : System}
    (run : Run events system) : system.pool.Unforeseen := by
  intro expected
  exact run.accounts.nextId_fresh (run.accounts.channelId_mem expected)

/-- Whatever is seen of one pool can be seen of another one that is like it. -/
theorem Pool.Alike.follow {left right : Pool} {activity : Activity}
    {leftEvents rightEvents : List Event}
    (leftRun : Run leftEvents ⟨left, activity⟩)
    (rightRun : Run rightEvents ⟨right, activity⟩) (alike : left.Alike right)
    {seen : List (Event × Nat)} {last : System}
    (watched : Watched ⟨left, activity⟩ seen last) :
    ∃ other, Watched ⟨right, activity⟩ seen ⟨other, last.activity⟩ ∧
      last.pool.Alike other := by
  induction watched with
  | none => exact ⟨right, .none, alike⟩
  | take _ goesOn received induction =>
      obtain ⟨other, there, alike⟩ := induction
      exact alike.follow_take there goesOn received
  | stop _ ends induction =>
      obtain ⟨other, there, alike⟩ := induction
      exact alike.follow_stop there ends
  | @step seen event middle last watched next notReception induction =>
      obtain ⟨other, there, alike⟩ := induction
      obtain ⟨_, steps⟩ := watched.steps
      obtain ⟨_, otherSteps⟩ := there.steps
      -- Numbers are fresh and tell workers apart in every pool of a run.
      have run := leftRun.trans steps
      have otherRun := rightRun.trans otherSteps
      suffices ∃ after, Step ⟨other, middle.activity⟩ event
          ⟨after, last.activity⟩ ∧ last.pool.Alike after by
        obtain ⟨after, step, alike⟩ := this
        exact ⟨after, alike.pending ▸ there.step step notReception, alike⟩
      cases next with
      | spawn pool label call =>
          exact ⟨_, .spawn other label call,
            alike.spawn run.unforeseen otherRun.unforeseen label call⟩
      | cancel pool =>
          refine ⟨_, ?_, alike.cancel⟩
          have given := Step.cancel other
          rwa [← alike.inFlight, Pool.inFlightIds, ← alike.inFlight] at given
      | tell pool id untold =>
          exact ⟨_, .tell other id untold, alike.tell id⟩
      | allTold pool => exact ⟨_, .allTold other, alike⟩
      | receive pool manner => exact ⟨_, .receive other manner, alike⟩
      | work outcome member =>
          exact ⟨_, .work outcome (alike.workers ▸ member),
            alike.work run.accounts.workerIds_nodup member outcome⟩
      | take | stop => cases notReception

/-- Pools that are alike cannot be told apart by any schedule. -/
theorem Pool.Alike.watched_iff {left right : Pool} {activity : Activity}
    {leftEvents rightEvents : List Event}
    (leftRun : Run leftEvents ⟨left, activity⟩)
    (rightRun : Run rightEvents ⟨right, activity⟩) (alike : left.Alike right)
    (seen : List (Event × Nat)) (reached : Activity) :
    (∃ pool, Watched ⟨left, activity⟩ seen ⟨pool, reached⟩) ↔
      ∃ pool, Watched ⟨right, activity⟩ seen ⟨pool, reached⟩ := by
  constructor
  · rintro ⟨pool, watched⟩
    obtain ⟨other, there, _⟩ := alike.follow leftRun rightRun watched
    exact ⟨other, there⟩
  · rintro ⟨pool, watched⟩
    obtain ⟨other, there, _⟩ := alike.symm.follow rightRun leftRun watched
    exact ⟨other, there⟩

end OperatorConsole.Remote
