import Mathlib.Data.List.Sort
import OperatorConsole.Proofs.Pool.Sending
import OperatorConsole.Proofs.Pool.Watching

/-!
# Waiting and draining

While no worker sends, waiting gives the console the same as draining: the
answers in the channel that are waited for.  Waiting may leave behind answers to
calls that have been given up, which makes no difference to anything later.
-/

namespace OperatorConsole.Remote

/-! ## Receiving while nothing is sent -/

namespace Sends

variable {first middle last : System} {before after : List Event}
  {sent more : List Completion}

theorem trans (earlier : Sends first before sent middle)
    (later : Sends middle after more last) :
    Sends first (before ++ after) (sent ++ more) last := by
  induction later with
  | none => simpa using earlier
  | step _ next induction =>
      rw [← List.append_assoc, ← List.append_assoc]
      exact .step induction next

/-- A step that leaves the channel alone. -/
theorem quiet {event : Event} (sends : Sends first before sent middle)
    (next : Step middle event last)
    (same : last.pool.channel = middle.pool.channel) :
    Sends first (before ++ [event]) sent last := by
  have further := sends.step next
  rwa [Pool.sentSince_of_same same, List.append_nil] at further

end Sends

@[simp] theorem Worker.isReception_event (worker : Worker)
    (outcome : Outcome) : (worker.event outcome).isReception = false := by
  unfold event
  split <;> rfl

theorem Steps.sends_of_receptions {first last : System} {events : List Event}
    (steps : Steps first events last)
    (receptions : ∀ event ∈ events, event.isReception = true) :
    Sends first events [] last := by
  induction steps with
  | none => exact .none
  | step _ next induction =>
      have before := induction fun event member =>
        receptions event (List.mem_append_left _ member)
      have reception :=
        receptions _ (List.mem_append_right _ List.mem_cons_self)
      cases next with
      | take goesOn received =>
          obtain ⟨_, channel, _⟩ := Pool.receive?_eq_some received
          have further := before.step (Step.take goesOn received)
          rwa [Pool.sentSince_of_taken channel] at further
      | stop mayStop => exact before.quiet (.stop mayStop) rfl
      | work outcome member =>
          rw [Worker.isReception_event] at reception
          cases reception
      | spawn | cancel | tell | allTold | receive => cases reception

namespace Pool

/-- The pool is received from in one of the two ways while workers move but do
not send. -/
def Yields (pool : Pool) (manner : Manner) (completions : List Completion)
    (last : Pool) : Prop :=
  ∃ inner : List Event, (∀ event ∈ inner, event.isInner = true) ∧
    Sends ⟨pool, .receiving manner []⟩ inner []
      ⟨last, .receiving manner completions⟩ ∧
    manner.Ends last

/-- The workers may rest, whatever they could do. -/
theorem yields_receive (pool : Pool) (manner : Manner) :
    pool.Yields manner (pool.receive manner).1 (pool.receive manner).2 := by
  obtain ⟨pieces, _, steps, ends⟩ :=
    receiveWhile_steps manner pool.channel.length pool [] (Nat.le_refl _)
  have took : ∀ event ∈ pieces.map Event.took,
      event.isInner = true ∧ event.isReception = true := by
    intro event member
    obtain ⟨piece, _, rfl⟩ := List.mem_map.mp member
    exact ⟨rfl, rfl⟩
  exact ⟨_, fun event member => (took event member).1,
    steps.sends_of_receptions fun event member => (took event member).2, ends⟩

namespace Yields

variable {pool last : Pool} {manner : Manner} {completions : List Completion}

/-- Nothing else happens than that the channel is taken out of from the front,
and what remains in it does not count. -/
theorem course (yields : pool.Yields manner completions last)
    (orderly : pool.Orderly) :
    ∃ events arrived, Course pool events last arrived ∧
      pool.channel = arrived ++ last.channel ∧
      completions = arrived.filter (pool.isInFlight ·.id) ∧
      ∀ left ∈ last.channel, pool.isInFlight left.id = false := by
  obtain ⟨inner, isInner, sends, ends⟩ := yields
  obtain ⟨arrived, course, queue⟩ := sends.course orderly isInner
  refine ⟨inner, arrived, course, ?_, ?_, ?_⟩
  · rw [← queue, List.append_nil]
  · rw [← course.counted]
    exact sends.steps.taken_inner isInner
  · intro left member
    refine Bool.eq_false_iff.mpr fun counts => ?_
    have flying := (course.isInFlight_waiting orderly member).mpr counts
    have idleOrEmpty : last.inFlight = [] ∨ last.channel = [] := by
      cases manner with
      | drain => exact .inr ends
      | wait => exact ends
    rcases idleOrEmpty with idle | empty
    · simp [inFlightIds, idle] at flying
    · exact absurd (empty ▸ member) List.not_mem_nil

theorem completions_eq (yields : pool.Yields manner completions last)
    (orderly : pool.Orderly) : completions = pool.awaited := by
  obtain ⟨_, arrived, _, queue, counted, stale⟩ := yields.course orderly
  have none : last.channel.filter (pool.isInFlight ·.id) = [] := by
    refine List.filter_eq_nil_iff.mpr fun left member => ?_
    exact Bool.eq_false_iff.mp (stale left member)
  rw [awaited, queue, List.filter_append, none, List.append_nil, counted]

theorem inFlight_eq (yields : pool.Yields manner completions last)
    (orderly : pool.Orderly) :
    last.inFlight = pool.inFlight.filter fun task =>
      !(pool.awaited.map Completion.id).contains task.id := by
  have counted := yields.completions_eq orderly
  obtain ⟨_, arrived, course, _, arrivedCounted, _⟩ := yields.course orderly
  rw [course.inFlight, ← counted, arrivedCounted]
  refine List.filter_congr fun task member => ?_
  have flying : pool.isInFlight task.id = true :=
    isInFlight_iff.mpr (List.mem_map_of_mem member)
  congr 1
  rw [Bool.eq_iff_iff, List.contains_iff_mem, List.contains_iff_mem]
  constructor
  · intro came
    obtain ⟨completion, there, same⟩ := List.mem_map.mp came
    have counts : pool.isInFlight completion.id = true := same ▸ flying
    exact List.mem_map.mpr
      ⟨completion, List.mem_filter.mpr ⟨there, counts⟩, same⟩
  · intro came
    obtain ⟨completion, there, same⟩ := List.mem_map.mp came
    exact List.mem_map.mpr ⟨completion, (List.mem_filter.mp there).1, same⟩

/-- What remains in the channel was sent for calls that are given up. -/
theorem givenUp (yields : pool.Yields manner completions last)
    {events : List Event} (run : Run events ⟨pool, .idle⟩)
    {left : Completion} (member : left ∈ last.channel) :
    left ∈ pool.channel ∧ left.id ∈ givenUpIds events := by
  obtain ⟨_, arrived, _, queue, _, stale⟩ := yields.course run.orderly
  have waiting : left ∈ pool.channel :=
    queue ▸ List.mem_append_right _ member
  refine ⟨waiting, givenUp_of_waiting run (List.mem_map_of_mem waiting) ?_⟩
  intro flying
  exact Bool.false_ne_true
    ((stale left member).symm.trans (isInFlight_iff.mpr flying))

theorem awaited_eq_nil (yields : pool.Yields manner completions last)
    (orderly : pool.Orderly) : last.awaited = [] := by
  obtain ⟨_, _, course, _, _, stale⟩ := yields.course orderly
  refine List.filter_eq_nil_iff.mpr fun left member counts => ?_
  have counted := (course.isInFlight_waiting orderly member).mp
    (isInFlight_iff.mp counts)
  exact Bool.false_ne_true ((stale left member).symm.trans counted)

/-- The whole operation, by which nothing is sent. -/
theorem sends (yields : pool.Yields manner completions last)
    {events : List Event} {sent : List Completion}
    (before : Sends .start events sent ⟨pool, .idle⟩) :
    ∃ all, Sends .start all sent ⟨last, .idle⟩ ∧
      returned all = returned events ++ completions := by
  obtain ⟨inner, isInner, sends, ends⟩ := yields
  have begun := before.quiet (.receive pool manner) rfl
  have received := begun.trans sends
  rw [List.append_nil] at received
  refine ⟨_, received.quiet (.stop ends.mayStop) rfl, ?_⟩
  rw [returned_append, returned_append, returned_append,
    returned_inner isInner]
  simp [Event.handedOver]

end Yields

end Pool

/-! ## The order of calls in flight -/

/-- The calls in flight are in the order in which they were handed in. -/
theorem Steps.inFlight_eq {events : List Event} {system : System}
    (run : Run events system) :
    system.pool.inFlight =
      ((errands events).filter (system.pool.isInFlight ·.id)).map
        Errand.task := by
  have accounts := run.accounts
  have inOrder : (errands events).Pairwise fun first second =>
      first.id < second.id := by
    rw [← List.pairwise_map, errands_id]
    exact List.pairwise_lt_range'
  have irreflexive : Std.Irrefl fun first second : Task =>
      first.id < second.id := ⟨fun _ => Nat.lt_irrefl _⟩
  have antisymmetric : Std.Antisymm fun first second : Task =>
      first.id < second.id :=
    ⟨fun _ _ less more => absurd less (Nat.lt_asymm more)⟩
  refine run.inFlight_sorted.eq_of_mem_iff
    (List.pairwise_map.mpr (inOrder.filter _)) fun task => ?_
  rw [← accounts.recorded]
  constructor
  · intro flying
    obtain ⟨errand, known, rfl⟩ := accounts.awaited task flying
    refine List.mem_map_of_mem (List.mem_filter.mpr ⟨known, ?_⟩)
    exact Pool.isInFlight_iff.mpr
      (List.mem_map_of_mem (f := Task.id) flying)
  · intro chosen
    obtain ⟨errand, member, rfl⟩ := List.mem_map.mp chosen
    obtain ⟨known, flying⟩ := List.mem_filter.mp member
    obtain ⟨task, waiting, same⟩ :=
      List.mem_map.mp (Pool.isInFlight_iff.mp flying)
    obtain ⟨other, otherKnown, rfl⟩ := accounts.awaited task waiting
    rwa [accounts.task_eq_of_id known otherKnown same.symm]

/-! ## Waiting is as good as draining -/

/-- While no worker sends, waiting and draining give the console the same
completions, in the order in which they were sent, and leave the same calls in
flight.  What waiting has not taken out of the channel was sent for calls that
are given up, and no schedule from then on shows whether it is there. -/
theorem waiting_yields_what_draining_yields {events : List Event}
    {sent : List Completion} {pool : Pool}
    (sends : Sends .start events sent ⟨pool, .idle⟩) :
    (pool.Yields .wait pool.waitIdle.1 pool.waitIdle.2 ∧
      pool.Yields .drain pool.drain.1 pool.drain.2 ∧
      pool.waitIdle.2.workers = pool.drain.2.workers) ∧
    (∀ waited afterWait drained afterDrain,
      pool.Yields .wait waited afterWait →
      pool.Yields .drain drained afterDrain →
        waited = drained ∧
        (returned events ++ waited).Sublist sent ∧
        afterWait.inFlight = afterDrain.inFlight ∧
        afterDrain.channel = [] ∧
        (∀ left ∈ afterWait.channel,
          left ∈ pool.channel ∧ left.id ∈ givenUpIds events) ∧
        (afterWait.workers = afterDrain.workers →
          ∀ seen reached,
            (∃ last, Watched ⟨afterWait, .idle⟩ seen ⟨last, reached⟩) ↔
              ∃ last, Watched ⟨afterDrain, .idle⟩ seen ⟨last, reached⟩)) ∧
    pool.pendingLabels =
      ((errands events).filter (pool.isInFlight ·.id)).map Errand.label := by
  have run := sends.steps
  have orderly := run.orderly
  refine ⟨⟨pool.yields_receive .wait, pool.yields_receive .drain, ?_⟩, ?_, ?_⟩
  · exact (pool.receive_workers .wait).trans
      (pool.receive_workers .drain).symm
  · intro waited afterWait drained afterDrain waits drains
    have inFlight : afterWait.inFlight = afterDrain.inFlight :=
      (waits.inFlight_eq orderly).trans (drains.inFlight_eq orderly).symm
    refine ⟨?_, ?_, inFlight, ?_, fun left member => waits.givenUp run member,
      ?_⟩
    · exact (waits.completions_eq orderly).trans
        (drains.completions_eq orderly).symm
    · obtain ⟨_, after, handedOver⟩ := waits.sends sends
      exact handedOver ▸ after.returned_sublist
    · obtain ⟨_, _, _, emptied⟩ := drains
      exact emptied
    · intro workers
      obtain ⟨_, afterWaiting, _⟩ := waits.sends sends
      obtain ⟨_, afterDraining, _⟩ := drains.sends sends
      have alike : afterWait.Alike afterDrain :=
        ⟨workers, inFlight, (waits.awaited_eq_nil orderly).trans
          (drains.awaited_eq_nil orderly).symm⟩
      exact alike.watched_iff afterWaiting.steps afterDraining.steps
  · rw [Pool.pendingLabels, run.inFlight_eq, List.map_map]
    rfl

/-- The answer to `get b` arrives before the one to `get a`, which has been
given up. -/
def crossedEvents : List Event := [
  .spawned "get a" (.act "get a"), .moved 1,
  .fetched 1 (.act "get a") (.ok "old"), .moved 1,
  .cancelled [⟨1, "get a"⟩], .told 1, .allTold,
  .spawned "get b" (.act "get b"), .moved 2,
  .fetched 2 (.act "get b") (.ok "new"), .moved 2, .moved 2, .moved 1]

def crossedPool : Pool :=
  { lateSystem.pool with
    channel := [⟨2, "get b", .ok "new"⟩, ⟨1, "get a", .ok "old"⟩] }

theorem crossed_sends :
    Sends .start crossedEvents crossedPool.channel ⟨crossedPool, .idle⟩ := by
  have run : Sends .start _ _ _ := .none
  have run := run.step (.spawn _ "get a" (.act "get a"))
  have run := run.step (Step.workAt _ _ 0 (by decide) (.ok "old"))
  have run := run.step (Step.workAt _ _ 0 (by decide) (.ok "old"))
  have run := run.step (Step.workAt _ _ 0 (by decide) (.ok "old"))
  have run := run.step (.cancel _)
  have run := run.step (.tell _ _ _)
  have run := run.step (.allTold _)
  have run := run.step (.spawn _ "get b" (.act "get b"))
  have run := run.step (Step.workAt _ _ 1 (by decide) (.ok "new"))
  have run := run.step (Step.workAt _ _ 1 (by decide) (.ok "new"))
  have run := run.step (Step.workAt _ _ 1 (by decide) (.ok "new"))
  have run := run.step (Step.workAt _ _ 1 (by decide) (.ok "new"))
  have run := run.step (Step.workAt _ _ 0 (by decide) (.ok "old"))
  exact run

theorem crossed_answers_yielded :
    Sends .start crossedEvents crossedPool.channel ⟨crossedPool, .idle⟩ ∧
      crossedPool.waitIdle.1 = [⟨2, "get b", .ok "new"⟩] ∧
      crossedPool.waitIdle.2.channel = [⟨1, "get a", .ok "old"⟩] ∧
      crossedPool.waitIdle.1 = crossedPool.drain.1 ∧
      crossedPool.drain.2.channel = [] ∧
      ∀ seen reached,
        (∃ last,
          Watched ⟨crossedPool.waitIdle.2, .idle⟩ seen ⟨last, reached⟩) ↔
        ∃ last,
          Watched ⟨crossedPool.drain.2, .idle⟩ seen ⟨last, reached⟩ := by
  obtain ⟨⟨waits, drains, workers⟩, same, _⟩ :=
    waiting_yields_what_draining_yields crossed_sends
  obtain ⟨completions, _, _, emptied, _, apart⟩ := same _ _ _ _ waits drains
  exact ⟨crossed_sends, rfl, rfl, completions, emptied, apart workers⟩

end OperatorConsole.Remote
