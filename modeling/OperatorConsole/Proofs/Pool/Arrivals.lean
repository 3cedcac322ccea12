import OperatorConsole.Proofs.Pool.Delivery

/-!
# Arrivals during an operation

While the console receives completions or gives up calls, its workers move and
send.  What an operation gets back is, in the order in which it was sent, what
came out of the channel for calls that were in flight when the operation began.
This rests on a worker sending one completion at most.
-/

namespace OperatorConsole.Remote

/-- The event is part of an operation that has begun, or a worker moves. -/
def Event.isInner : Event → Bool
  | .told _ | .took _ | .fetched _ _ _ | .moved _ => true
  | _ => false

namespace Worker

@[simp] theorem isInner_event (worker : Worker) (outcome : Outcome) :
    (worker.event outcome).isInner = true := by
  unfold event
  split <;> rfl

/-- Whatever it has been told, a worker that sends ends by it. -/
theorem count_sent_le (worker : Worker) (outcome : Outcome) :
    worker.hasEnded.toNat +
        ((worker.step outcome).2.map Completion.id).count worker.id ≤
      (worker.step outcome).1.hasEnded.toNat := by
  cases worker with
  | mk id label call cancelled stage =>
      cases stage <;> cases cancelled <;> simp [step, hasEnded]

end Worker

namespace Pool

/-! ## One completion for a call -/

/-- A worker that has not ended has sent nothing, and one that has ended a
single completion at most, counting those that are gone from the channel. -/
def SentOnce (gone : List Nat) (pool : Pool) : Prop :=
  ∀ worker ∈ pool.workers,
    (gone ++ pool.channelIds).count worker.id ≤ worker.hasEnded.toNat

namespace SentOnce

variable {gone : List Nat} {pool : Pool}

theorem mono {fewer : List Nat} (once : SentOnce gone pool)
    (within : fewer.Sublist gone) : SentOnce fewer pool := by
  intro worker member
  exact Nat.le_trans ((within.append_right _).count_le worker.id)
    (once worker member)

theorem tell (once : SentOnce gone pool) (id : Nat) :
    SentOnce gone (pool.tell id) := by
  intro worker member
  obtain ⟨before, beforeMember, rfl⟩ := List.mem_map.mp member
  have bound := once before beforeMember
  by_cases same : before.id = id
  · rw [if_pos same]
    exact bound
  · rw [if_neg same]
    exact bound

theorem take {next : Pool} {completion : Completion}
    (once : SentOnce gone pool)
    (channel : pool.channel = completion :: next.channel)
    (workers : next.workers = pool.workers) :
    SentOnce (gone ++ [completion.id]) next := by
  intro worker member
  have bound := once worker (workers ▸ member)
  simpa [channelIds, channel] using bound

theorem work {worker : Worker} (once : SentOnce gone pool)
    (distinct : pool.workerIds.Nodup) (member : worker ∈ pool.workers)
    (outcome : Outcome) :
    SentOnce gone (pool.step worker.id outcome) := by
  intro after afterMember
  simp only [channelIds, channel_step distinct member, List.map_append,
    ← List.append_assoc]
  rw [List.count_append]
  rcases mem_workers_step distinct member afterMember with
    rfl | ⟨before, other⟩
  · rw [Worker.id_step]
    have bound := once worker member
    have sent := Worker.count_sent_le worker outcome
    simp only [channelIds] at bound
    omega
  · rw [Worker.count_sent_of_ne other outcome, Nat.add_zero]
    exact once after before

theorem spawn (once : SentOnce gone pool)
    (fresh : pool.nextId ∉ gone ++ pool.channelIds) (label : String)
    (call : Call) :
    SentOnce gone (pool.spawn label call) := by
  intro worker member
  rcases List.mem_append.mp member with old | new
  · exact once worker old
  · rw [List.mem_singleton] at new
    subst new
    exact Nat.le_of_eq (List.count_eq_zero.mpr fresh)

end SentOnce

/-- Numbers tell workers apart, calls in flight have workers, and each worker
sends once. -/
structure Orderly (pool : Pool) : Prop where
  distinct : pool.workerIds.Nodup
  known : ∀ id ∈ pool.inFlightIds, id ∈ pool.workerIds
  once : SentOnce [] pool

end Pool

theorem Accounts.nextId_fresh {events : List Event} {system : System}
    (accounts : Accounts events system) :
    system.pool.nextId ∉ system.pool.workerIds := by
  rw [accounts.workerIds_eq]
  simp [Pool.nextId, Nat.add_comm]

/-- A completion that has counted does not come again. -/
theorem Steps.sentOnce {events : List Event} {system : System}
    (run : Run events system) :
    system.pool.SentOnce (deliveredIds events) := by
  induction run with
  | none => exact fun worker member => absurd member List.not_mem_nil
  | @step events event _ _ run next induction =>
      have accounts := Steps.accounts run
      have still (noneCounted : event.counted = []) :
          deliveredIds (events ++ [event]) = deliveredIds events := by
        simp [noneCounted]
      cases next with
      | spawn pool label call =>
          rw [still rfl]
          refine Pool.SentOnce.spawn induction ?_ label call
          intro known
          apply accounts.nextId_fresh
          rcases List.mem_append.mp known with counted | waiting
          · apply accounts.divided.mem_iff.mp
            exact List.mem_append_left _ (List.mem_append_right _ counted)
          · exact accounts.channelId_mem waiting
      | tell pool id untold =>
          rw [still rfl]
          exact Pool.SentOnce.tell induction id
      | take _ received =>
          obtain ⟨completion, channel, workers, counts⟩ :=
            Pool.receive?_eq_some received
          have once := Pool.SentOnce.take induction channel workers
          rcases counts with ⟨_, rfl, _⟩ | ⟨_, rfl, _⟩
          · rw [deliveredIds_append]
            exact once
          · rw [still rfl]
            exact once.mono (List.sublist_append_left _ _)
      | work outcome member =>
          rw [still (Worker.counted_event _ _)]
          exact Pool.SentOnce.work induction accounts.workerIds_nodup member
            outcome
      | cancel | allTold | receive | stop =>
          rw [still rfl]
          exact induction

theorem Steps.orderly {events : List Event} {system : System}
    (run : Run events system) : system.pool.Orderly where
  distinct := run.accounts.workerIds_nodup
  known := by
    intro id flying
    exact run.accounts.divided.mem_iff.mp
      (List.mem_append_left _ (List.mem_append_left _ flying))
  once := run.sentOnce.mono (List.nil_sublist _)

section Waiting

variable {events : List Event} {system : System} (run : Run events system)
  {id : Nat} (waiting : id ∈ system.pool.channelIds)

include run waiting

theorem not_delivered_of_waiting : id ∉ deliveredIds events := by
  intro counted
  obtain ⟨worker, member, rfl⟩ :=
    List.mem_map.mp (run.accounts.channelId_mem waiting)
  have bound := run.sentOnce worker member
  rw [List.count_append] at bound
  have first := List.count_pos_iff.mpr counted
  have second := List.count_pos_iff.mpr waiting
  have most := Bool.toNat_le worker.hasEnded
  omega

/-- What is in the channel for a call that is not waited for was sent for one
that has been given up. -/
theorem givenUp_of_waiting (absent : id ∉ system.pool.inFlightIds) :
    id ∈ givenUpIds events := by
  have known := run.accounts.divided.mem_iff.mpr
    (run.accounts.channelId_mem waiting)
  rcases List.mem_append.mp known with placed | gone
  · rcases List.mem_append.mp placed with flying | counted
    · exact absurd flying absent
    · exact absurd counted (not_delivered_of_waiting run waiting)
  · exact gone

end Waiting

/-! ## What workers send -/

/-- What a step has put at the end of the channel. -/
def Pool.sentSince (before after : Pool) : List Completion :=
  after.channel.drop before.channel.length

/-- Any number of steps, with their events and with what workers have sent. -/
inductive Sends (first : System) :
    List Event → List Completion → System → Prop where
  | none : Sends first [] [] first
  | step {events : List Event} {sent : List Completion} {event : Event}
      {middle last : System} :
      Sends first events sent middle →
      Step middle event last →
      Sends first (events ++ [event]) (sent ++ middle.pool.sentSince last.pool)
        last

theorem Sends.steps {first last : System} {events : List Event}
    {sent : List Completion} (sends : Sends first events sent last) :
    Steps first events last := by
  induction sends with
  | none => exact .none
  | step _ next induction => exact .step induction next

/-- Every schedule can be watched. -/
theorem Steps.sends {first last : System} {events : List Event}
    (steps : Steps first events last) :
    ∃ sent, Sends first events sent last := by
  induction steps with
  | none => exact ⟨[], .none⟩
  | step _ next induction =>
      obtain ⟨sent, before⟩ := induction
      exact ⟨_, .step before next⟩

namespace Pool

theorem sentSince_of_same {before after : Pool}
    (same : after.channel = before.channel) : before.sentSince after = [] := by
  rw [sentSince, same, List.drop_length]

theorem sentSince_of_taken {before after : Pool} {completion : Completion}
    (channel : before.channel = completion :: after.channel) :
    before.sentSince after = [] := by
  rw [sentSince, channel, List.length_cons,
    List.drop_eq_nil_of_le (Nat.le_succ _)]

theorem sentSince_step {pool : Pool} {worker : Worker}
    (distinct : pool.workerIds.Nodup) (member : worker ∈ pool.workers)
    (outcome : Outcome) :
    pool.sentSince (pool.step worker.id outcome) =
      (worker.step outcome).2 := by
  rw [sentSince, channel_step distinct member, List.drop_left]

end Pool

/-! ## What comes out of the channel -/

/-- How a pool has changed while completions arrived in the middle of an
operation. -/
structure Course (first : Pool) (events : List Event) (last : Pool)
    (arrived : List Completion) : Prop where
  errands : last.errands = first.errands
  queue : ∃ sent, first.channel ++ sent = arrived ++ last.channel
  counted : delivered events =
    arrived.filter fun completion => first.isInFlight completion.id
  inFlight : last.inFlight = first.inFlight.filter fun task =>
    !(arrived.map Completion.id).contains task.id
  once : last.SentOnce (arrived.map Completion.id)

namespace Course

variable {first last : Pool} {events : List Event} {arrived : List Completion}

theorem start (orderly : first.Orderly) : Course first [] first [] where
  errands := rfl
  queue := ⟨[], by simp⟩
  counted := rfl
  inFlight := by simp
  once := orderly.once

theorem workerIds (course : Course first events last arrived) :
    last.workerIds = first.workerIds :=
  Pool.workerIds_eq_of_errands course.errands

theorem tell (course : Course first events last arrived) (id : Nat) :
    Course first (events ++ [.told id]) (last.tell id) arrived where
  errands := by rw [Pool.errands_tell, course.errands]
  queue := course.queue
  counted := by simpa [Event.counted] using course.counted
  inFlight := course.inFlight
  once := course.once.tell id

theorem work (course : Course first events last arrived)
    (orderly : first.Orderly) {worker : Worker}
    (member : worker ∈ last.workers) (outcome : Outcome) :
    Course first (events ++ [worker.event outcome])
      (last.step worker.id outcome) arrived where
  errands := by rw [Pool.errands_step, course.errands]
  queue := by
    obtain ⟨sent, split⟩ := course.queue
    refine ⟨sent ++ (worker.step outcome).2, ?_⟩
    rw [Pool.channel_step (course.workerIds ▸ orderly.distinct) member,
      ← List.append_assoc, split, List.append_assoc]
  counted := by simpa using course.counted
  inFlight := course.inFlight
  once := course.once.work (course.workerIds ▸ orderly.distinct) member
    outcome

/-- A call that was in flight at the beginning is so until its completion
arrives, which happens once. -/
theorem isInFlight_waiting (course : Course first events last arrived)
    (orderly : first.Orderly) {completion : Completion}
    (waiting : completion ∈ last.channel) :
    completion.id ∈ last.inFlightIds ↔
      first.isInFlight completion.id = true := by
  have remains : completion.id ∈ last.inFlightIds ↔
      completion.id ∈ first.inFlightIds ∧
        completion.id ∉ arrived.map Completion.id := by
    simp only [Pool.inFlightIds, course.inFlight, List.mem_map,
      List.mem_filter, Bool.not_eq_true', List.contains_eq_mem,
      decide_eq_false_iff_not]
    constructor
    · rintro ⟨task, ⟨member, absent⟩, same⟩
      exact ⟨⟨task, member, same⟩, same ▸ absent⟩
    · rintro ⟨⟨task, member, same⟩, absent⟩
      exact ⟨task, ⟨member, same ▸ absent⟩, same⟩
  rw [remains, Pool.isInFlight_iff, and_iff_left_iff_imp]
  intro flying came
  have known : completion.id ∈ last.workerIds :=
    course.workerIds ▸ orderly.known _ flying
  obtain ⟨worker, member, same⟩ := List.mem_map.mp known
  have bound := course.once worker member
  have before : 0 < (arrived.map Completion.id).count worker.id :=
    List.count_pos_iff.mpr (same ▸ came)
  have after : 0 < last.channelIds.count worker.id :=
    List.count_pos_iff.mpr (same ▸ List.mem_map_of_mem waiting)
  rw [List.count_append] at bound
  have small := Bool.toNat_le worker.hasEnded
  omega

theorem take (course : Course first events last arrived)
    (orderly : first.Orderly) {next : Pool} {counted : List Completion}
    (received : last.receive? = some (counted, next)) :
    ∃ completion, last.channel = completion :: next.channel ∧
      Course first (events ++ [.took counted]) next
        (arrived ++ [completion]) := by
  obtain ⟨completion, channel, workers, counts⟩ :=
    Pool.receive?_eq_some received
  have awaited := course.isInFlight_waiting orderly
    (channel ▸ List.mem_cons_self : completion ∈ last.channel)
  have filtered : next.inFlight =
      last.inFlight.filter (·.id != completion.id) := by
    rcases counts with ⟨_, _, flying⟩ | ⟨absent, _, flying⟩
    · exact flying
    · rw [flying, eq_comm, List.filter_eq_self]
      intro task member
      simp only [bne_iff_ne]
      rintro same
      exact absent (same ▸ List.mem_map_of_mem member)
  refine ⟨completion, channel, ?_⟩
  constructor
  case errands => rw [← course.errands, Pool.errands, workers, Pool.errands]
  case queue =>
    obtain ⟨sent, split⟩ := course.queue
    exact ⟨sent, by rw [split, channel, List.append_assoc]; rfl⟩
  case counted =>
    rw [delivered_append, delivered_single, course.counted,
      List.filter_append]
    congr 1
    rcases counts with ⟨present, rfl, _⟩ | ⟨absent, rfl, _⟩
    · simp [Event.counted, awaited.mp present]
    · simp [Event.counted, mt awaited.mpr absent]
  case inFlight =>
    rw [filtered, course.inFlight, List.filter_filter]
    congr 1
    funext task
    by_cases same : task.id = completion.id
    · simp [same]
    · simp [same]
  case once =>
    simpa using course.once.take channel workers

end Course

/-- The course of any steps in the middle of an operation, and what was sent in
them. -/
theorem Sends.course {first last : System} {events : List Event}
    {sent : List Completion} (orderly : first.pool.Orderly)
    (sends : Sends first events sent last)
    (inner : ∀ event ∈ events, event.isInner = true) :
    ∃ arrived, Course first.pool events last.pool arrived ∧
      first.pool.channel ++ sent = arrived ++ last.pool.channel := by
  induction sends with
  | none => exact ⟨[], .start orderly, by simp⟩
  | step _ next induction =>
      obtain ⟨arrived, course, queue⟩ := induction fun event member =>
        inner event (List.mem_append_left _ member)
      have isInner := inner _ (List.mem_append_right _ List.mem_cons_self)
      cases next with
      | tell pool id untold =>
          refine ⟨arrived, course.tell id, ?_⟩
          rw [Pool.sentSince_of_same (Pool.channel_tell pool id),
            List.append_nil]
          exact queue
      | take _ received =>
          obtain ⟨completion, channel, course⟩ := course.take orderly received
          refine ⟨_, course, ?_⟩
          rw [Pool.sentSince_of_taken channel, List.append_nil, queue, channel,
            List.append_assoc]
          rfl
      | work outcome member =>
          have distinct := course.workerIds ▸ orderly.distinct
          refine ⟨arrived, course.work orderly member _, ?_⟩
          rw [Pool.sentSince_step distinct member,
            Pool.channel_step distinct member, ← List.append_assoc, queue,
            List.append_assoc]
      | spawn | cancel | allTold | receive | stop => cases isInner

theorem Steps.course {first last : System} {events : List Event}
    (orderly : first.pool.Orderly) (steps : Steps first events last)
    (inner : ∀ event ∈ events, event.isInner = true) :
    ∃ arrived, Course first.pool events last.pool arrived := by
  obtain ⟨sent, sends⟩ := steps.sends
  obtain ⟨arrived, course, _⟩ := sends.course orderly inner
  exact ⟨arrived, course⟩

theorem Steps.taken_inner {first last : System} {events : List Event}
    (steps : Steps first events last)
    (inner : ∀ event ∈ events, event.isInner = true) :
    last.activity.taken = first.activity.taken ++ delivered events := by
  induction steps with
  | none => simp [delivered]
  | step _ next induction =>
      have before := induction fun event member =>
        inner event (List.mem_append_left _ member)
      have isInner := inner _ (List.mem_append_right _ List.mem_cons_self)
      rw [delivered_append, delivered_single, ← List.append_assoc, ← before]
      cases next with
      | tell pool id untold => rfl
      | take _ _ => rfl
      | work outcome member => simp
      | spawn | cancel | allTold | receive | stop => cases isInner

theorem spawns_inner {events : List Event}
    (inner : ∀ event ∈ events, event.isInner = true) : spawns events = [] := by
  refine List.filterMap_eq_nil_iff.mpr fun event member => ?_
  have isInner := inner event member
  cases event with
  | told | took | fetched | moved => rfl
  | spawned | cancelled | allTold | began | returned => cases isInner

theorem returned_inner {events : List Event}
    (inner : ∀ event ∈ events, event.isInner = true) :
    returned events = [] := by
  refine List.flatMap_eq_nil_iff.mpr fun event member => ?_
  have isInner := inner event member
  cases event with
  | told | took | fetched | moved => rfl
  | spawned | cancelled | allTold | began | returned => cases isInner

theorem givenUp_inner {events : List Event}
    (inner : ∀ event ∈ events, event.isInner = true) :
    givenUp events = [] := by
  refine List.flatMap_eq_nil_iff.mpr fun event member => ?_
  have isInner := inner event member
  cases event with
  | told | took | fetched | moved => rfl
  | spawned | cancelled | allTold | began | returned => cases isInner

/-! ## Operations among moving workers -/

namespace Pool

/-- The pool is received from in one of the two ways while workers move. -/
def Receives (pool : Pool) (manner : Manner) (completions : List Completion)
    (last : Pool) : Prop :=
  ∃ inner : List Event, (∀ event ∈ inner, event.isInner = true) ∧
    Steps ⟨pool, .receiving manner []⟩ inner
      ⟨last, .receiving manner completions⟩ ∧
    manner.MayStop last

/-- All calls are given up while workers move. -/
def GivesUp (pool last : Pool) : Prop :=
  ∃ inner : List Event, (∀ event ∈ inner, event.isInner = true) ∧
    Steps ⟨{ pool with inFlight := [] }, .cancelling pool.inFlightIds⟩ inner
      ⟨last, .cancelling []⟩

/-- The workers may rest until the console has received. -/
theorem receives_receive (pool : Pool) (manner : Manner) :
    pool.Receives manner (pool.receive manner).1 (pool.receive manner).2 := by
  obtain ⟨pieces, _, steps, ends⟩ :=
    receiveWhile_steps manner pool.channel.length pool [] (Nat.le_refl _)
  refine ⟨pieces.map .took, ?_, steps, ends.mayStop⟩
  intro event member
  obtain ⟨piece, _, rfl⟩ := List.mem_map.mp member
  rfl

theorem givesUp_cancelAll (pool : Pool) : pool.GivesUp pool.cancelAll := by
  refine ⟨pool.inFlightIds.map .told, ?_, ?_⟩
  · intro event member
    obtain ⟨id, _, rfl⟩ := List.mem_map.mp member
    rfl
  · rw [cancelAll_eq]
    exact tellAll_steps pool.inFlightIds _

namespace Receives

variable {pool last : Pool} {manner : Manner} {completions : List Completion}

/-- What is received are the completions that arrive for calls that were in
flight, in the order in which they arrive. -/
theorem course (received : pool.Receives manner completions last)
    (orderly : pool.Orderly) :
    ∃ events arrived, Course pool events last arrived ∧
      completions = arrived.filter fun completion =>
        pool.isInFlight completion.id := by
  obtain ⟨inner, isInner, steps, _⟩ := received
  obtain ⟨arrived, course⟩ := steps.course orderly isInner
  refine ⟨inner, arrived, course, ?_⟩
  rw [← course.counted]
  exact steps.taken_inner isInner

theorem steps (received : pool.Receives manner completions last) :
    ∃ events, Steps ⟨pool, .idle⟩ events ⟨last, .idle⟩ ∧
      spawns events = [] ∧ returned events = completions ∧
      givenUp events = [] := by
  obtain ⟨inner, isInner, steps, mayStop⟩ := received
  refine ⟨[.began manner] ++ (inner ++ [.returned completions]), ?_, ?_, ?_,
    ?_⟩
  · exact (Step.receive pool manner).steps.trans
      (steps.trans (Step.stop mayStop).steps)
  · rw [spawns_append, spawns_append, spawns_inner isInner]
    rfl
  · rw [returned_append, returned_append, returned_inner isInner]
    simp [Event.handedOver]
  · rw [givenUp_append, givenUp_append, givenUp_inner isInner]
    rfl

end Receives

namespace GivesUp

variable {pool last : Pool}

theorem steps (given : pool.GivesUp last) :
    ∃ events, Steps ⟨pool, .idle⟩ events ⟨last, .idle⟩ ∧
      spawns events = [] ∧ returned events = [] ∧
      givenUp events = pool.inFlight := by
  obtain ⟨inner, isInner, steps⟩ := given
  refine ⟨[.cancelled pool.inFlight] ++ (inner ++ [.allTold]), ?_, ?_, ?_,
    ?_⟩
  · exact (Step.cancel pool).steps.trans
      (steps.trans (Step.allTold last).steps)
  · rw [spawns_append, spawns_append, spawns_inner isInner]
    rfl
  · rw [returned_append, returned_append, returned_inner isInner]
    rfl
  · rw [givenUp_append, givenUp_append, givenUp_inner isInner]
    simp [Event.givenUp]

theorem course (given : pool.GivesUp last) (orderly : pool.Orderly) :
    ∃ events arrived,
      Course { pool with inFlight := [] } events last arrived := by
  obtain ⟨inner, isInner, steps⟩ := given
  have emptied : Orderly { pool with inFlight := [] } :=
    ⟨orderly.distinct, fun id flying => absurd flying List.not_mem_nil,
      orderly.once⟩
  obtain ⟨arrived, course⟩ := steps.course emptied isInner
  exact ⟨inner, arrived, course⟩

theorem inFlight_eq_nil (given : pool.GivesUp last) (orderly : pool.Orderly) :
    last.inFlight = [] := by
  obtain ⟨_, _, course⟩ := given.course orderly
  exact course.inFlight

theorem errands_eq (given : pool.GivesUp last) (orderly : pool.Orderly) :
    last.errands = pool.errands := by
  obtain ⟨_, _, course⟩ := given.course orderly
  exact course.errands

end GivesUp

end Pool

/-! ## The order of calls -/

/-- Calls stay in flight in the order in which they were handed in. -/
theorem Steps.inFlight_sorted {events : List Event} {system : System}
    (run : Run events system) :
    system.pool.inFlight.Pairwise fun first second =>
      first.id < second.id := by
  induction run with
  | none => exact .nil
  | step run next induction =>
      cases next with
      | spawn pool label call =>
          refine List.pairwise_append.mpr
            ⟨induction, List.pairwise_singleton _ _, ?_⟩
          intro task member new newMember
          rw [List.mem_singleton] at newMember
          subst newMember
          have known : task.id ∈ pool.workerIds :=
            run.orderly.known _ (List.mem_map_of_mem member)
          rw [run.accounts.workerIds_eq, List.mem_range'_1] at known
          rw [Pool.nextId, Nat.add_comm]
          exact known.2
      | cancel => exact .nil
      | take _ received =>
          obtain ⟨completion, _, _, ⟨_, _, flying⟩ | ⟨_, _, flying⟩⟩ :=
            Pool.receive?_eq_some received
          · exact flying ▸ induction.filter _
          · exact flying ▸ induction
      | tell | allTold | receive | stop | work => exact induction

end OperatorConsole.Remote
