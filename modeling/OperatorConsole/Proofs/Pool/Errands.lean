import Mathlib.Data.List.Count
import Mathlib.Data.List.Nodup
import OperatorConsole.Proofs.Pool.Schedule

/-!
# Errands of workers

What a worker was asked to do never changes, what it knows of its call is what
the events say, and it sends one completion or none.  These are the facts about
single operations and single workers from which the accounts of a pool are made
up.
-/

namespace OperatorConsole.Remote

/-- A call as a worker was given it. -/
structure Errand where
  id : Nat
  label : String
  call : Call
deriving DecidableEq, Repr

def Errand.task (errand : Errand) : Task :=
  ⟨errand.id, errand.label⟩

def Worker.errand (worker : Worker) : Errand :=
  ⟨worker.id, worker.label, worker.call⟩

def Pool.errands (pool : Pool) : List Errand :=
  pool.workers.map Worker.errand

/-- The calls that were handed in, numbered from one. -/
def errands (events : List Event) : List Errand :=
  (spawns events).mapIdx fun index spawn =>
    ⟨index + 1, spawn.1, spawn.2⟩

def Completion.task (completion : Completion) : Task :=
  ⟨completion.id, completion.label⟩

/-- A completion belongs to an errand whose call was made once and came to what
the completion says. -/
structure Completion.Answers (completion : Completion) (errand : Errand)
    (attempts : List (Call × Outcome)) : Prop where
  id : errand.id = completion.id
  label : errand.label = completion.label
  attempts : attempts = [(errand.call, completion.outcome)]

/-- What a worker knows of the attempts at its call. -/
def Worker.Knows (worker : Worker) (attempts : List (Call × Outcome)) :
    Prop :=
  match worker.stage with
  | .starting | .calling => attempts = []
  | .answered outcome | .sending outcome =>
      attempts = [(worker.call, outcome)]
  | .ended => True

/-! ## Numbers of calls -/

theorem errands_id (events : List Event) :
    (errands events).map Errand.id =
      List.range' 1 (spawns events).length := by
  apply List.ext_getElem
  · simp [errands]
  · intro index _ _
    simp [errands, Nat.add_comm]

theorem length_errands (events : List Event) :
    (errands events).length = (spawns events).length := by
  simp [errands]

theorem errands_spawned (events : List Event) (label : String)
    (call : Call) :
    errands (events ++ [.spawned label call]) =
      errands events ++ [⟨(errands events).length + 1, label, call⟩] := by
  simp [errands, Event.spawned?, List.mapIdx_append]

theorem errands_of_not_spawned {events : List Event} {event : Event}
    (other : event.spawned? = none) :
    errands (events ++ [event]) = errands events := by
  simp [errands, other]

namespace Pool

@[simp] theorem errands_id (pool : Pool) :
    pool.errands.map Errand.id = pool.workerIds := by
  simp [errands, workerIds, Worker.errand, Function.comp_def]

/-! ## Operations on a pool -/

@[simp] theorem errands_spawn (pool : Pool) (label : String) (call : Call) :
    (pool.spawn label call).errands =
      pool.errands ++ [⟨pool.nextId, label, call⟩] := by
  simp [errands, spawn, Worker.errand]

@[simp] theorem errands_cancelAll (pool : Pool) :
    pool.cancelAll.errands = pool.errands := by
  simp [errands, cancelAll, Worker.errand, Function.comp_def]

@[simp] theorem errands_tell (pool : Pool) (id : Nat) :
    (pool.tell id).errands = pool.errands := by
  simp only [errands, tell, List.map_map]
  apply List.map_congr_left
  intro worker _
  simp only [Function.comp_apply]
  split <;> rfl

@[simp] theorem inFlight_tell (pool : Pool) (id : Nat) :
    (pool.tell id).inFlight = pool.inFlight := rfl

@[simp] theorem channel_tell (pool : Pool) (id : Nat) :
    (pool.tell id).channel = pool.channel := rfl

theorem workers_step (pool : Pool) (id : Nat) (outcome : Outcome) :
    (pool.step id outcome).workers = pool.workers.map fun worker =>
      if worker.id = id then (worker.step outcome).1 else worker := by
  simp only [step, List.map_map]
  apply List.map_congr_left
  intro worker _
  simp only [Function.comp_apply]
  split <;> rfl

@[simp] theorem inFlight_step (pool : Pool) (id : Nat) (outcome : Outcome) :
    (pool.step id outcome).inFlight = pool.inFlight := rfl

end Pool

namespace Worker

section Step

variable (worker : Worker) (outcome : Outcome)

@[simp] theorem errand_step :
    (worker.step outcome).1.errand = worker.errand := by
  cases worker with
  | mk id label call cancelled stage => cases stage <;> rfl

@[simp] theorem id_step : (worker.step outcome).1.id = worker.id :=
  congrArg Errand.id (errand_step worker outcome)

@[simp] theorem cancelled_step :
    (worker.step outcome).1.cancelled = worker.cancelled := by
  cases worker with
  | mk id label call cancelled stage => cases stage <;> rfl

@[simp] theorem spawned?_event : (worker.event outcome).spawned? = none := by
  unfold event
  split <;> rfl

@[simp] theorem givenUp_event : (worker.event outcome).givenUp = [] := by
  unfold event
  split <;> rfl

@[simp] theorem counted_event : (worker.event outcome).counted = [] := by
  unfold event
  split <;> rfl

@[simp] theorem handedOver_event : (worker.event outcome).handedOver = [] := by
  unfold event
  split <;> rfl

theorem fetched?_event_of_ne {id : Nat} (other : worker.id ≠ id) :
    (worker.event outcome).fetched? id = none := by
  unfold event
  split <;> simp [Event.fetched?, other]

end Step

/-- A worker sends nothing but the answer to its errand. -/
theorem answers_of_sent {worker : Worker} {outcome : Outcome}
    {completion : Completion} {attempts : List (Call × Outcome)}
    (knows : worker.Knows attempts)
    (sent : completion ∈ (worker.step outcome).2) :
    completion.Answers worker.errand
      (attempts ++ ((worker.event outcome).fetched? worker.id).toList) := by
  cases worker with
  | mk id label call cancelled stage =>
      cases stage with
      | sending answer =>
          simp only [step, List.mem_singleton] at sent
          subst sent
          simp only [Knows] at knows
          subst knows
          exact ⟨rfl, rfl, rfl⟩
      | _ => simp [step] at sent

/-- After its step a worker knows of one attempt more, if it made one. -/
theorem Knows.step {worker : Worker} {attempts : List (Call × Outcome)}
    (knows : worker.Knows attempts) (outcome : Outcome) :
    (worker.step outcome).1.Knows
      (attempts ++
        ((worker.event outcome).fetched? worker.id).toList) := by
  cases worker with
  | mk id label call cancelled stage =>
      cases stage with
      | starting | answered answer =>
          cases cancelled <;>
            simp_all [Worker.step, Knows, event, Event.fetched?]
      | _ => simp_all [Worker.step, Knows, event, Event.fetched?]

/-- No worker makes a second attempt. -/
theorem fetched?_event_of_knows {worker : Worker}
    {attempts : List (Call × Outcome)} (knows : worker.Knows attempts)
    (outcome : Outcome) (made : attempts ≠ []) :
    (worker.event outcome).fetched? worker.id = none := by
  cases worker with
  | mk id label call cancelled stage =>
      cases stage with
      | calling => exact (made knows).elim
      | _ => rfl

/-- A worker that is not cancelled ends by sending one completion. -/
theorem count_sent {worker : Worker} (goesOn : worker.cancelled = false)
    (outcome : Outcome) :
    worker.hasEnded.toNat +
        ((worker.step outcome).2.map Completion.id).count worker.id =
      (worker.step outcome).1.hasEnded.toNat := by
  cases worker with
  | mk id label call cancelled stage =>
      simp only at goesOn
      subst goesOn
      cases stage <;> simp [step, hasEnded]

theorem id_of_sent {worker : Worker} {outcome : Outcome}
    {completion : Completion}
    (sent : completion ∈ (worker.step outcome).2) :
    completion.id = worker.id := by
  cases worker with
  | mk id label call cancelled stage =>
      cases stage with
      | sending answer =>
          simp only [step, List.mem_singleton] at sent
          exact congrArg Completion.id sent
      | _ => simp [step] at sent

theorem count_sent_of_ne {worker : Worker} {id : Nat}
    (other : worker.id ≠ id) (outcome : Outcome) :
    ((worker.step outcome).2.map Completion.id).count id = 0 := by
  refine List.count_eq_zero.mpr ?_
  intro member
  obtain ⟨completion, sent, same⟩ := List.mem_map.mp member
  exact other ((id_of_sent sent).symm.trans same)

end Worker

namespace Pool

@[simp] theorem errands_step (pool : Pool) (id : Nat) (outcome : Outcome) :
    (pool.step id outcome).errands = pool.errands := by
  rw [errands, workers_step, List.map_map]
  apply List.map_congr_left
  intro worker _
  simp only [Function.comp_apply]
  split
  · exact Worker.errand_step worker outcome
  · rfl

theorem workerIds_eq_of_errands {left right : Pool}
    (same : left.errands = right.errands) :
    left.workerIds = right.workerIds := by
  rw [← errands_id, ← errands_id, same]

/-- Numbers tell workers apart, so one worker changes and all others stay. -/
theorem mem_workers_step {pool : Pool} {worker after : Worker}
    {outcome : Outcome} (distinct : pool.workerIds.Nodup)
    (member : worker ∈ pool.workers)
    (afterMember : after ∈ (pool.step worker.id outcome).workers) :
    after = (worker.step outcome).1 ∨
      (after ∈ pool.workers ∧ worker.id ≠ after.id) := by
  rw [workers_step] at afterMember
  obtain ⟨before, beforeMember, rfl⟩ := List.mem_map.mp afterMember
  by_cases same : before.id = worker.id
  · have equal : before = worker :=
      List.inj_on_of_nodup_map distinct beforeMember member same
    subst equal
    simp
  · simp only [same, if_false]
    exact .inr ⟨beforeMember, Ne.symm same⟩

private theorem nothing_sent {workers : List Worker} {id : Nat}
    (absent : id ∉ workers.map Worker.id) (outcome : Outcome) :
    (workers.map fun worker =>
      (if worker.id = id then worker.step outcome
        else (worker, [])).2).flatten = [] := by
  simp only [List.flatten_eq_nil_iff, List.mem_map]
  rintro sent ⟨worker, member, rfl⟩
  have different : worker.id ≠ id := by
    intro same
    exact absent (List.mem_map.mpr ⟨worker, member, same⟩)
  simp [different]

/-- Workers have different numbers, so one of them sends what is sent. -/
theorem channel_step {pool : Pool} {worker : Worker}
    (distinct : pool.workerIds.Nodup) (member : worker ∈ pool.workers)
    (outcome : Outcome) :
    (pool.step worker.id outcome).channel =
      pool.channel ++ (worker.step outcome).2 := by
  obtain ⟨front, back, split⟩ := List.append_of_mem member
  simp only [workerIds, split, List.map_append, List.map_cons] at distinct
  obtain ⟨_, tailDistinct, apart⟩ := List.nodup_append.mp distinct
  have notBack := (List.nodup_cons.mp tailDistinct).1
  have notFront : worker.id ∉ front.map Worker.id := by
    intro inFront
    exact apart _ inFront _ List.mem_cons_self rfl
  simp [step, split, List.map_map, Function.comp_def, nothing_sent notFront,
    nothing_sent notBack]

theorem step_of_absent {pool : Pool} {id : Nat}
    (absent : id ∉ pool.workerIds) (outcome : Outcome) :
    pool.step id outcome = pool := by
  have others : ∀ worker ∈ pool.workers,
      (if worker.id = id then worker.step outcome else (worker, [])) =
        (worker, []) := by
    intro worker member
    refine if_neg fun same => absent ?_
    exact List.mem_map.mpr ⟨worker, member, same⟩
  rw [step, List.map_congr_left others]
  simp [Function.comp_def]

theorem isInFlight_iff {pool : Pool} {id : Nat} :
    pool.isInFlight id = true ↔ id ∈ pool.inFlightIds := by
  simp [isInFlight, inFlightIds]

/-- A completion that comes out of the channel counts if its call is in flight,
and then no longer is. -/
theorem receive?_eq_some {pool next : Pool} {counted : List Completion}
    (received : pool.receive? = some (counted, next)) :
    ∃ completion, pool.channel = completion :: next.channel ∧
      next.workers = pool.workers ∧
      ((completion.id ∈ pool.inFlightIds ∧ counted = [completion] ∧
          next.inFlight =
            pool.inFlight.filter (·.id != completion.id)) ∨
        (completion.id ∉ pool.inFlightIds ∧ counted = [] ∧
          next.inFlight = pool.inFlight)) := by
  unfold receive? at received
  split at received
  · cases received
  · next completion rest channel =>
      refine ⟨completion, ?_⟩
      rw [Option.some.injEq, accept] at received
      split at received
      · next present =>
          cases received
          exact ⟨channel, rfl, .inl ⟨isInFlight_iff.mp present, rfl, rfl⟩⟩
      · next absent =>
          cases received
          refine ⟨channel, rfl, .inr ⟨?_, rfl, rfl⟩⟩
          exact fun flying => absent (isInFlight_iff.mpr flying)

/-- What counts leaves the calls in flight, and nothing else does. -/
theorem inFlightIds_receive {pool next : Pool} {counted : List Completion}
    (distinct : pool.inFlightIds.Nodup)
    (received : pool.receive? = some (counted, next)) :
    (next.inFlightIds ++ counted.map Completion.id).Perm
      pool.inFlightIds := by
  obtain ⟨completion, _, _, counts⟩ := receive?_eq_some received
  rcases counts with ⟨present, rfl, flying⟩ | ⟨_, rfl, flying⟩
  · have erased : next.inFlightIds =
        pool.inFlightIds.erase completion.id := by
      rw [distinct.erase_eq_filter, inFlightIds, flying, inFlightIds,
        List.filter_map]
      rfl
    rw [erased]
    exact (List.perm_append_singleton _ _).trans
      (List.perm_cons_erase present).symm
  · rw [inFlightIds, flying, List.map_nil, List.append_nil, inFlightIds]

end Pool

end OperatorConsole.Remote
