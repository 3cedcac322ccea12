import OperatorConsole.Proofs.Pool.Accounts
import OperatorConsole.Proofs.Pool.Operations

/-!
# Delivery of answers

Whatever the order in which the console and the workers move, an answer that
the console gets is the answer to its call and comes once, and no answer to a
call that was given up comes at all.  No other answer is lost: when all workers
have ended, draining yields the answers to all calls in flight.
-/

namespace OperatorConsole.Remote

namespace Accounts

variable {events : List Event} {system : System}

theorem delivered_of_returned (accounts : Accounts events system)
    {completion : Completion} (member : completion ∈ returned events) :
    completion ∈ delivered events := by
  rw [accounts.handed]
  exact List.mem_append_left _ member

theorem returned_nodup (accounts : Accounts events system) :
    ((returned events).map Completion.id).Nodup := by
  have delivered : (deliveredIds events).Nodup :=
    (List.nodup_append.mp (List.nodup_append.mp accounts.nodup).1).2.1
  rw [deliveredIds, accounts.handed, List.map_append] at delivered
  exact (List.nodup_append.mp delivered).1

theorem not_returned_of_givenUp (accounts : Accounts events system)
    {id : Nat} (gone : id ∈ givenUpIds events) :
    id ∉ (returned events).map Completion.id := by
  intro back
  obtain ⟨completion, member, same⟩ := List.mem_map.mp back
  have came : id ∈ deliveredIds events := by
    rw [← same]
    exact List.mem_map_of_mem (accounts.delivered_of_returned member)
  obtain ⟨_, _, apart⟩ := List.nodup_append.mp accounts.nodup
  exact apart id (List.mem_append_right _ came) id gone rfl

/-- Calls with one number are one call. -/
theorem task_eq_of_id (accounts : Accounts events system)
    {left right : Errand} (leftKnown : left ∈ system.pool.errands)
    (rightKnown : right ∈ system.pool.errands) (same : left.id = right.id) :
    left.task = right.task := by
  have distinct : (system.pool.errands.map Errand.id).Nodup := by
    rw [Pool.errands_id]
    exact accounts.workerIds_nodup
  rw [List.inj_on_of_nodup_map distinct leftKnown rightKnown same]

theorem perm_of_ids (accounts : Accounts events system)
    {left right : List Task}
    (leftKnown : ∀ task ∈ left,
      ∃ errand ∈ system.pool.errands, errand.task = task)
    (rightKnown : ∀ task ∈ right,
      ∃ errand ∈ system.pool.errands, errand.task = task)
    (distinct : (right.map Task.id).Nodup)
    (permutation : (left.map Task.id).Perm (right.map Task.id)) :
    left.Perm right := by
  have within : ∀ {first second : List Task},
      (∀ task ∈ first, ∃ errand ∈ system.pool.errands,
        errand.task = task) →
      (∀ task ∈ second, ∃ errand ∈ system.pool.errands,
        errand.task = task) →
      (first.map Task.id).Perm (second.map Task.id) →
      ∀ task ∈ first, task ∈ second := by
    intro first second firstKnown secondKnown ids task member
    obtain ⟨other, otherMember, same⟩ :=
      List.mem_map.mp (ids.mem_iff.mp (List.mem_map_of_mem member))
    obtain ⟨errand, known, rfl⟩ := firstKnown task member
    obtain ⟨otherErrand, otherKnown, rfl⟩ := secondKnown other otherMember
    rw [accounts.task_eq_of_id known otherKnown same.symm]
    exact otherMember
  have leftDistinct := permutation.nodup_iff.mpr distinct
  refine (List.perm_ext_iff_of_nodup leftDistinct.of_map
    distinct.of_map).mpr fun task => ?_
  exact ⟨within leftKnown rightKnown permutation task,
    within rightKnown leftKnown permutation.symm task⟩

/-- Where a call in flight is. -/
theorem with_worker_or_in_channel (accounts : Accounts events system)
    {id : Nat} (flying : id ∈ system.pool.inFlightIds) :
    ∃ worker ∈ system.pool.workers, worker.id = id ∧
      ((worker.hasEnded = false ∧
          system.pool.channelIds.count id = 0) ∨
        (worker.hasEnded = true ∧
          system.pool.channelIds.count id = 1)) := by
  have known : id ∈ system.pool.workerIds :=
    accounts.divided.mem_iff.mp
      (List.mem_append_left _ (List.mem_append_left _ flying))
  obtain ⟨worker, member, rfl⟩ := List.mem_map.mp known
  obtain ⟨_, count⟩ := accounts.balanced worker member flying
  refine ⟨worker, member, rfl, ?_⟩
  cases ended : worker.hasEnded with
  | false => exact .inl ⟨rfl, by simpa [ended] using count⟩
  | true => exact .inr ⟨rfl, by simpa [ended] using count⟩

/-- With an empty channel and all workers at their end nothing is in flight. -/
theorem inFlight_eq_nil (accounts : Accounts events system)
    (emptied : system.pool.channel = [])
    (ended : ∀ worker ∈ system.pool.workers, worker.hasEnded = true) :
    system.pool.inFlight = [] := by
  refine List.eq_nil_iff_forall_not_mem.mpr fun task member => ?_
  have flying : task.id ∈ system.pool.inFlightIds :=
    List.mem_map_of_mem member
  obtain ⟨worker, workerMember, _, busy | waiting⟩ :=
    accounts.with_worker_or_in_channel flying
  · rw [ended worker workerMember] at busy
    cases busy.1
  · simp [Pool.channelIds, emptied] at waiting

end Accounts

/-- Draining after all workers have ended completes every call in flight, and
each of them once. -/
theorem drain_perm_inFlight {events : List Event} {pool : Pool}
    (run : Run events ⟨pool, .idle⟩)
    (ended : ∀ worker ∈ pool.workers, worker.hasEnded = true) :
    (pool.drain.1.map Completion.task).Perm pool.inFlight ∧
      pool.drain.2.inFlight = [] := by
  obtain ⟨pieces, whole, steps, emptied⟩ := pool.receive_steps .drain
  rw [← Pool.drain_eq_receive] at whole steps emptied
  have before := run.accounts
  have after := (run.trans steps).accounts
  have workers : pool.drain.2.workers = pool.workers :=
    pool.receive_workers .drain
  have errands : pool.drain.2.errands = pool.errands :=
    pool.receive_errands .drain
  have landed : pool.drain.2.inFlight = [] :=
    after.inFlight_eq_nil emptied (by rwa [workers])
  refine ⟨?_, landed⟩
  have ids : (pool.drain.1.map Completion.id).Perm pool.inFlightIds := by
    have divided := after.divided
    rw [Pool.workerIds_eq_of_errands errands] at divided
    have same := divided.trans before.divided.symm
    simp only [Pool.inFlightIds, landed, List.map_nil, List.nil_append,
      deliveredIds, delivered_append, delivered_receiving, whole,
      givenUpIds, givenUp_append, givenUp_receiving, List.append_nil,
      List.map_append] at same
    have fewer := (List.perm_append_right_iff _).mp same
    exact (List.perm_append_left_iff _).mp
      (fewer.trans List.perm_append_comm)
  refine before.perm_of_ids ?_ before.awaited ?_ ?_
  · intro task member
    obtain ⟨completion, drained, rfl⟩ := List.mem_map.mp member
    obtain ⟨errand, known, answers⟩ := after.answered completion (by
      simp [delivered_receiving, whole, drained])
    refine ⟨errand, errands ▸ known, ?_⟩
    rw [Errand.task, answers.id, answers.label, Completion.task]
  · exact (List.nodup_append.mp (List.nodup_append.mp before.nodup).1).1
  · rw [List.map_map]
    exact ids

/-- What the console gets back: one answer for a call at most, which is the
answer to the one attempt at that call, and none for a call that was in flight
when calls were given up. -/
theorem returned_answers_once {events : List Event} {system : System}
    (run : Run events system) :
    ((returned events).map Completion.id).Nodup ∧
      (∀ completion ∈ returned events, ∃ errand ∈ errands events,
        completion.Answers errand (fetches completion.id events)) ∧
      (∀ tasks, .cancelled tasks ∈ events → ∀ task ∈ tasks,
        task.id ∉ (returned events).map Completion.id) := by
  have accounts := run.accounts
  refine ⟨accounts.returned_nodup, ?_, ?_⟩
  · intro completion member
    rw [← accounts.recorded]
    exact accounts.answered completion
      (List.mem_append_right _ (accounts.delivered_of_returned member))
  · intro tasks cancelled task member
    refine accounts.not_returned_of_givenUp ?_
    exact List.mem_map_of_mem
      (List.mem_flatMap.mpr ⟨_, cancelled, member⟩)

/-- At any moment the calls that were handed in are divided into those in
flight, delivered and given up.  A call in flight is with a worker or waits in
the channel, so that nothing is missing when all workers have ended. -/
theorem calls_divided_and_drained {events : List Event} {system : System}
    (run : Run events system) :
    (system.pool.inFlightIds ++ deliveredIds events ++
        givenUpIds events).Nodup ∧
      (system.pool.inFlightIds ++ deliveredIds events ++
        givenUpIds events).Perm ((errands events).map Errand.id) ∧
      system.pool.pending = system.pool.inFlightIds.length ∧
      (∀ id ∈ system.pool.inFlightIds,
        ∃ worker ∈ system.pool.workers, worker.id = id ∧
          ((worker.hasEnded = false ∧
              system.pool.channelIds.count id = 0) ∨
            (worker.hasEnded = true ∧
              system.pool.channelIds.count id = 1))) ∧
      (system.activity = .idle →
        (∀ worker ∈ system.pool.workers, worker.hasEnded = true) →
        (system.pool.drain.1.map Completion.task).Perm
            system.pool.inFlight ∧
          system.pool.drain.2.pending = 0) := by
  have accounts := run.accounts
  refine ⟨accounts.nodup, ?_, ?_, ?_, ?_⟩
  · rw [← accounts.recorded, Pool.errands_id]
    exact accounts.divided
  · simp [Pool.pending, Pool.inFlightIds]
  · exact fun id flying => accounts.with_worker_or_in_channel flying
  · intro idle ended
    obtain ⟨pool, activity⟩ := system
    subst idle
    obtain ⟨whole, landed⟩ := drain_perm_inFlight run ended
    exact ⟨whole, by rw [Pool.pending, landed, List.length_nil]⟩

/-! ## A late answer -/

/-- The call `get a` is given up when its worker has looked for the last time
whether it is cancelled, and its answer arrives before that of `get b`. -/
def lateEvents : List Event := [
  .spawned "get a" (.act "get a"), .moved 1,
  .fetched 1 (.act "get a") (.ok "old"), .moved 1,
  .cancelled [⟨1, "get a"⟩], .told 1, .allTold,
  .spawned "get b" (.act "get b"), .moved 1, .moved 2,
  .fetched 2 (.act "get b") (.ok "new"), .moved 2, .moved 2]

def lateSystem : System where
  pool :=
    { workers := [
        ⟨1, "get a", .act "get a", true, .ended⟩,
        ⟨2, "get b", .act "get b", false, .ended⟩]
      inFlight := [⟨2, "get b"⟩]
      channel := [⟨1, "get a", .ok "old"⟩, ⟨2, "get b", .ok "new"⟩] }
  activity := .idle

theorem Step.workAt (pool : Pool) (activity : Activity) (index : Nat)
    (inside : index < pool.workers.length) (outcome : Outcome) :
    Step ⟨pool, activity⟩ (pool.workers[index].event outcome)
      ⟨pool.step pool.workers[index].id outcome, activity⟩ :=
  .work outcome (List.getElem_mem inside)

theorem late_run : Run lateEvents lateSystem := by
  have run : Run _ _ := .none
  have run := run.step (.spawn _ "get a" (.act "get a"))
  have run := run.step (Step.workAt _ _ 0 (by decide) (.ok "old"))
  have run := run.step (Step.workAt _ _ 0 (by decide) (.ok "old"))
  have run := run.step (Step.workAt _ _ 0 (by decide) (.ok "old"))
  have run := run.step (.cancel _)
  have run := run.step (.tell _ _ _)
  have run := run.step (.allTold _)
  have run := run.step (.spawn _ "get b" (.act "get b"))
  have run := run.step (Step.workAt _ _ 0 (by decide) (.ok "old"))
  have run := run.step (Step.workAt _ _ 1 (by decide) (.ok "new"))
  have run := run.step (Step.workAt _ _ 1 (by decide) (.ok "new"))
  have run := run.step (Step.workAt _ _ 1 (by decide) (.ok "new"))
  have run := run.step (Step.workAt _ _ 1 (by decide) (.ok "new"))
  exact run

/-- The events of draining the late answer and the other one. -/
def lateDrain : List Event :=
  Manner.drain.events [[], [⟨2, "get b", .ok "new"⟩]]

theorem late_drain_run :
    Run (lateEvents ++ lateDrain) ⟨lateSystem.pool.drain.2, .idle⟩ := by
  have run := late_run.step (.receive _ .drain)
  have run := run.step (.take rfl rfl)
  have run := run.step (.take rfl rfl)
  have emptied : Manner.drain.MayStop lateSystem.pool.drain.2 := rfl
  exact run.step (.stop emptied)

theorem late_answer_not_returned :
    Run (lateEvents ++ lateDrain) ⟨lateSystem.pool.drain.2, .idle⟩ ∧
      returned (lateEvents ++ lateDrain) = [⟨2, "get b", .ok "new"⟩] ∧
      ((returned (lateEvents ++ lateDrain)).map Completion.id).Nodup ∧
      (∃ errand ∈ errands (lateEvents ++ lateDrain),
        Completion.Answers ⟨2, "get b", .ok "new"⟩ errand
          (fetches 2 (lateEvents ++ lateDrain))) ∧
      1 ∉ (returned (lateEvents ++ lateDrain)).map Completion.id := by
  obtain ⟨once, answers, gone⟩ := returned_answers_once late_drain_run
  have back :
      returned (lateEvents ++ lateDrain) = [⟨2, "get b", .ok "new"⟩] := rfl
  refine ⟨late_drain_run, back, once, ?_, ?_⟩
  · exact answers ⟨2, "get b", .ok "new"⟩ (back ▸ List.mem_singleton_self _)
  · exact gone [⟨1, "get a"⟩] (by simp [lateEvents]) ⟨1, "get a"⟩
      (List.mem_singleton_self _)

theorem late_system_drained :
    Run lateEvents lateSystem ∧ lateSystem.activity = .idle ∧
      (∀ worker ∈ lateSystem.pool.workers, worker.hasEnded = true) ∧
      (lateSystem.pool.inFlightIds ++ deliveredIds lateEvents ++
        givenUpIds lateEvents).Perm ((errands lateEvents).map Errand.id) ∧
      (lateSystem.pool.drain.1.map Completion.task).Perm
        [⟨2, "get b"⟩] ∧
      lateSystem.pool.drain.2.pending = 0 := by
  have ended : ∀ worker ∈ lateSystem.pool.workers,
      worker.hasEnded = true := by
    simp [lateSystem, Worker.hasEnded]
  obtain ⟨_, divided, _, _, drained⟩ := calls_divided_and_drained late_run
  exact ⟨late_run, rfl, ended, divided, drained rfl ended⟩

end OperatorConsole.Remote
