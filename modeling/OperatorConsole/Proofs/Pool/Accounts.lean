import OperatorConsole.Proofs.Pool.Errands

/-!
# Accounts of a pool

What a schedule has done so far settles what is in a pool.  Every call that was
handed in is in flight, delivered or given up; a call in flight is still with
its worker or has one completion in the channel; and a completion says what the
one attempt at its call came to.  Every step keeps these accounts.
-/

namespace OperatorConsole.Remote

def deliveredIds (events : List Event) : List Nat :=
  (delivered events).map Completion.id

def givenUpIds (events : List Event) : List Nat :=
  (givenUp events).map Task.id

@[simp] theorem deliveredIds_append (before after : List Event) :
    deliveredIds (before ++ after) =
      deliveredIds before ++ deliveredIds after := by
  simp [deliveredIds]

@[simp] theorem givenUpIds_append (before after : List Event) :
    givenUpIds (before ++ after) = givenUpIds before ++ givenUpIds after := by
  simp [givenUpIds]

@[simp] theorem deliveredIds_single (event : Event) :
    deliveredIds [event] = event.counted.map Completion.id := by
  simp [deliveredIds]

@[simp] theorem givenUpIds_single (event : Event) :
    givenUpIds [event] = event.givenUp.map Task.id := by
  simp [givenUpIds]

/-- The accounts of a system after some events. -/
structure Accounts (events : List Event) (system : System) : Prop where
  recorded : system.pool.errands = errands events
  divided : (system.pool.inFlightIds ++ deliveredIds events ++
    givenUpIds events).Perm system.pool.workerIds
  awaited : ∀ task ∈ system.pool.inFlight,
    ∃ errand ∈ system.pool.errands, errand.task = task
  /-- A worker whose call is in flight has not been told to stop, and has sent
  its completion exactly if it has ended. -/
  balanced : ∀ worker ∈ system.pool.workers,
    worker.id ∈ system.pool.inFlightIds →
      worker.cancelled = false ∧
        system.pool.channelIds.count worker.id = worker.hasEnded.toNat
  known : ∀ worker ∈ system.pool.workers,
    worker.Knows (fetches worker.id events)
  unasked : ∀ id, id ∉ system.pool.workerIds → fetches id events = []
  answered : ∀ completion ∈ system.pool.channel ++ delivered events,
    ∃ errand ∈ system.pool.errands,
      completion.Answers errand (fetches completion.id events)
  untold : ∀ id ∈ system.activity.untold, id ∈ givenUpIds events
  handed : delivered events = returned events ++ system.activity.taken

namespace Accounts

variable {events : List Event} {pool : Pool} {activity : Activity}

theorem workerIds_eq {system : System} (accounts : Accounts events system) :
    system.pool.workerIds =
      List.range' 1 system.pool.workers.length := by
  have same := errands_id events
  rw [← accounts.recorded, Pool.errands_id, ← length_errands,
    ← accounts.recorded] at same
  simpa [Pool.errands] using same

theorem workerIds_nodup {system : System}
    (accounts : Accounts events system) : system.pool.workerIds.Nodup := by
  rw [accounts.workerIds_eq]
  exact List.nodup_range'

/-- No call is in two of the three places, nor twice in one. -/
theorem nodup {system : System} (accounts : Accounts events system) :
    (system.pool.inFlightIds ++ deliveredIds events ++
      givenUpIds events).Nodup :=
  accounts.divided.nodup_iff.mpr accounts.workerIds_nodup

theorem channelId_mem {system : System} (accounts : Accounts events system)
    {id : Nat} (member : id ∈ system.pool.channelIds) :
    id ∈ system.pool.workerIds := by
  obtain ⟨completion, sent, rfl⟩ := List.mem_map.mp member
  obtain ⟨errand, known, answers⟩ :=
    accounts.answered completion (List.mem_append_left _ sent)
  rw [← Pool.errands_id, ← answers.id]
  exact List.mem_map_of_mem known

theorem not_givenUp_of_inFlight {system : System}
    (accounts : Accounts events system) {id : Nat}
    (inFlight : id ∈ system.pool.inFlightIds) : id ∉ givenUpIds events := by
  intro gone
  obtain ⟨_, _, apart⟩ := List.nodup_append.mp accounts.nodup
  exact apart id (List.mem_append_left _ inFlight) id gone rfl

theorem not_delivered_of_inFlight {system : System}
    (accounts : Accounts events system) {id : Nat}
    (inFlight : id ∈ system.pool.inFlightIds) : id ∉ deliveredIds events := by
  intro counted
  obtain ⟨_, _, apart⟩ :=
    List.nodup_append.mp (List.nodup_append.mp accounts.nodup).1
  exact apart id inFlight id counted rfl

theorem start : Accounts [] System.start where
  recorded := rfl
  divided := .nil
  awaited := by simp [System.start, Pool.empty]
  balanced := by simp [System.start, Pool.empty]
  known := by simp [System.start, Pool.empty]
  unasked := fun _ _ => rfl
  answered := by simp [System.start, Pool.empty, delivered]
  untold := by simp [System.start, Activity.untold]
  handed := rfl

/-- Steps that leave the pool as it is. -/
theorem of_same_pool {next : Activity} {event : Event}
    (accounts : Accounts events ⟨pool, activity⟩)
    (notSpawned : event.spawned? = none) (noneGivenUp : event.givenUp = [])
    (noneCounted : event.counted = [])
    (noneFetched : ∀ id, event.fetched? id = none)
    (untold : next.untold = [])
    (handed : activity.taken = event.handedOver ++ next.taken) :
    Accounts (events ++ [event]) ⟨pool, next⟩ where
  recorded := by
    rw [errands_of_not_spawned notSpawned]
    exact accounts.recorded
  divided := by
    simpa [noneGivenUp, noneCounted] using accounts.divided
  awaited := accounts.awaited
  balanced := accounts.balanced
  known := by simpa [noneFetched] using accounts.known
  unasked := by simpa [noneFetched] using accounts.unasked
  answered := by simpa [noneFetched, noneCounted] using accounts.answered
  untold := by simp [untold]
  handed := by
    rw [delivered_append, delivered_single, noneCounted, returned_append,
      returned_single, List.append_nil, List.append_assoc, ← handed]
    exact accounts.handed

theorem spawn (accounts : Accounts events ⟨pool, .idle⟩) (label : String)
    (call : Call) :
    Accounts (events ++ [.spawned label call])
      ⟨pool.spawn label call, .idle⟩ := by
  have fresh : pool.nextId ∉ pool.workerIds := by
    rw [accounts.workerIds_eq]
    simp [Pool.nextId, Nat.add_comm]
  have workerIds :
      (pool.spawn label call).workerIds = pool.workerIds ++ [pool.nextId] := by
    simp [Pool.workerIds, Pool.spawn]
  have notFlying : ∀ worker ∈ pool.workers, worker.id ≠ pool.nextId := by
    intro worker member same
    exact fresh (same ▸ List.mem_map_of_mem member)
  constructor
  case recorded =>
    rw [errands_spawned, ← accounts.recorded]
    simp [Pool.errands, Pool.spawn, Worker.errand, Pool.nextId]
  case divided =>
    rw [workerIds]
    have moved : (pool.nextId :: (deliveredIds events ++
        givenUpIds events)).Perm
        (deliveredIds events ++ (givenUpIds events ++ [pool.nextId])) := by
      rw [← List.append_assoc]
      exact (List.perm_append_singleton _ _).symm
    refine List.Perm.trans ?_ (accounts.divided.append_right [pool.nextId])
    simpa [Pool.inFlightIds, Pool.spawn, Event.counted, Event.givenUp] using
      moved.append_left pool.inFlightIds
  case awaited =>
    intro task member
    rw [Pool.errands_spawn]
    rcases List.mem_append.mp member with old | new
    · obtain ⟨errand, known, same⟩ := accounts.awaited task old
      exact ⟨errand, List.mem_append_left _ known, same⟩
    · rw [List.mem_singleton] at new
      subst new
      exact ⟨_, List.mem_append_right _ (List.mem_singleton_self _), rfl⟩
  case balanced =>
    intro worker member flying
    rcases List.mem_append.mp member with old | new
    · refine accounts.balanced worker old ?_
      simpa [Pool.inFlightIds, Pool.spawn, notFlying worker old] using flying
    · rw [List.mem_singleton] at new
      subst new
      refine ⟨rfl, ?_⟩
      refine List.count_eq_zero.mpr ?_
      intro sent
      exact fresh (accounts.channelId_mem sent)
  case known =>
    intro worker member
    rcases List.mem_append.mp member with old | new
    · simpa [Event.fetched?] using accounts.known worker old
    · rw [List.mem_singleton] at new
      subst new
      simpa [Event.fetched?, Worker.Knows] using
        accounts.unasked pool.nextId fresh
  case unasked =>
    intro id absent
    rw [workerIds, List.mem_append, not_or] at absent
    simpa [Event.fetched?] using accounts.unasked id absent.1
  case answered =>
    intro completion member
    obtain ⟨errand, known, answers⟩ :=
      accounts.answered completion (by
        simpa [Pool.spawn, Event.counted] using member)
    refine ⟨errand, ?_, ?_⟩
    · rw [Pool.errands_spawn]
      exact List.mem_append_left _ known
    · simpa [Event.fetched?] using answers
  case untold => simp [Activity.untold]
  case handed =>
    simpa [Event.counted, Event.handedOver] using accounts.handed

theorem cancel (accounts : Accounts events ⟨pool, .idle⟩) :
    Accounts (events ++ [.cancelled pool.inFlight])
      ⟨{ pool with inFlight := [] }, .cancelling pool.inFlightIds⟩ where
  recorded := by
    rw [errands_of_not_spawned rfl]
    exact accounts.recorded
  divided := by
    have moved : (deliveredIds events ++ (givenUpIds events ++
        pool.inFlightIds)).Perm
        (pool.inFlightIds ++ (deliveredIds events ++ givenUpIds events)) := by
      rw [← List.append_assoc]
      exact List.perm_append_comm
    refine List.Perm.trans ?_ accounts.divided
    simpa [Event.counted, Event.givenUp, Pool.inFlightIds] using moved
  awaited := by simp
  balanced := by simp [Pool.inFlightIds]
  known := by simpa [Event.fetched?] using accounts.known
  unasked := by
    simpa [Event.fetched?, Pool.workerIds] using accounts.unasked
  answered := by
    simpa [Event.fetched?, Event.counted, Pool.errands] using
      accounts.answered
  untold := by
    intro id untold
    rw [givenUpIds_append]
    exact List.mem_append_right _ (by
      simpa [Activity.untold, Event.givenUp, Pool.inFlightIds] using
        untold)
  handed := by
    simpa [Event.counted, Event.handedOver, Activity.taken] using
      accounts.handed

theorem tell {id : Nat} {untold : List Nat}
    (accounts : Accounts events ⟨pool, .cancelling (id :: untold)⟩) :
    Accounts (events ++ [.told id]) ⟨pool.tell id, .cancelling untold⟩ := by
  have sameIds : (pool.tell id).workerIds = pool.workerIds :=
    Pool.workerIds_eq_of_errands (Pool.errands_tell pool id)
  have gone : id ∈ givenUpIds events :=
    accounts.untold id List.mem_cons_self
  constructor
  case recorded =>
    rw [errands_of_not_spawned rfl]
    simpa using accounts.recorded
  case divided =>
    rw [sameIds]
    simpa [Event.counted, Event.givenUp, Pool.inFlightIds] using
      accounts.divided
  case awaited => simpa using accounts.awaited
  case balanced =>
    intro worker member flying
    obtain ⟨before, beforeMember, rfl⟩ := List.mem_map.mp member
    by_cases same : before.id = id
    · -- The worker that is told has no call in flight.
      rw [if_pos same] at flying
      have flying : id ∈ pool.inFlightIds := by
        simpa [same, Pool.inFlightIds] using flying
      exact (accounts.not_givenUp_of_inFlight flying gone).elim
    · rw [if_neg same] at flying ⊢
      exact accounts.balanced before beforeMember flying
  case known =>
    intro worker member
    obtain ⟨before, beforeMember, rfl⟩ := List.mem_map.mp member
    have knows := accounts.known before beforeMember
    split <;> simpa [Event.fetched?, Worker.Knows] using knows
  case unasked =>
    rw [sameIds]
    simpa [Event.fetched?] using accounts.unasked
  case answered =>
    simpa [Event.fetched?, Event.counted] using accounts.answered
  case untold =>
    intro other member
    rw [givenUpIds_append]
    exact List.mem_append_left _
      (accounts.untold other (List.mem_cons_of_mem _ member))
  case handed =>
    simpa [Event.counted, Event.handedOver, Activity.taken] using
      accounts.handed

theorem take {manner : Manner} {taken counted : List Completion}
    {next : Pool}
    (accounts : Accounts events ⟨pool, .receiving manner taken⟩)
    (received : pool.receive? = some (counted, next)) :
    Accounts (events ++ [.took counted])
      ⟨next, .receiving manner (taken ++ counted)⟩ := by
  obtain ⟨completion, channel, workers, counts⟩ :=
    Pool.receive?_eq_some received
  have sameErrands : next.errands = pool.errands := by
    rw [Pool.errands, workers, Pool.errands]
  have sameIds : next.workerIds = pool.workerIds :=
    Pool.workerIds_eq_of_errands sameErrands
  have distinct : pool.inFlightIds.Nodup :=
    (List.nodup_append.mp (List.nodup_append.mp accounts.nodup).1).1
  have fewer : ∀ task ∈ next.inFlight,
      task ∈ pool.inFlight ∧ task.id ≠ completion.id := by
    intro task member
    rcases counts with ⟨_, _, flying⟩ | ⟨absent, _, flying⟩
    · rw [flying] at member
      simpa using member
    · rw [flying] at member
      refine ⟨member, fun same => absent ?_⟩
      rw [← same]
      exact List.mem_map_of_mem member
  constructor
  case recorded =>
    rw [errands_of_not_spawned rfl, sameErrands]
    exact accounts.recorded
  case divided =>
    rw [sameIds]
    refine List.Perm.trans ?_ accounts.divided
    have moved : (next.inFlightIds ++ (deliveredIds events ++
        counted.map Completion.id)).Perm
        (pool.inFlightIds ++ deliveredIds events) := by
      refine (List.perm_append_comm.append_left _).trans ?_
      rw [← List.append_assoc]
      exact (Pool.inFlightIds_receive distinct received).append_right _
    simpa [Event.counted, Event.givenUp] using
      moved.append_right (givenUpIds events)
  case awaited =>
    intro task member
    rw [sameErrands]
    exact accounts.awaited task (fewer task member).1
  case balanced =>
    intro worker member flying
    obtain ⟨task, taskMember, same⟩ := List.mem_map.mp flying
    obtain ⟨before, other⟩ := fewer task taskMember
    rw [same] at other
    obtain ⟨goesOn, count⟩ :=
      accounts.balanced worker (workers ▸ member)
        (same ▸ List.mem_map_of_mem before)
    refine ⟨goesOn, ?_⟩
    rw [← count]
    simp [Pool.channelIds, channel, Ne.symm other]
  case known =>
    rw [workers]
    simpa [Event.fetched?] using accounts.known
  case unasked =>
    rw [sameIds]
    simpa [Event.fetched?] using accounts.unasked
  case answered =>
    intro other member
    rw [sameErrands]
    have before : other ∈ pool.channel ++ delivered events := by
      rw [channel]
      rcases counts with ⟨_, rfl, _⟩ | ⟨_, rfl, _⟩
      · simp only [delivered_append, delivered_single, Event.counted,
          List.mem_append, List.mem_cons] at member ⊢
        tauto
      · simp only [delivered_append, delivered_single, Event.counted,
          List.mem_append, List.not_mem_nil, List.mem_cons] at member ⊢
        tauto
    simpa [Event.fetched?] using accounts.answered other before
  case untold => simp [Activity.untold]
  case handed =>
    have handed := accounts.handed
    simp only [Activity.taken] at handed
    simp [Event.counted, Event.handedOver, Activity.taken, handed]

theorem work {worker : Worker}
    (accounts : Accounts events ⟨pool, activity⟩)
    (member : worker ∈ pool.workers) (outcome : Outcome) :
    Accounts (events ++ [worker.event outcome])
      ⟨pool.step worker.id outcome, activity⟩ := by
  have distinct : pool.workerIds.Nodup := accounts.workerIds_nodup
  have channel := Pool.channel_step distinct member outcome
  have sameIds : (pool.step worker.id outcome).workerIds = pool.workerIds :=
    Pool.workerIds_eq_of_errands (Pool.errands_step pool worker.id outcome)
  have knows := accounts.known worker member
  constructor
  case recorded =>
    rw [errands_of_not_spawned (Worker.spawned?_event worker outcome),
      Pool.errands_step]
    exact accounts.recorded
  case divided =>
    rw [sameIds]
    simpa [Pool.inFlightIds] using accounts.divided
  case awaited => simpa using accounts.awaited
  case balanced =>
    intro after afterMember flying
    simp only [Pool.channelIds, channel, List.map_append, List.count_append]
    rcases Pool.mem_workers_step distinct member afterMember with
      rfl | ⟨before, other⟩
    · rw [Worker.id_step] at flying ⊢
      obtain ⟨goesOn, count⟩ := accounts.balanced worker member flying
      simp only [Pool.channelIds] at count
      refine ⟨by rw [Worker.cancelled_step, goesOn], ?_⟩
      rw [count]
      exact Worker.count_sent goesOn outcome
    · obtain ⟨goesOn, count⟩ := accounts.balanced after before flying
      simp only [Pool.channelIds] at count
      refine ⟨goesOn, ?_⟩
      rw [count, Worker.count_sent_of_ne other outcome, Nat.add_zero]
  case known =>
    intro after afterMember
    rcases Pool.mem_workers_step distinct member afterMember with
      rfl | ⟨before, other⟩
    · rw [Worker.id_step, fetches_append, fetches_single]
      exact knows.step outcome
    · simpa [Worker.fetched?_event_of_ne worker outcome other] using
        accounts.known after before
  case unasked =>
    intro id absent
    rw [sameIds] at absent
    have other : worker.id ≠ id := by
      rintro rfl
      exact absent (List.mem_map_of_mem member)
    simpa [Worker.fetched?_event_of_ne worker outcome other] using
      accounts.unasked id absent
  case answered =>
    intro completion completionMember
    rw [Pool.errands_step, fetches_append, fetches_single]
    rw [channel] at completionMember
    simp only [delivered_append, delivered_single, Worker.counted_event,
      List.append_nil, List.mem_append] at completionMember
    have earlier : completion ∈ pool.channel ++ delivered events →
        ∃ errand ∈ pool.errands, completion.Answers errand
          (fetches completion.id events ++
            ((worker.event outcome).fetched? completion.id).toList) := by
      intro before
      obtain ⟨errand, known, answers⟩ := accounts.answered completion before
      refine ⟨errand, known, ?_⟩
      have nothingNew :
          (worker.event outcome).fetched? completion.id = none := by
        by_cases same : worker.id = completion.id
        · rw [← same]
          refine Worker.fetched?_event_of_knows knows outcome ?_
          rw [same, answers.attempts]
          exact List.cons_ne_nil _ _
        · exact Worker.fetched?_event_of_ne worker outcome same
      simpa [nothingNew] using answers
    rcases completionMember with (old | sent) | counted
    · exact earlier (List.mem_append_left _ old)
    · refine ⟨worker.errand, List.mem_map_of_mem member, ?_⟩
      rw [Worker.id_of_sent sent]
      exact Worker.answers_of_sent knows sent
    · exact earlier (List.mem_append_right _ counted)
  case untold =>
    intro id untold
    rw [givenUpIds_append]
    exact List.mem_append_left _ (accounts.untold id untold)
  case handed => simpa using accounts.handed

/-- Every step keeps the accounts. -/
theorem step {before after : System} {event : Event}
    (accounts : Accounts events before) (next : Step before event after) :
    Accounts (events ++ [event]) after := by
  cases next with
  | spawn pool label call => exact accounts.spawn label call
  | cancel pool => exact accounts.cancel
  | tell pool id untold => exact accounts.tell
  | allTold pool =>
      exact accounts.of_same_pool rfl rfl rfl (fun _ => rfl) rfl rfl
  | receive pool manner =>
      exact accounts.of_same_pool rfl rfl rfl (fun _ => rfl) rfl rfl
  | take _ received => exact accounts.take received
  | @stop pool manner taken _ =>
      refine accounts.of_same_pool rfl rfl rfl (fun _ => rfl) rfl ?_
      simp [Activity.taken, Event.handedOver]
  | work outcome member => exact accounts.work member outcome

end Accounts

/-- A schedule that begins with an empty pool has its accounts in order. -/
theorem Steps.accounts {events : List Event} {system : System}
    (run : Run events system) : Accounts events system := by
  induction run with
  | none => exact Accounts.start
  | step _ next induction => exact induction.step next

end OperatorConsole.Remote
