import OperatorConsole.Proofs.Pool.Errands

/-!
# Whole operations as schedules

Draining and waiting are schedules in which no worker moves until the operation
has ended, and so are the steps by which calls are given up.  What holds for
every schedule therefore holds for pools on which these operations are carried
out whole.
-/

namespace OperatorConsole.Remote

/-- What has arrived is handed out even if no time is left.  So waiting ends
because no call is in flight any longer or nothing more has arrived. -/
def Manner.Ends : Manner → Pool → Prop
  | .drain => fun pool => pool.channel = []
  | .wait => fun pool => pool.inFlight = [] ∨ pool.channel = []

theorem Manner.Ends.mayStop {manner : Manner} {pool : Pool}
    (ends : manner.Ends pool) : manner.MayStop pool := by
  cases manner with
  | drain => exact ends
  | wait => trivial

theorem Manner.ends_of_empty {manner : Manner} {pool : Pool}
    (nothing : pool.channel = []) : manner.Ends pool := by
  cases manner with
  | drain => exact nothing
  | wait => exact .inr nothing

/-- The events of receiving, by what counted each time something came out of
the channel. -/
def Manner.events (manner : Manner) (pieces : List (List Completion)) :
    List Event :=
  [.began manner] ++ (pieces.map Event.took ++ [.returned pieces.flatten])

section Took

variable (pieces : List (List Completion))

@[simp] theorem givenUp_took : givenUp (pieces.map .took) = [] := by
  simp [givenUp, List.flatMap_map, Event.givenUp]

@[simp] theorem delivered_took :
    delivered (pieces.map .took) = pieces.flatten := by
  simp [delivered, List.flatMap_map, Event.counted, List.flatMap_id']

end Took

section Receiving

variable (manner : Manner) (pieces : List (List Completion))

@[simp] theorem givenUp_receiving : givenUp (manner.events pieces) = [] := by
  rw [Manner.events, givenUp_append, givenUp_append, givenUp_took]
  simp [Event.givenUp]

@[simp] theorem delivered_receiving :
    delivered (manner.events pieces) = pieces.flatten := by
  rw [Manner.events, delivered_append, delivered_append, delivered_took]
  simp [Event.counted]

end Receiving

namespace Pool

/-! ## Receiving -/

theorem receive?_eq_none {pool : Pool} (nothing : pool.receive? = none) :
    pool.channel = [] := by
  unfold receive? at nothing
  split at nothing
  · assumption
  · cases nothing

/-- Receiving takes one completion after the other, and as long as there is fuel
for all of them it does not stop before it may. -/
theorem receiveWhile_steps (manner : Manner) (fuel : Nat) :
    ∀ (pool : Pool) (taken : List Completion),
      pool.channel.length ≤ fuel →
      ∃ pieces : List (List Completion),
        pieces.flatten = (receiveWhile manner.goesOn fuel pool).1 ∧
        Steps ⟨pool, .receiving manner taken⟩ (pieces.map .took)
          ⟨(receiveWhile manner.goesOn fuel pool).2,
            .receiving manner
              (taken ++ (receiveWhile manner.goesOn fuel pool).1)⟩ ∧
        manner.Ends (receiveWhile manner.goesOn fuel pool).2 := by
  induction fuel with
  | zero =>
      intro pool taken enough
      refine ⟨[], rfl, by simpa [receiveWhile] using Steps.none, ?_⟩
      exact Manner.ends_of_empty
        (List.length_eq_zero_iff.mp (Nat.le_zero.mp enough))
  | succ fuel induction =>
      intro pool taken enough
      by_cases goesOn : manner.goesOn pool = true
      · cases received : pool.receive? with
        | none =>
            refine ⟨[], by simp [receiveWhile, goesOn, received],
              by simpa [receiveWhile, goesOn, received] using Steps.none, ?_⟩
            have stopped : (receiveWhile manner.goesOn (fuel + 1) pool).2 =
                pool := by
              simp [receiveWhile, goesOn, received]
            rw [stopped]
            exact Manner.ends_of_empty (receive?_eq_none received)
        | some result =>
            obtain ⟨counted, next⟩ := result
            obtain ⟨completion, channel, _⟩ := receive?_eq_some received
            have fewer : next.channel.length ≤ fuel := by
              rw [channel, List.length_cons] at enough
              omega
            obtain ⟨pieces, whole, steps, ends⟩ :=
              induction next (taken ++ counted) fewer
            have unfolded :
                receiveWhile manner.goesOn (fuel + 1) pool =
                  (counted ++ (receiveWhile manner.goesOn fuel next).1,
                    (receiveWhile manner.goesOn fuel next).2) := by
              simp [receiveWhile, goesOn, received]
            rw [unfolded]
            refine ⟨counted :: pieces, by simp [whole], ?_, ends⟩
            rw [← List.append_assoc]
            exact (Step.take goesOn received).steps.trans steps
      · have stopped : receiveWhile manner.goesOn (fuel + 1) pool =
            ([], pool) := by
          simp [receiveWhile, goesOn]
        rw [stopped]
        refine ⟨[], rfl, by simpa using Steps.none, ?_⟩
        cases manner with
        | drain => exact (goesOn rfl).elim
        | wait => exact .inl (by simpa [Manner.goesOn] using goesOn)

/-- Receive in one of the two ways, with nothing in between. -/
def receive (pool : Pool) (manner : Manner) : List Completion × Pool :=
  receiveWhile manner.goesOn pool.channel.length pool

theorem drain_eq_receive (pool : Pool) : pool.drain = pool.receive .drain :=
  rfl

theorem waitIdle_eq_receive (pool : Pool) :
    pool.waitIdle = pool.receive .wait := rfl

theorem receive_steps (pool : Pool) (manner : Manner) :
    ∃ pieces : List (List Completion),
      pieces.flatten = (pool.receive manner).1 ∧
      Steps ⟨pool, .idle⟩ (manner.events pieces)
        ⟨(pool.receive manner).2, .idle⟩ ∧
      manner.Ends (pool.receive manner).2 := by
  obtain ⟨pieces, whole, steps, ends⟩ :=
    receiveWhile_steps manner pool.channel.length pool [] (Nat.le_refl _)
  refine ⟨pieces, whole, ?_, ends⟩
  have begun := (Step.receive pool manner).steps
  have ended := (@Step.stop _ manner pieces.flatten ends.mayStop).steps
  rw [List.nil_append, ← whole] at steps
  exact begun.trans (steps.trans ended)

theorem receiveWhile_workers (goesOn : Pool → Bool) (fuel : Nat) :
    ∀ pool : Pool, (receiveWhile goesOn fuel pool).2.workers =
      pool.workers := by
  induction fuel with
  | zero => exact fun _ => rfl
  | succ fuel induction =>
      intro pool
      rw [receiveWhile]
      split
      · cases received : pool.receive? with
        | none => rfl
        | some result =>
            obtain ⟨_, _, workers, _⟩ := receive?_eq_some received
            exact (induction result.2).trans workers
      · rfl

@[simp] theorem receive_workers (pool : Pool) (manner : Manner) :
    (pool.receive manner).2.workers = pool.workers :=
  receiveWhile_workers manner.goesOn pool.channel.length pool

@[simp] theorem receive_errands (pool : Pool) (manner : Manner) :
    (pool.receive manner).2.errands = pool.errands := by
  rw [errands, receive_workers, errands]

/-! ## Giving up calls -/

/-- Tell several workers, one after the other. -/
def tellAll (pool : Pool) (ids : List Nat) : Pool :=
  ids.foldl tell pool

theorem tellAll_eq (ids : List Nat) : ∀ pool : Pool,
    pool.tellAll ids =
      { pool with
        workers := pool.workers.map fun worker =>
          { worker with
            cancelled := worker.cancelled || ids.contains worker.id } } := by
  induction ids with
  | nil => simp [tellAll]
  | cons id ids induction =>
      intro pool
      have unfolded : pool.tellAll (id :: ids) =
          (pool.tell id).tellAll ids := rfl
      rw [unfolded, induction]
      simp only [tell, List.map_map, Pool.mk.injEq, and_true]
      apply List.map_congr_left
      intro worker _
      by_cases same : worker.id = id
      · simp [same]
      · simp [same]

theorem tellAll_steps (ids : List Nat) : ∀ pool : Pool,
    Steps ⟨pool, .cancelling ids⟩ (ids.map .told)
      ⟨pool.tellAll ids, .cancelling []⟩ := by
  induction ids with
  | nil => exact fun _ => .none
  | cons id ids induction =>
      intro pool
      exact (Step.tell pool id ids).steps.trans (induction (pool.tell id))

/-- Giving up all calls is to forget which are in flight and then to tell their
workers. -/
theorem cancelAll_eq (pool : Pool) :
    pool.cancelAll =
      { pool with inFlight := [] }.tellAll pool.inFlightIds := by
  have tracked (id : Nat) :
      pool.isInFlight id = pool.inFlightIds.contains id := by
    rw [Bool.eq_iff_iff, isInFlight_iff, List.contains_iff_mem]
  rw [tellAll_eq, cancelAll]
  simp only [tracked]

end Pool

end OperatorConsole.Remote
