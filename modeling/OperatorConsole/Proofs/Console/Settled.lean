import Mathlib.Data.List.Basic
import Mathlib.Data.List.Perm.Basic
import OperatorConsole.Proofs.Console.Failing
import OperatorConsole.Proofs.Pool.Sending

/-!
# Settled runs

What a console comes to when all its calls have been answered or given up does
not depend on the order in which the answers arrived, nor on when the console
looked for them.  The requests are those of the lines; every answer is shown
once, in the order of arrival; and the session is forgotten if a line or an
answer ends it, no matter when.  Only a line that fails gives up calls, namely
those in flight, so what it finds in flight does matter.
-/

namespace OperatorConsole

namespace Console

/-- A run in append mode, with the calls that are given up in it, what its pool
went through and what its workers sent. -/
structure Log (first : Console) (deeds : List Deed) (lost : List Nat)
    (events : List Remote.Event) (sent : List Remote.Completion)
    (last : Console) : Prop where
  run : Runs first deeds last
  appends : first.transcript.mode = .append
  plain : ∀ deed ∈ deeds, deed.Plain
  sends : Remote.Sends .start events sent ⟨last.pool, .idle⟩
  requests : Remote.spawns events = (typed deeds).filterMap first.table.request?
  returned : Remote.returned events = deeds.flatMap Deed.completions
  lost_eq : Remote.givenUpIds events = lost

/-- No call is waited for, and nothing is left to receive. -/
structure AtRest (console : Console) : Prop where
  answered : console.pending = 0
  emptied : console.pool.channel = []

instance (console : Console) : Decidable console.AtRest :=
  decidable_of_iff
    (console.pending = 0 ∧ console.pool.channel.isEmpty = true)
    ⟨fun ⟨answered, emptied⟩ => ⟨answered, List.isEmpty_iff.mp emptied⟩,
      fun rests => ⟨rests.answered, List.isEmpty_iff.mpr rests.emptied⟩⟩

theorem Deed.Plain.alone {deed : Deed} (plain : deed.Plain) : deed.Alone := by
  cases deed with
  | share => exact plain
  | submit | receive | cancelPending | report | work => trivial

/-- Every run has a log. -/
theorem Loses.log {first last : Console} {deeds : List Deed} {lost : List Nat}
    (loses : Loses first deeds lost last) (fresh : first.pool = .empty)
    (appends : first.transcript.mode = .append)
    (plain : ∀ deed ∈ deeds, deed.Plain) :
    ∃ events sent, Log first deeds lost events sent last := by
  induction loses with
  | none =>
      have sends : Remote.Sends .start [] [] ⟨first.pool, .idle⟩ := by
        rw [fresh]
        exact .none
      exact ⟨[], [], .none, appends, plain, sends, rfl, rfl, rfl⟩
  | @step deeds lost deed middle last loses next induction =>
      obtain ⟨events, _, log⟩ := induction fun other member =>
        plain other (List.mem_append_left _ member)
      obtain ⟨more, steps, request, back, gone⟩ := next.steps
      obtain ⟨sent, sends⟩ := (log.sends.steps.trans steps).sends
      refine ⟨events ++ more, sent, .step loses.runs next, appends, plain,
        sends, ?_, ?_, ?_⟩
      · rw [Remote.spawns_append, log.requests, request, loses.runs.table,
          filterMap_typed_append]
      · rw [Remote.returned_append, log.returned, back]
        simp
      · rw [Remote.givenUpIds_append, log.lost_eq, gone]

namespace Log

variable {first last : Console} {deeds : List Deed} {lost : List Nat}
  {events : List Remote.Event} {sent : List Remote.Completion}
  {answers : Nat → Remote.Outcome}

theorem landed (log : Log first deeds lost events sent last)
    (rests : last.AtRest) : Remote.Landed events sent last.pool where
  sends := log.sends
  answered := List.length_eq_zero_iff.mp rests.answered
  emptied := rests.emptied

/-- The console has received the answers in the order of their arrival, but for
the calls that were given up. -/
theorem answers_eq_sent (log : Log first deeds lost events sent last)
    (rests : last.AtRest) :
    deeds.flatMap Deed.completions = sent.filter fun completion =>
      !lost.contains completion.id := by
  rw [← log.returned, ← log.lost_eq]
  exact (log.landed rests).returned_eq_sent

theorem session_eq (log : Log first deeds lost events sent last) :
    last.session =
      if (typed deeds).any first.table.endsSession ||
          (deeds.flatMap Deed.completions).any
            Remote.Completion.endsSession then
        first.session.forget first.sessionFile
      else first.session := by
  rw [log.run.session fun deed member => (log.plain deed member).alone,
    any_endsSession]

end Log

/-- A run in which nobody leaves or cancels and the calls have fixed answers, up
to a moment when no call is waited for and nothing is left to receive, with the
calls that have been given up for lines that fail. -/
structure Settles (first : Console) (answers : Nat → Remote.Outcome)
    (deeds : List Deed) (lost : List Nat) (last : Console) : Prop where
  loses : Loses first deeds lost last
  plain : ∀ deed ∈ deeds, deed.Plain
  fixed : ∀ completion ∈ deeds.flatMap Deed.completions,
    completion.outcome = answers completion.id
  rests : last.AtRest

/-- The numbers of the calls in the order in which workers have sent their
answers during a run, whenever the console has received them. -/
def Arrived (first : Console) (deeds : List Deed) (lost : List Nat)
    (last : Console) (ids : List Nat) : Prop :=
  ∃ events sent, Log first deeds lost events sent last ∧
    sent.map Remote.Completion.id = ids

section Settles

variable {first last : Console} {deeds : List Deed} {lost : List Nat}
  {answers : Nat → Remote.Outcome}

theorem Settles.log (settles : Settles first answers deeds lost last)
    (fresh : first.pool = .empty)
    (appends : first.transcript.mode = .append) :
    ∃ events sent, Log first deeds lost events sent last :=
  settles.loses.log fresh appends settles.plain

/-- The console has received the answers in the order of their arrival. -/
theorem Settles.arrived (settles : Settles first answers deeds lost last)
    {ids : List Nat} (arrived : Arrived first deeds lost last ids) :
    (deeds.flatMap Deed.completions).map Remote.Completion.id =
      ids.filter fun id => !lost.contains id := by
  obtain ⟨_, _, log, rfl⟩ := arrived
  rw [log.answers_eq_sent settles.rests, List.filter_map]
  rfl

end Settles

/-! ## The same lines, the same answers -/

end Console

end OperatorConsole
