import OperatorConsole.Proofs.Pool.Arrivals

/-!
# What workers send

A schedule is watched here together with all that its workers have sent, in the
order in which it came into the channel.  What was sent is what came out of the
channel, followed by what is still in it, and all of it counts but the answers
to calls that are given up.  So the console gets the answers in the order of
their arrival, and in the end it has got the answer to each call that was not
given up.
-/

namespace OperatorConsole.Remote

/-! ## The order of arrival -/

/-- What was sent has come out of the channel or is in it, in this order, and of
what came out all counted but the answers to calls that have been given up. -/
theorem Sends.arrived {events : List Event} {sent : List Completion}
    {system : System} (sends : Sends .start events sent system) :
    ∃ arrived, sent = arrived ++ system.pool.channel ∧
      delivered events = arrived.filter fun completion =>
        !(givenUpIds events).contains completion.id := by
  induction sends with
  | none => exact ⟨[], rfl, rfl⟩
  | @step events sent event middle last sends next induction =>
      obtain ⟨arrived, queue, counted⟩ := induction
      have accounts := sends.steps.accounts
      have still (noneCounted : event.counted = [])
          (noneGivenUp : event.givenUp = []) :
          delivered (events ++ [event]) = arrived.filter fun completion =>
            !(givenUpIds (events ++ [event])).contains completion.id := by
        simpa [noneCounted, noneGivenUp] using counted
      have waits (same : last.pool.channel = middle.pool.channel) :
          sent ++ middle.pool.sentSince last.pool =
            arrived ++ last.pool.channel := by
        rw [Pool.sentSince_of_same same, List.append_nil, same]
        exact queue
      cases next with
      | take _ received =>
          obtain ⟨completion, channel, _, counts⟩ :=
            Pool.receive?_eq_some received
          refine ⟨arrived ++ [completion], ?_, ?_⟩
          · rw [Pool.sentSince_of_taken channel, List.append_nil, queue,
              channel, List.append_assoc]
            rfl
          · rw [delivered_append, delivered_single, counted,
              List.filter_append, givenUpIds_append, givenUpIds_single]
            rcases counts with ⟨flying, rfl, _⟩ | ⟨absent, rfl, _⟩
            · have kept := accounts.not_givenUp_of_inFlight flying
              simp [Event.counted, Event.givenUp, kept]
            · have waiting : completion.id ∈ Pool.channelIds _ :=
                List.mem_map_of_mem (channel ▸ List.mem_cons_self)
              have gone := givenUp_of_waiting sends.steps waiting absent
              simp [Event.counted, Event.givenUp, gone]
      | cancel pool =>
          refine ⟨arrived, waits rfl, ?_⟩
          rw [delivered_append, delivered_single, counted]
          simp only [Event.counted, List.append_nil]
          refine List.filter_congr fun completion member => ?_
          -- What had counted before is not given up now.
          have apart : completion.id ∉ givenUpIds events →
              completion.id ∉ pool.inFlightIds := by
            intro kept flying
            apply accounts.not_delivered_of_inFlight flying
            rw [deliveredIds, counted]
            exact List.mem_map_of_mem (List.mem_filter.mpr
              ⟨member, by simpa using kept⟩)
          by_cases kept : completion.id ∈ givenUpIds events
          · simp [kept]
          · simpa [kept, Event.givenUp, Pool.inFlightIds] using apart kept
      | work outcome member =>
          have distinct := accounts.workerIds_nodup
          refine ⟨arrived, ?_, still (Worker.counted_event _ _)
            (Worker.givenUp_event _ _)⟩
          rw [Pool.sentSince_step distinct member,
            Pool.channel_step distinct member, queue, List.append_assoc]
      | spawn | tell | allTold | receive | stop =>
          exact ⟨arrived, waits rfl, still rfl rfl⟩

/-- What the console gets comes in the order in which it was sent. -/
theorem Sends.returned_sublist {events : List Event} {sent : List Completion}
    {system : System} (sends : Sends .start events sent system) :
    (returned events).Sublist sent := by
  obtain ⟨arrived, queue, counted⟩ := sends.arrived
  have handed := sends.steps.accounts.handed
  have first : (returned events).Sublist (delivered events) :=
    handed ▸ List.sublist_append_left _ _
  have second : (delivered events).Sublist arrived :=
    counted ▸ List.filter_sublist
  rw [queue]
  exact (first.trans second).trans (List.sublist_append_left _ _)

/-! ## Nothing left to wait for -/

/-- A schedule at the end of which no call is waited for and nothing is left to
receive. -/
structure Landed (events : List Event) (sent : List Completion) (pool : Pool) :
    Prop where
  sends : Sends .start events sent ⟨pool, .idle⟩
  answered : pool.inFlight = []
  emptied : pool.channel = []

namespace Landed

variable {events other : List Event} {sent : List Completion} {pool : Pool}
  {answers : Nat → Outcome}

theorem delivered_eq (landed : Landed events sent pool) :
    delivered events = returned events :=
  landed.sends.steps.accounts.handed.trans (List.append_nil _)

/-- What the console got is what arrived, in the same order, but for the calls
that were given up. -/
theorem returned_eq_sent (landed : Landed events sent pool) :
    returned events = sent.filter fun completion =>
      !(givenUpIds events).contains completion.id := by
  obtain ⟨arrived, queue, counted⟩ := landed.sends.arrived
  rw [landed.emptied, List.append_nil] at queue
  rw [← landed.delivered_eq, counted, queue]

/-- Every call was answered or given up, and none of them twice. -/
theorem divided (landed : Landed events sent pool) :
    ((returned events).map Completion.id ++ givenUpIds events).Perm
      (List.range' 1 (spawns events).length) := by
  have accounts := landed.sends.steps.accounts
  have divided := accounts.divided
  rwa [← Pool.errands_id, accounts.recorded, errands_id, Pool.inFlightIds,
    landed.answered, deliveredIds, landed.delivered_eq, List.map_nil,
    List.nil_append] at divided

end Landed

end OperatorConsole.Remote
