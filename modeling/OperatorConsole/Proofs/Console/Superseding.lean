import OperatorConsole.Proofs.Console.Blocks

/-!
# Superseding calls

In replace mode only the newest call is waited for, because each remote line
gives up the calls before its own.  Answers that were sent for those remain in
the channel, but none of them is shown.
-/

namespace OperatorConsole

namespace Remote.Pool

/-- Only the call that was handed in last is in flight. -/
def Newest (pool : Pool) : Prop :=
  ∀ task ∈ pool.inFlight, task.id = pool.workers.length

theorem newest_of_none {pool : Pool} (none : pool.inFlight = []) :
    pool.Newest := by
  intro task waiting
  rw [none] at waiting
  exact absurd waiting List.not_mem_nil

theorem newest_spawn {pool : Pool} (none : pool.inFlight = [])
    (label : String) (call : Call) : (pool.spawn label call).Newest := by
  intro task waiting
  simp only [spawn, none, List.nil_append, List.mem_singleton] at waiting
  subst waiting
  simp [spawn, nextId]

theorem Newest.of_fewer {pool next : Pool} (newest : pool.Newest)
    (fewer : ∀ task ∈ next.inFlight, task ∈ pool.inFlight)
    (errands : next.errands = pool.errands) : next.Newest := by
  have sameLength := congrArg List.length errands
  simp only [Pool.errands, List.length_map] at sameLength
  intro task waiting
  rw [sameLength]
  exact newest task (fewer task waiting)

theorem Newest.pending_le {pool : Pool} (newest : pool.Newest)
    (sorted : pool.inFlight.Pairwise fun first second =>
      first.id < second.id) : pool.pending ≤ 1 := by
  unfold pending
  match waiting : pool.inFlight with
  | [] | [_] => simp
  | first :: second :: rest =>
      rw [waiting, List.pairwise_cons] at sorted
      have less := sorted.1 second List.mem_cons_self
      have firstId := newest first (by simp [waiting])
      have secondId := newest second (by simp [waiting])
      omega

end Remote.Pool

namespace Console

theorem Handles.newest {console : Console} {line : String}
    {last : Remote.Pool} (handles : console.Handles line last)
    (replaces : console.transcript.mode = .replace)
    (orderly : console.pool.Orderly) (newest : console.pool.Newest) :
    last.Newest := by
  cases handles with
  | nothing _ | localText _ => exact newest
  | adding _ appends =>
      rw [replaces] at appends
      cases appends
  | superseding _ _ given =>
      exact Remote.Pool.newest_spawn (given.inFlight_eq_nil orderly) _ _
  | leaving _ given | clearing _ given =>
      exact Remote.Pool.newest_of_none (given.inFlight_eq_nil orderly)

theorem Does.newest {console after : Console} {deed : Deed}
    (next : Does console deed after)
    (replaces : console.transcript.mode = .replace)
    (orderly : console.pool.Orderly) (newest : console.pool.Newest) :
    after.pool.Newest := by
  cases next with
  | submit _ handles => exact handles.newest replaces orderly newest
  | receive received =>
      obtain ⟨_, arrived, course, _⟩ := received.course orderly
      rw [pool_renderAll, pool_withPool]
      refine newest.of_fewer ?_ course.errands
      intro task waiting
      rw [course.inFlight] at waiting
      exact (List.mem_filter.mp waiting).1
  | cancelPending _ given =>
      exact Remote.Pool.newest_of_none (given.inFlight_eq_nil orderly)
  | work outcome _ =>
      exact newest.of_fewer (fun _ => id) (Remote.Pool.errands_step _ _ _)
  | report | share => exact newest

section Replace

variable {table : CommandTable} {session : Session} {base : Url}
  {file : Option String} {deeds : List Deed} {console : Console}

theorem Runs.newest
    (run : Runs (start table .replace session base file) deeds console) :
    console.pool.Newest := by
  induction run with
  | none => exact Remote.Pool.newest_of_none rfl
  | step run next induction =>
      exact next.newest run.mode run.orderly induction

theorem Runs.single_block
    (run : Runs (start table .replace session base file) deeds console) :
    console.transcript.blocks.length ≤ 1 := by
  induction run with
  | none => exact Nat.zero_le 1
  | step run next induction =>
      rw [next.transcript]
      exact Transcript.length_blocks_pushAll_replace _ run.mode induction

/-- What is received answers the newest call. -/
theorem Does.completion_newest
    (run : Runs (start table .replace session base file) deeds console)
    {deed : Deed} {after : Console} (next : Does console deed after)
    {completion : Remote.Completion} (member : completion ∈ deed.completions) :
    completion.id = (remoteLines table deeds).length := by
  cases next with
  | receive received =>
      -- What comes out of the channel counts only if it was in flight before.
      obtain ⟨_, arrived, _, completions⟩ := received.course run.orderly
      simp only [Deed.completions] at member
      rw [completions] at member
      have waiting := (List.mem_filter.mp member).2
      rw [Remote.Pool.isInFlight_iff] at waiting
      obtain ⟨task, taskMember, same⟩ := List.mem_map.mp waiting
      rw [← same, run.newest task taskMember, run.length_workers]
  | submit | cancelPending | report | work | share =>
      exact absurd member List.not_mem_nil

/-- In replace mode one call is waited for and one block is shown at most.  Once
a remote line has been submitted, what is shown of answers is for it or for
later lines, whatever the channel holds. -/
theorem superseded_never_shown
    (run : Runs (start table .replace session base file) deeds console) :
    console.pending ≤ 1 ∧ console.transcript.blocks.length ≤ 1 ∧
      ∀ before line flow later,
        deeds = before ++ .submit line flow :: later →
        table.isRemote line = true →
        ∀ deed after, Does console deed after →
          after.transcript =
              console.transcript.pushAll (console.shown deed) ∧
            ∀ completion ∈ deed.completions,
              Originates table deeds completion.id completion.label ∧
                (remoteLines table before).length < completion.id := by
  refine ⟨run.newest.pending_le run.inFlight_sorted, run.single_block, ?_⟩
  intro before line flow later split isRemote deed after next
  refine ⟨next.transcript, ?_⟩
  intro completion member
  constructor
  · cases next with
    | receive received =>
        exact Does.originates run (.receive received) member
    | submit | cancelPending | report | work | share =>
        exact absurd member List.not_mem_nil
  · have isLast := Does.completion_newest run next member
    have longer : (remoteLines table deeds).length =
        (remoteLines table before).length + 1 +
          (remoteLines table later).length := by
      rw [split, remoteLines_append, remoteLines_submit isRemote,
        List.length_append, List.length_cons]
      omega
    omega

end Replace

/-- The answer to the first of two lines is in the channel when the second one
is submitted. -/
def overtaken : Console :=
  ((asking .replace).afterAll
    (List.replicate 4 (.work 1 (.ok "old")))).afterAll
      (.submit "set j" :: List.replicate 4 (.work 2 (.ok "new")))

theorem old_answer_not_shown :
    overtaken.pool.channelIds = [1, 2] ∧
      overtaken.pump.2.transcript.blocks = [⟨"set j", "new", false⟩] ∧
      ∀ completion ∈ overtaken.pool.drain.1, 1 < completion.id := by
  obtain ⟨flow, next, run⟩ := runs_asking .replace
  obtain ⟨answering, answeringRun, silent⟩ := runs_afterAll
    (List.replicate 4 (.work 1 (.ok "old"))) (asking .replace)
  obtain ⟨later, laterRun, _⟩ := runs_afterAll
    (List.replicate 4 (.work 2 (.ok "new")))
    (((asking .replace).afterAll
      (List.replicate 4 (.work 1 (.ok "old")))).submit "set j").2
  have toLine := (run.trans answeringRun).step
    (does_submit (Prod.eta (submit _ "set j")).symm)
  have whole := toLine.trans laterRun
  rw [List.append_assoc] at whole
  obtain ⟨_, _, shown⟩ := superseded_never_shown whole
  obtain ⟨_, newer⟩ := shown _ "set j" _ later rfl (by decide +kernel) _ _
    overtaken.does_pump
  refine ⟨by decide +kernel, by decide +kernel, ?_⟩
  intro completion member
  have before : (remoteLines helpOnly
      ([.submit "help" flow, .submit " set k " next] ++ answering)).length
        = 1 := by
    have lines : typed [.submit "help" flow, .submit " set k " next] =
        ["help", " set k "] := rfl
    rw [remoteLines, typed_append, silent, lines]
    decide +kernel
  rw [← before]
  exact (newer completion member).2

end Console

end OperatorConsole
