import OperatorConsole.Console
import OperatorConsole.Proofs.Pool.Operations

/-!
# Runs of the console

What can happen to a console, one operation after the other, with steps of
workers between them.  The table, the front-end's URL and the mode stay what
they are; the errands of the pool grow by one with each remote call and by
nothing else.
-/

namespace OperatorConsole.Console

inductive Operation where
  | submit (line : String)
  | pump
  | settle
  | cancelPending
  | report (line : String) (chain : List String)
  /-- A worker moves; `outcome` is what its call comes to if it ends now. -/
  | work (id : Nat) (outcome : Remote.Outcome)

def after (console : Console) : Operation → Console
  | .submit line => (console.submit line).2
  | .pump => console.pump.2
  | .settle => console.settle.2
  | .cancelPending => console.cancelPending.2
  | .report line chain => console.reportError line chain
  | .work id outcome => { console with pool := console.pool.step id outcome }

def afterAll (console : Console) (operations : List Operation) : Console :=
  operations.foldl after console

@[simp] theorem afterAll_nil (console : Console) :
    console.afterAll [] = console := rfl

@[simp] theorem afterAll_cons (console : Console) (operation : Operation)
    (operations : List Operation) :
    console.afterAll (operation :: operations) =
      (console.after operation).afterAll operations := rfl

/-! ## What outcomes leave alone -/

section RenderOutcome

variable (console : Console) (completion : Remote.Completion)

@[simp] theorem pool_renderOutcome :
    (console.renderOutcome completion).pool = console.pool := by
  unfold renderOutcome
  split
  · rfl
  · dsimp only
    split <;> rfl

@[simp] theorem table_renderOutcome :
    (console.renderOutcome completion).table = console.table := by
  unfold renderOutcome
  split
  · rfl
  · dsimp only
    split <;> rfl

end RenderOutcome

section RenderAll

variable (completions : List Remote.Completion)

@[simp] theorem pool_renderAll (console : Console) :
    (console.renderAll completions).pool = console.pool := by
  induction completions generalizing console with
  | nil => rfl
  | cons completion completions induction =>
      exact (induction (console.renderOutcome completion)).trans
        (pool_renderOutcome console completion)

@[simp] theorem table_renderAll (console : Console) :
    (console.renderAll completions).table = console.table := by
  induction completions generalizing console with
  | nil => rfl
  | cons completion completions induction =>
      exact (induction (console.renderOutcome completion)).trans
        (table_renderOutcome console completion)

end RenderAll

/-! ## What operations leave alone -/

@[simp] theorem table_submit (console : Console) (line : String) :
    (console.submit line).2.table = console.table := by
  unfold submit
  split
  · rfl
  · next effect _ => cases effect <;> rfl

@[simp] theorem table_after (console : Console) (operation : Operation) :
    (console.after operation).table = console.table := by
  cases operation with
  | submit line => rw [after, table_submit]
  | pump => exact table_renderAll _ _
  | settle => exact table_renderAll _ _
  | cancelPending => rfl
  | report line chain => rfl
  | work id outcome => rfl

/-! ## Errands -/

@[simp] theorem errands_leave (console : Console) (target : String) :
    (console.leave target).2.pool.errands = console.pool.errands :=
  Remote.Pool.errands_cancelAll console.pool

/-- A remote call is one errand more, in either mode. -/
theorem errands_call (console : Console) (label : String)
    (call : Remote.Call) :
    ∃ id, (console.call label call).pool.errands =
      console.pool.errands ++ [⟨id, label, call⟩] := by
  unfold Console.call
  cases console.transcript.mode with
  | append => exact ⟨_, Remote.Pool.errands_spawn _ _ _⟩
  | replace =>
      refine ⟨console.pool.cancelAll.nextId, ?_⟩
      rw [Remote.Pool.errands_spawn, Remote.Pool.errands_cancelAll]

theorem errands_pump (console : Console) :
    console.pump.2.pool.errands = console.pool.errands := by
  have rendered : console.pump.2.pool = console.pool.drain.2 :=
    pool_renderAll _ _
  rw [rendered, Remote.Pool.drain_eq_receive, Remote.Pool.receive_errands]

theorem errands_settle (console : Console) :
    console.settle.2.pool.errands = console.pool.errands := by
  have rendered : console.settle.2.pool = console.pool.waitIdle.2 :=
    pool_renderAll _ _
  rw [rendered, Remote.Pool.waitIdle_eq_receive,
    Remote.Pool.receive_errands]

end OperatorConsole.Console
