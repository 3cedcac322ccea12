import OperatorConsole.Remote.Call
import OperatorConsole.Remote.Failure

/-!
# Pools of remote calls

Every call has a worker of its own, which makes the call and puts what it came
to into one channel.  The console takes completions out of the channel, and
only those of calls that it still counts as in flight.  A worker looks before
and after its call whether it has been cancelled.  Workers move one step at a
time, in any order, between the operations of the console.
-/

namespace OperatorConsole.Remote

/-- How far a worker has come. -/
inductive Stage where
  | starting
  | calling
  | answered (outcome : Outcome)
  | sending (outcome : Outcome)
  | ended
deriving Repr

structure Worker where
  id : Nat
  label : String
  call : Call
  cancelled : Bool
  stage : Stage
deriving Repr

/-- What a call came to, with the number and the label that it was given. -/
structure Completion where
  id : Nat
  label : String
  outcome : Outcome
deriving Repr

/-- A call that the console waits for. -/
structure Task where
  id : Nat
  label : String
deriving DecidableEq, Repr

structure Pool where
  /-- The workers of all calls, oldest first. -/
  workers : List Worker
  /-- The calls that are waited for, oldest first. -/
  inFlight : List Task
  /-- What workers have sent, in the order in which it arrived. -/
  channel : List Completion
deriving Repr

namespace Worker

/-- Move a worker one step, and what it sends in that step.  `outcome` is what
the call comes to in case it ends now. -/
def step (worker : Worker) (outcome : Outcome) : Worker × List Completion :=
  match worker.stage with
  | .starting =>
      ({ worker with
        stage := if worker.cancelled then .ended else .calling }, [])
  | .calling => ({ worker with stage := .answered outcome }, [])
  | .answered outcome =>
      ({ worker with
        stage := if worker.cancelled then .ended else .sending outcome }, [])
  | .sending outcome =>
      ({ worker with stage := .ended },
        [⟨worker.id, worker.label, outcome⟩])
  | .ended => (worker, [])

/-- The worker's call has not come to anything yet. -/
def isOpen (worker : Worker) : Bool :=
  match worker.stage with
  | .starting | .calling => true
  | _ => false

end Worker

namespace Pool

def empty : Pool :=
  ⟨[], [], []⟩

/-- Calls are numbered from one. -/
def nextId (pool : Pool) : Nat :=
  pool.workers.length + 1

/-- Hand a call to a new worker. -/
def spawn (pool : Pool) (label : String) (call : Call) : Pool :=
  { pool with
    workers := pool.workers ++
      [⟨pool.nextId, label, call, false, .starting⟩]
    inFlight := pool.inFlight ++ [⟨pool.nextId, label⟩] }

def isInFlight (pool : Pool) (id : Nat) : Bool :=
  pool.inFlight.any (·.id == id)

/-- The number of calls that are waited for. -/
def pending (pool : Pool) : Nat :=
  pool.inFlight.length

/-- The labels of the calls that `cancelAll` gives up. -/
def pendingLabels (pool : Pool) : List String :=
  pool.inFlight.map Task.label

/-- Stop waiting for any call and tell the workers. -/
def cancelAll (pool : Pool) : Pool :=
  { pool with
    workers := pool.workers.map fun worker =>
      { worker with
        cancelled := worker.cancelled || pool.isInFlight worker.id }
    inFlight := [] }

/-- Move one worker one step. -/
def step (pool : Pool) (id : Nat) (outcome : Outcome) : Pool :=
  let moved := pool.workers.map fun worker =>
    if worker.id = id then worker.step outcome else (worker, [])
  { pool with
    workers := moved.map (·.1)
    channel := pool.channel ++ (moved.map (·.2)).flatten }

/-- Let a worker whose call is open come to its end.  There is none if its call
has an outcome already. -/
def answer? (pool : Pool) (id : Nat) (outcome : Outcome) : Option Pool :=
  if pool.workers.any fun worker => worker.id == id && worker.isOpen then
    some ((((pool.step id outcome).step id outcome).step id outcome).step
      id outcome)
  else none

/-! ## Receiving -/

/-- Take a completion that has come out of the channel: it counts if its call is
in flight, and then no longer is. -/
def accept (pool : Pool) (completion : Completion) :
    List Completion × Pool :=
  if pool.isInFlight completion.id then
    ([completion],
      { pool with
        inFlight := pool.inFlight.filter (·.id != completion.id) })
  else ([], pool)

/-- Take the next completion out of the channel, if there is one. -/
def receive? (pool : Pool) : Option (List Completion × Pool) :=
  match pool.channel with
  | [] => none
  | completion :: rest =>
      some ({ pool with channel := rest }.accept completion)

/-- Take completions while `goesOn`, at most as many as `fuel`. -/
def receiveWhile (goesOn : Pool → Bool) :
    Nat → Pool → List Completion × Pool
  | 0, pool => ([], pool)
  | fuel + 1, pool =>
      if goesOn pool then
        match pool.receive? with
        | none => ([], pool)
        | some (first, pool) =>
            let (rest, pool) := receiveWhile goesOn fuel pool
            (first ++ rest, pool)
      else ([], pool)

/-- All completions that have arrived. -/
def drain (pool : Pool) : List Completion × Pool :=
  receiveWhile (fun _ => true) pool.channel.length pool

/-- The completions that have arrived, up to the one after which no call is in
flight. -/
def waitIdle (pool : Pool) : List Completion × Pool :=
  receiveWhile (fun pool => !pool.inFlight.isEmpty) pool.channel.length pool

end Pool

end OperatorConsole.Remote
