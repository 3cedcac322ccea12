import OperatorConsole.Remote.Pool

/-!
# Schedules of a pool

The console works on its pool while the workers move.  Its operations are taken
apart here into steps between which any worker may move: giving up calls tells
one worker after the other, and receiving takes one completion after the other.
The events of a schedule are what both sides did, in order.
-/

namespace OperatorConsole.Remote

/-- The two ways of receiving: until nothing is left in the channel, or until
no call is in flight or time has run out. -/
inductive Manner where
  | drain
  | wait
deriving DecidableEq, Repr

def Manner.goesOn : Manner → Pool → Bool
  | .drain => fun _ => true
  | .wait => fun pool => !pool.inFlight.isEmpty

/-- Time may run out at any moment, so only a drain has to empty the
channel. -/
def Manner.MayStop : Manner → Pool → Prop
  | .drain => fun pool => pool.channel = []
  | .wait => fun _ => True

/-- What the console has begun with its pool. -/
inductive Activity where
  | idle
  /-- The calls are given up, but some of their workers have not been told. -/
  | cancelling (untold : List Nat)
  | receiving (manner : Manner) (taken : List Completion)
deriving Repr

namespace Activity

def untold : Activity → List Nat
  | .cancelling ids => ids
  | _ => []

def taken : Activity → List Completion
  | .receiving _ completions => completions
  | _ => []

end Activity

/-- A pool in the middle of things. -/
structure System where
  pool : Pool
  activity : Activity
deriving Repr

def System.start : System :=
  ⟨.empty, .idle⟩

/-- What happens in one step of the console or of a worker. -/
inductive Event where
  | spawned (label : String) (call : Call)
  /-- No call is waited for any longer; these were. -/
  | cancelled (tasks : List Task)
  | told (id : Nat)
  | allTold
  | began (manner : Manner)
  /-- A completion came out of the channel, and this much of it counted. -/
  | took (counted : List Completion)
  | returned (completions : List Completion)
  /-- The call of a worker came to something. -/
  | fetched (id : Nat) (call : Call) (outcome : Outcome)
  /-- A worker looked whether it is cancelled, or sent its completion. -/
  | moved (id : Nat)
deriving Repr

namespace Pool

/-- Tell one worker that its call is given up. -/
def tell (pool : Pool) (id : Nat) : Pool :=
  { pool with
    workers := pool.workers.map fun worker =>
      if worker.id = id then { worker with cancelled := true } else worker }

def inFlightIds (pool : Pool) : List Nat :=
  pool.inFlight.map Task.id

def workerIds (pool : Pool) : List Nat :=
  pool.workers.map Worker.id

def channelIds (pool : Pool) : List Nat :=
  pool.channel.map Completion.id

end Pool

namespace Worker

def hasEnded (worker : Worker) : Bool :=
  match worker.stage with
  | .ended => true
  | _ => false

/-- What a step of the worker is, if its call comes to `outcome` in it. -/
def event (worker : Worker) (outcome : Outcome) : Event :=
  match worker.stage with
  | .calling => .fetched worker.id worker.call outcome
  | _ => .moved worker.id

end Worker

/-- One step.  The console goes on with what it has begun; workers move at any
time, and calls come to anything. -/
inductive Step : System → Event → System → Prop where
  | spawn (pool : Pool) (label : String) (call : Call) :
      Step ⟨pool, .idle⟩ (.spawned label call) ⟨pool.spawn label call, .idle⟩
  | cancel (pool : Pool) :
      Step ⟨pool, .idle⟩ (.cancelled pool.inFlight)
        ⟨{ pool with inFlight := [] }, .cancelling pool.inFlightIds⟩
  | tell (pool : Pool) (id : Nat) (untold : List Nat) :
      Step ⟨pool, .cancelling (id :: untold)⟩ (.told id)
        ⟨pool.tell id, .cancelling untold⟩
  | allTold (pool : Pool) :
      Step ⟨pool, .cancelling []⟩ .allTold ⟨pool, .idle⟩
  | receive (pool : Pool) (manner : Manner) :
      Step ⟨pool, .idle⟩ (.began manner) ⟨pool, .receiving manner []⟩
  | take {pool next : Pool} {manner : Manner}
      {taken counted : List Completion} :
      manner.goesOn pool = true →
      pool.receive? = some (counted, next) →
      Step ⟨pool, .receiving manner taken⟩ (.took counted)
        ⟨next, .receiving manner (taken ++ counted)⟩
  | stop {pool : Pool} {manner : Manner} {taken : List Completion} :
      manner.MayStop pool →
      Step ⟨pool, .receiving manner taken⟩ (.returned taken) ⟨pool, .idle⟩
  | work {pool : Pool} {activity : Activity} {worker : Worker}
      (outcome : Outcome) :
      worker ∈ pool.workers →
      Step ⟨pool, activity⟩ (worker.event outcome)
        ⟨pool.step worker.id outcome, activity⟩

/-- Any number of steps, with their events in order. -/
inductive Steps (first : System) : List Event → System → Prop where
  | none : Steps first [] first
  | step {events : List Event} {event : Event} {middle last : System} :
      Steps first events middle →
      Step middle event last →
      Steps first (events ++ [event]) last

/-- The steps from an empty pool on. -/
abbrev Run : List Event → System → Prop :=
  Steps .start

theorem Steps.trans {first middle last : System} {before after : List Event}
    (earlier : Steps first before middle) (later : Steps middle after last) :
    Steps first (before ++ after) last := by
  induction later with
  | none => simpa using earlier
  | step _ next induction =>
      rw [← List.append_assoc]
      exact .step induction next

theorem Step.steps {first last : System} {event : Event}
    (next : Step first event last) : Steps first [event] last :=
  .step .none next

/-! ## What the events tell -/

namespace Event

def spawned? : Event → Option (String × Call)
  | .spawned label call => some (label, call)
  | _ => none

def givenUp : Event → List Task
  | .cancelled tasks => tasks
  | _ => []

def counted : Event → List Completion
  | .took completions => completions
  | _ => []

def handedOver : Event → List Completion
  | .returned completions => completions
  | _ => []

/-- What the call of one worker came to. -/
def fetched? (id : Nat) : Event → Option (Call × Outcome)
  | .fetched other call outcome =>
      if other = id then some (call, outcome) else none
  | _ => none

end Event

/-- The labels and calls that the pool was given, oldest first. -/
def spawns (events : List Event) : List (String × Call) :=
  events.filterMap Event.spawned?

/-- The calls that were in flight when all calls were given up. -/
def givenUp (events : List Event) : List Task :=
  events.flatMap Event.givenUp

/-- The completions that counted when they came out of the channel. -/
def delivered (events : List Event) : List Completion :=
  events.flatMap Event.counted

/-- The completions that the console got back when it had received. -/
def returned (events : List Event) : List Completion :=
  events.flatMap Event.handedOver

/-- What the call of one worker came to, each time it was made. -/
def fetches (id : Nat) (events : List Event) : List (Call × Outcome) :=
  events.filterMap (Event.fetched? id)

section Append

variable (before after : List Event)

@[simp] theorem spawns_append :
    spawns (before ++ after) = spawns before ++ spawns after :=
  List.filterMap_append

@[simp] theorem givenUp_append :
    givenUp (before ++ after) = givenUp before ++ givenUp after :=
  List.flatMap_append

@[simp] theorem delivered_append :
    delivered (before ++ after) = delivered before ++ delivered after :=
  List.flatMap_append

@[simp] theorem returned_append :
    returned (before ++ after) = returned before ++ returned after :=
  List.flatMap_append

@[simp] theorem fetches_append (id : Nat) :
    fetches id (before ++ after) = fetches id before ++ fetches id after :=
  List.filterMap_append

end Append

@[simp] theorem spawns_single (event : Event) :
    spawns [event] = event.spawned?.toList := by
  cases told : event.spawned? <;> simp [spawns, told]

@[simp] theorem givenUp_single (event : Event) :
    givenUp [event] = event.givenUp := by
  simp [givenUp]

@[simp] theorem delivered_single (event : Event) :
    delivered [event] = event.counted := by
  simp [delivered]

@[simp] theorem returned_single (event : Event) :
    returned [event] = event.handedOver := by
  simp [returned]

@[simp] theorem fetches_single (id : Nat) (event : Event) :
    fetches id [event] = (event.fetched? id).toList := by
  cases told : event.fetched? id <;> simp [fetches, told]

end OperatorConsole.Remote
