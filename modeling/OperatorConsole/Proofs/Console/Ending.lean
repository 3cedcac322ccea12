import OperatorConsole.Proofs.Console.Clearing
import OperatorConsole.Proofs.Cookie.History

/-!
# Ending a session among workers

A line that ends the session empties the jar, saves it, gives up all calls and
leaves.  These are separate steps, and a worker whose call is under way can
store a cookie between any two of them, because giving up a call does not stop
its response.  So what is left of a session are the cookies that workers have
heard of since the jar was emptied: in the file those from before it was saved,
and in the jar all of them.
-/

namespace OperatorConsole

/-- The worker waits for the response to its call, given up or not. -/
def Remote.Worker.isCalling (worker : Remote.Worker) : Bool :=
  match worker.stage with
  | .calling => true
  | _ => false

theorem Remote.Worker.isOpen_of_isCalling {worker : Remote.Worker}
    (calling : worker.isCalling = true) : worker.isOpen = true := by
  unfold isCalling at calling
  unfold isOpen
  split at calling
  · next stage => rw [stage]
  · cases calling

/-- A call that has come to something has done so for good. -/
theorem Remote.Worker.isOpen_step (worker : Remote.Worker)
    (ended : worker.isOpen = false) (outcome : Remote.Outcome) :
    (worker.step outcome).1.isOpen = false := by
  cases worker with
  | mk id label call cancelled stage =>
      cases stage with
      | starting | calling => cases ended
      | answered answer => cases cancelled <;> rfl
      | sending answer | ended => rfl

namespace Console

def withSession (console : Console) (session : Session) : Console :=
  { console with session := session }

/-- How far the console has come with a line that ends the session. -/
inductive Progress where
  | begun
  | emptied
  | saved
  /-- No call is waited for, but some workers have not been told. -/
  | givingUp (untold : List Nat)
  | left (flow : Except BadTarget Flow)

structure Ending where
  console : Console
  progress : Progress

inductive Action where
  | empty
  | save
  | giveUp
  | tell (id : Nat)
  | leave
  /-- A response has a header that sets a cookie. -/
  | hear (header : String) (url : Url)
  /-- A worker moves; `outcome` is what its call comes to if it ends now. -/
  | work (id : Nat) (outcome : Remote.Outcome)

/-- Where a line leads to that ends the session. -/
def flowTo (console : Console) (redirect : String) : Except BadTarget Flow :=
  ((console.base.join redirect).mapError (⟨redirect, ·⟩)).map Flow.leave

/-- One step of the console or of a worker. -/
inductive Moves (redirect : String) : Ending → Action → Ending → Prop where
  | empty (console : Console) :
      Moves redirect ⟨console, .begun⟩ .empty
        ⟨console.withSession console.session.expireAll, .emptied⟩
  | save (console : Console) :
      Moves redirect ⟨console, .emptied⟩ .save
        ⟨console.withSession (console.session.save console.sessionFile), .saved⟩
  | giveUp (console : Console) :
      Moves redirect ⟨console, .saved⟩ .giveUp
        ⟨console.withPool { console.pool with inFlight := [] },
          .givingUp console.pool.inFlightIds⟩
  | tell (console : Console) (id : Nat) (untold : List Nat) :
      Moves redirect ⟨console, .givingUp (id :: untold)⟩ (.tell id)
        ⟨console.withPool (console.pool.tell id), .givingUp untold⟩
  | leave (console : Console) :
      Moves redirect ⟨console, .givingUp []⟩ .leave
        ⟨console, .left (console.flowTo redirect)⟩
  | hear {console : Console} {progress : Progress} {worker : Remote.Worker}
      (header : String) (url : Url) :
      worker ∈ console.pool.workers →
      worker.isCalling = true →
      Moves redirect ⟨console, progress⟩ (.hear header url)
        ⟨console.withSession (console.session.receive header url), progress⟩
  | work {console : Console} {progress : Progress} {worker : Remote.Worker}
      (outcome : Remote.Outcome) :
      worker ∈ console.pool.workers →
      Moves redirect ⟨console, progress⟩ (.work worker.id outcome)
        ⟨console.withPool (console.pool.step worker.id outcome), progress⟩

/-- Any number of steps, with what was done in order. -/
inductive Ends (redirect : String) (first : Ending) :
    List Action → Ending → Prop where
  | none : Ends redirect first [] first
  | step {actions : List Action} {action : Action} {middle last : Ending} :
      Ends redirect first actions middle →
      Moves redirect middle action last →
      Ends redirect first (actions ++ [action]) last

theorem Ends.trans {redirect : String} {first middle last : Ending}
    {before after : List Action} (earlier : Ends redirect first before middle)
    (later : Ends redirect middle after last) :
    Ends redirect first (before ++ after) last := by
  induction later with
  | none => simpa using earlier
  | step _ next induction =>
      rw [← List.append_assoc]
      exact .step induction next

theorem Moves.ends {redirect : String} {first last : Ending} {action : Action}
    (next : Moves redirect first action last) :
    Ends redirect first [action] last :=
  .step .none next

/-! ## The undisturbed line -/

theorem tellAll_ends (redirect : String) (ids : List Nat) :
    ∀ console : Console,
      Ends redirect ⟨console, .givingUp ids⟩ (ids.map .tell)
        ⟨console.withPool (console.pool.tellAll ids), .givingUp []⟩ := by
  induction ids with
  | nil => exact fun _ => .none
  | cons id ids induction =>
      intro console
      exact (Moves.tell console id ids).ends.trans
        (induction (console.withPool (console.pool.tell id)))

/-- What the console does for a line if everybody else rests. -/
def ownActions (console : Console) : List Action :=
  [.empty] ++ ([.save] ++ ([.giveUp] ++
    (console.pool.inFlightIds.map .tell ++ [.leave])))

/-- The executable operation is a schedule in which no worker moves. -/
theorem ends_submit {console : Console} {line redirect : String}
    (routed : console.table.effect? line = some (.clearSession redirect)) :
    Ends redirect ⟨console, .begun⟩ console.ownActions
      ⟨(console.submit line).2, .left (console.submit line).1⟩ := by
  have whole : console.submit line =
      console.forgetCookies.leave redirect := by
    unfold submit
    rw [routed]
    rfl
  rw [whole, forgetCookies_eq]
  dsimp only [Console.leave]
  rw [Remote.Pool.cancelAll_eq]
  refine (Moves.empty _).ends.trans ((Moves.save _).ends.trans
    ((Moves.giveUp _).ends.trans ?_))
  exact (tellAll_ends redirect _ _).trans (Moves.leave _).ends

/-- A response comes when the jar has been emptied but not saved. -/
def disturbedActions (console : Console) (header : String) (url : Url) :
    List Action :=
  [.empty] ++ ([.hear header url] ++ ([.save] ++ ([.giveUp] ++
    (console.pool.inFlightIds.map .tell ++ [.leave]))))

def disturbedSession (console : Console) (header : String) (url : Url) :
    Session :=
  (console.session.expireAll.receive header url).save console.sessionFile

/-- Whatever cookie the response to an open call sets, it may get into the jar
and into the session file that the console leaves. -/
theorem ends_disturbed (redirect : String) {console : Console}
    {worker : Remote.Worker} (member : worker ∈ console.pool.workers)
    (waits : worker.isCalling = true) (header : String) (url : Url) :
    Ends redirect ⟨console, .begun⟩ (console.disturbedActions header url)
      ⟨(console.withSession (console.disturbedSession header url)).withPool
          console.pool.cancelAll, .left (console.flowTo redirect)⟩ := by
  rw [Remote.Pool.cancelAll_eq]
  refine (Moves.empty _).ends.trans ((Moves.hear header url ?_ waits).ends.trans
    ((Moves.save _).ends.trans ((Moves.giveUp _).ends.trans ?_)))
  · exact member
  · exact (tellAll_ends redirect _ _).trans (Moves.leave _).ends

/-! ## What is left of the session -/

def Action.heard? : Action → Option Session.Event
  | .hear header url => some (.receive header url)
  | _ => none

/-- The headers that workers heard of. -/
def heard (actions : List Action) : List Session.Event :=
  actions.filterMap Action.heard?

/-- The jar is neither emptied nor saved. -/
def Action.IsOther : Action → Prop
  | .empty | .save => False
  | _ => True

@[simp] theorem heard_append (before after : List Action) :
    heard (before ++ after) = heard before ++ heard after :=
  List.filterMap_append

theorem clock_heard (actions : List Action) :
    ∀ session : Session,
      (session.afterAll (heard actions)).clock = session.clock := by
  induction actions with
  | nil => exact fun _ => rfl
  | cons action actions induction =>
      intro session
      cases action with
      | hear header url => exact induction (session.receive header url)
      | empty | save | giveUp | tell | leave | work => exact induction session

/-- The session is that of the beginning, but emptied and with the cookies that
were heard of since. -/
structure Refilled (first : Session) (actions : List Action)
    (session : Session) : Prop where
  jar : session.jar = (first.expireAll.afterAll (heard actions)).jar
  clock : session.clock = first.clock

namespace Refilled

variable {first session : Session} {actions : List Action}

theorem hear (refilled : Refilled first actions session) (header : String)
    (url : Url) :
    Refilled first (actions ++ [.hear header url])
      (session.receive header url) where
  jar := by
    have added : heard (actions ++ [.hear header url]) =
        heard actions ++ [.receive header url] := heard_append _ _
    have clock := clock_heard actions first.expireAll
    rw [added, Session.afterAll_append_singleton]
    simp only [Session.after, Session.receive, Session.now, refilled.jar,
      refilled.clock, clock]
    rfl
  clock := refilled.clock

theorem silent (refilled : Refilled first actions session) {action : Action}
    (nothing : action.heard? = none) :
    Refilled first (actions ++ [action]) session where
  jar := by
    have same : heard (actions ++ [action]) = heard actions := by
      simp [heard, nothing]
    rw [same, refilled.jar]
  clock := refilled.clock

end Refilled

/-- The file that was written lists the live cookies of a session. -/
def Saved (first : Console) (actions : List Action) (files : Files) : Prop :=
  ∀ path saved, first.sessionFile = some path →
    first.session.expireAll.persist path = .ok saved →
    files.readText path = .ok
      ((first.session.expireAll.afterAll (heard actions)).jar.fileText
        first.session.now)

/-- What no step changes. -/
structure SamePlace (first console : Console) : Prop where
  sessionFile : console.sessionFile = first.sessionFile
  base : console.base = first.base

theorem SamePlace.trans {first middle last : Console}
    (earlier : SamePlace first middle) (later : SamePlace middle last) :
    SamePlace first last where
  sessionFile := later.sessionFile.trans earlier.sessionFile
  base := later.base.trans earlier.base

/-- The jar has been saved, and where the line leads to is settled. -/
def Progress.Beyond (flow : Except BadTarget Flow) : Progress → Prop
  | .begun | .emptied => False
  | .saved | .givingUp _ => True
  | .left reached => reached = flow

def Others (actions : List Action) : Prop :=
  ∀ action ∈ actions, action.IsOther

theorem Others.snoc {actions : List Action} (others : Others actions)
    {action : Action} (isOther : action.IsOther) :
    Others (actions ++ [action]) := by
  intro other member
  rcases List.mem_append.mp member with old | new
  · exact others other old
  · rw [List.mem_singleton.mp new]
    exact isOther

theorem others_nil : Others [] :=
  fun _ member => absurd member List.not_mem_nil

/-- The accounts of a line that ends the session: what has been done, and the
session that this has left. -/
inductive Account (redirect : String) (first : Console) :
    List Action → Ending → Prop where
  /-- What is heard of now will be lost. -/
  | begun {before : List Action} {console : Console} :
      Others before →
      SamePlace first console →
      console.session.clock = first.session.clock →
      console.session.files = first.session.files →
      Account redirect first before ⟨console, .begun⟩
  | emptied {before early : List Action} {console : Console} :
      Others before →
      Others early →
      SamePlace first console →
      Refilled first.session early console.session →
      console.session.files = first.session.files →
      Account redirect first (before ++ .empty :: early) ⟨console, .emptied⟩
  | saved {before early late : List Action} {console : Console}
      {progress : Progress} :
      Others before →
      Others early →
      Others late →
      SamePlace first console →
      Refilled first.session (early ++ late) console.session →
      Saved first early console.session.files →
      progress.Beyond (first.flowTo redirect) →
      Account redirect first (before ++ .empty :: (early ++ .save :: late))
        ⟨console, progress⟩

namespace Account

variable {redirect : String} {first console : Console}
  {actions : List Action} {progress : Progress}

theorem empty (account : Account redirect first actions ⟨console, .begun⟩) :
    Account redirect first (actions ++ [.empty])
      ⟨console.withSession console.session.expireAll, .emptied⟩ := by
  cases account with
  | begun others place clock files =>
      exact .emptied others others_nil ⟨place.sessionFile, place.base⟩
        ⟨rfl, clock⟩ files
  | saved _ _ _ _ _ _ beyond => cases beyond

theorem save (account : Account redirect first actions ⟨console, .emptied⟩) :
    Account redirect first (actions ++ [.save])
      ⟨console.withSession (console.session.save console.sessionFile),
        .saved⟩ := by
  cases account with
  | @emptied before early _ othersBefore othersEarly place refilled files =>
      rw [List.append_assoc, List.cons_append]
      obtain ⟨written, same⟩ := console.session.save_eq console.sessionFile
      refine .saved othersBefore othersEarly others_nil
        ⟨place.sessionFile, place.base⟩ ?_ ?_ trivial
      · rw [List.append_nil]
        simp only [withSession, same]
        exact ⟨refilled.jar, refilled.clock⟩
      · intro path saved configured possible
        obtain ⟨emptied, persisted, _⟩ := Session.persist_eq_ok_iff.mp possible
        obtain ⟨there, writes⟩ := CookieJar.persist_any persisted
          console.session.jar console.session.now
        have now : console.session.now = first.session.now := by
          rw [Session.now, refilled.clock, Session.now]
        have persists : console.session.persist path =
            .ok { console.session with files := there } := by
          refine Session.persist_eq_ok_iff.mpr ⟨there, ?_, rfl⟩
          rw [files]
          exact writes
        rw [place.sessionFile, configured, Session.save_of_persist persists]
        have read := CookieJar.readText_persist writes
        rwa [refilled.jar, now] at read
  | saved _ _ _ _ _ _ beyond => cases beyond

/-- A step other than emptying and saving goes into the account of what was done
last. -/
theorem extend {next : Progress} {action : Action} {after : Console}
    (account : Account redirect first actions ⟨console, progress⟩)
    (isOther : action.IsOther)
    (goesOn : progress = next ∨ progress.Beyond (first.flowTo redirect) ∧
      next.Beyond (first.flowTo redirect))
    (place : SamePlace console after)
    (clock : after.session.clock = console.session.clock)
    (files : after.session.files = console.session.files)
    (refills : ∀ since, Refilled first.session since console.session →
      Refilled first.session (since ++ [action]) after.session) :
    Account redirect first (actions ++ [action]) ⟨after, next⟩ := by
  cases account with
  | begun others samePlace sameClock sameFiles =>
      rcases goesOn with rfl | ⟨beyond, _⟩
      · exact .begun (others.snoc isOther) (samePlace.trans place)
          (clock.trans sameClock) (files.trans sameFiles)
      · cases beyond
  | emptied othersBefore othersEarly samePlace refilled sameFiles =>
      rcases goesOn with rfl | ⟨beyond, _⟩
      · rw [List.append_assoc, List.cons_append]
        exact .emptied othersBefore (othersEarly.snoc isOther)
          (samePlace.trans place) (refills _ refilled) (files.trans sameFiles)
      · cases beyond
  | saved othersBefore othersEarly othersLate samePlace refilled saved beyond =>
      have further : next.Beyond (first.flowTo redirect) := by
        rcases goesOn with rfl | ⟨_, further⟩
        · exact beyond
        · exact further
      have later := refills _ refilled
      rw [List.append_assoc] at later
      rw [List.append_assoc, List.cons_append, List.append_assoc,
        List.cons_append]
      exact .saved othersBefore othersEarly (othersLate.snoc isOther)
        (samePlace.trans place) later (files ▸ saved) further

/-- A step of which only the pool is told. -/
theorem withPool {next : Progress} {action : Action}
    (account : Account redirect first actions ⟨console, progress⟩)
    (isOther : action.IsOther) (nothing : action.heard? = none)
    (goesOn : progress = next ∨ progress.Beyond (first.flowTo redirect) ∧
      next.Beyond (first.flowTo redirect))
    (pool : Remote.Pool) :
    Account redirect first (actions ++ [action])
      ⟨console.withPool pool, next⟩ :=
  account.extend isOther goesOn ⟨rfl, rfl⟩ rfl rfl fun _ refilled =>
    refilled.silent nothing

theorem hear (account : Account redirect first actions ⟨console, progress⟩)
    (header : String) (url : Url) :
    Account redirect first (actions ++ [.hear header url])
      ⟨console.withSession (console.session.receive header url),
        progress⟩ :=
  account.extend trivial (.inl rfl) ⟨rfl, rfl⟩ rfl rfl fun _ refilled =>
    refilled.hear header url

theorem samePlace (account : Account redirect first actions ⟨console, progress⟩) :
    SamePlace first console := by
  cases account with
  | begun _ place _ _ => exact place
  | emptied _ _ place _ _ => exact place
  | saved _ _ _ place _ _ _ => exact place

/-- Every step keeps the accounts. -/
theorem step {action : Action} {before after : Ending}
    (account : Account redirect first actions before)
    (next : Moves redirect before action after) :
    Account redirect first (actions ++ [action]) after := by
  cases next with
  | empty console => exact account.empty
  | save console => exact account.save
  | giveUp console | tell console id untold =>
      refine account.withPool ?_ rfl (.inr ⟨?_, ?_⟩) _
      all_goals trivial
  | leave console =>
      have reached : console.flowTo redirect = first.flowTo redirect := by
        rw [flowTo, account.samePlace.base, flowTo]
      refine account.withPool ?_ rfl (.inr ⟨?_, ?_⟩) console.pool
      · trivial
      · trivial
      · exact reached
  | hear header url _ _ => exact account.hear header url
  | work outcome _ =>
      refine account.withPool ?_ rfl (.inl rfl) _
      trivial

end Account

theorem Ends.account {redirect : String} {first : Console}
    {actions : List Action} {last : Ending}
    (ends : Ends redirect ⟨first, .begun⟩ actions last) :
    Account redirect first actions last := by
  induction ends with
  | none => exact .begun others_nil ⟨rfl, rfl⟩ rfl rfl
  | step _ next induction => exact induction.step next

/-! ## Calls that have ended -/

/-- Every call has come to something. -/
def AllOver (pool : Remote.Pool) : Prop :=
  ∀ worker ∈ pool.workers, worker.isOpen = false

theorem AllOver.tell {pool : Remote.Pool} (ended : AllOver pool) (id : Nat) :
    AllOver (pool.tell id) := by
  intro worker member
  obtain ⟨before, beforeMember, rfl⟩ := List.mem_map.mp member
  split
  · exact ended before beforeMember
  · exact ended before beforeMember

theorem AllOver.work {pool : Remote.Pool} (ended : AllOver pool) (id : Nat)
    (outcome : Remote.Outcome) : AllOver (pool.step id outcome) := by
  intro worker member
  rw [Remote.Pool.workers_step] at member
  obtain ⟨before, beforeMember, rfl⟩ := List.mem_map.mp member
  split
  · exact before.isOpen_step (ended before beforeMember) outcome
  · exact ended before beforeMember

/-- Only a worker whose call is open hears of anything. -/
theorem Ends.heard_eq_nil {redirect : String} {first : Console}
    {actions : List Action} {last : Ending}
    (ends : Ends redirect ⟨first, .begun⟩ actions last)
    (ended : AllOver first.pool) :
    heard actions = [] ∧ AllOver last.console.pool := by
  induction ends with
  | none => exact ⟨rfl, ended⟩
  | step _ next induction =>
      obtain ⟨nothing, ended⟩ := induction
      rw [heard_append, nothing]
      cases next with
      | empty | save | giveUp | leave => exact ⟨rfl, ended⟩
      | tell console id untold => exact ⟨rfl, ended.tell id⟩
      | hear header url member calling =>
          have isOpen := Remote.Worker.isOpen_of_isCalling calling
          rw [ended _ member] at isOpen
          cases isOpen
      | work outcome _ => exact ⟨rfl, ended.work _ outcome⟩

/-- A line that ends the session leaves the cookies that workers have heard of
since the jar was emptied: all of them in the jar, and in the session file those
from before the jar was saved.  If no call is open there are none. -/
theorem left_with_what_was_heard {redirect : String} {first last : Console}
    {actions : List Action} {flow : Except BadTarget Flow}
    (ends : Ends redirect ⟨first, .begun⟩ actions ⟨last, .left flow⟩) :
    flow = first.flowTo redirect ∧
      (∃ before early late, Others before ∧ Others early ∧ Others late ∧
        actions = before ++ .empty :: (early ++ .save :: late) ∧
        Refilled first.session (early ++ late) last.session ∧
        Saved first early last.session.files ∧
        ∀ cookie, cookie ∈ last.session.jar.toList ↔
          ∃ setting, (Session.settings first.session.clock
              (heard (early ++ late))).find? (·.key = setting.key) =
                some setting ∧
            setting.kept? = some cookie) ∧
      (AllOver first.pool →
        last.session.jar = .empty ∧
          ∀ path saved, first.sessionFile = some path →
            first.session.expireAll.persist path = .ok saved →
            last.session.ForgottenAt path) := by
  cases ends.account with
  | @saved before early late _ _ othersBefore othersEarly othersLate _ refilled
      saved reached =>
      refine ⟨reached, ⟨before, early, late, othersBefore, othersEarly,
        othersLate, rfl, refilled, saved, ?_⟩, ?_⟩
      · intro cookie
        rw [refilled.jar]
        exact (Session.holds_afterAll _ _ _).mem_iff
      · intro ended
        obtain ⟨nothing, _⟩ := ends.heard_eq_nil ended
        have sinceThen : heard (.empty :: (early ++ .save :: late)) =
            heard early ++ heard late :=
          heard_append early (.save :: late)
        rw [heard_append, sinceThen] at nothing
        obtain ⟨_, nothingSince⟩ := List.append_eq_nil_iff.mp nothing
        rw [List.append_eq_nil_iff] at nothingSince
        constructor
        · rw [refilled.jar, heard_append, nothingSince.1, nothingSince.2]
          rfl
        · intro path written configured possible
          have text := saved path written configured possible
          rw [nothingSince.1] at text
          exact Session.forgottenAt_of_text text

/-! ## One call and the end of its session -/

/-- The call of a signed-in console has been answered. -/
def answered : Console :=
  signedIn.afterAll (.submit "get k" :: List.replicate 4 (.work 1 (.ok "A")))

theorem exit_routed (console : Console) (sameTable : console.table = exitOnly) :
    console.table.effect? "exit" = some (.clearSession "/exit") := by
  rw [sameTable]
  decide +kernel

theorem nothing_left_of_answered :
    answered.session.hasSession = true ∧
      (answered.submit "exit").2.session.jar = .empty ∧
      (answered.submit "exit").2.session.ForgottenAt "state/session.json" := by
  have routed := exit_routed answered (by decide +kernel)
  have ended : AllOver answered.pool := by
    unfold AllOver
    decide +kernel
  obtain ⟨_, _, nothingLeft⟩ := left_with_what_was_heard (ends_submit routed)
  obtain ⟨jar, file⟩ := nothingLeft ended
  obtain ⟨saved, written⟩ : ∃ saved, answered.session.expireAll.persist
      "state/session.json" = .ok saved := exists_eq_ok (by decide +kernel)
  exact ⟨by decide +kernel, jar, file _ saved rfl written⟩

/-- The worker of a signed-in console waits for a response. -/
def calling : Console :=
  signedIn.afterAll [.submit "get k", .work 1 (.ok "A")]

/-- The URL of the call that is under way. -/
def callUrl : Url :=
  { Session.rootOf "host.test" with
    path := .segments ["act"]
    query := some "action=get%20k" }

/-- The emptied session with the cookie that a late response sets. -/
def lateSession : Session :=
  calling.session.expireAll.receive "session=back; Path=/" callUrl

theorem lateSession_restored {saved : Session}
    (written : lateSession.persist "state/session.json" = .ok saved) :
    ∃ restored, (Session.fresh 100 saved.files).restore "state/session.json" =
        .ok restored ∧ restored.hasSession = true := by
  obtain ⟨files, persisted, rfl⟩ := Session.persist_eq_ok_iff.mp written
  have storable : lateSession.jar.Storable :=
    CookieJar.Storable.empty.receive _ _ calling.session.now_nonneg
  have read := CookieJar.restore_persist storable persisted 100
  refine ⟨_, map_eq_ok.mpr ⟨_, read, rfl⟩, ?_⟩
  change (CookieJar.overlay .empty (lateSession.jar.live lateSession.now)
    100).hasSession 100 = true
  decide +kernel

/-- The session that a late response sets is live when the console is left, and
it is in the session file. -/
theorem session_comes_back :
    calling.pending = 1 ∧
      (Remote.Call.act "get k").url calling.base = .ok callUrl ∧
      calling.table.effect? "exit" = some (.clearSession "/exit") ∧
      ∃ (last : Console) (url : Url),
        Ends "/exit" ⟨calling, .begun⟩
          (calling.disturbedActions "session=back; Path=/" callUrl)
          ⟨last, .left (.ok (.leave url))⟩ ∧
        last.session.hasSession = true ∧
        ∃ restored : Session,
          (Session.fresh 100 last.session.files).restore
              "state/session.json" = .ok restored ∧
            restored.hasSession = true := by
  have waits : calling.pool.workers[0].isCalling = true := by decide +kernel
  have flow : calling.flowTo "/exit" = .ok (.leave
      { callUrl with path := .segments ["exit"], query := none }) := rfl
  have ends := ends_disturbed "/exit" (List.getElem_mem _) waits
    "session=back; Path=/" callUrl
  have routed := exit_routed calling (by decide +kernel)
  obtain ⟨saved, written⟩ : ∃ saved,
      lateSession.persist "state/session.json" = .ok saved :=
    exists_eq_ok (by decide +kernel)
  have left : calling.disturbedSession "session=back; Path=/" callUrl =
      saved := Session.save_of_persist written
  have alive : (calling.disturbedSession "session=back; Path=/"
      callUrl).hasSession = true := by decide +kernel
  rw [flow, left] at ends
  rw [left] at alive
  exact ⟨by decide +kernel, rfl, routed, _, _, ends, alive,
    lateSession_restored written⟩

end Console

end OperatorConsole
