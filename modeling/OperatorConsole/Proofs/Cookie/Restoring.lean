import OperatorConsole.Proofs.Cookie.Restart

/-!
# Restoring a session

A file is read as a whole before the first of its cookies is put into the jar,
so a restoration that fails leaves the jar as it was.  One that succeeds leaves
the last live cookie of the file under each key and, where the file has none,
what was there before.  The steps are written out here with a session that stays
changed when a later step fails.
-/

namespace OperatorConsole

namespace CookieJar

/-! ## Lists put over a jar -/

/-- A jar has the last live cookie of a list under each key, or what another
jar has if there is none. -/
structure Overlays (cookies : List Cookie) (now : Int)
    (before after : CookieJar) : Prop where
  listed : ∀ front cookie back, cookies = front ++ cookie :: back →
    cookie.isExpired now = false →
    (∀ other ∈ back, other.key = cookie.key → other.isExpired now = true) →
    after.find? cookie.key = some cookie
  unlisted : ∀ key,
    (∀ cookie ∈ cookies, cookie.key = key → cookie.isExpired now = true) →
    after.find? key = before.find? key

/-- The last live cookie of a list with some key. -/
def lastLive? (cookies : List Cookie) (now : Int) (key : Cookie.Key) :
    Option Cookie :=
  cookies.reverse.find? fun cookie =>
    !cookie.isExpired now && decide (cookie.key = key)

theorem find?_overlay (jar : CookieJar) (cookies : List Cookie) (now : Int)
    (key : Cookie.Key) :
    (jar.overlay cookies now).find? key =
      (lastLive? cookies now key).or (jar.find? key) := by
  rw [overlay, OrderedBy.find?_putAll, ← List.filter_reverse,
    List.find?_filter, lastLive?]
  simp only [Bool.decide_and, Bool.decide_eq_true]

theorem lastLive?_eq_some {cookies : List Cookie} {now : Int}
    {key : Cookie.Key} {cookie : Cookie}
    (last : lastLive? cookies now key = some cookie) :
    cookie.key = key ∧ cookie.isExpired now = false ∧
      ∃ front back, cookies = front ++ cookie :: back ∧
        ∀ other ∈ back, other.key = key → other.isExpired now = true := by
  obtain ⟨isIt, back, front, split, others⟩ :=
    List.find?_eq_some_iff_append.mp last
  simp only [Bool.and_eq_true, Bool.not_eq_true', decide_eq_true_eq] at isIt
  refine ⟨isIt.2, isIt.1, front.reverse, back.reverse, ?_, ?_⟩
  · simpa using congrArg List.reverse split
  · intro other member same
    simpa [same] using others other (List.mem_reverse.mp member)

theorem lastLive?_eq_none {cookies : List Cookie} {now : Int}
    {key : Cookie.Key} :
    lastLive? cookies now key = none ↔
      ∀ cookie ∈ cookies, cookie.key = key →
        cookie.isExpired now = true := by
  rw [lastLive?, List.find?_eq_none]
  simp only [List.mem_reverse, Bool.and_eq_true, Bool.not_eq_true',
    decide_eq_true_eq]
  refine forall₂_congr fun cookie _ => ?_
  cases cookie.isExpired now <;> simp

/-- What a list is put over is determined key by key. -/
theorem overlays_iff {cookies : List Cookie} {now : Int}
    {before after : CookieJar} :
    Overlays cookies now before after ↔
      after = before.overlay cookies now := by
  constructor
  · intro overlays
    refine OrderedBy.eq_of_find?_eq fun key => ?_
    rw [find?_overlay]
    cases last : lastLive? cookies now key with
    | none => exact overlays.unlisted key (lastLive?_eq_none.mp last)
    | some cookie =>
        obtain ⟨rfl, live, front, back, split, others⟩ :=
          lastLive?_eq_some last
        exact overlays.listed front cookie back split live others
  · rintro rfl
    constructor
    case listed =>
      rintro front cookie back rfl live others
      have isLast : lastLive? (front ++ cookie :: back) now cookie.key =
          some cookie := by
        have none : lastLive? back now cookie.key = none :=
          lastLive?_eq_none.mpr others
        rw [lastLive?] at none ⊢
        simp [none, live]
      rw [find?_overlay, isLast, Option.some_or]
    case unlisted =>
      intro key expired
      rw [find?_overlay, lastLive?_eq_none.mpr expired, Option.none_or]

end CookieJar

namespace Session

/-! ## Steps that stay done -/

/-- Steps that change a session one after the other.  What has been changed when
one of them fails stays changed. -/
abbrev Steps (α : Type) : Type :=
  ExceptT CookieJar.FileTrouble (StateM Session) α

namespace Steps

variable {α β : Type}

/-- What comes of the steps, and the session as they leave it. -/
def outcome (steps : Steps α) (session : Session) :
    Except CookieJar.FileTrouble α × Session :=
  Id.run ((ExceptT.run steps).run session)

@[simp] theorem outcome_pure (value : α) (session : Session) :
    outcome (pure value) session = (.ok value, session) := rfl

@[simp] theorem outcome_throw (trouble : CookieJar.FileTrouble)
    (session : Session) :
    outcome (throw trouble : Steps α) session = (.error trouble, session) := rfl

@[simp] theorem outcome_get (session : Session) :
    outcome get session = (.ok session, session) := rfl

@[simp] theorem outcome_modify (change : Session → Session)
    (session : Session) :
    outcome (modify change) session = (.ok (), change session) := rfl

theorem outcome_bind (first : Steps α) (next : α → Steps β)
    (session : Session) :
    outcome (first >>= next) session =
      match outcome first session with
      | (.ok value, after) => outcome (next value) after
      | (.error trouble, after) => (.error trouble, after) := by
  unfold outcome
  rw [ExceptT.run_bind, StateT.run_bind, Id.run_bind]
  rcases Id.run ((ExceptT.run first).run session) with
    ⟨value | trouble, after⟩
  · rfl
  · rfl

end Steps

/-- Put a cookie into the jar, unless it has expired by some instant. -/
def putting (now : Int) (cookie : Cookie) : Steps Unit :=
  unless cookie.isExpired now do
    modify fun session => { session with jar := session.jar.put cookie }

/-- Read a file and put its live cookies into the jar one by one. -/
def restoring (path : String) : Steps Unit := do
  let session ← get
  match session.files.readText path with
  | .error .notFound => return
  | .error fault => throw (.reading path fault)
  | .ok text =>
      match CookieJar.ofFileText text with
      | .error error => throw (.parsing path error)
      | .ok cookies => cookies.forM (putting session.now)

/-- Make the directory of a file, as far as that can be done. -/
def makingParent (path : String) : Steps Unit := do
  let (result, files) :=
    (← get).files.createParent path CookieJar.FileTrouble.creating
  modify fun session => { session with files := files }
  match result with
  | .error trouble => throw trouble
  | .ok () => return

/-- Write a text to a file, if that can be done. -/
def writing (path text : String) : Steps Unit := do
  match (← get).files.write path text with
  | .error fault => throw (.writing path fault)
  | .ok files => modify fun session => { session with files := files }

/-- Make the directory of a file and write the live cookies to the file. -/
def persisting (path : String) : Steps Unit := do
  let session ← get
  makingParent path
  writing path (session.jar.fileText session.now)

/-- A file lists cookies. -/
def Lists (session : Session) (path : String) (cookies : List Cookie) :
    Prop :=
  ∃ text, session.files.readText path = .ok text ∧
    CookieJar.ofFileText text = .ok cookies

/-- What can come of restoring a session. -/
inductive Restores (session : Session) (path : String) :
    Except CookieJar.FileTrouble Unit → Session → Prop where
  | missing (absent : session.files.readText path = .error .notFound) :
      Restores session path (.ok ()) session
  | unreadable {fault : FileFault}
      (refused : session.files.readText path = .error fault)
      (there : fault ≠ .notFound) :
      Restores session path (.error (.reading path fault)) session
  | broken {text : String} {error : Json.ReadError}
      (read : session.files.readText path = .ok text)
      (unread : CookieJar.ofFileText text = .error error) :
      Restores session path (.error (.parsing path error)) session
  | overlaid {cookies : List Cookie} {jar : CookieJar}
      (listed : session.Lists path cookies)
      (overlays : CookieJar.Overlays cookies session.now session.jar jar) :
      Restores session path (.ok ()) { session with jar := jar }

theorem outcome_putting (now : Int) (cookie : Cookie) (session : Session) :
    (putting now cookie).outcome session =
      (.ok (), { session with jar := session.jar.overlay [cookie] now }) := by
  unfold putting CookieJar.overlay
  by_cases expired : cookie.isExpired now
  · rw [if_pos expired, List.filter_cons_of_neg (by simp [expired])]
    exact Steps.outcome_pure _ _
  · rw [if_neg expired, List.filter_cons_of_pos (by simp [expired])]
    exact Steps.outcome_modify _ _

/-- Cookies that are put one by one come to lie over those of the jar. -/
theorem outcome_forM_putting (now : Int) (cookies : List Cookie) :
    ∀ session : Session,
      Steps.outcome (cookies.forM (putting now)) session =
        (.ok (), { session with jar := session.jar.overlay cookies now }) := by
  induction cookies with
  | nil => exact fun _ => rfl
  | cons cookie cookies induction =>
      intro session
      have split : (cookie :: cookies).forM (putting now) =
          putting now cookie >>= fun _ => cookies.forM (putting now) := rfl
      have joined : (session.jar.overlay [cookie] now).overlay cookies now =
          session.jar.overlay (cookie :: cookies) now := by
        unfold CookieJar.overlay OrderedBy.putAll
        rw [← List.foldl_append, ← List.filter_append, List.singleton_append]
      rw [split, Steps.outcome_bind, outcome_putting]
      dsimp only
      rw [induction, joined]

section Restoring

variable {session : Session} {path : String}

theorem Lists.unique {cookies others : List Cookie}
    (listed : session.Lists path cookies)
    (again : session.Lists path others) : cookies = others := by
  obtain ⟨text, read, listed⟩ := listed
  obtain ⟨_, sameRead, again⟩ := again
  obtain rfl := Except.ok.inj (read.symm.trans sameRead)
  exact Except.ok.inj (listed.symm.trans again)

/-- What was saved lists the live cookies. -/
theorem lists_of_persist (storable : session.jar.Storable) {saved : Session}
    (written : session.persist path = .ok saved) :
    saved.Lists path (session.jar.live session.now) := by
  obtain ⟨files, persisted, rfl⟩ := persist_eq_ok_iff.mp written
  exact ⟨_, CookieJar.readText_persist persisted,
    CookieJar.ofFileText_fileText storable _⟩

theorem restore_of_lists {cookies : List Cookie}
    (listed : session.Lists path cookies) :
    session.restore path = .ok { session with
      jar := session.jar.overlay cookies session.now } := by
  obtain ⟨text, read, listed⟩ := listed
  rw [restore, CookieJar.restore, read]
  dsimp only
  rw [listed]
  rfl

theorem outcome_restoring_refused {fault : FileFault}
    (refused : session.files.readText path = .error fault) :
    (restoring path).outcome session =
      (if fault = .notFound then .ok () else .error (.reading path fault),
        session) := by
  unfold restoring
  rw [Steps.outcome_bind, Steps.outcome_get]
  dsimp only
  rw [refused]
  cases fault with
  | notFound => exact Steps.outcome_pure _ _
  | _ => exact Steps.outcome_throw _ _

theorem outcome_restoring_read {text : String}
    (read : session.files.readText path = .ok text) :
    (restoring path).outcome session =
      match CookieJar.ofFileText text with
      | .error error => (.error (.parsing path error), session)
      | .ok cookies => (.ok (),
          { session with jar := session.jar.overlay cookies session.now }) := by
  unfold restoring
  rw [Steps.outcome_bind, Steps.outcome_get]
  dsimp only
  rw [read]
  dsimp only
  cases CookieJar.ofFileText text with
  | error error => exact Steps.outcome_throw _ _
  | ok cookies => exact outcome_forM_putting _ cookies session

/-- What the steps leave is what a session goes on with after it was restored
or could not be. -/
theorem outcome_restoring (session : Session) (path : String) :
    (restoring path).outcome session =
      ((session.restore path).map fun _ => (),
        (session.restore path).toOption.getD session) := by
  unfold restore CookieJar.restore
  cases found : session.files.readText path with
  | error fault =>
      rw [outcome_restoring_refused found]
      cases fault with
      | notFound => rfl
      | _ => rfl
  | ok text =>
      rw [outcome_restoring_read found]
      dsimp only
      cases CookieJar.ofFileText text with
      | error error => rfl
      | ok cookies => rfl

theorem restores_outcome (session : Session) (path : String) :
    Restores session path ((restoring path).outcome session).1
      ((restoring path).outcome session).2 := by
  cases found : session.files.readText path with
  | error fault =>
      rw [outcome_restoring_refused found]
      by_cases absent : fault = .notFound
      · subst absent
        exact .missing found
      · rw [if_neg absent]
        exact .unreadable found absent
  | ok text =>
      rw [outcome_restoring_read found]
      cases listed : CookieJar.ofFileText text with
      | error error => exact .broken found listed
      | ok cookies =>
          exact .overlaid ⟨text, found, listed⟩
            (CookieJar.overlays_iff.mpr rfl)

theorem restores_result (session : Session) (path : String) :
    Restores session path ((session.restore path).map fun _ => ())
      ((session.restore path).toOption.getD session) := by
  have restores := restores_outcome session path
  rwa [outcome_restoring] at restores

theorem restores_of_restore {restored : Session}
    (read : session.restore path = .ok restored) :
    Restores session path (.ok ()) restored := by
  have restores := restores_result session path
  rwa [read] at restores

theorem Restores.outcome_eq {result : Except CookieJar.FileTrouble Unit}
    {after : Session} (restores : Restores session path result after) :
    (restoring path).outcome session = (result, after) := by
  cases restores with
  | missing absent => exact outcome_restoring_refused absent
  | unreadable refused there =>
      rw [outcome_restoring_refused refused, if_neg there]
  | broken read unread => rw [outcome_restoring_read read, unread]
  | overlaid listed overlays =>
      obtain ⟨text, read, listed⟩ := listed
      rw [outcome_restoring_read read, listed,
        CookieJar.overlays_iff.mp overlays]

end Restoring

theorem outcome_makingParent (session : Session) (path : String) :
    (makingParent path).outcome session =
      let (result, files) :=
        session.files.createParent path CookieJar.FileTrouble.creating
      (result, { session with files := files }) := by
  unfold makingParent
  rw [Steps.outcome_bind, Steps.outcome_get]
  dsimp only
  rw [Steps.outcome_bind, Steps.outcome_modify]
  cases (session.files.createParent path CookieJar.FileTrouble.creating).1 with
  | error trouble => exact Steps.outcome_throw _ _
  | ok => exact Steps.outcome_pure _ _

theorem outcome_writing (session : Session) (path text : String) :
    (writing path text).outcome session =
      match session.files.write path text with
      | .error fault => (.error (.writing path fault), session)
      | .ok files => (.ok (), { session with files := files }) := by
  unfold writing
  rw [Steps.outcome_bind, Steps.outcome_get]
  dsimp only
  cases session.files.write path text with
  | error fault => exact Steps.outcome_throw _ _
  | ok files => exact Steps.outcome_modify _ _

/-- What the steps leave is what a session goes on with after it was written or
could not be. -/
theorem outcome_persisting (session : Session) (path : String) :
    (persisting path).outcome session = session.write path := by
  unfold persisting Session.write CookieJar.persist
  rw [Steps.outcome_bind, Steps.outcome_get]
  dsimp only
  rw [Steps.outcome_bind, outcome_makingParent]
  rcases session.files.createParent path CookieJar.FileTrouble.creating with
    ⟨trouble | _, inside⟩
  · rfl
  · dsimp only
    rw [outcome_writing]
    cases inside.write path (session.jar.fileText session.now) with
    | error fault => rfl
    | ok files => rfl

/-- Whether or not a session is written, only its files change. -/
theorem write_eq (session : Session) (path : String) :
    ∃ files, session.write path =
        ((session.persist path).map fun _ => (),
          { session with files := files }) ∧
      ∀ saved, session.persist path = .ok saved →
        saved = { session with files := files } := by
  refine ⟨(session.write path).2.files, ?_, ?_⟩
  · unfold persist
    cases ended : (session.write path).1 with
    | error trouble => exact Prod.ext ended rfl
    | ok => exact Prod.ext ended rfl
  · intro saved written
    obtain ⟨_, _, rfl⟩ := map_eq_ok.mp written
    rfl

/-- A session is restored from a whole file or, if that cannot be read, stays as
it was.  The live cookies of the file come over those of the jar, and saving
leaves the jar alone. -/
theorem restored_wholly_or_not_at_all (session : Session) (path : String) :
    (∀ result after, (restoring path).outcome session = (result, after) ↔
        Restores session path result after) ∧
      (restoring path).outcome session =
        ((session.restore path).map fun _ => (),
          (session.restore path).toOption.getD session) ∧
      (persisting path).outcome session = session.write path ∧
      ∃ files, (persisting path).outcome session =
          ((session.persist path).map fun _ => (),
            { session with files := files }) ∧
        ∀ saved, session.persist path = .ok saved →
          saved = { session with files := files } := by
  refine ⟨fun result after => ⟨?_, Restores.outcome_eq⟩,
    outcome_restoring session path, outcome_persisting session path,
    outcome_persisting session path ▸ write_eq session path⟩
  intro done
  have restores := restores_outcome session path
  rwa [done] at restores

end Session

end OperatorConsole
