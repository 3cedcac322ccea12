import OperatorConsole.Proofs.Cookie.History
import OperatorConsole.Proofs.Cookie.SessionFile
import OperatorConsole.Proofs.Directories

/-!
# Sessions over a restart

A session that is written to a file and read again later answers as if it had
never been interrupted.  All that an answer depends on are the live cookies:
the file holds those of the instant at which it was written, and at later ones
no others are alive.
-/

namespace OperatorConsole

theorem Cookie.isExpired_later {cookie : Cookie} {now later : Int}
    (expired : cookie.isExpired now = true) (notBefore : now ≤ later) :
    cookie.isExpired later = true := by
  obtain ⟨limit, isLimit, passed⟩ := isExpired_iff.mp expired
  exact isExpired_iff.mpr ⟨limit, isLimit, Int.le_trans passed notBefore⟩

namespace CookieJar

/-- What is alive later on has been alive before. -/
theorem filter_live (cookies : List Cookie) {now later : Int}
    (notBefore : now ≤ later) :
    (cookies.filter (!·.isExpired now)).filter (!·.isExpired later) =
      cookies.filter (!·.isExpired later) := by
  rw [List.filter_filter]
  refine List.filter_congr fun cookie _ => ?_
  cases alive : cookie.isExpired later with
  | true => rfl
  | false =>
      have before : cookie.isExpired now = false := by
        rw [← Bool.not_eq_true]
        intro expired
        rw [Cookie.isExpired_later expired notBefore] at alive
        cases alive
      rw [before]
      rfl

theorem live_overlay_live (jar : CookieJar) {now later instant : Int}
    (notBefore : now ≤ later) (after : later ≤ instant) :
    (overlay .empty (jar.live now) later).live instant =
      jar.live instant := by
  have content : (overlay .empty (jar.live now) later).toList =
      jar.live later := by
    unfold overlay
    rw [live, filter_live _ notBefore, OrderedBy.toList_putAll]
    · rfl
    · exact jar.ordered.filter _
  rw [live, content, live, filter_live _ after, live]

section Persist

variable {jar : CookieJar} {now : Int} {files after : Files} {path : String}

/-- A jar is written if its directory can be made and its file written there. -/
theorem persist_eq_ok_iff :
    jar.persist now files path = (.ok (), after) ↔
      ∃ inside,
        files.createParent path FileTrouble.creating = (.ok (), inside) ∧
          inside.write path (jar.fileText now) = .ok after := by
  unfold persist
  constructor
  · intro done
    split at done
    · next inside created =>
        split at done
        · cases done
        · next written =>
            cases done
            exact ⟨inside, created, written⟩
    · next failed => exact (failed _ done).elim
  · rintro ⟨inside, created, written⟩
    rw [created]
    dsimp only
    rw [written]

theorem persist_eq_error {trouble : FileTrouble}
    (failed : jar.persist now files path = (.error trouble, after)) :
    files.createParent path FileTrouble.creating = (.error trouble, after) ∨
      ∃ fault,
        files.createParent path FileTrouble.creating = (.ok (), after) ∧
          after.write path (jar.fileText now) = .error fault := by
  unfold persist at failed
  split at failed
  · next created =>
      split at failed
      · next fault refused =>
          cases failed
          exact .inr ⟨fault, created, refused⟩
      · cases failed
  · exact .inl failed

theorem readText_persist
    (written : jar.persist now files path = (.ok (), after)) :
    after.readText path = .ok (jar.fileText now) := by
  obtain ⟨inside, _, written⟩ := persist_eq_ok_iff.mp written
  exact Files.readText_write written

end Persist

/-- A file that was written for a jar is read into an empty one. -/
theorem restore_persist {jar : CookieJar} (storable : jar.Storable)
    {now : Int} {files after : Files} {path : String}
    (written : jar.persist now files path = (.ok (), after)) (later : Int) :
    restore .empty later after path =
      .ok (overlay .empty (jar.live now) later) := by
  rw [restore, readText_persist written]
  dsimp only
  rw [ofFileText_fileText storable]

theorem storable_restore {jar restored : CookieJar} (storable : jar.Storable)
    {now : Int} {files : Files} {path : String}
    (read : jar.restore now files path = .ok restored) :
    restored.Storable := by
  unfold restore at read
  split at read
  · cases read
    exact storable
  · cases read
  · split at read
    · cases read
    · next accepted =>
        cases read
        refine storable.putAll fun cookie member => ?_
        exact storable_of_ofFileText accepted cookie
          (List.mem_filter.mp member).1

end CookieJar

namespace Session

/-- What can happen to a session, its clock and its files. -/
inductive Change where
  | receive (header : String) (url : Url)
  | receiveAll (headers : List String) (url : Url)
  /-- A file is read; one that is not accepted changes nothing. -/
  | restore (path : String)
  | expireAll
  | advance (seconds : Int)
  | share (files : Files)

def changed (session : Session) : Change → Session
  | .receive header url => session.receive header url
  | .receiveAll headers url => session.receiveAll headers url
  | .restore path => (session.restore path).toOption.getD session
  | .expireAll => session.expireAll
  | .advance seconds => session.advance seconds
  | .share files => { session with files := files }

def changedAll (session : Session) (changes : List Change) : Session :=
  changes.foldl changed session

theorem persist_eq_ok_iff {session saved : Session} {path : String} :
    session.persist path = .ok saved ↔
      ∃ files,
        session.jar.persist session.now session.files path =
            (.ok (), files) ∧
          { session with files := files } = saved := by
  unfold persist write
  rcases session.jar.persist session.now session.files path with
    ⟨trouble | _, files⟩
  · constructor
    · intro failed
      cases failed
    · rintro ⟨_, failed, _⟩
      cases failed
  · constructor
    · intro done
      exact ⟨files, rfl, Except.ok.inj done⟩
    · rintro ⟨_, same, rfl⟩
      cases same
      rfl

theorem now_nonneg (session : Session) : 0 ≤ session.now :=
  Int.le_max_right _ _

theorem storable_of_restore {session restored : Session} {path : String}
    (storable : session.jar.Storable)
    (read : session.restore path = .ok restored) : restored.jar.Storable := by
  obtain ⟨jar, accepted, rfl⟩ := map_eq_ok.mp read
  exact CookieJar.storable_restore storable accepted

theorem storable_changed {session : Session}
    (storable : session.jar.Storable) (change : Change) :
    (session.changed change).jar.Storable := by
  cases change with
  | receive header url => exact storable.receive header url session.now_nonneg
  | receiveAll headers url =>
      exact storable.receiveAll headers url session.now_nonneg
  | restore path =>
      rw [changed]
      cases read : session.restore path with
      | error trouble => exact storable
      | ok restored => exact storable_of_restore storable read
  | expireAll =>
      intro cookie member
      cases member
  | advance | share => exact storable

theorem storable_changedAll (changes : List Change) :
    ∀ {session : Session}, session.jar.Storable →
      (session.changedAll changes).jar.Storable := by
  induction changes with
  | nil => exact fun storable => storable
  | cons change changes induction =>
      exact fun storable => induction (storable_changed storable change)

/-- Two sessions that say the same and write the same. -/
structure AnswersAlike (left right : Session) : Prop where
  names : left.names = right.names
  hasSession : left.hasSession = right.hasSession
  header : ∀ url, left.header? url = right.header? url
  sentHeader : ∀ url, left.sentHeader? url = right.sentHeader? url
  text : left.jar.fileText left.now = right.jar.fileText right.now
  write : ∀ path, (left.write path).1 = (right.write path).1 ∧
    (left.write path).2.files = (right.write path).2.files

theorem answersAlike_of_live {left right : Session}
    (live : left.jar.live left.now = right.jar.live right.now)
    (sameFiles : left.files = right.files) : AnswersAlike left right := by
  have header : ∀ url, left.header? url = right.header? url := by
    intro url
    simp only [header?, CookieJar.header?, CookieJar.applicable, live]
  have text : left.jar.fileText left.now = right.jar.fileText right.now := by
    rw [CookieJar.fileText, live, CookieJar.fileText]
  constructor
  case names => rw [names, CookieJar.names, live, names, CookieJar.names]
  case hasSession =>
    rw [hasSession, CookieJar.hasSession, live, hasSession,
      CookieJar.hasSession]
  case header => exact header
  case sentHeader =>
    intro url
    have same := header url
    unfold header? at same
    rw [sentHeader?, CookieJar.sentHeader?, same]
    rfl
  case text => exact text
  case write =>
    intro path
    have same : left.jar.persist left.now left.files path =
        right.jar.persist right.now right.files path := by
      unfold CookieJar.persist
      rw [text, sameFiles]
    have results := congrArg Prod.fst same
    have written := congrArg Prod.snd same
    exact ⟨results, written⟩

/-- A session that was written to a file is restored from it at any later
instant, and from then on answers like the one that was written. -/
theorem restored_answers_alike {clock : Int} {files : Files}
    {changes : List Change} {path : String} {saved : Session} {later : Int}
    (written : ((fresh clock files).changedAll changes).persist path =
      .ok saved)
    (notBefore : saved.now ≤ max later 0) :
    ∃ restored, (fresh later saved.files).restore path = .ok restored ∧
      ∀ instant, max later 0 ≤ max instant 0 →
        AnswersAlike { saved with clock := instant }
          { restored with clock := instant } := by
  obtain ⟨after, persisted, rfl⟩ := persist_eq_ok_iff.mp written
  have storable : ((fresh clock files).changedAll changes).jar.Storable :=
    storable_changedAll changes .empty
  have read := CookieJar.restore_persist storable persisted (max later 0)
  refine ⟨_, map_eq_ok.mpr ⟨_, read, rfl⟩, ?_⟩
  intro instant reached
  -- The jars may differ, but not in what is alive from now on.
  refine answersAlike_of_live ?_ rfl
  exact (CookieJar.live_overlay_live _ notBefore reached).symm

/-- A session with a cookie that lives for a minute. -/
def signedIn : Session :=
  (fresh 100 .empty).changedAll
    [.receive "session=größe; Max-Age=60" (rootOf "host.test")]

theorem session_outlasts_restart :
    ∃ saved restored, signedIn.persist "state/session.json" = .ok saved ∧
      (fresh 130 saved.files).restore "state/session.json" = .ok restored ∧
      restored.hasSession = true ∧
      { restored with clock := 160 }.hasSession = false := by
  obtain ⟨saved, written⟩ : ∃ saved,
      signedIn.persist "state/session.json" = .ok saved :=
    exists_eq_ok (by decide +kernel)
  have notBefore : saved.now ≤ max 130 0 := by
    obtain ⟨_, _, rfl⟩ := persist_eq_ok_iff.mp written
    change signedIn.now ≤ max 130 0
    decide +kernel
  obtain ⟨restored, read, alike⟩ :=
    restored_answers_alike written notBefore
  have clock : restored.clock = 130 := by
    obtain ⟨_, _, rfl⟩ := map_eq_ok.mp read
    rfl
  refine ⟨_, restored, written, read, ?_, ?_⟩
  · have same := (alike 130 (Int.le_refl _)).hasSession
    rw [← clock] at same
    refine same.symm.trans ?_
    obtain ⟨_, _, rfl⟩ := persist_eq_ok_iff.mp written
    change signedIn.jar.hasSession (max restored.clock 0) = true
    rw [clock]
    decide +kernel
  · refine (alike 160 (by decide)).hasSession.symm.trans ?_
    obtain ⟨_, _, rfl⟩ := persist_eq_ok_iff.mp written
    change signedIn.jar.hasSession 160 = false
    decide +kernel

end Session

end OperatorConsole
