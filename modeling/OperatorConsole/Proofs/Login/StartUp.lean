import OperatorConsole.Login
import OperatorConsole.Proofs.Cookie.Forgetting
import OperatorConsole.Proofs.Remote.Client

/-!
# Starting with a saved session

A start asks for a log-in only if the session file holds no live session, and
it gives up after three that failed.  Once it has succeeded, the file leads the
next start to a session without a log-in.
-/

namespace OperatorConsole.Login

/-- A log-in that was tried: what was typed and what came of it. -/
structure Try where
  typed : Credentials
  result : Except Remote.LoginFault Unit

/-- What is printed about a log-in. -/
def Try.said (tried : Try) : String :=
  match tried.result with
  | .ok () => "Welcome " ++ tried.typed.username ++ "!"
  | .error fault => fault.message

/-- The log-ins that are tried from some point on. -/
def tries : Progress → List Credentials → List Try
  | .asking dialog, typed :: rest =>
      ⟨typed, (Remote.login dialog.link dialog.base typed.username
        typed.password).1⟩ :: tries (attempt dialog typed).1 rest
  | .asking _, [] | .done _, _ | .failed _ _, _ => []

@[simp] theorem tries_done (link : Http.Link) (typed : List Credentials) :
    tries (.done link) typed = [] := by
  cases typed <;> rfl

@[simp] theorem tries_failed (failure : Failure) (link : Http.Link)
    (typed : List Credentials) : tries (.failed failure link) typed = [] := by
  cases typed <;> rfl

@[simp] theorem proceed_done (link : Http.Link) (typed : List Credentials) :
    proceed (.done link) typed = (.ok (), link, []) := by
  cases typed <;> rfl

@[simp] theorem proceed_failed (failure : Failure) (link : Http.Link)
    (typed : List Credentials) :
    proceed (.failed failure link) typed = (.error failure, link, []) := by
  cases typed <;> rfl

theorem proceed_asking (dialog : Dialog) (credentials : Credentials)
    (typed : List Credentials) :
    proceed (.asking dialog) (credentials :: typed) =
      let (result, link, later) :=
        proceed (attempt dialog credentials).1 typed
      (result, link, (attempt dialog credentials).2 ++ later) := rfl

/-! ## One log-in -/

/-- A log-in that succeeds is saved; after another one it is asked again, unless
that was the last one. -/
theorem attempt_cases (dialog : Dialog) (typed : Credentials) :
    ∃ link, Http.Asks dialog.link link ∧
      ((Remote.login dialog.link dialog.base typed.username typed.password =
            (.ok (), link) ∧
          link.session.hasSession = true ∧
          (attempt dialog typed).1 = save link dialog.sessionFile) ∨
        ∃ fault, Remote.login dialog.link dialog.base typed.username
            typed.password = (.error fault, link) ∧
          (attempt dialog typed).1 =
            if dialog.attemptsLeft ≤ 1 then .failed .tooOften link
            else .asking { dialog with
              link := link
              attemptsLeft := dialog.attemptsLeft - 1 }) := by
  have asks : Http.Asks dialog.link (Remote.login dialog.link dialog.base
      typed.username typed.password).2 := Remote.asks_login
  unfold attempt
  rcases outcome : Remote.login dialog.link dialog.base typed.username
    typed.password with ⟨result, link⟩
  rw [outcome] at asks
  refine ⟨link, asks, ?_⟩
  cases result with
  | ok success =>
      exact .inl ⟨rfl, Remote.hasSession_of_login outcome, rfl⟩
  | error fault => exact .inr ⟨fault, rfl, rfl⟩

theorem printed_attempt (dialog : Dialog) (typed : Credentials) :
    (attempt dialog typed).2 =
      [Try.said ⟨typed, (Remote.login dialog.link dialog.base typed.username
        typed.password).1⟩] := by
  unfold attempt
  rcases Remote.login dialog.link dialog.base typed.username typed.password
    with ⟨success | fault, link⟩
  · rfl
  · rfl

theorem tries_save (link : Http.Link) (sessionFile : String)
    (typed : List Credentials) : tries (save link sessionFile) typed = [] := by
  unfold save
  split
  · exact tries_done _ _
  · exact tries_failed _ _ _

/-! ## All log-ins -/

/-- A line is printed about each log-in. -/
theorem printed_proceed (typed : List Credentials) :
    ∀ progress : Progress,
      (proceed progress typed).2.2 = (tries progress typed).map Try.said := by
  induction typed with
  | nil =>
      intro progress
      cases progress with
      | asking | done | failed => rfl
  | cons credentials typed induction =>
      intro progress
      cases progress with
      | done | failed => rfl
      | asking dialog =>
          have printed := printed_attempt dialog credentials
          have later := induction (attempt dialog credentials).1
          rw [tries, List.map_cons, ← later]
          change (attempt dialog credentials).2 ++ _ = _
          rw [printed]
          rfl

theorem length_tries (typed : List Credentials) :
    ∀ dialog : Dialog, 0 < dialog.attemptsLeft →
      (tries (.asking dialog) typed).length ≤ dialog.attemptsLeft := by
  induction typed with
  | nil => exact fun _ _ => Nat.zero_le _
  | cons credentials typed induction =>
      intro dialog positive
      rw [tries, List.length_cons]
      obtain ⟨link, _, ⟨_, _, saved⟩ | ⟨fault, _, refused⟩⟩ :=
        attempt_cases dialog credentials
      · rw [saved, tries_save]
        exact positive
      · rw [refused]
        split
        · rw [tries_failed]
          exact positive
        · next more =>
            have rest := induction { dialog with
              link := link
              attemptsLeft := dialog.attemptsLeft - 1 }
              (Nat.sub_pos_of_lt (Nat.lt_of_not_le more))
            dsimp only at rest
            omega

/-! ## Sessions at a standing clock -/

/-- Of a session nothing but the cookies has changed, and they can be saved. -/
structure Unmoved (clock : Int) (files : Files) (session : Session) : Prop where
  clock : session.clock = clock
  files : session.files = files
  storable : session.jar.Storable

namespace Unmoved

variable {clock : Int} {files : Files} {link last : Http.Link}

theorem fresh (clock : Int) (files : Files) :
    Unmoved clock files (.fresh clock files) :=
  ⟨rfl, rfl, .empty⟩

theorem asks (unmoved : Unmoved clock files link.session)
    (asks : Http.Asks link last) : Unmoved clock files last.session := by
  obtain ⟨jar, session⟩ := asks.session_eq
  refine ⟨?_, ?_, asks.storable unmoved.storable⟩
  · rw [session]
    exact unmoved.clock
  · rw [session]
    exact unmoved.files

theorem takeUp (unmoved : Unmoved clock files link.session)
    (sessionFile : String) :
    Unmoved clock files (takeUp link sessionFile).session := by
  unfold Login.takeUp
  cases read : link.session.restore sessionFile with
  | error trouble => exact unmoved
  | ok restored =>
      obtain ⟨jar, accepted, rfl⟩ := map_eq_ok.mp read
      exact ⟨unmoved.clock, unmoved.files,
        CookieJar.storable_restore unmoved.storable accepted⟩

end Unmoved

section Outcomes

variable {clock : Int} {files : Files}

/-- A start that succeeds with a log-in has saved the session. -/
theorem proceed_eq_ok (typed : List Credentials) :
    ∀ {dialog : Dialog}, Unmoved clock files dialog.link.session →
      (proceed (.asking dialog) typed).1 = .ok () →
      ∃ session, Unmoved clock files session ∧ session.hasSession = true ∧
        session.persist dialog.sessionFile =
          .ok (proceed (.asking dialog) typed).2.1.session := by
  induction typed with
  | nil =>
      intro dialog _ ended
      cases ended
  | cons credentials typed induction =>
      intro dialog unmoved ended
      rw [proceed_asking] at ended ⊢
      dsimp only at ended ⊢
      obtain ⟨link, asks, ⟨_, held, saved⟩ | ⟨fault, _, refused⟩⟩ :=
        attempt_cases dialog credentials
      · rw [saved] at ended ⊢
        unfold save at ended ⊢
        rcases wrote : link.session.write dialog.sessionFile with
          ⟨trouble | _, session⟩
        · simp [wrote] at ended
        · refine ⟨link.session, unmoved.asks asks, held, ?_⟩
          rw [Session.persist, wrote]
          simp [Except.map]
      · rw [refused] at ended ⊢
        split at ended
        · simp at ended
        · next more =>
            rw [if_neg more]
            exact induction (unmoved.asks asks) ended

/-- A start whose log-ins all fail changes no file, and it gives up when they
were as many as it may try. -/
theorem proceed_of_refused (typed : List Credentials) :
    ∀ {dialog : Dialog}, Unmoved clock files dialog.link.session →
      0 < dialog.attemptsLeft →
      (∀ tried ∈ tries (.asking dialog) typed, tried.result ≠ .ok ()) →
      (proceed (.asking dialog) typed).2.1.session.files = files ∧
        ((tries (.asking dialog) typed).length = dialog.attemptsLeft →
          (proceed (.asking dialog) typed).1 = .error .tooOften) := by
  induction typed with
  | nil =>
      intro dialog unmoved positive _
      refine ⟨unmoved.files, fun none => ?_⟩
      rw [← none] at positive
      cases positive
  | cons credentials typed induction =>
      intro dialog unmoved positive refusals
      rw [proceed_asking]
      dsimp only
      rw [tries, List.length_cons]
      rw [tries] at refusals
      obtain ⟨first, others⟩ := List.forall_mem_cons.mp refusals
      obtain ⟨link, asks, ⟨accepted, _, _⟩ | ⟨fault, _, refused⟩⟩ :=
        attempt_cases dialog credentials
      · rw [accepted] at first
        exact (first rfl).elim
      · rw [refused] at others ⊢
        have moved := unmoved.asks asks
        split
        · simp [moved.files]
        · next more =>
            rw [if_neg more] at others
            obtain ⟨same, gaveUp⟩ := induction moved
              (Nat.sub_pos_of_lt (Nat.lt_of_not_le more)) others
            refine ⟨same, fun all => gaveUp ?_⟩
            dsimp only
            omega

end Outcomes

/-! ## Starts -/

/-- The log-ins that a start tries. -/
def triesOf (link : Http.Link) (base : Url) (sessionFile : String)
    (typed : List Credentials) : List Try :=
  tries (start link base sessionFile).1 typed

section Starts

variable {link : Http.Link} {base : Url} {sessionFile : String}
  {typed : List Credentials} {clock : Int} {files : Files}

theorem start_of_held
    (held : (takeUp link sessionFile).session.hasSession = true) :
    start link base sessionFile = (.done (takeUp link sessionFile), []) := by
  unfold start
  simp [held]

theorem start_of_not_held
    (lacking : (takeUp link sessionFile).session.hasSession = false) :
    start link base sessionFile =
      (.asking ⟨takeUp link sessionFile, base, sessionFile, mostAttempts⟩,
        [invitation base]) := by
  unfold start
  simp [lacking]

theorem ensure_eq : ensure link base sessionFile typed =
    let (result, last, later) :=
      proceed (start link base sessionFile).1 typed
    (result, last, (start link base sessionFile).2 ++ later) := rfl

theorem ensure_of_held
    (held : (takeUp link sessionFile).session.hasSession = true) :
    ensure link base sessionFile typed =
      (.ok (), takeUp link sessionFile, []) := by
  rw [ensure_eq, start_of_held held, proceed_done]
  rfl

theorem printed_ensure : (ensure link base sessionFile typed).2.2 =
    (start link base sessionFile).2 ++
      (triesOf link base sessionFile typed).map Try.said := by
  rw [triesOf, ← printed_proceed, ensure_eq]

theorem length_triesOf :
    (triesOf link base sessionFile typed).length ≤ mostAttempts := by
  unfold triesOf start
  dsimp only
  split
  · rw [tries_done]
    exact Nat.zero_le _
  · exact length_tries typed _ (Nat.zero_lt_succ 2)

/-- What was saved is taken up at the same time. -/
theorem takeUp_saved {session saved : Session}
    (unmoved : Unmoved clock files session) (held : session.hasSession = true)
    (persisted : session.persist sessionFile = .ok saved)
    (fresh : link.session = .fresh clock saved.files) :
    (takeUp link sessionFile).session.hasSession = true ∧
      (takeUp link sessionFile).session.jar.live
          (takeUp link sessionFile).session.now =
        saved.jar.live saved.now := by
  obtain ⟨written, stored, rfl⟩ := Session.persist_eq_ok_iff.mp persisted
  have now : max clock 0 = session.now := by rw [Session.now, unmoved.clock]
  have read := CookieJar.restore_persist unmoved.storable stored (max clock 0)
  let restored : Session :=
    ⟨.overlay .empty (session.jar.live session.now) (max clock 0), clock,
      written⟩
  have accepted : link.session.restore sessionFile = .ok restored := by
    rw [fresh]
    exact map_eq_ok.mpr ⟨_, read, rfl⟩
  have live : restored.jar.live restored.now =
      session.jar.live session.now := by
    change CookieJar.live (.overlay .empty _ (max clock 0)) (max clock 0) = _
    rw [now]
    exact CookieJar.live_overlay_live _ (Int.le_refl _) (Int.le_refl _)
  have taken : (takeUp link sessionFile).session = restored := by
    rw [takeUp, accepted]
    rfl
  rw [taken, Session.hasSession, CookieJar.hasSession, live]
  exact ⟨held, rfl⟩

/-- A start that has succeeded is taken up by every other one. -/
theorem takeUp_ensured (fresh : link.session = .fresh clock files)
    (succeeded : (ensure link base sessionFile typed).1 = .ok ())
    {other : Http.Link}
    (sameFiles : other.session = .fresh clock
      (ensure link base sessionFile typed).2.1.session.files) :
    (takeUp other sessionFile).session.hasSession = true ∧
      (takeUp other sessionFile).session.jar.live
          (takeUp other sessionFile).session.now =
        (ensure link base sessionFile typed).2.1.session.jar.live
          (ensure link base sessionFile typed).2.1.session.now := by
  have unmoved : Unmoved clock files (takeUp link sessionFile).session :=
    Unmoved.takeUp (fresh ▸ Unmoved.fresh clock files) sessionFile
  cases held : (takeUp link sessionFile).session.hasSession with
  | true =>
      rw [ensure_of_held held] at sameFiles ⊢
      have same : (takeUp other sessionFile).session =
          (takeUp link sessionFile).session := by
        rw [unmoved.files, ← fresh] at sameFiles
        rw [takeUp, sameFiles]
        rfl
      rw [same]
      exact ⟨held, rfl⟩
  | false =>
      rw [ensure_eq, start_of_not_held held] at succeeded sameFiles ⊢
      obtain ⟨session, still, hasSession, persisted⟩ :=
        proceed_eq_ok typed unmoved succeeded
      exact takeUp_saved still hasSession persisted sameFiles

theorem ensure_of_refused (fresh : link.session = .fresh clock files)
    (refusals : ∀ tried ∈ triesOf link base sessionFile typed,
      tried.result ≠ .ok ())
    (all : (triesOf link base sessionFile typed).length = mostAttempts) :
    (ensure link base sessionFile typed).1 = .error .tooOften ∧
      (ensure link base sessionFile typed).2.1.session.files = files := by
  have unmoved : Unmoved clock files (takeUp link sessionFile).session :=
    Unmoved.takeUp (fresh ▸ Unmoved.fresh clock files) sessionFile
  unfold triesOf at refusals all
  cases held : (takeUp link sessionFile).session.hasSession with
  | true =>
      rw [start_of_held held, tries_done] at all
      cases all
  | false =>
      rw [start_of_not_held held] at refusals all
      rw [ensure_eq, start_of_not_held held]
      obtain ⟨same, gaveUp⟩ :=
        proceed_of_refused typed unmoved (Nat.zero_lt_succ 2) refusals
      exact ⟨gaveUp all, same⟩

/-- A start tries three log-ins at most and prints a line about each.  If it
succeeds, every other start on its files at the same time succeeds without a
prompt and without a request; if three log-ins fail, it fails and leaves the
files alone. -/
theorem start_up_stable (fresh : link.session = .fresh clock files)
    {result : Except Failure Unit} {last : Http.Link} {printed : List String}
    (ended : ensure link base sessionFile typed = (result, last, printed)) :
    (triesOf link base sessionFile typed).length ≤ 3 ∧
    printed = (start link base sessionFile).2 ++
      (triesOf link base sessionFile typed).map Try.said ∧
    (result = .ok () →
      ∀ other : Http.Link, other.session = .fresh clock last.session.files →
        ∃ restored : Session, restored.hasSession = true ∧
          restored.jar.live restored.now =
            last.session.jar.live last.session.now ∧
          ∀ (otherBase : Url) (otherTyped : List Credentials),
            ensure other otherBase sessionFile otherTyped =
              (.ok (), { other with session := restored }, [])) ∧
    ((triesOf link base sessionFile typed).length = 3 →
      (∀ tried ∈ triesOf link base sessionFile typed,
        tried.result ≠ .ok ()) →
      result = .error .tooOften ∧ last.session.files = files) := by
  have outcome : (ensure link base sessionFile typed).1 = result := by
    rw [ended]
  have final : (ensure link base sessionFile typed).2.1 = last := by
    rw [ended]
  have lines : (ensure link base sessionFile typed).2.2 = printed := by
    rw [ended]
  refine ⟨length_triesOf, lines ▸ printed_ensure, ?_, ?_⟩
  · rintro rfl other sameFiles
    rw [← final] at sameFiles ⊢
    obtain ⟨held, live⟩ := takeUp_ensured fresh outcome sameFiles
    exact ⟨_, held, live, fun _ _ => ensure_of_held held⟩
  · intro all refusals
    rw [← outcome, ← final]
    exact ensure_of_refused fresh refusals all

end Starts

/-! ## A start after a broken file -/

/-- A service that refuses the first request. -/
def refusingOnce (sent : List Http.Request) : Http.Answer :=
  if sent.length = 1 then .response ⟨403, [], some []⟩
  else .response ⟨200, [("set-cookie", "session=abc; Max-Age=60")], some []⟩

def brokenFile : Files :=
  (Files.empty.write "session.json" "[").toOption.getD .empty

def firstStart : Except Failure Unit × Http.Link × List String :=
  ensure ⟨refusingOnce, [], .fresh 1000 brokenFile⟩ Remote.frontEnd
    "session.json" [⟨"operator", "wrong"⟩, ⟨"operator", "right"⟩]

/-- The second log-in mends a broken file, and the next start needs neither the
operator nor the service. -/
theorem next_start_needs_no_log_in :
    brokenFile.readText "session.json" = .ok "[" ∧
      firstStart.1 = .ok () ∧
      firstStart.2.2 = ["Log in to http://127.0.0.1:8087/",
        "Login failed: 403 Forbidden - ", "Welcome operator!"] ∧
      ∃ restored : Session, restored.hasSession = true ∧
        ensure ⟨fun _ => .closed, [], .fresh 1000 firstStart.2.1.session.files⟩
            Remote.frontEnd "session.json" [] =
          (.ok (), ⟨fun _ => .closed, [], restored⟩, []) := by
  have succeeded : firstStart.1 = .ok () := by decide +kernel
  have ended : ensure ⟨refusingOnce, [], .fresh 1000 brokenFile⟩
      Remote.frontEnd "session.json"
      [⟨"operator", "wrong"⟩, ⟨"operator", "right"⟩] =
      (firstStart.1, firstStart.2.1, firstStart.2.2) := rfl
  obtain ⟨_, _, again, _⟩ := start_up_stable rfl ended
  obtain ⟨restored, held, _, taken⟩ := again succeeded
    ⟨fun _ => .closed, [], .fresh 1000 firstStart.2.1.session.files⟩ rfl
  exact ⟨by decide +kernel, succeeded, by decide +kernel, restored, held,
    taken Remote.frontEnd []⟩

end OperatorConsole.Login
