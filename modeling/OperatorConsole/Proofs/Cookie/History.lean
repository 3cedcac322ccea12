import Mathlib.Data.List.Induction
import OperatorConsole.Proofs.Cookie.Setting
import OperatorConsole.Session

/-!
# Histories of cookies

What a session answers to a URL is determined by the headers that it received
since its cookies were dropped for the last time.  Under each key the latest
setting counts, whether it stores a cookie or removes one, and the answer joins
those that are sent in the order of their keys.
-/

namespace OperatorConsole

namespace Session

/-- What happens to the cookies of a session and to its clock. -/
inductive Event where
  | receive (header : String) (url : Url)
  | expireAll
  | advance (seconds : Int)
deriving DecidableEq

def after (session : Session) : Event → Session
  | .receive header url => session.receive header url
  | .expireAll => session.expireAll
  | .advance seconds => session.advance seconds

def afterAll (session : Session) (history : List Event) : Session :=
  history.foldl after session

/-- A session without cookies. -/
def fresh (clock : Int) (files : Files) : Session :=
  ⟨.empty, clock, files⟩

/-! ## The answer to a history -/

def Event.advanced (clock : Int) : Event → Int
  | .receive _ _ | .expireAll => clock
  | .advance seconds => clock + seconds

def clockAfter (clock : Int) (history : List Event) : Int :=
  history.foldl Event.advanced clock

/-- The events with the clocks at which they happen. -/
def stamped (clock : Int) : List Event → List (Int × Event)
  | [] => []
  | event :: later =>
      (clock, event) :: stamped (event.advanced clock) later

/-- What an event sets if it happens at some clock. -/
def setting? : Int × Event → Option Setting
  | (clock, .receive header url) =>
      Setting.ofHeader? header url (max clock 0)
  | (_, .expireAll) | (_, .advance _) => none

/-- The settings since the cookies were dropped for the last time, the latest
one first. -/
def settings (clock : Int) (history : List Event) : List Setting :=
  ((stamped clock history).reverse.takeWhile (·.2 ≠ .expireAll)).filterMap
    setting?

/-- The first setting under each key. -/
def latest : List Setting → List Setting
  | [] => []
  | setting :: earlier =>
      setting :: (latest earlier).filter (·.key ≠ setting.key)

/-- The settings that are sent, in the order of the bytes of their keys. -/
def sent (settings : List Setting) (url : Url) (now : Int) : List Setting :=
  ((latest settings).filter (·.Sent url now)).mergeSort
    fun left right => left.key.bytes ≤ right.key.bytes

def answer? (settings : List Setting) (url : Url) (now : Int) :
    Option String :=
  match sent settings url now with
  | [] => none
  | found => some (String.intercalate "; " (found.map Setting.pair))

/-! ## Latest settings -/

theorem mem_latest_iff {settings : List Setting} {setting : Setting} :
    setting ∈ latest settings ↔
      settings.find? (·.key = setting.key) = some setting := by
  induction settings with
  | nil => simp [latest]
  | cons first earlier induction =>
      by_cases same : first.key = setting.key
      · simp [latest, same, eq_comm]
      · have other : setting ≠ first := fun equal => same (equal ▸ rfl)
        simp [latest, same, other, induction, Ne.symm same]

theorem latest_keys (settings : List Setting) :
    (latest settings).Pairwise fun left right => left.key ≠ right.key := by
  induction settings with
  | nil => exact .nil
  | cons first earlier induction =>
      refine List.pairwise_cons.mpr ⟨?_, induction.filter _⟩
      intro setting member
      have other := (List.mem_filter.mp member).2
      exact Ne.symm (by simpa using other)

theorem mem_sent_iff {settings : List Setting} {url : Url} {now : Int}
    {setting : Setting} :
    setting ∈ sent settings url now ↔
      settings.find? (·.key = setting.key) = some setting ∧
        setting.Sent url now := by
  rw [sent, List.mem_mergeSort, List.mem_filter, mem_latest_iff,
    decide_eq_true_iff]

/-- The order of the bytes makes the order of the keys strict, as no two of
them are the same. -/
theorem sent_ordered (settings : List Setting) (url : Url) (now : Int) :
    (sent settings url now).Pairwise fun left right =>
      compare left.key right.key = .lt := by
  have sorted : (sent settings url now).Pairwise fun left right =>
      decide (left.key.bytes ≤ right.key.bytes) = true := by
    refine List.pairwise_mergeSort ?_ ?_ _
    · intro a b c first second
      simp only [decide_eq_true_eq] at first second ⊢
      exact List.le_trans first second
    · intro a b
      simp only [Bool.or_eq_true, decide_eq_true_eq]
      exact List.le_total _ _
  have distinct : (sent settings url now).Pairwise fun left right =>
      left.key ≠ right.key :=
    (List.mergeSort_perm _ _).symm.pairwise
      ((latest_keys settings).filter _) Ne.symm
  refine (sorted.and distinct).imp ?_
  rintro left right ⟨below, other⟩
  rcases List.le_iff_lt_or_eq.mp (of_decide_eq_true below) with less | same
  · exact Cookie.compare_key_eq_lt_iff.mpr less
  · exact absurd (Cookie.Key.bytes_injective same) other

/-! ## Settings of longer histories -/

theorem stamped_append_singleton (clock : Int) (history : List Event)
    (event : Event) :
    stamped clock (history ++ [event]) =
      stamped clock history ++ [(clockAfter clock history, event)] := by
  induction history generalizing clock with
  | nil => rfl
  | cons first later induction =>
      exact congrArg (_ :: ·) (induction (first.advanced clock))

theorem settings_expireAll (clock : Int) (history : List Event) :
    settings clock (history ++ [.expireAll]) = [] := by
  simp [settings, stamped_append_singleton]

theorem settings_append_singleton (clock : Int) (history : List Event)
    {event : Event} (keeps : event ≠ .expireAll) :
    settings clock (history ++ [event]) =
      (setting? (clockAfter clock history, event)).toList ++
        settings clock history := by
  have recent : ((stamped clock (history ++ [event])).reverse.takeWhile
      (·.2 ≠ .expireAll)) = (clockAfter clock history, event) ::
        (stamped clock history).reverse.takeWhile (·.2 ≠ .expireAll) := by
    simp [stamped_append_singleton, keeps]
  rw [settings, recent, List.filterMap_cons]
  cases setting? (clockAfter clock history, event) with
  | none => rfl
  | some setting => rfl

/-! ## The jar after a history -/

/-- Under each key the jar has the cookie that the latest setting leaves. -/
def Holds (jar : CookieJar) (settings : List Setting) : Prop :=
  ∀ wanted : Cookie.Key, jar.find? wanted =
    (settings.find? (·.key = wanted)).bind Setting.kept?

theorem Holds.receive {jar : CookieJar} {settings : List Setting}
    (holds : Holds jar settings) (header : String) (url : Url) (now : Int) :
    Holds (jar.receive header url now)
      ((Setting.ofHeader? header url now).toList ++ settings) := by
  intro wanted
  rw [CookieJar.find?_receive]
  cases Setting.ofHeader? header url now with
  | none => exact holds wanted
  | some setting =>
      by_cases same : setting.key = wanted
      · simp [same]
      · simp [same, holds wanted]

theorem clock_afterAll (session : Session) (history : List Event) :
    (session.afterAll history).clock = clockAfter session.clock history := by
  induction history generalizing session with
  | nil => rfl
  | cons event later induction =>
      have stepped : (session.after event).clock =
          event.advanced session.clock := by
        cases event with
        | receive header url => rfl
        | expireAll => rfl
        | advance seconds => rfl
      refine (induction (session.after event)).trans ?_
      rw [stepped]
      rfl

theorem afterAll_append_singleton (session : Session) (history : List Event)
    (event : Event) :
    session.afterAll (history ++ [event]) =
      (session.afterAll history).after event := by
  simp [afterAll]

theorem holds_afterAll (clock : Int) (files : Files) (history : List Event) :
    Holds ((fresh clock files).afterAll history).jar
      (settings clock history) := by
  induction history using List.reverseRec with
  | nil => exact OrderedBy.find?_empty
  | append_singleton history event induction =>
      rw [afterAll_append_singleton]
      cases event with
      | receive header url =>
          have now : ((fresh clock files).afterAll history).now =
              max (clockAfter clock history) 0 := by
            rw [Session.now, clock_afterAll]
            rfl
          rw [settings_append_singleton clock history (by simp)]
          change Holds (CookieJar.receive _ header url _) _
          rw [now]
          exact induction.receive header url _
      | expireAll =>
          rw [settings_expireAll]
          exact OrderedBy.find?_empty
      | advance seconds =>
          rw [settings_append_singleton clock history (by simp)]
          exact induction

/-! ## Answers -/

theorem Holds.mem_iff {jar : CookieJar} {settings : List Setting}
    (holds : Holds jar settings) {cookie : Cookie} :
    cookie ∈ jar.toList ↔
      ∃ setting, settings.find? (·.key = setting.key) = some setting ∧
        setting.kept? = some cookie := by
  rw [OrderedBy.mem_iff_find?, holds cookie.key, Option.bind_eq_some_iff]
  constructor
  · rintro ⟨setting, found, kept⟩
    have sameKey : setting.key = cookie.key := by
      simpa using List.find?_some found
    exact ⟨setting, by rw [sameKey, found], kept⟩
  · rintro ⟨setting, found, kept⟩
    obtain ⟨_, rfl⟩ := Setting.kept?_eq_some.mp kept
    exact ⟨setting, found, kept⟩

theorem Holds.applicable {jar : CookieJar} {settings : List Setting}
    (holds : Holds jar settings) (url : Url) (now : Int) :
    jar.applicable url now = (sent settings url now).map Setting.cookie := by
  have leftOrdered : (jar.applicable url now).Pairwise fun left right =>
      compare left.key right.key = .lt :=
    (jar.ordered.filter _).filter _
  have rightOrdered : ((sent settings url now).map Setting.cookie).Pairwise
      fun left right => compare left.key right.key = .lt :=
    List.pairwise_map.mpr (sent_ordered settings url now)
  refine OrderedBy.eq_of_mem_iff leftOrdered rightOrdered ?_
  intro cookie
  simp only [CookieJar.applicable, CookieJar.live, List.mem_filter,
    List.mem_map, mem_sent_iff, holds.mem_iff, Bool.not_eq_true']
  constructor
  · rintro ⟨⟨⟨setting, latest, kept⟩, live⟩, applies⟩
    have isSent : setting.Sent url now :=
      Setting.sent_iff.mpr ⟨cookie, kept, live, applies⟩
    exact ⟨setting, ⟨latest, isSent⟩, (Setting.kept?_eq_some.mp kept).2⟩
  · rintro ⟨setting, ⟨latest, isSent⟩, rfl⟩
    obtain ⟨cookie, kept, live, applies⟩ := Setting.sent_iff.mp isSent
    obtain ⟨_, rfl⟩ := Setting.kept?_eq_some.mp kept
    exact ⟨⟨⟨setting, latest, kept⟩, live⟩, applies⟩

theorem Holds.header? {jar : CookieJar} {settings : List Setting}
    (holds : Holds jar settings) (url : Url) (now : Int) :
    jar.header? url now = answer? settings url now := by
  unfold CookieJar.header? answer?
  rw [holds.applicable url now]
  cases sent settings url now with
  | nil => rfl
  | cons first others =>
      simp [Function.comp_def]

/-- Whatever a session received, and at whatever instant it is asked, it
answers a URL as the history says. -/
theorem header?_afterAll (clock : Int) (files : Files) (history : List Event)
    (url : Url) (instant : Int) :
    { (fresh clock files).afterAll history with clock := instant }.header? url =
      answer? (settings clock history) url (max instant 0) :=
  (holds_afterAll clock files history).header? url (max instant 0)

/-- The front page of a host. -/
def rootOf (host : String) : Url where
  scheme := "http"
  authority := some ⟨"", "", some (.domain host), none⟩
  path := .segments [""]
  query := none
  fragment := none

end Session

end OperatorConsole
