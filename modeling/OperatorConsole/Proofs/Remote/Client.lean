import OperatorConsole.Proofs.Http.Sending
import OperatorConsole.Proofs.Remote.Address
import OperatorConsole.Remote.Client

/-!
# Logging in

A log-in that succeeds leaves a session cookie in the jar: one that was there
before, or one that came with a response.  Where that cookie goes is another
matter, as it keeps to the hosts and paths that it was set for.
-/

namespace OperatorConsole

namespace Session

/-- The cookie is alive and one of those that an operator is logged in by. -/
structure SignedInBy (session : Session) (cookie : Cookie) : Prop where
  live : cookie ∈ session.jar.live session.now
  name : cookie.name = CookieJar.sessionName

/-- Requests to a URL carry a session cookie, if they carry cookies at all: no
request can carry a control character. -/
def Presents (session : Session) (url : Url) : Prop :=
  ∃ text value, session.header? url = some text ∧
    CookieJar.sessionName ++ "=" ++ value ∈ Cookie.pairsOf text ∧
    (text.toList.any CookieJar.isUnsendable = false →
      session.sentHeader? url = some text)

theorem SignedInBy.presents {session : Session} {cookie : Cookie} {url : Url}
    (signedIn : session.SignedInBy cookie) (covers : cookie.Covers url) :
    session.Presents url := by
  obtain ⟨text, answered, pairs⟩ := CookieJar.pairs_sent signedIn.live covers
  have isPair : Cookie.IsPair (CookieJar.sessionName ++ "=") :=
    ⟨by decide, by decide⟩
  obtain ⟨value, member⟩ := isPair.exists_mem_pairsOf (by decide) cookie.value
  refine ⟨text, value, answered, pairs _ ?_, ?_⟩
  · rw [Cookie.pair, signedIn.name]
    exact member
  · intro sendable
    rw [sentHeader?, CookieJar.sentHeader?, answered, Option.filter_some,
      sendable]
    rfl

end Session

namespace Remote

open Http

section Login

variable {link after : Link} {base : Url} {username password : String}

theorem asks_login : Asks link (login link base username password).2 := by
  unfold login
  split
  · exact .done link
  · next url _ =>
      dsimp only
      have asks := asks_send link userAgent .post url
        (some (Form.content [("username", username), ("password", password)]))
      split
      · next sent => rw [sent] at asks; exact asks
      · next sent =>
          rw [sent] at asks
          split
          · exact asks
          · exact asks

theorem asks_fetch (call : Call) : Asks link (fetch link base call).2 := by
  unfold fetch
  split
  · exact .done link
  · next url _ =>
      have asks := asks_send link userAgent .get url none
      split
      all_goals
        next sent =>
          rw [sent] at asks
          exact asks

/-- A log-in succeeds only with a session. -/
theorem hasSession_of_login
    (accepted : login link base username password = (.ok (), after)) :
    after.session.hasSession = true := by
  unfold login at accepted
  split at accepted
  · cases accepted
  · dsimp only at accepted
    split at accepted
    · cases accepted
    · split at accepted
      · next held =>
          cases accepted
          exact held
      · cases accepted

/-- Calls go to the server of a web URL. -/
theorem url_web (special : base.kind = .special)
    (layered : base.isFlat = false) (call : Call) :
    ∃ target, call.url base = .ok target ∧ target.scheme = base.scheme ∧
      target.authority = base.authority ∧
      target.path = .segments [call.resource.name] := by
  rw [Call.url, pageUrl_path special layered]
  cases call.action with
  | none => exact ⟨_, rfl, rfl, rfl, rfl⟩
  | some action => exact ⟨_, rfl, rfl, rfl, rfl⟩

/-- A log-in that succeeds ends with a session cookie that was held before or
came with a response, and calls present each session cookie that goes to their
address. -/
theorem session_presented
    (accepted : login link base username password = (.ok (), after)) :
    (∃ cookie, after.session.SignedInBy cookie ∧
      (link.session.SignedInBy cookie ∨
        ∃ header url,
          Heard link.service link.sent after.sent header url ∧
          cookie.SetBy header url link.session.now)) ∧
    (∀ cookie, after.session.SignedInBy cookie →
      ∀ (call : Call) (target : Url), call.url base = .ok target →
        cookie.Covers target → after.session.Presents target) ∧
    (base.kind = .special → base.isFlat = false →
      ∀ cookie, after.session.SignedInBy cookie →
        cookie.Covers base → cookie.path = "/" →
        ∀ call : Call, ∃ target, call.url base = .ok target ∧
          after.session.Presents target) := by
  have asks : Asks link after := by
    have asks : Asks link (login link base username password).2 := asks_login
    rw [accepted] at asks
    exact asks
  refine ⟨?_, ?_, ?_⟩
  · obtain ⟨jar, session⟩ := asks.session_eq
    have now : after.session.now = link.session.now := by
      rw [session]
      rfl
    obtain ⟨cookie, live, named⟩ :=
      List.any_eq_true.mp (hasSession_of_login accepted)
    have held : after.session.SignedInBy cookie :=
      ⟨live, beq_iff_eq.mp named⟩
    obtain ⟨member, alive⟩ := List.mem_filter.mp live
    refine ⟨cookie, held, ?_⟩
    rcases asks.mem_jar member with old | set
    · rw [now] at alive
      exact .inl ⟨List.mem_filter.mpr ⟨old, alive⟩, held.2⟩
    · exact .inr set
  · intro cookie signedIn call target _ covers
    exact signedIn.presents covers
  · intro special layered cookie signedIn covers root call
    obtain ⟨target, address, scheme, authority, path⟩ :=
      url_web special layered call
    obtain ⟨⟨host, named, reached⟩, _, secure⟩ := covers
    refine ⟨target, address, signedIn.presents ⟨⟨host, ?_, reached⟩, ?_, ?_⟩⟩
    · rw [Cookie.hostName?, Url.host?, authority]
      exact named
    · rw [root, path, text_segments_single]
      exact .inr ⟨call.resource.name, rfl, .inl ⟨"", rfl⟩⟩
    · rw [scheme]
      exact secure

end Login

/-! ## Paths of session cookies -/

/-- A service that answers every request with one header. -/
def answering (header : String) : Link :=
  ⟨fun _ => .response ⟨200, [("set-cookie", header)], some []⟩, [],
    .fresh 0 .empty⟩

def frontEnd : Url where
  scheme := "http"
  authority := some ⟨"", "", some (.ipv4 ⟨0x7f000001⟩), some 8087⟩
  path := .segments [""]
  query := none
  fragment := none

/-- An operator logs in to a service that sets a cookie. -/
def loggedIn (header : String) : Except LoginFault Unit × Link :=
  login (answering header) frontEnd "operator" "secret"

/-- A cookie without attributes goes along with every call. -/
theorem plain_session_presented :
    (loggedIn "session=abc").1 = .ok () ∧
      ∀ call : Call, ∃ target, call.url frontEnd = .ok target ∧
        (loggedIn "session=abc").2.session.Presents target := by
  have success : (loggedIn "session=abc").1 = .ok () := by decide +kernel
  have accepted : login (answering "session=abc") frontEnd "operator"
      "secret" = (.ok (), (loggedIn "session=abc").2) :=
    Prod.ext success rfl
  let cookie : Cookie :=
    ⟨"session", "abc", "127.0.0.1", true, "/", false, none⟩
  have signedIn : (loggedIn "session=abc").2.session.SignedInBy cookie :=
    ⟨by decide +kernel, rfl⟩
  have covers : cookie.Covers frontEnd :=
    Cookie.appliesTo_iff_covers.mp (by decide)
  exact ⟨success,
    (session_presented accepted).2.2 rfl rfl cookie signedIn covers rfl⟩

def historyPage : Url :=
  { frontEnd with path := .segments ["history"] }

/-- A cookie for the log-in page alone makes a log-in succeed, but no call
presents it. -/
theorem session_not_presented :
    (loggedIn "session=abc; Path=/auth").1 = .ok () ∧
      (Call.named .history).url frontEnd = .ok historyPage ∧
      (loggedIn "session=abc; Path=/auth").2.session.header? historyPage =
        none ∧
      ¬ ∀ (link after : Link) (base : Url) (username password : String),
        login link base username password = (.ok (), after) →
        ∀ (call : Call) (target : Url), call.url base = .ok target →
          ∃ text value, after.session.header? target = some text ∧
            CookieJar.sessionName ++ "=" ++ value ∈ Cookie.pairsOf text := by
  have success : (loggedIn "session=abc; Path=/auth").1 = .ok () := by
    decide +kernel
  have address : (Call.named .history).url frontEnd = .ok historyPage := by
    decide +kernel
  have nothing : (loggedIn "session=abc; Path=/auth").2.session.header?
      historyPage = none := by decide +kernel
  refine ⟨success, address, nothing, fun presented => ?_⟩
  have accepted : login (answering "session=abc; Path=/auth") frontEnd
      "operator" "secret" = (.ok (), (loggedIn "session=abc; Path=/auth").2) :=
    Prod.ext success rfl
  obtain ⟨text, _, answered, _⟩ :=
    presented _ _ _ _ _ accepted _ _ address
  rw [nothing] at answered
  cases answered

end Remote

end OperatorConsole
