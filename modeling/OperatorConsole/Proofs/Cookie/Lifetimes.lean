import OperatorConsole.Proofs.Cookie.Origin
import OperatorConsole.Proofs.Cookie.Restoring
import OperatorConsole.Proofs.Cookie.Updates

/-!
# Lifetimes of cookies

A cookie is part of everything that a session says and writes before the instant
at which it expires, and of nothing from that instant on.  Nothing but what is
done to its key changes that.
-/

namespace OperatorConsole

/-- Up to which instant a cookie lasts that is set now: a lifetime counts from
now on and ends with the end of time, and a date counts only without one. -/
inductive SetCookie.Lasts (said : SetCookie) (now : Int) :
    Option Int → Prop where
  | lifetime {seconds : Int} (named : said.maxAge = some seconds) :
      Lasts said now (some (min (now + seconds) SetCookie.endOfTime))
  | date {instant : Int} (unnamed : said.maxAge = none)
      (named : said.expires = some instant) : Lasts said now (some instant)
  | forever (unnamed : said.maxAge = none) (undated : said.expires = none) :
      Lasts said now none

theorem SetCookie.Lasts.expiryOf_eq {said : SetCookie} {now : Int}
    {limit : Option Int} (lasts : said.Lasts now limit) :
    CookieJar.expiryOf said now = limit := by
  unfold CookieJar.expiryOf
  cases lasts with
  | lifetime named => rw [named]
  | date unnamed named => rw [unnamed, named]
  | forever unnamed undated => rw [unnamed, undated]

/-! ## What a jar says of one cookie -/

namespace CookieJar

theorem mem_distinct {texts : List String} {text : String} :
    text ∈ distinct texts ↔ text ∈ texts := by
  unfold distinct
  rw [OrderedBy.mem_iff_find?, OrderedBy.find?_putAll, OrderedBy.find?_empty,
    Option.or_none]
  constructor
  · intro found
    exact List.mem_reverse.mp (List.mem_of_find?_eq_some found)
  · intro member
    cases found : texts.reverse.find? (id · = text) with
    | none =>
        have other := List.find?_eq_none.mp found text
          (List.mem_reverse.mpr member)
        simp at other
    | some other =>
        obtain rfl : other = text := by
          simpa using List.find?_some found
        exact found

variable {jar : CookieJar} {cookie : Cookie} {now : Int}

theorem mem_names {name : String} :
    name ∈ jar.names now ↔ ∃ cookie ∈ jar.live now, cookie.name = name := by
  rw [names, mem_distinct, List.mem_map]

theorem hasSession_iff :
    jar.hasSession now = true ↔
      ∃ cookie ∈ jar.live now, cookie.name = sessionName := by
  rw [hasSession, List.any_eq_true]
  simp only [beq_iff_eq]

/-- What is gone already can be removed. -/
theorem live_erase {key : Cookie.Key}
    (gone : ∀ cookie ∈ jar.live now, cookie.key ≠ key) :
    live (jar.erase key) now = jar.live now := by
  unfold live OrderedBy.erase
  rw [OrderedBy.toList_filter, List.filter_filter]
  refine List.filter_congr fun cookie member => ?_
  cases alive : cookie.isExpired now with
  | true => rfl
  | false =>
      have other := gone cookie
        (List.mem_filter.mpr ⟨member, by rw [alive]; rfl⟩)
      simp [other]

end CookieJar

namespace Session

/-! ## What a session shows -/

/-- The session without what it has under a key. -/
def without (session : Session) (key : Cookie.Key) : Session :=
  { session with jar := session.jar.erase key }

/-- A cookie is part of all that a session says and writes, and of what sessions
read from files that list it. -/
structure Shows (session : Session) (cookie : Cookie) : Prop where
  names : cookie.name ∈ session.names
  hasSession : cookie.name = CookieJar.sessionName →
    session.hasSession = true
  header : ∀ url, cookie.Covers url →
    ∃ text, session.header? url = some text ∧
      cookie.pair ∈ Cookie.pairsOf text
  saved : ∀ path saved, session.persist path = .ok saved →
    ∃ cookies, saved.Lists path cookies ∧ cookie ∈ cookies
  restored : ∀ (other : Session) path front back, other.now = session.now →
    other.Lists path (front ++ cookie :: back) →
    (∀ later ∈ back, later.key = cookie.key →
      later.isExpired session.now = true) →
    ∃ restored, other.restore path = .ok restored ∧
      restored.jar.find? cookie.key = some cookie

/-- All that a session says and writes, and what sessions read from files that
list a cookie, is as it would be without that cookie. -/
structure Hides (session : Session) (cookie : Cookie) : Prop where
  names : cookie.name ∈ session.names →
    ∃ other ∈ session.jar.live session.now,
      other.key ≠ cookie.key ∧ other.name = cookie.name
  hasSession : session.hasSession = true →
    ∃ other ∈ session.jar.live session.now,
      other.key ≠ cookie.key ∧ other.name = CookieJar.sessionName
  alike : AnswersAlike session (session.without cookie.key)
  saved : ∀ path saved, session.persist path = .ok saved →
    ∃ cookies, saved.Lists path cookies ∧
      ∀ other ∈ cookies, other.key ≠ cookie.key
  restored : ∀ (other : Session) path cookies, other.now = session.now →
    other.Lists path cookies →
    other.restore path = .ok { other with
      jar := other.jar.overlay (cookies.filter (· ≠ cookie)) other.now }

section Views

variable {session : Session} {cookie : Cookie}

theorem shows_of_live (storable : session.jar.Storable)
    (onePair : Cookie.pairsOf cookie.pair = [cookie.pair])
    (live : cookie ∈ session.jar.live session.now) : session.Shows cookie where
  names := CookieJar.mem_names.mpr ⟨cookie, live, rfl⟩
  hasSession named := CookieJar.hasSession_iff.mpr ⟨cookie, live, named⟩
  header := by
    intro url covers
    obtain ⟨text, answered, pairs⟩ := CookieJar.pairs_sent live covers
    exact ⟨text, answered, pairs _ (onePair ▸ List.mem_singleton_self _)⟩
  saved _ _ written := ⟨_, lists_of_persist storable written, live⟩
  restored := by
    intro other path front back sameNow listed last
    refine ⟨_, restore_of_lists listed, ?_⟩
    have alive : cookie.isExpired session.now = false := by
      simpa using (List.mem_filter.mp live).2
    rw [sameNow]
    exact (CookieJar.overlays_iff.mpr rfl).listed front cookie back rfl alive
      last

theorem hides_of_expired (storable : session.jar.Storable)
    (held : session.jar.find? cookie.key = some cookie)
    (expired : cookie.isExpired session.now = true) : session.Hides cookie := by
  have gone : ∀ other ∈ session.jar.live session.now,
      other.key ≠ cookie.key := by
    intro other live same
    obtain ⟨member, alive⟩ := List.mem_filter.mp live
    have found := OrderedBy.mem_iff_find?.mp member
    rw [same, held, Option.some.injEq] at found
    subst found
    simp [expired] at alive
  constructor
  case names =>
    intro named
    obtain ⟨other, live, same⟩ := CookieJar.mem_names.mp named
    exact ⟨other, live, gone other live, same⟩
  case hasSession =>
    intro signedIn
    obtain ⟨other, live, named⟩ := CookieJar.hasSession_iff.mp signedIn
    exact ⟨other, live, gone other live, named⟩
  case alike =>
    exact answersAlike_of_live (CookieJar.live_erase gone).symm rfl
  case saved =>
    exact fun _ _ written => ⟨_, lists_of_persist storable written, gone⟩
  case restored =>
    intro other path cookies sameNow listed
    have skipped : (cookies.filter (· ≠ cookie)).filter
          (!·.isExpired session.now) =
        cookies.filter (!·.isExpired session.now) := by
      rw [List.filter_filter]
      refine List.filter_congr fun entry _ => ?_
      by_cases same : entry = cookie
      · simp [same, expired]
      · simp [same]
    rw [restore_of_lists listed, sameNow, CookieJar.overlay,
      CookieJar.overlay, skipped]

end Views

/-! ## Changes that leave a key alone -/

/-- A change does something about a key. -/
def Change.Touches (key : Cookie.Key) (session : Session) : Change → Prop
  | .receive header url =>
      Arrival.key? ⟨header, url, session.now⟩ = some key
  | .receiveAll headers url =>
      ∃ header ∈ headers, header.toList.all CookieJar.isVisible = true ∧
        Arrival.key? ⟨header, url, session.now⟩ = some key
  | .restore path =>
      ∃ cookies, session.Lists path cookies ∧
        ∃ cookie ∈ cookies, cookie.key = key ∧
          cookie.isExpired session.now = false
  | .expireAll => True
  | .advance _ | .share _ => False

/-- None of the changes does anything about a key. -/
def Spares (key : Cookie.Key) (session : Session) : List Change → Prop
  | [] => True
  | change :: later =>
      ¬ change.Touches key session ∧ Spares key (session.changed change) later

theorem find?_changed {key : Cookie.Key} {session : Session} {change : Change}
    (spared : ¬ change.Touches key session) :
    (session.changed change).jar.find? key = session.jar.find? key := by
  cases change with
  | receive header url =>
      have heard := session.jar.find?_hear ⟨header, url, session.now⟩ key
      exact heard.trans (if_neg spared)
  | receiveAll headers url =>
      change (session.jar.receiveAll headers url session.now).find? key = _
      rw [CookieJar.receiveAll_eq_hearAll]
      apply session.jar.find?_hearAll_of_others
      intro arrival member decides
      obtain ⟨header, heard, rfl⟩ := List.mem_map.mp member
      obtain ⟨sent, visible⟩ := List.mem_filter.mp heard
      exact spared ⟨header, sent, visible, decides⟩
  | restore path =>
      change ((session.restore path).toOption.getD session).jar.find? key = _
      have restores := restores_result session path
      generalize (session.restore path).toOption.getD session = after,
        (session.restore path).map (fun _ => ()) = result at restores ⊢
      cases restores with
      | missing | unreadable | broken => rfl
      | overlaid listed overlays =>
          apply overlays.unlisted key
          intro cookie member same
          by_contra alive
          exact spared ⟨_, listed, cookie, member, same, by simpa using alive⟩
  | expireAll => exact (spared trivial).elim
  | advance | share => rfl

theorem find?_changedAll {key : Cookie.Key} (changes : List Change) :
    ∀ {session : Session}, session.Spares key changes →
      (session.changedAll changes).jar.find? key = session.jar.find? key := by
  induction changes with
  | nil => exact fun _ => rfl
  | cons change changes induction =>
      intro session spares
      exact (induction spares.2).trans (find?_changed spares.1)

/-! ## Lifetimes -/

/-- Headers that are accepted set cookies that last for ever or up to an instant
that can be stored. -/
theorem isInstant_of_lasts {header : String} {url : Url} {now : Int}
    {setting : Setting} {limit : Option Int} (positive : 0 ≤ now)
    (accepted : Setting.ofHeader? header url now = some setting)
    (lasts : setting.said.Lasts now limit) :
    ∀ last ∈ limit, IsInstant last := by
  have read := Setting.said_of_header accepted
  rw [← lasts.expiryOf_eq]
  exact Cookie.isInstant_expiryOf (SetCookie.sound_of_ofHeader? read) positive

end Session

/-- A cookie that an accepted header sets is removed at once if its end has
come.  Otherwise, as long as nothing is done about its key, a session shows it
at every instant before its end and at none from its end on. -/
theorem Session.lifetimes_exact {session : Session} {header : String}
    {url : Url} {setting : Setting} {limit : Option Int}
    (storable : session.jar.Storable)
    (accepted : Setting.ofHeader? header url session.now = some setting)
    (valued : setting.value ≠ "")
    (lasts : setting.said.Lasts session.now limit) :
    (∀ last ∈ limit, IsInstant last) ∧
      ((∃ last ∈ limit, last ≤ session.now) →
        session.receive header url = session.without setting.key) ∧
      ((∀ last ∈ limit, session.now < last) →
        ∀ changes, (session.receive header url).Spares setting.key changes →
          ∀ instant : Int,
            ((∀ last ∈ limit, max instant 0 < last) →
              Shows { (session.receive header url).changedAll changes with
                clock := instant } setting.cookie) ∧
            ((∃ last ∈ limit, last ≤ max instant 0) →
              Hides { (session.receive header url).changedAll changes with
                clock := instant } setting.cookie)) := by
  have sameInstant : setting.instant = session.now :=
    Setting.instant_of_header accepted
  have expires : setting.expiry? = limit := by
    rw [Setting.expiry?, sameInstant, lasts.expiryOf_eq]
  have bounded := isInstant_of_lasts session.now_nonneg accepted lasts
  subst expires
  have found (wanted : Cookie.Key) := session.jar.find?_receive header url
    session.now wanted
  rw [accepted] at found
  dsimp only at found
  have removes : setting.Removes ↔
      ∃ last ∈ setting.expiry?, last ≤ session.now := by
    rw [Setting.Removes, sameInstant]
    exact or_iff_right valued
  refine ⟨bounded, ?_, ?_⟩
  · intro ended
    have gone : setting.kept? = none := if_pos (removes.mpr ended)
    have same : session.jar.receive header url session.now =
        session.jar.erase setting.key := by
      refine OrderedBy.eq_of_find?_eq fun wanted => ?_
      rw [found, gone, OrderedBy.find?_erase]
    rw [receive, same]
    rfl
  · intro running changes spares instant
    have kept : setting.kept? = some setting.cookie := by
      refine if_neg fun removed => ?_
      obtain ⟨last, isLast, ended⟩ := removes.mp removed
      exact Int.not_lt.mpr ended (running last isLast)
    have held : ((session.receive header url).changedAll changes).jar.find?
        setting.key = some setting.cookie := by
      rw [find?_changedAll changes spares]
      exact (found _).trans ((if_pos rfl).trans kept)
    have stays :
        ((session.receive header url).changedAll changes).jar.Storable :=
      storable_changedAll changes
        (storable.receive header url session.now_nonneg)
    constructor
    · intro before
      refine shows_of_live stays (Setting.pairsOf_pair accepted) ?_
      exact CookieJar.mem_live_iff.mpr
        ⟨OrderedBy.mem_iff_find?.mpr held, before⟩
    · intro after
      refine hides_of_expired stays held ?_
      exact Cookie.isExpired_iff.mpr after

namespace Session

/-- A date that has passed beside the longest lifetime there is. -/
def longest : String :=
  "session=a=b; Expires=Thu, 01 Jan 1970 00:00:00 GMT; " ++
    "Max-Age=9223372036854775807"

def longestSetting : Setting where
  said := ⟨"session", "a=b", some SetCookie.endOfTime, some 0, none, none,
    false⟩
  host := "host.test"
  directory := "/"
  instant := 100

/-- What became of it in a minute in which another cookie of its name came. -/
def longLived : Session :=
  ((fresh 100 .empty).receive longest (rootOf "host.test")).changedAll
    [.receive "session=c; Path=/doc" (rootOf "host.test"), .advance 60]

/-- The sum of clock and lifetime is cut off at the end of time.  Then the
cookie goes, and the other one of its name stays. -/
theorem longest_lifetime :
    { longLived with clock := SetCookie.endOfTime - 1 }.header?
        (rootOf "host.test") = some "session=a=b" ∧
      { longLived with clock := SetCookie.endOfTime }.header?
        (rootOf "host.test") = none ∧
      { longLived with clock := SetCookie.endOfTime }.hasSession = true ∧
      Shows { longLived with clock := SetCookie.endOfTime - 1 }
        longestSetting.cookie ∧
      Hides { longLived with clock := SetCookie.endOfTime }
        longestSetting.cookie := by
  have exact := @lifetimes_exact (fresh 100 .empty) longest
    (rootOf "host.test") longestSetting _ CookieJar.Storable.empty
    (by decide +kernel) (by decide +kernel) (.lifetime rfl)
  have spares : ((fresh 100 .empty).receive longest
      (rootOf "host.test")).Spares longestSetting.key
      [.receive "session=c; Path=/doc" (rootOf "host.test"), .advance 60] := by
    refine ⟨?_, id, trivial⟩
    change ¬ Arrival.key? _ = _
    decide +kernel
  have views := exact.2.2 (by decide +kernel) _ spares
  refine ⟨by decide +kernel, by decide +kernel, by decide +kernel, ?_, ?_⟩
  · exact (views (SetCookie.endOfTime - 1)).1 (by decide +kernel)
  · exact (views SetCookie.endOfTime).2 (by decide +kernel)

end Session

end OperatorConsole
