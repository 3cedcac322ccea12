import Mathlib.Data.List.TakeWhile
import OperatorConsole.Proofs.Cookie.History
import OperatorConsole.Proofs.Cookie.Origin
import OperatorConsole.Proofs.Url.Sound

/-!
# Cookies that come back

A cookie is accepted from a URL by the same tests of host and domain by which it
is sent to it, and the directory that stands for a missing path is one that the
URL lies in.  So only a path or a demand for a secure connection that the header
names itself can keep the cookie from the URL that set it.
-/

namespace OperatorConsole

namespace Cookie

/-- A path lies in its own directory. -/
theorem extends_directoryOf {path : String}
    (slash : ∃ rest, path = "/" ++ rest) :
    Extends path (directoryOf path) := by
  -- What stands before the last slash, and what follows it.
  have split := List.takeWhile_append_dropWhile (p := (· != '/'))
    (l := path.toList.reverse)
  have stops := List.head?_dropWhile_not (· != '/') path.toList.reverse
  unfold directoryOf
  cases behind : path.toList.reverse.dropWhile (· != '/') with
  | nil =>
      obtain ⟨rest, rfl⟩ := slash
      have without := List.dropWhile_eq_nil_iff.mp behind
      exact absurd (without '/' (by simp)) (by decide)
  | cons c before =>
      rw [behind, List.head?_cons] at stops
      have isSlash : c = '/' := by simpa using stops
      subst isSlash
      rw [behind] at split
      generalize path.toList.reverse.takeWhile (· != '/') = name at split
      have whole : path = String.ofList before.reverse ++
          ("/" ++ String.ofList name.reverse) := by
        apply String.toList_injective
        rw [← List.reverse_inj, ← split]
        simp
      cases before with
      | nil =>
          refine .inr ⟨"" ++ String.ofList name.reverse, ?_, .inl ⟨"", rfl⟩⟩
          simpa using whole
      | cons last more => exact .inr ⟨_, whole, .inr ⟨_, rfl⟩⟩

end Cookie

namespace Setting

variable {header : String} {url : Url} {instant : Int} {setting : Setting}

theorem reaches_host (allowed : setting.Allowed) :
    setting.Reaches setting.host := by
  unfold Reaches
  cases asked : setting.domain? with
  | none => rfl
  | some domain => exact allowed domain asked

/-- Whatever its host and domain, an accepted cookie goes to the URL that set it
unless the header asks for another path or for a secure connection. -/
theorem covers_own_url_iff
    (accepted : ofHeader? header url instant = some setting)
    (slash : ∃ rest, url.path.text = "/" ++ rest) :
    setting.cookie.Covers url ↔
      (∀ asked ∈ setting.said.path, asked.toList.head? = some '/' →
        Cookie.Extends url.path.text asked) ∧
      (setting.said.secure = true → url.scheme = "https") := by
  simp only [ofHeader?, Option.bind_eq_bind, Option.bind_eq_some_iff] at accepted
  obtain ⟨said, _, host, named, accepted⟩ := accepted
  obtain ⟨allowed, same⟩ := Option.ite_none_right_eq_some.mp accepted
  cases same
  have reached : ∃ other ∈ Cookie.hostName? url, Reaches ⟨said, host,
      Cookie.directoryOf url.path.text, instant⟩ other :=
    ⟨host, named, reaches_host allowed⟩
  have within := Cookie.extends_directoryOf slash
  rw [← Cookie.appliesTo_iff_covers, appliesTo_iff, and_iff_right reached]
  refine and_congr_left' ?_
  unfold path
  cases said.path with
  | none => simpa using within
  | some asked =>
      by_cases absolute : asked.toList.head? = some '/'
      · simp [Option.filter_some, absolute]
      · simpa [Option.filter_some, absolute] using within

end Setting

/-- A cookie that has been stored is part of the next request to the URL that
set it, whatever else is in the session, if the header asks for no path that the
URL does not lie in and for no secure connection that it does not have. -/
theorem Session.stored_cookie_returns {session : Session} {header : String}
    {url : Url} {setting : Setting} (read : url.IsRead)
    (web : url.scheme = "http" ∨ url.scheme = "https")
    (accepted : Setting.ofHeader? header url session.now = some setting)
    (stays : ¬ setting.Removes)
    (path : ∀ asked ∈ setting.said.path, asked.toList.head? = some '/' →
      Cookie.Extends url.path.text asked)
    (secure : setting.said.secure = true → url.scheme = "https") :
    ∃ before after, (session.receive header url).header? url =
      some (String.intercalate "; " (before ++ setting.pair :: after)) := by
  have rooted : url.Rooted := by
    refine (read.sound ?_).rooted
    rw [Url.kind_of_web web]
    exact nofun
  have covers := (Setting.covers_own_url_iff accepted rooted.path_text).mpr
    ⟨path, secure⟩
  have found := session.jar.find?_receive header url session.now setting.key
  rw [accepted] at found
  dsimp only at found
  rw [if_pos rfl, Setting.kept?_eq_some.mpr ⟨stays, rfl⟩] at found
  have running : ∀ limit ∈ setting.cookie.expires, session.now < limit := by
    intro limit expires
    rw [← Setting.instant_of_header accepted]
    exact Int.not_le.mp fun ended => stays (.inr ⟨limit, expires, ended⟩)
  have applies : setting.cookie ∈
      (session.jar.receive header url session.now).applicable url session.now :=
    CookieJar.mem_applicable_iff.mpr ⟨CookieJar.mem_live_iff.mpr
      ⟨OrderedBy.mem_iff_find?.mpr found, running⟩, covers⟩
  obtain ⟨before, after, cookies⟩ := List.append_of_mem applies
  refine ⟨before.map Cookie.pair, after.map Cookie.pair, ?_⟩
  refine CookieJar.header?_eq_some_iff.mpr ⟨List.ne_nil_of_mem applies, ?_⟩
  change String.intercalate "; " (((session.jar.receive header url
    session.now).applicable url session.now).map Cookie.pair) = _
  rw [cookies, List.map_append, List.map_cons, Setting.pair_cookie]

namespace Session

/-- An address asks for its cookie by a domain, from below a directory. -/
def addressUrl : Url :=
  { Url.loopback with path := .segments ["doc", "acl.html"] }

/-- A session that another page of the address has set a cookie in. -/
def themed : Session :=
  (fresh 100 .empty).receive "theme=dark; Path=/" addressUrl

def addressSetting : Setting where
  said := ⟨"session", "abc", some 60, none, some ".[::1]", none, false⟩
  host := "[::1]"
  directory := "/doc"
  instant := 100

theorem address_gets_its_cookie :
    Url.ofText "http://[::1]:8087/doc/acl.html" = .ok addressUrl ∧
      Setting.ofHeader? "session=abc; Domain=..[::1]; Max-Age=60" addressUrl
        themed.now = some addressSetting ∧
      ¬ addressSetting.Removes ∧
      (themed.receive "session=abc; Domain=..[::1]; Max-Age=60"
        addressUrl).header? addressUrl = some "theme=dark; session=abc" ∧
      ∃ before after, (themed.receive
        "session=abc; Domain=..[::1]; Max-Age=60" addressUrl).header?
          addressUrl = some (String.intercalate "; "
            (before ++ "session=abc" :: after)) := by
  have read : Url.ofText "http://[::1]:8087/doc/acl.html" = .ok addressUrl :=
    rfl
  have accepted : Setting.ofHeader?
      "session=abc; Domain=..[::1]; Max-Age=60" addressUrl themed.now =
        some addressSetting := by
    decide +kernel
  have stays : ¬ addressSetting.Removes := by decide +kernel
  exact ⟨read, accepted, stays, by decide +kernel,
    stored_cookie_returns (.ofText read) (.inl rfl) accepted stays nofun nofun⟩

end Session

end OperatorConsole
