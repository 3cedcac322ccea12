import OperatorConsole.Cookie.Jar
import OperatorConsole.Proofs.Cookie.Scope
import OperatorConsole.Proofs.OrderedBy

/-!
# Settings of cookies

A setting is what an accepted header asks for, together with the host that sent
it and the instant at which it came.  Receiving a header changes what is found
under the key of its setting and nothing else.
-/

namespace OperatorConsole

theorem Cookie.isExpired_iff {cookie : Cookie} {now : Int} :
    cookie.isExpired now = true ↔ ∃ limit ∈ cookie.expires, limit ≤ now := by
  unfold isExpired
  cases cookie.expires with
  | none => simp
  | some limit => simp

theorem Cookie.isExpired_eq_false_iff {cookie : Cookie} {now : Int} :
    cookie.isExpired now = false ↔ ∀ limit ∈ cookie.expires, now < limit := by
  rw [← Bool.not_eq_true, isExpired_iff]
  simp only [not_exists, not_and, Int.not_le]

structure Setting where
  said : SetCookie
  /-- The host that sent the header, in small letters. -/
  host : String
  /-- The directory of the URL from which the header came. -/
  directory : String
  instant : Int
deriving DecidableEq, Repr

namespace Setting

/-- The domain that is asked for, if there is one. -/
def domain? (setting : Setting) : Option String :=
  (setting.said.domain.filter (!·.isEmpty)).map fun domain =>
    Text.asciiLowercase (String.ofList (domain.toList.dropWhile (· == '.')))

def path (setting : Setting) : String :=
  (setting.said.path.filter (·.toList.head? = some '/')).getD
    setting.directory

def key (setting : Setting) : Cookie.Key :=
  ⟨setting.domain?.getD setting.host, setting.path, setting.said.name⟩

def value (setting : Setting) : String :=
  CookieJar.bareValue setting.said.value

/-- The instant from which on the cookie is not sent any more. -/
def expiry? (setting : Setting) : Option Int :=
  CookieJar.expiryOf setting.said setting.instant

/-- A host must not set cookies for domains that it does not lie in. -/
def Allowed (setting : Setting) : Prop :=
  ∀ domain ∈ setting.domain?, Cookie.Within setting.host domain

def Removes (setting : Setting) : Prop :=
  setting.value = "" ∨ ∃ limit ∈ setting.expiry?, limit ≤ setting.instant

/-- Without a domain the cookie goes to the host that set it and to no other
one. -/
def Reaches (setting : Setting) (host : String) : Prop :=
  match setting.domain? with
  | none => host = setting.host
  | some domain => Cookie.Within host domain

/-- The cookie is part of a request to a URL. -/
structure Sent (setting : Setting) (url : Url) (now : Int) : Prop where
  stays : ¬ setting.Removes
  lives : ∀ limit ∈ setting.expiry?, now < limit
  path : Cookie.Extends url.path.text setting.path
  scheme : setting.said.secure = true → url.scheme = "https"
  host : ∃ host ∈ Cookie.hostName? url, setting.Reaches host

def pair (setting : Setting) : String :=
  setting.said.name ++ "=" ++ setting.value

instance (setting : Setting) : Decidable setting.Allowed :=
  inferInstanceAs (Decidable (∀ domain ∈ setting.domain?, _))

instance (setting : Setting) : Decidable setting.Removes :=
  inferInstanceAs (Decidable (_ ∨ ∃ limit ∈ setting.expiry?, _))

/-- What a header from a URL asks for, unless it is rejected. -/
def ofHeader? (header : String) (url : Url) (instant : Int) :
    Option Setting := do
  let said ← SetCookie.ofHeader? header
  let host ← Cookie.hostName? url
  let setting : Setting :=
    ⟨said, host, Cookie.directoryOf url.path.text, instant⟩
  if setting.Allowed then some setting else none

theorem instant_of_header {header : String} {url : Url} {instant : Int}
    {setting : Setting} (asked : ofHeader? header url instant = some setting) :
    setting.instant = instant := by
  simp only [ofHeader?, Option.bind_eq_bind, Option.bind_eq_some_iff] at asked
  obtain ⟨said, _, host, _, accepted⟩ := asked
  obtain ⟨_, same⟩ := Option.ite_none_right_eq_some.mp accepted
  rw [← Option.some.inj same]

/-! ## Cookies of settings -/

/-- The cookie that the jar makes of a setting. -/
def cookie (setting : Setting) : Cookie where
  name := setting.said.name
  value := setting.value
  domain := setting.domain?.getD setting.host
  hostOnly := setting.domain?.isNone
  path := setting.path
  secure := setting.said.secure
  expires := setting.expiry?

/-- The cookie that a setting leaves in the jar. -/
def kept? (setting : Setting) : Option Cookie :=
  if setting.Removes then none else some setting.cookie

theorem kept?_eq_some {setting : Setting} {cookie : Cookie} :
    setting.kept? = some cookie ↔
      ¬ setting.Removes ∧ setting.cookie = cookie := by
  rw [kept?, Option.ite_none_left_eq_some, Option.some.injEq]

@[simp] theorem pair_cookie (setting : Setting) :
    setting.cookie.pair = setting.pair := rfl

theorem pathOf_eq (url : Url) (setting : Setting)
    (directory : setting.directory = Cookie.directoryOf url.path.text) :
    CookieJar.pathOf url setting.said.path = setting.path := by
  unfold CookieJar.pathOf path
  cases asked : setting.said.path with
  | none => simp [directory]
  | some text =>
      by_cases absolute : text.toList.head? = some '/'
      · simp [Option.filter_some, absolute]
      · simp [Option.filter_some, absolute, directory]

theorem scopeOf?_eq (setting : Setting) :
    CookieJar.scopeOf? setting.host setting.said.domain =
      if setting.Allowed then
        some (setting.cookie.domain, setting.cookie.hostOnly)
      else none := by
  unfold CookieJar.scopeOf?
  cases asked : setting.said.domain.filter (!·.isEmpty) with
  | none =>
      have absent : setting.domain? = none := by rw [domain?, asked]; rfl
      simp [Allowed, cookie, absent]
  | some text =>
      have named : setting.domain? =
          some (Text.asciiLowercase
            (String.ofList (text.toList.dropWhile (· == '.')))) := by
        rw [domain?, asked]
        rfl
      simp [Allowed, cookie, named, Cookie.domainMatches_iff]

theorem cookieOf?_eq (header : String) (url : Url) (now : Int) :
    CookieJar.cookieOf? header url now =
      (ofHeader? header url now).map cookie := by
  unfold CookieJar.cookieOf? ofHeader?
  cases SetCookie.ofHeader? header with
  | none => rfl
  | some said =>
      cases Cookie.hostName? url with
      | none => rfl
      | some host =>
          let setting : Setting :=
            ⟨said, host, Cookie.directoryOf url.path.text, now⟩
          have scope : CookieJar.scopeOf? host said.domain = _ :=
            setting.scopeOf?_eq
          have path : CookieJar.pathOf url said.path = setting.path :=
            setting.pathOf_eq url rfl
          simp only [Option.bind_eq_bind, Option.bind_some]
          rw [scope, path]
          change _ = Option.map cookie
            (if setting.Allowed then some setting else none)
          by_cases allowed : setting.Allowed
          · rw [if_pos allowed, if_pos allowed]
            rfl
          · rw [if_neg allowed, if_neg allowed]
            rfl

theorem removes_iff {setting : Setting} :
    (setting.cookie.value.isEmpty ||
        setting.cookie.isExpired setting.instant) = true ↔
      setting.Removes := by
  simp only [Bool.or_eq_true, String.isEmpty_iff, Cookie.isExpired_iff]
  rfl

theorem appliesTo_iff {setting : Setting} {url : Url} :
    setting.cookie.appliesTo url = true ↔
      (∃ host ∈ Cookie.hostName? url, setting.Reaches host) ∧
        Cookie.Extends url.path.text setting.path ∧
        (setting.said.secure = true → url.scheme = "https") := by
  have reaches (host : String) :
      (if setting.cookie.hostOnly then host = setting.cookie.domain
        else Cookie.Within host setting.cookie.domain) ↔
        setting.Reaches host := by
    unfold Reaches cookie
    cases setting.domain? with
    | none => simp
    | some domain => simp
  rw [Cookie.appliesTo_iff_covers]
  constructor
  · rintro ⟨⟨host, named, reached⟩, path, scheme⟩
    exact ⟨⟨host, named, (reaches host).mp reached⟩, path, scheme⟩
  · rintro ⟨⟨host, named, reached⟩, path, scheme⟩
    exact ⟨⟨host, named, (reaches host).mpr reached⟩, path, scheme⟩

theorem sent_iff {setting : Setting} {url : Url} {now : Int} :
    setting.Sent url now ↔
      ∃ cookie ∈ setting.kept?,
        cookie.isExpired now = false ∧ cookie.appliesTo url = true := by
  have lives : setting.cookie.isExpired now = false ↔
      ∀ limit ∈ setting.expiry?, now < limit :=
    Cookie.isExpired_eq_false_iff
  constructor
  · intro sent
    refine ⟨setting.cookie, by simp [kept?, sent.stays], ?_, ?_⟩
    · exact lives.mpr sent.lives
    · exact appliesTo_iff.mpr ⟨sent.host, sent.path, sent.scheme⟩
  · rintro ⟨cookie, kept, live, applies⟩
    obtain ⟨stays, rfl⟩ := kept?_eq_some.mp kept
    obtain ⟨host, path, scheme⟩ := appliesTo_iff.mp applies
    exact ⟨stays, lives.mp live, path, scheme, host⟩

instance (setting : Setting) (url : Url) (now : Int) :
    Decidable (setting.Sent url now) :=
  decidable_of_iff _ sent_iff.symm

end Setting

namespace CookieJar

theorem find?_store (jar : CookieJar) (setting : Setting)
    (wanted : Cookie.Key) :
    (jar.store setting.cookie setting.instant).find? wanted =
      if setting.key = wanted then setting.kept? else jar.find? wanted := by
  unfold store Setting.kept?
  by_cases removes : setting.Removes
  · rw [if_pos (Setting.removes_iff.mpr removes), if_pos removes]
    exact OrderedBy.find?_erase setting.key jar wanted
  · rw [if_neg (mt Setting.removes_iff.mp removes), if_neg removes]
    exact OrderedBy.find?_put setting.cookie jar wanted

theorem find?_receive (jar : CookieJar) (header : String) (url : Url)
    (now : Int) (wanted : Cookie.Key) :
    (jar.receive header url now).find? wanted =
      match Setting.ofHeader? header url now with
      | none => jar.find? wanted
      | some setting =>
          if setting.key = wanted then setting.kept? else jar.find? wanted := by
  unfold receive
  rw [Setting.cookieOf?_eq]
  cases asked : Setting.ofHeader? header url now with
  | none => rfl
  | some setting =>
      have instant : setting.instant = now := Setting.instant_of_header asked
      have stored := jar.find?_store setting wanted
      rw [instant] at stored
      exact stored

end CookieJar

end OperatorConsole
