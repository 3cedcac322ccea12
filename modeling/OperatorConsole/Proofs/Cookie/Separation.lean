import OperatorConsole.Proofs.Cookie.History

/-!
# Separation of hosts

Cookies that a host sets are kept from the hosts that have no domain in common
with it: what such a host says can be left out of a history without any effect
on what is sent to the others.  The argument compares two jars that hold the
same under every key whose domain reaches one host.
-/

namespace OperatorConsole

namespace Cookie

/-! ## Domains of hosts -/

/-- The texts behind the dots of a text. -/
def behindDots : List Char → List (List Char)
  | [] => []
  | c :: rest =>
      if c = '.' then rest :: behindDots rest else behindDots rest

/-- A host and what stands behind its dots. -/
def domainsOf (host : String) : List String :=
  host :: (behindDots host.toList).map String.ofList

/-- A host is a domain or ends with it behind a dot. -/
def EndsIn (host domain : String) : Prop :=
  host = domain ∨ ∃ below, host = below ++ "." ++ domain

theorem mem_behindDots_iff {cs rest : List Char} :
    rest ∈ behindDots cs ↔ ∃ below, cs = below ++ '.' :: rest := by
  induction cs with
  | nil => simp [behindDots]
  | cons c cs induction =>
      have later : rest ∈ behindDots cs ↔
          ∃ below, c :: cs = (c :: below) ++ '.' :: rest := by
        simpa using induction
      by_cases dot : c = '.'
      · subst dot
        rw [behindDots, if_pos rfl, List.mem_cons, later]
        constructor
        · rintro (rfl | ⟨below, split⟩)
          · exact ⟨[], rfl⟩
          · exact ⟨_, split⟩
        · rintro ⟨below, split⟩
          cases below with
          | nil => exact .inl (List.cons.inj split).2.symm
          | cons first below =>
              obtain ⟨rfl, tail⟩ := List.cons.inj split
              exact .inr ⟨below, by rw [tail]; rfl⟩
      · rw [behindDots, if_neg dot, later]
        constructor
        · rintro ⟨below, split⟩
          exact ⟨_, split⟩
        · rintro ⟨below, split⟩
          cases below with
          | nil => exact (dot (List.cons.inj split).1).elim
          | cons first below =>
              obtain ⟨rfl, tail⟩ := List.cons.inj split
              exact ⟨below, by rw [tail]; rfl⟩

theorem mem_domainsOf_iff {host domain : String} :
    domain ∈ domainsOf host ↔ EndsIn host domain := by
  rw [domainsOf, List.mem_cons, EndsIn, eq_comm]
  refine or_congr_right ?_
  rw [List.mem_map]
  constructor
  · rintro ⟨rest, member, rfl⟩
    obtain ⟨below, split⟩ := mem_behindDots_iff.mp member
    refine ⟨String.ofList below, String.toList_injective ?_⟩
    simp [split]
  · rintro ⟨below, split⟩
    refine ⟨domain.toList, mem_behindDots_iff.mpr ⟨below.toList, ?_⟩, by simp⟩
    simp [split]

instance (host domain : String) : Decidable (EndsIn host domain) :=
  decidable_of_iff _ mem_domainsOf_iff

theorem Within.endsIn {host domain : String} (within : Within host domain) :
    EndsIn host domain :=
  within.imp_right And.right

/-! ## Hosts without a common domain -/

/-- Different hosts, one of which is an address or which have no domain with a
name in common. -/
def Unrelated (host other : String) : Prop :=
  host ≠ other ∧
    (isAddress host = true ∨ isAddress other = true ∨
      ¬ ∃ domain, domain ≠ "" ∧ EndsIn host domain ∧ EndsIn other domain)

/-- Hosts of which one can set cookies for the other although they may be
unrelated: both lie in the domain without a name, which is that of all names
with a dot at the end, or one is an address and the other ends with it behind
a dot. -/
def Confused (host other : String) : Prop :=
  (Within host "" ∧ Within other "") ∨
    (isAddress host = true ∧ Within other host) ∨
    (isAddress other = true ∧ Within host other)

instance (host other : String) :
    Decidable (∃ domain, domain ≠ "" ∧ EndsIn host domain ∧
      EndsIn other domain) :=
  decidable_of_iff
    (∃ domain ∈ domainsOf host, domain ≠ "" ∧ EndsIn other domain) (by
      simp only [mem_domainsOf_iff, and_left_comm])

instance (host other : String) : Decidable (Unrelated host other) :=
  inferInstanceAs (Decidable (_ ∧ (_ ∨ _ ∨ ¬ _)))

instance (host other : String) : Decidable (Confused host other) :=
  inferInstanceAs (Decidable (_ ∨ _))

/-- Unrelated hosts reach no cookies of one domain unless they are confused. -/
theorem common_domain_iff_confused {host other : String}
    (unrelated : Unrelated host other) :
    (∃ domain, Within host domain ∧ Within other domain) ↔
      Confused host other := by
  constructor
  · rintro ⟨domain, within, otherWithin⟩
    obtain ⟨different, address | address | unnamed⟩ := unrelated
    · obtain rfl := within.eq_of_isAddress address
      exact .inr (.inl ⟨address, otherWithin⟩)
    · obtain rfl := otherWithin.eq_of_isAddress address
      exact .inr (.inr ⟨address, within⟩)
    · have empty : domain = "" := by
        by_contra named
        exact unnamed ⟨domain, named, within.endsIn, otherWithin.endsIn⟩
      subst empty
      exact .inl ⟨within, otherWithin⟩
  · rintro (⟨within, otherWithin⟩ | ⟨_, otherWithin⟩ | ⟨_, within⟩)
    · exact ⟨"", within, otherWithin⟩
    · exact ⟨host, .inl rfl, otherWithin⟩
    · exact ⟨other, within, .inl rfl⟩

example : Unrelated "1.2.3.4" "a.1.2.3.4" ∧ Confused "1.2.3.4" "a.1.2.3.4" := by
  decide

theorem within_of_appliesTo {cookie : Cookie} {url : Url} {host : String}
    (named : hostName? url = some host)
    (applies : cookie.appliesTo url = true) :
    Within host cookie.domain :=
  (appliesTo_iff_covers.mp applies).within named

end Cookie

/-- A host sets cookies for domains that it lies in. -/
theorem Setting.within_of_header {header : String} {url : Url} {instant : Int}
    {setting : Setting} {host : String}
    (named : Cookie.hostName? url = some host)
    (asked : ofHeader? header url instant = some setting) :
    Cookie.Within host setting.key.domain := by
  simp only [ofHeader?, named, Option.bind_eq_bind, Option.bind_some,
    Option.bind_eq_some_iff] at asked
  obtain ⟨said, _, accepted⟩ := asked
  obtain ⟨allowed, same⟩ := Option.ite_none_right_eq_some.mp accepted
  rw [← Option.some.inj same]
  unfold key
  cases found : Setting.domain? ⟨said, host, Cookie.directoryOf url.path.text,
      instant⟩ with
  | none => exact .inl rfl
  | some domain => exact allowed domain found

/-! ## Jars that agree about a host -/

namespace CookieJar

/-- Two jars hold the same under each key whose domain reaches a host. -/
def Agree (host : String) (left right : CookieJar) : Prop :=
  ∀ wanted : Cookie.Key, Cookie.Within host wanted.domain →
    left.find? wanted = right.find? wanted

namespace Agree

variable {host : String} {left right : CookieJar}

theorem receive (agree : Agree host left right) (header : String) (url : Url)
    (now : Int) :
    Agree host (left.receive header url now)
      (right.receive header url now) := by
  intro wanted reached
  rw [find?_receive, find?_receive]
  cases Setting.ofHeader? header url now with
  | none => exact agree wanted reached
  | some setting =>
      by_cases same : setting.key = wanted
      · simp [same]
      · simpa [same] using agree wanted reached

/-- What another host sets that has no domain in common does not matter. -/
theorem receive_left (agree : Agree host left right) {header : String}
    {url : Url} {now : Int} {other : String}
    (named : Cookie.hostName? url = some other)
    (apart : ∀ domain, Cookie.Within other domain →
      ¬ Cookie.Within host domain) :
    Agree host (left.receive header url now) right := by
  intro wanted reached
  rw [find?_receive]
  cases asked : Setting.ofHeader? header url now with
  | none => exact agree wanted reached
  | some setting =>
      -- The key that is set has a domain that the other host lies in.
      have different : setting.key ≠ wanted := by
        rintro rfl
        exact apart _ (Setting.within_of_header named asked) reached
      simpa [different] using agree wanted reached

theorem mem_iff (agree : Agree host left right) {cookie : Cookie}
    (reached : Cookie.Within host cookie.domain) :
    cookie ∈ left.toList ↔ cookie ∈ right.toList := by
  rw [OrderedBy.mem_iff_find?, OrderedBy.mem_iff_find?,
    agree cookie.key reached]

theorem applicable (agree : Agree host left right) {url : Url}
    (named : Cookie.hostName? url = some host) (now : Int) :
    left.applicable url now = right.applicable url now := by
  refine OrderedBy.eq_of_mem_iff ((left.ordered.filter _).filter _)
    ((right.ordered.filter _).filter _) ?_
  intro cookie
  simp only [CookieJar.applicable, live, List.mem_filter]
  refine and_congr_left fun applies => and_congr_left fun _ => ?_
  exact agree.mem_iff (Cookie.within_of_appliesTo named applies)

theorem header? (agree : Agree host left right) {url : Url}
    (named : Cookie.hostName? url = some host) (now : Int) :
    left.header? url now = right.header? url now := by
  rw [CookieJar.header?, CookieJar.header?, agree.applicable named now]

end Agree

theorem header?_of_no_host {url : Url} (nameless : Cookie.hostName? url = none)
    (jar : CookieJar) (now : Int) : jar.header? url now = none := by
  have none : jar.applicable url now = [] := by
    simp [applicable, Cookie.appliesTo, nameless]
  rw [header?, none]

end CookieJar

/-! ## Histories without strangers -/

namespace Session

/-- The event is a header from a host that a test picks by comparing it with
that of a URL. -/
def Event.comesFrom (test : String → String → Bool) (url : Url) :
    Event → Bool
  | .receive _ source =>
      match Cookie.hostName? source, Cookie.hostName? url with
      | some other, some host => test other host
      | _, _ => false
  | .expireAll | .advance _ => false

def areStrangers (other host : String) : Bool :=
  decide (Cookie.Unrelated other host ∧ ¬ Cookie.Confused other host)

/-- Sessions that cannot be told apart by a host. -/
structure Alike (host : String) (left right : Session) : Prop where
  agree : CookieJar.Agree host left.jar right.jar
  clock : left.clock = right.clock

theorem Alike.after {host : String} {left right : Session}
    (alike : Alike host left right) (event : Event) :
    Alike host (left.after event) (right.after event) := by
  have now : left.now = right.now := by
    rw [Session.now, alike.clock, Session.now]
  cases event with
  | receive header url =>
      refine ⟨?_, alike.clock⟩
      change CookieJar.Agree host (left.jar.receive header url left.now)
        (right.jar.receive header url right.now)
      rw [now]
      exact alike.agree.receive header url right.now
  | expireAll => exact ⟨fun _ _ => rfl, alike.clock⟩
  | advance seconds =>
      exact ⟨alike.agree, congrArg (· + seconds) alike.clock⟩

theorem Alike.after_left {host : String} {left right : Session}
    (alike : Alike host left right) {url : Url} {event : Event}
    (named : Cookie.hostName? url = some host)
    (stranger : event.comesFrom areStrangers url = true) :
    Alike host (left.after event) right := by
  cases event with
  | receive header source =>
      rw [Event.comesFrom, named] at stranger
      cases other : Cookie.hostName? source with
      | none => simp [other] at stranger
      | some name =>
          simp only [other, areStrangers, decide_eq_true_eq] at stranger
          obtain ⟨unrelated, apart⟩ := stranger
          refine ⟨alike.agree.receive_left other ?_, alike.clock⟩
          intro domain within reached
          exact apart ((Cookie.common_domain_iff_confused unrelated).mp
            ⟨domain, within, reached⟩)
  | expireAll => cases stranger
  | advance seconds => cases stranger

theorem Alike.afterAll {host : String} {url : Url}
    (named : Cookie.hostName? url = some host) (history : List Event) :
    ∀ {left right : Session}, Alike host left right →
      Alike host (left.afterAll history)
        (right.afterAll
          (history.filter (!·.comesFrom areStrangers url))) := by
  induction history with
  | nil => exact fun alike => alike
  | cons event history induction =>
      intro left right alike
      -- Only the left session hears what a stranger says.
      cases stranger : event.comesFrom areStrangers url with
      | true =>
          rw [List.filter_cons_of_neg (by simp [stranger])]
          exact induction (alike.after_left named stranger)
      | false =>
          rw [List.filter_cons_of_pos (by simp [stranger])]
          exact induction (alike.after event)

/-- What hosts said that are strangers to the host of a URL can be left out of
a history: the URL is answered as before, at any instant. -/
theorem header?_without_strangers (clock : Int) (files : Files)
    (history : List Event) (url : Url) (instant : Int) :
    { (fresh clock files).afterAll
        (history.filter (!·.comesFrom areStrangers url)) with
      clock := instant }.header? url =
      { (fresh clock files).afterAll history with
        clock := instant }.header? url := by
  unfold Session.header?
  cases named : Cookie.hostName? url with
  | none => rw [CookieJar.header?_of_no_host named,
      CookieJar.header?_of_no_host named]
  | some host =>
      have same : Alike host (fresh clock files) (fresh clock files) :=
        ⟨fun _ _ => rfl, rfl⟩
      exact ((Alike.afterAll named history same).agree.header? named _).symm

/-! ## A domain without a name -/

/-- A host with a dot at its end asks for a domain that is nothing but dots. -/
def planted : Event :=
  .receive "session=planted; Domain=.." (rootOf "evil.test.")

/-- Being unrelated is not enough: the planted cookie goes to any host with a
dot at its end. -/
theorem unrelated_host_answered :
    (rootOf "evil.test.").text = "http://evil.test./" ∧
      (rootOf "bank.example.").text = "http://bank.example./" ∧
      Cookie.Unrelated "evil.test." "bank.example." ∧
      ((fresh 0 .empty).afterAll [planted]).header?
        (rootOf "bank.example.") = some "session=planted" ∧
      ¬ ∀ (clock : Int) (files : Files) (history : List Event) (url : Url),
        ((fresh clock files).afterAll (history.filter
          (!·.comesFrom (fun other host => Cookie.Unrelated other host)
            url))).header? url =
          ((fresh clock files).afterAll history).header? url := by
  refine ⟨by decide, by decide, by decide, by decide, ?_⟩
  intro separated
  have same := separated 0 .empty [planted] (rootOf "bank.example.")
  revert same
  decide

end Session

end OperatorConsole
