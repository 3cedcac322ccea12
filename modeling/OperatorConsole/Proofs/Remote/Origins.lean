import Mathlib.Data.List.Induction
import OperatorConsole.Proofs.Remote.Client
import OperatorConsole.Proofs.Url.Sound
import OperatorConsole.Proofs.Url.Literal

/-!
# Origins of the cookies that are sent

However a client is used and wherever its requests are redirected, each pair
that a request carries was set by a header that had come before.  The proof
keeps an account of all headers that are known by the time of a request.  On
addresses the header came from the host of the request.
-/

namespace OperatorConsole.Remote

open Http

/-! ## Accounts -/

/-- A pair in a request to a URL was set by a header that is known, for a domain
of the host. -/
inductive Explained (known : String → Url → Prop) (target : Url) :
    String → Prop where
  | setBy {cookie : Cookie} {header host : String} {url : Url} {instant : Int}
      (set : cookie.SetBy header url instant) (isKnown : known header url)
      (named : Cookie.hostName? target = some host)
      (within : Cookie.Within host cookie.domain) :
      Explained known target cookie.pair

/-- The cookies of a link and the pairs in its requests were set by headers that
were known by then. -/
structure Accounted (known : List Request → String → Url → Prop)
    (link : Link) : Prop where
  jar : ∀ cookie ∈ link.session.jar.toList, ∃ header url instant,
    cookie.SetBy header url instant ∧ known link.sent header url
  requests : ∀ earlier request, earlier ++ [request] <+: link.sent →
    ∀ text ∈ request.cookie, ∀ pair ∈ Cookie.pairsOf text,
      Explained (known earlier) request.url pair

/-- More is known the more requests have been sent, and whatever the service
answers. -/
structure Learns (service : List Request → Answer)
    (known : List Request → String → Url → Prop) : Prop where
  later : ∀ {sent more header url}, sent <+: more →
    known sent header url → known more header url
  heard : ∀ {sent header url}, Heard service [] sent header url →
    known sent header url

namespace Accounted

variable {known : List Request → String → Url → Prop} {link last : Link}

theorem of_sentHeader (accounted : Accounted known link) {url : Url}
    {text : String} (answered : link.session.sentHeader? url = some text) :
    ∀ pair ∈ Cookie.pairsOf text, Explained (known link.sent) url pair := by
  obtain ⟨answered, _⟩ := Option.filter_eq_some_iff.mp answered
  intro pair member
  rw [CookieJar.pairsOf_header answered, List.mem_flatMap] at member
  obtain ⟨cookie, applicable, member⟩ := member
  obtain ⟨live, applies⟩ := List.mem_filter.mp applicable
  obtain ⟨header, source, instant, set, isKnown⟩ :=
    accounted.jar cookie (List.mem_filter.mp live).1
  rw [set.pairsOf_pair, List.mem_singleton] at member
  have covers := Cookie.appliesTo_iff_covers.mp applies
  obtain ⟨host, named, _⟩ := covers.host
  rw [member]
  exact .setBy set isKnown named (covers.within named)

/-- Cookies that stand in from a request before are those of its host. -/
theorem of_cookieFor (accounted : Accounted known link)
    {service : List Request → Answer} (learns : Learns service known)
    {url : Url} {before : Option Request} {text : String}
    (follows : ∀ earlier ∈ before, earlier ∈ link.sent)
    (carried : link.cookieFor url before = some text) :
    ∀ pair ∈ Cookie.pairsOf text, Explained (known link.sent) url pair := by
  rcases Option.or_eq_some_iff.mp carried with answered | ⟨_, standsIn⟩
  · exact accounted.of_sentHeader answered
  · obtain ⟨request, same, kept⟩ := Option.bind_eq_some_iff.mp standsIn
    obtain ⟨⟨host, _⟩, kept⟩ := Option.ite_none_right_eq_some.mp kept
    obtain ⟨earlier, later, split⟩ := List.append_of_mem (follows request same)
    have sent : earlier ++ [request] <+: link.sent :=
      ⟨later, by rw [split, List.append_assoc, List.singleton_append]⟩
    have early : earlier <+: link.sent := (List.prefix_append _ _).trans sent
    intro pair member
    cases accounted.requests earlier request sent text kept pair member with
    | setBy set isKnown named within =>
        refine .setBy set (learns.later early isKnown) ?_ within
        rw [← named, Cookie.hostName?, Cookie.hostName?, host]

theorem exchange (accounted : Accounted known link)
    (learns : Learns link.service known) {request : Request}
    {before : Option Request}
    (follows : ∀ earlier ∈ before, earlier ∈ link.sent)
    (cookie : request.cookie = link.cookieFor request.url before) :
    Accounted known (link.exchange request).2 where
  jar := by
    intro stored member
    rcases Link.mem_of_mem_exchange member with old | ⟨header, heard, set⟩
    · obtain ⟨header, url, instant, set, isKnown⟩ := accounted.jar stored old
      exact ⟨header, url, instant, set,
        learns.later (List.prefix_append _ _) isKnown⟩
    · exact ⟨header, request.url, _, set,
        learns.heard (heard.mono List.nil_prefix (List.prefix_refl _))⟩
  requests := by
    intro earlier other sent text carried
    rw [Link.sent_exchange] at sent
    rcases List.prefix_concat_iff.mp sent with now | before
    · obtain ⟨rfl, same⟩ := List.append_inj' now rfl
      cases same
      rw [cookie] at carried
      exact accounted.of_cookieFor learns follows carried
    · exact accounted.requests earlier other before text carried

theorem asks (asks : Asks link last) (accounted : Accounted known link)
    (learns : Learns link.service known) : Accounted known last := by
  induction asks with
  | done => exact accounted
  | ask request before follows cookie _ induction =>
      exact induction (accounted.exchange learns follows cookie) learns

theorem mono (accounted : Accounted known link)
    {more : List Request → String → Url → Prop}
    (learned : ∀ sent header url, known sent header url →
      more sent header url) : Accounted more link where
  jar := by
    intro cookie member
    obtain ⟨header, url, instant, set, isKnown⟩ := accounted.jar cookie member
    exact ⟨header, url, instant, set, learned _ _ _ isKnown⟩
  requests := by
    intro earlier request sent text carried pair member
    cases accounted.requests earlier request sent text carried pair member with
    | setBy set isKnown named within =>
        exact .setBy set (learned _ _ _ isKnown) named within

end Accounted

/-! ## Runs of a client -/

namespace Client

/-- What is done with a client. -/
inductive Step where
  | login (username password : String)
  | fetch (call : Call)
  | receive (header : String) (url : Url)
  | expireAll
  | advance (seconds : Int)

def after (base : Url) (link : Link) : Step → Link
  | .login username password => (login link base username password).2
  | .fetch call => (fetch link base call).2
  | .receive header url =>
      { link with session := link.session.receive header url }
  | .expireAll => { link with session := link.session.expireAll }
  | .advance seconds =>
      { link with session := link.session.advance seconds }

def afterAll (base : Url) (link : Link) (steps : List Step) : Link :=
  steps.foldl (after base) link

/-- A header was handed to the session before any but these requests. -/
def Given (base : Url) (start : Link) (steps : List Step)
    (sent : List Request) (header : String) (url : Url) : Prop :=
  ∃ before later, steps = before ++ .receive header url :: later ∧
    (afterAll base start before).sent <+: sent

def Known (base : Url) (start : Link) (steps : List Step)
    (sent : List Request) (header : String) (url : Url) : Prop :=
  Heard start.service [] sent header url ∨
    Given base start steps sent header url

variable {base : Url} {start : Link}

theorem learns_known (steps : List Step) :
    Learns start.service (Known base start steps) where
  later := by
    rintro sent more header url longer (heard | ⟨before, later, split, early⟩)
    · exact .inl (heard.mono (List.prefix_refl _) longer)
    · exact .inr ⟨before, later, split, early.trans longer⟩
  heard := .inl

theorem Known.snoc {steps : List Step} {sent : List Request} {header : String}
    {url : Url} (known : Known base start steps sent header url)
    (step : Step) : Known base start (steps ++ [step]) sent header url := by
  rcases known with heard | ⟨before, later, split, early⟩
  · exact .inl heard
  · refine .inr ⟨before, later ++ [step], ?_, early⟩
    rw [split, List.append_assoc, List.cons_append]

theorem afterAll_snoc (steps : List Step) (step : Step) :
    afterAll base start (steps ++ [step]) =
      after base (afterAll base start steps) step := by
  simp [afterAll]

theorem service_after (link : Link) (step : Step) :
    (after base link step).service = link.service := by
  cases step with
  | login username password => exact asks_login.service_eq
  | fetch call => exact (asks_fetch call).service_eq
  | receive | expireAll | advance => rfl

theorem service_afterAll (steps : List Step) :
    (afterAll base start steps).service = start.service := by
  induction steps using List.reverseRec with
  | nil => rfl
  | append_singleton steps step induction =>
      rw [afterAll_snoc, service_after, induction]

/-- Whatever is done with a client, its cookies are accounted for. -/
theorem accounted_afterAll (new : start.sent = [])
    (empty : start.session.jar = .empty) (steps : List Step) :
    Accounted (Known base start steps) (afterAll base start steps) := by
  induction steps using List.reverseRec with
  | nil =>
      constructor
      · intro cookie member
        rw [afterAll, List.foldl_nil, empty] at member
        cases member
      · intro earlier request sent
        rw [afterAll, List.foldl_nil, new, List.prefix_nil] at sent
        cases List.append_eq_nil_iff.mp sent |>.2
  | append_singleton steps step induction =>
      have accounted : Accounted (Known base start (steps ++ [step]))
          (afterAll base start steps) :=
        induction.mono fun _ _ _ known => known.snoc step
      have learns : Learns (afterAll base start steps).service
          (Known base start (steps ++ [step])) := by
        rw [service_afterAll]
        exact learns_known _
      rw [afterAll_snoc]
      cases step with
      | login username password => exact accounted.asks asks_login learns
      | fetch call => exact accounted.asks (asks_fetch call) learns
      | receive header url =>
          refine ⟨?_, accounted.requests⟩
          intro cookie member
          rcases CookieJar.mem_of_mem_receive member with old | set
          · exact accounted.jar cookie old
          · exact ⟨header, url, _, set,
              .inr ⟨steps, [], rfl, List.prefix_refl _⟩⟩
      | expireAll =>
          refine ⟨?_, accounted.requests⟩
          intro cookie member
          cases member
      | advance seconds => exact ⟨accounted.jar, accounted.requests⟩

/-! ## Addresses -/

/-- All requests go to addresses. -/
def OnAddresses (link : Link) : Prop :=
  ∀ request ∈ link.sent, ∃ host ∈ request.url.host?, host.IsLiteral

/-- Headers that are handed to the session are those of URLs whose hosts are
addresses or domain names, as on the web. -/
def FromWeb (steps : List Step) : Prop :=
  ∀ header url, .receive header url ∈ steps →
    url.IsRead ∧ url.kind ≠ .general

theorem isAddress_of_onAddresses {link : Link} (onAddresses : OnAddresses link)
    {request : Request} (sent : request ∈ link.sent) {host : String}
    (named : Cookie.hostName? request.url = some host) :
    Cookie.isAddress host = true := by
  obtain ⟨address, isHost, literal⟩ := onAddresses request sent
  rw [Cookie.hostName?, isHost] at named
  cases named
  exact Cookie.isAddress_of_isLiteral literal

/-- A pair in a request was set by an earlier header from the host that the
request is sent to. -/
inductive FromHost (base : Url) (start : Link) (steps : List Step)
    (earlier : List Request) (target : Url) : String → Prop where
  | setBy {cookie : Cookie} {header : String} {url : Url} {instant : Int}
      (set : cookie.SetBy header url instant)
      (known : Known base start steps earlier header url)
      (host : Cookie.hostName? url = Cookie.hostName? target) :
      FromHost base start steps earlier target cookie.pair

/-- On addresses the pairs of a request come from the host that it is sent to,
wherever redirects have led before. -/
theorem pairs_from_host {service : List Request → Answer} {clock : Int}
    {files : Files} {base : Url} {steps : List Step}
    (onAddresses : OnAddresses
      (afterAll base ⟨service, [], .fresh clock files⟩ steps))
    (fromWeb : FromWeb steps)
    {earlier : List Request} {request : Request} {text : String}
    (sent : earlier ++ [request] <+:
      (afterAll base ⟨service, [], .fresh clock files⟩ steps).sent)
    (carried : request.cookie = some text) :
    ∀ pair ∈ Cookie.pairsOf text,
      FromHost base ⟨service, [], .fresh clock files⟩ steps earlier
        request.url pair := by
  have accounted : Accounted
      (Known base ⟨service, [], .fresh clock files⟩ steps)
      (afterAll base ⟨service, [], .fresh clock files⟩ steps) :=
    accounted_afterAll rfl rfl steps
  have isSent : request ∈
      (afterAll base ⟨service, [], .fresh clock files⟩ steps).sent :=
    sent.subset List.mem_concat_self
  intro pair member
  cases accounted.requests earlier request sent text carried pair member with
  | @setBy cookie header host url instant set known named within =>
      have address := isAddress_of_onAddresses onAddresses isSent named
      -- The host is the domain of the cookie, which the other host lies in.
      have isDomain : host = cookie.domain := within.eq_of_isAddress address
      obtain ⟨other, otherNamed⟩ := set.exists_hostName
      have otherWithin : Cookie.Within other host :=
        isDomain ▸ set.within otherNamed
      refine .setBy set known ?_
      rw [named, otherNamed]
      rcases known with heard | given
      · obtain ⟨asking, asked, rfl⟩ := heard.exists_request
        have early : asking ∈ _ :=
          ((List.prefix_append _ _).trans sent).subset asked
        have address := isAddress_of_onAddresses onAddresses early otherNamed
        rw [otherWithin.eq_of_isAddress address]
      · obtain ⟨before, later, split, _⟩ := given
        have step : Step.receive header url ∈ steps := by
          rw [split]
          exact List.mem_append_right _ List.mem_cons_self
        obtain ⟨read, notGeneral⟩ := fromWeb header url step
        obtain ⟨literal, isHost, isLiteral⟩ := onAddresses request isSent
        obtain ⟨name, isOther, same⟩ := Option.map_eq_some_iff.mp otherNamed
        have special := (read.sound notGeneral).named name isOther
        rw [Cookie.hostName?, isHost] at named
        cases named
        rw [← same] at otherWithin ⊢
        rw [otherWithin.eq_of_isLiteral special isLiteral]

/-- A service that sends a request to another address and from there back, and
sets cookies on both. -/
def thereAndBack (sent : List Request) : Answer :=
  match sent.length with
  | 1 => .response ⟨302, [("location", "http://[::2]:8087/in"),
      ("set-cookie", "session=home"),
      ("set-cookie", "session=stray; Domain=[::2]")], some []⟩
  | 2 => .response ⟨302, [("location", "http://[::1]:8087/"),
      ("set-cookie", "session=away; Path=/")], some []⟩
  | _ => .response ⟨200, [], some []⟩

/-- A cookie is set by hand, and another one by the service. -/
def settingBoth : List Step :=
  [.receive "theme=dark" .loopback, .login "operator" "secret"]

def returned : Link :=
  afterAll .loopback ⟨thereAndBack, [], .fresh 0 .empty⟩ settingBoth

def lastRequest : Request :=
  ⟨.get, .loopback, userAgent, some "session=home; theme=dark", none⟩

/-- Back from the other address a request carries the cookies of its own one. -/
theorem returned_with_own_cookies :
    OnAddresses returned ∧ FromWeb settingBoth ∧
      returned.sent.map (·.cookie) = [some "theme=dark", none,
        some "session=home; theme=dark"] ∧
      ∀ pair ∈ ["session=home", "theme=dark"],
        FromHost .loopback ⟨thereAndBack, [], .fresh 0 .empty⟩ settingBoth
          returned.sent.dropLast .loopback pair := by
  have onAddresses : OnAddresses returned := by
    unfold OnAddresses
    decide +kernel
  have read : Url.ofText "http://[::1]:8087/" = .ok .loopback := rfl
  have fromWeb : FromWeb settingBoth := by
    intro header url step
    simp only [settingBoth, List.mem_cons, Step.receive.injEq, reduceCtorEq,
      List.not_mem_nil, or_false] at step
    rw [step.2]
    exact ⟨.ofText read, by decide⟩
  have sent : returned.sent.dropLast ++ [lastRequest] <+: returned.sent := by
    decide +kernel
  exact ⟨onAddresses, fromWeb, by decide +kernel,
    pairs_from_host onAddresses fromWeb sent rfl⟩

end Client

end OperatorConsole.Remote
