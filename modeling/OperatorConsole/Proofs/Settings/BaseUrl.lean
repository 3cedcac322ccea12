import OperatorConsole.Proofs.Http.Target
import OperatorConsole.Proofs.Url.Sound
import OperatorConsole.Proofs.Url.WellFormed
import OperatorConsole.Remote.Client
import OperatorConsole.Settings

/-!
# Front-end URLs that can be used

Settings are accepted with any URL for the front-end.  It can be used if it has
a host: then every address of the client is a URL.  If it has none, no log-in
and no call comes to anything, and no request is ever sent.
-/

namespace OperatorConsole

namespace Remote

/-- The paths that the client asks for. -/
def paths : List String :=
  loginPath :: Resource.all.map Resource.path

theorem Resource.path_mem (resource : Resource) : resource.path ∈ paths := by
  cases resource <;> decide

/-- The client can address the front-end. -/
structure Usable (base : Url) : Prop where
  host : base.host? ≠ none
  login : ∃ url, pageUrl base loginPath = .ok url
  calls : ∀ call : Call, ∃ url, call.url base = .ok url

/-- The path is a slash and one name, of which reading leaves nothing out. -/
structure IsName (path : String) (c : Char) (rest : List Char) : Prop where
  slash : path.toList = '/' :: c :: rest
  trims : Url.trimmed path = '/' :: c :: rest
  notSlash : c ≠ '/'
  unnamed : Url.namesAuthority path = false
  resolved : Url.resolve .general [] (Url.spanPath (c :: rest)).1 =
    [String.ofList (c :: rest)]

section Pages

variable {base url : Url} {path : String}

theorem exists_isName (known : path ∈ paths) :
    ∃ c rest, IsName path c rest := by
  simp only [paths, Resource.all, List.map_cons, List.map_nil, List.mem_cons,
    List.not_mem_nil, or_false] at known
  rcases known with rfl | rfl | rfl | rfl
  · exact ⟨'a', "uth".toList,
      ⟨by decide, by decide, by decide, by decide, by decide⟩⟩
  · exact ⟨'h', "istory".toList,
      ⟨by decide, by decide, by decide, by decide, by decide⟩⟩
  · exact ⟨'s', "ervers".toList,
      ⟨by decide, by decide, by decide, by decide, by decide⟩⟩
  · exact ⟨'a', "ct".toList,
      ⟨by decide, by decide, by decide, by decide, by decide⟩⟩

theorem exists_page (layered : base.isFlat = false) (known : path ∈ paths) :
    ∃ url, pageUrl base path = .ok url := by
  obtain ⟨_, _, name⟩ := exists_isName known
  obtain ⟨url, joined⟩ := Url.exists_join layered name.slash name.unnamed
  exact ⟨url, mapError_eq_ok.mpr joined⟩

theorem pageUrl_of_flat (flat : base.isFlat = true) (known : path ∈ paths) :
    pageUrl base path = .error ⟨path, .relativeToFlat⟩ := by
  obtain ⟨_, _, name⟩ := exists_isName known
  rw [pageUrl, Url.join_of_flat flat name.slash]
  rfl

theorem exists_url (layered : base.isFlat = false) (call : Call) :
    ∃ url, call.url base = .ok url := by
  obtain ⟨page, found⟩ := exists_page layered call.resource.path_mem
  rw [Call.url, found]
  exact ⟨_, rfl⟩

theorem url_of_flat (flat : base.isFlat = true) (call : Call) :
    call.url base = .error ⟨call.resource.path, .relativeToFlat⟩ := by
  rw [Call.url, pageUrl_of_flat flat call.resource.path_mem]
  rfl

end Pages

/-! ## Front-ends without a host -/

section Hostless

variable {base url : Url} {path : String}

theorem layered_of_host (formed : base.WellFormed)
    (named : base.host? ≠ none) : base.isFlat = false := by
  by_contra flat
  rw [Bool.not_eq_false] at flat
  apply named
  rw [Url.host?, (formed.flat flat).2]
  rfl

/-- A host is all that it takes. -/
theorem usable_iff (formed : base.WellFormed) :
    Usable base ↔ base.host? ≠ none := by
  constructor
  · exact Usable.host
  · intro named
    have layered := layered_of_host formed named
    exact ⟨named, exists_page layered List.mem_cons_self,
      exists_url layered⟩

/-- Pages of a front-end without a host lie nowhere. -/
theorem nowhere_of_page (formed : base.WellFormed)
    (hostless : base.host? = none) (known : path ∈ paths)
    (page : pageUrl base path = .ok url) : Http.Target.Nowhere url := by
  obtain ⟨c, rest, name⟩ := exists_isName known
  have joined : base.join path = .ok url := mapError_eq_ok.mp page
  have layered : base.isFlat = false := by
    by_contra flat
    rw [Bool.not_eq_false] at flat
    rw [Url.join_of_flat flat name.slash] at joined
    cases joined
  -- The kind decides whose authority the page has.
  cases kind : base.kind with
  | special => exact absurd hostless (formed.special kind)
  | file =>
      obtain ⟨authority, done, behind, page, empty⟩ :=
        Url.join_unnamed_file layered kind name.trims name.unnamed
      have nothing : authority = .empty := by
        rw [hostless] at empty
        exact empty.elim id id
      obtain ⟨first, more, names⟩ := List.exists_cons_of_ne_nil
        (Url.resolve_ne_nil .file done (Url.spanPath behind).1)
      rw [joined] at page
      cases page
      exact .emptyAuthority (congrArg some nothing)
        (congrArg UrlPath.segments names)
  | general =>
      have notFile : base.kind ≠ .file := by
        rw [kind]
        exact Url.SchemeKind.noConfusion
      rw [Url.join_unnamed layered notFile name.trims name.unnamed] at joined
      have ofScheme : Url.SchemeKind.ofScheme base.scheme = .general := kind
      have segments : (Url.withPath base.scheme base.authority []
          (c :: rest)).path = .segments [String.ofList (c :: rest)] := by
        rw [← name.resolved, ← ofScheme]
        rfl
      cases joined
      rcases formed.hostless hostless with none | empty
      · exact .noAuthority formed.letters none segments
          String.toList_ofList name.notSlash
      · exact .emptyAuthority empty segments

theorem nowhere_of_url (formed : base.WellFormed)
    (hostless : base.host? = none) {call : Call}
    (address : call.url base = .ok url) : Http.Target.Nowhere url := by
  obtain ⟨page, found, rfl⟩ := map_eq_ok.mp address
  have nowhere := nowhere_of_page formed hostless call.resource.path_mem found
  cases call.action with
  | none => exact nowhere
  | some action => exact nowhere.withQuery _

theorem send_of_nowhere (nowhere : Http.Target.Nowhere url)
    (link : Http.Link) (userAgent : String) (method : Http.Method)
    (content : Option Http.Content) :
    link.send userAgent method url content = (.error .transport, link) := by
  rw [Http.Link.send, nowhere.isFit, if_neg Bool.false_ne_true]

theorem login_of_hostless (formed : base.WellFormed)
    (hostless : base.host? = none) (link : Http.Link)
    (username password : String) :
    ∃ fault, login link base username password = (.error fault, link) := by
  rw [login]
  cases page : pageUrl base loginPath with
  | error bad => exact ⟨.address bad, rfl⟩
  | ok url =>
      have nowhere := nowhere_of_page formed hostless List.mem_cons_self page
      dsimp only
      rw [send_of_nowhere nowhere]
      exact ⟨.unsent, rfl⟩

theorem fetch_of_hostless (formed : base.WellFormed)
    (hostless : base.host? = none) (link : Http.Link) (call : Call) :
    ∃ detail,
      fetch link base call = (.error (.transport detail), link) := by
  rw [fetch]
  cases address : call.url base with
  | error bad => exact ⟨bad.headline, rfl⟩
  | ok url =>
      have nowhere := nowhere_of_url formed hostless address
      dsimp only
      rw [send_of_nowhere nowhere]
      exact ⟨transportDetail, rfl⟩

end Hostless

end Remote

namespace Settings

variable {places : Places} {lookUp : String → Option String}
  {settings : Settings}

/-- The front-end's URL is what the variable says and is checked for nothing
else. -/
theorem base_of_ofVariables
    (accepted : ofVariables places lookUp = .ok settings) :
    Url.ofText ((lookUp "ITISADB_CONSOLE_URL").getD defaultUrl) =
      .ok settings.base := by
  obtain ⟨base, read, rest⟩ := bind_eq_ok.mp accepted
  obtain ⟨mode, _, rest⟩ := bind_eq_ok.mp rest
  obtain ⟨timeout, _, built⟩ := bind_eq_ok.mp rest
  cases built
  exact mapError_eq_ok.mp read

/-- Settings that are accepted name a front-end that can be used just if its URL
has a host, as those of the web have.  Addresses can be made of any URL with
segments.  Without a host every log-in and every call fails, and nothing is
sent. -/
theorem base_usable_if_host
    (accepted : ofVariables places lookUp = .ok settings) :
    (Remote.Usable settings.base ↔ settings.base.host? ≠ none) ∧
      (settings.base.kind = .special → Remote.Usable settings.base) ∧
      (settings.base.isFlat = false →
        (∃ url, Remote.pageUrl settings.base Remote.loginPath = .ok url) ∧
          ∀ call : Remote.Call, ∃ url, call.url settings.base = .ok url) ∧
      (settings.base.isFlat = true →
        Remote.pageUrl settings.base Remote.loginPath =
            .error ⟨Remote.loginPath, .relativeToFlat⟩ ∧
          ∀ call : Remote.Call, call.url settings.base =
            .error ⟨call.resource.path, .relativeToFlat⟩) ∧
      (¬ Remote.Usable settings.base → ∀ link : Http.Link,
        (∀ username password, ∃ fault,
          Remote.login link settings.base username password =
            (.error fault, link)) ∧
          ∀ call, ∃ detail, Remote.fetch link settings.base call =
            (.error (.transport detail), link)) := by
  have formed := Url.wellFormed_ofText (base_of_ofVariables accepted)
  have usable := Remote.usable_iff formed
  refine ⟨usable, fun special => usable.mpr (formed.special special), ?_, ?_,
    ?_⟩
  · intro layered
    exact ⟨Remote.exists_page layered List.mem_cons_self,
      Remote.exists_url layered⟩
  · intro flat
    exact ⟨Remote.pageUrl_of_flat flat List.mem_cons_self,
      Remote.url_of_flat flat⟩
  · intro unusable link
    have hostless : settings.base.host? = none :=
      Decidable.not_not.mp (mt usable.mpr unusable)
    exact ⟨Remote.login_of_hostless formed hostless link,
      Remote.fetch_of_hostless formed hostless link⟩

/-- An environment that says nothing but where the front-end is. -/
def frontEndAt (url : String) (name : String) : Option String :=
  if name = "ITISADB_CONSOLE_URL" then some url else none

theorem web_used_and_file_not :
    (∃ settings, ofVariables ⟨none, none⟩ (frontEndAt "http://[::1]:8087/x") =
        .ok settings ∧ Remote.Usable settings.base) ∧
      ∃ settings, ofVariables ⟨none, none⟩ (frontEndAt "file:///srv/") =
          .ok settings ∧
        settings.base.isFlat = false ∧
        ∀ link call, ∃ detail, Remote.fetch link settings.base call =
          (.error (.transport detail), link) := by
  constructor
  · have accepted : ofVariables ⟨none, none⟩ (frontEndAt "http://[::1]:8087/x") =
        .ok _ := rfl
    exact ⟨_, accepted, (base_usable_if_host accepted).2.1 (by decide +kernel)⟩
  · have accepted : ofVariables ⟨none, none⟩ (frontEndAt "file:///srv/") =
        .ok _ := rfl
    obtain ⟨usable, _, _, _, fails⟩ := base_usable_if_host accepted
    have unusable := mt usable.mp (not_not.mpr (by decide +kernel))
    exact ⟨_, accepted, by decide +kernel, fun link => (fails unusable link).2⟩

/-- A host without a scheme is taken for a scheme, and then for no host. -/
theorem host_taken_for_scheme :
    ∃ settings, ofVariables ⟨none, none⟩ (frontEndAt "localhost:8087") =
        .ok settings ∧
      settings.base.text = "localhost:8087" ∧
      settings.base.scheme = "localhost" ∧ ¬ Remote.Usable settings.base ∧
      Remote.pageUrl settings.base Remote.loginPath =
        .error ⟨"/auth", .relativeToFlat⟩ := by
  refine ⟨_, rfl, by decide +kernel, by decide +kernel, ?_, by decide +kernel⟩
  intro usable
  exact usable.host (by decide +kernel)

end Settings

end OperatorConsole
