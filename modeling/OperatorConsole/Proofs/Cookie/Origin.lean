import OperatorConsole.Proofs.Cookie.Pairs
import OperatorConsole.Proofs.Cookie.Separation

/-!
# Where cookies come from

Every cookie of a jar was there before or was set by a header that the jar has
received since.  The header came from a host that lies in the domain of the
cookie.
-/

namespace OperatorConsole

/-- The cookie is what a header from a URL leaves in a jar. -/
def Cookie.SetBy (cookie : Cookie) (header : String) (url : Url)
    (instant : Int) : Prop :=
  ∃ setting, Setting.ofHeader? header url instant = some setting ∧
    setting.kept? = some cookie

namespace Cookie.SetBy

variable {cookie : Cookie} {header : String} {url : Url} {instant : Int}

theorem within (set : cookie.SetBy header url instant) {host : String}
    (named : hostName? url = some host) : Within host cookie.domain := by
  obtain ⟨setting, asked, kept⟩ := set
  obtain ⟨_, rfl⟩ := Setting.kept?_eq_some.mp kept
  exact Setting.within_of_header named asked

/-- What a header sets is one pair of a request. -/
theorem pairsOf_pair (set : cookie.SetBy header url instant) :
    pairsOf cookie.pair = [cookie.pair] := by
  obtain ⟨setting, asked, kept⟩ := set
  obtain ⟨_, rfl⟩ := Setting.kept?_eq_some.mp kept
  exact Setting.pairsOf_pair asked

/-- Headers are heard from hosts only. -/
theorem exists_hostName (set : cookie.SetBy header url instant) :
    ∃ host, hostName? url = some host := by
  obtain ⟨setting, asked, _⟩ := set
  simp only [Setting.ofHeader?, Option.bind_eq_bind,
    Option.bind_eq_some_iff] at asked
  obtain ⟨_, _, host, named, _⟩ := asked
  exact ⟨host, named⟩

end Cookie.SetBy

namespace CookieJar

theorem mem_of_mem_receive {jar : CookieJar} {header : String} {url : Url}
    {now : Int} {cookie : Cookie}
    (member : cookie ∈ (jar.receive header url now).toList) :
    cookie ∈ jar.toList ∨ cookie.SetBy header url now := by
  rw [OrderedBy.mem_iff_find?, find?_receive] at member
  rw [OrderedBy.mem_iff_find?]
  cases asked : Setting.ofHeader? header url now with
  | none =>
      rw [asked] at member
      exact .inl member
  | some setting =>
      simp only [asked] at member
      split at member
      · exact .inr ⟨setting, asked, member⟩
      · exact .inl member

theorem mem_of_mem_receiveAll {jar : CookieJar} {headers : List String}
    {url : Url} {now : Int} {cookie : Cookie}
    (member : cookie ∈ (jar.receiveAll headers url now).toList) :
    cookie ∈ jar.toList ∨ ∃ header ∈ headers,
      header.toList.all isVisible = true ∧ cookie.SetBy header url now := by
  suffices received : ∀ (headers : List String) (jar : CookieJar),
      cookie ∈ (headers.foldl
        (fun jar header => jar.receive header url now) jar).toList →
      cookie ∈ jar.toList ∨
        ∃ header ∈ headers, cookie.SetBy header url now by
    rcases received _ jar member with old | ⟨header, heard, set⟩
    · exact .inl old
    · obtain ⟨came, visible⟩ := List.mem_filter.mp heard
      exact .inr ⟨header, came, visible, set⟩
  intro headers
  induction headers with
  | nil => exact fun jar old => .inl old
  | cons header headers induction =>
      intro jar member
      rcases induction _ member with before | ⟨other, heard, set⟩
      · rcases mem_of_mem_receive before with old | set
        · exact .inl old
        · exact .inr ⟨header, List.mem_cons_self, set⟩
      · exact .inr ⟨other, List.mem_cons_of_mem _ heard, set⟩

/-! ## Pairs of the answer -/

theorem mem_live_iff {jar : CookieJar} {now : Int} {cookie : Cookie} :
    cookie ∈ jar.live now ↔
      cookie ∈ jar.toList ∧ ∀ limit ∈ cookie.expires, now < limit := by
  rw [live, List.mem_filter, Bool.not_eq_true',
    Cookie.isExpired_eq_false_iff]

theorem mem_applicable_iff {jar : CookieJar} {url : Url} {now : Int}
    {cookie : Cookie} :
    cookie ∈ jar.applicable url now ↔
      cookie ∈ jar.live now ∧ cookie.Covers url := by
  rw [applicable, List.mem_filter, Cookie.appliesTo_iff_covers]

theorem header?_eq_none_iff {jar : CookieJar} {url : Url} {now : Int} :
    jar.header? url now = none ↔ jar.applicable url now = [] := by
  unfold header?
  cases jar.applicable url now with
  | nil => simp
  | cons first others => simp

theorem header?_eq_some_iff {jar : CookieJar} {url : Url} {now : Int}
    {text : String} :
    jar.header? url now = some text ↔ jar.applicable url now ≠ [] ∧
      String.intercalate "; " ((jar.applicable url now).map Cookie.pair) =
        text := by
  unfold header?
  cases jar.applicable url now with
  | nil => simp
  | cons first others => simp

/-- What a URL gets are the pairs of the cookies that go to it. -/
theorem pairsOf_header {jar : CookieJar} {url : Url} {now : Int}
    {text : String} (answered : jar.header? url now = some text) :
    Cookie.pairsOf text =
      (jar.applicable url now).flatMap fun cookie =>
        Cookie.pairsOf cookie.pair := by
  obtain ⟨some, rfl⟩ := header?_eq_some_iff.mp answered
  obtain ⟨first, others, found⟩ := List.exists_cons_of_ne_nil some
  rw [found, List.map_cons, Cookie.pairsOf_intercalate, ← List.map_cons,
    List.flatMap_map]

/-- A URL to which a live cookie goes gets its pairs. -/
theorem pairs_sent {jar : CookieJar} {cookie : Cookie} {now : Int}
    (held : cookie ∈ jar.live now) {url : Url} (covers : cookie.Covers url) :
    ∃ text, jar.header? url now = some text ∧
      ∀ pair ∈ Cookie.pairsOf cookie.pair, pair ∈ Cookie.pairsOf text := by
  have applies : cookie ∈ jar.applicable url now :=
    mem_applicable_iff.mpr ⟨held, covers⟩
  have answered := header?_eq_some_iff.mpr
    ⟨List.ne_nil_of_mem applies, rfl⟩
  refine ⟨_, answered, fun pair member => ?_⟩
  rw [pairsOf_header answered]
  exact List.mem_flatMap.mpr ⟨cookie, applies, member⟩

end CookieJar

end OperatorConsole
