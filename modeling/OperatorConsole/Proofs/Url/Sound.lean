import OperatorConsole.Proofs.Url.Names
import OperatorConsole.Proofs.Url.WellFormed

/-!
# URLs that are not of a general scheme

A path that is resolved has a segment at least, whatever dots are in it, and the
host of a special scheme or a file is an address or a name that lies below none.
So only a URL of a general scheme can have a path that does not begin with a
slash or a host below an address, however it was read: on its own, or relative
to a base of its scheme.
-/

namespace OperatorConsole.Url

/-! ## Resolved paths -/

theorem resolveAfter_ne_nil (kind : SchemeKind) (segment : List Char)
    (rest : List (List Char)) : ∀ state : Resolved,
    (resolveAfter kind state (segment :: rest)).segments ≠ [] := by
  induction rest generalizing segment with
  | nil =>
      intro state
      rw [resolveAfter]
      cases cut : state.cut? kind segment with
      | some next =>
          dsimp only
          rw [resolveAfter]
          unfold Resolved.cut? at cut
          split at cut
          · obtain ⟨parts, _, rfl⟩ := Option.map_eq_some_iff.mp cut
            exact List.cons_ne_nil _ _
          · cases cut
      | none =>
          dsimp only
          split
          · exact List.cons_ne_nil _ _
          · next ordinary =>
              simp only [List.isEmpty_nil, Bool.true_and, Bool.or_eq_true,
                not_or, Bool.not_eq_true] at ordinary
              rw [ordinary.1, ordinary.2, resolveAfter]
              simp only [Bool.false_eq_true, if_false]
              unfold Resolved.push
              split
              · split
                · exact List.cons_ne_nil _ _
                · exact List.cons_ne_nil _ _
              · exact List.cons_ne_nil _ _
  | cons second rest induction =>
      intro state
      rw [resolveAfter]
      cases state.cut? kind segment with
      | some next => exact induction second next
      | none =>
          simp only [List.isEmpty_cons, Bool.false_and, Bool.false_eq_true,
            if_false]
          exact induction second _

theorem trimFront_ne_nil (kind : SchemeKind) {names : List String}
    (some : names ≠ []) : kind.trimFront names ≠ [] := by
  unfold SchemeKind.trimFront
  split
  · dsimp only
    split
    · exact List.cons_ne_nil _ _
    · next kept => simpa using kept
  · exact some

theorem resolve_ne_nil (kind : SchemeKind) (done : List String)
    (path : List Char) : resolve kind done path ≠ [] := by
  refine trimFront_ne_nil kind ?_
  obtain ⟨first, more, split⟩ := List.exists_cons_of_ne_nil
    (List.splitOnP_ne_nil kind.isSlash path)
  rw [pathSegments, split, ne_eq, List.reverse_eq_nil_iff]
  exact resolveAfter_ne_nil kind first more _

theorem resolveBeside_ne_nil (kind : SchemeKind) (names : List String)
    (path : List Char) : resolveBeside kind names path ≠ [] := by
  unfold resolveBeside
  split
  · unfold resolveBesideFile
    split
    · next last before reversed =>
        have kept : names ≠ [] := by
          rintro rfl
          cases reversed
        split
        · exact resolve_ne_nil _ _ _
        · split
          · exact resolve_ne_nil _ _ _
          · exact kept
          · split
            · exact kept
            · split
              · exact resolve_ne_nil _ _ _
              · exact resolve_ne_nil _ _ _
    · exact resolve_ne_nil _ _ _
  · exact resolve_ne_nil _ _ _

/-! ## URLs -/

/-- There is a segment at least. -/
def Rooted (url : Url) : Prop :=
  ∃ names, url.path = .segments names ∧ names ≠ []

theorem Rooted.path_text {url : Url} (rooted : url.Rooted) :
    ∃ rest, url.path.text = "/" ++ rest := by
  obtain ⟨names, path, some⟩ := rooted
  obtain ⟨first, more, rfl⟩ := List.exists_cons_of_ne_nil some
  refine ⟨first ++ String.join (more.map ("/" ++ ·)), ?_⟩
  rw [path, UrlPath.text, List.map_cons, String.join_cons, String.append_assoc]

/-- What holds of a URL that is not of a general scheme, however it was
read. -/
structure Sound (url : Url) : Prop where
  rooted : url.Rooted
  named : ∀ host ∈ url.host?, host.IsSpecial

theorem sound_withPath (scheme : String) {authority : Option Authority}
    (done : List String) (cs : List Char)
    (named : ∀ host ∈ authority.bind (·.host), host.IsSpecial) :
    (withPath scheme authority done cs).Sound :=
  ⟨⟨_, rfl, resolve_ne_nil _ _ _⟩, named⟩

theorem Authority.isSpecial_read {scheme : String} {cs rest : List Char}
    {authority : Authority}
    (success : Authority.read scheme cs = .ok (authority, rest))
    (notGeneral : SchemeKind.ofScheme scheme ≠ .general) :
    ∀ host ∈ authority.host, host.IsSpecial := by
  obtain ⟨⟨_, named⟩, _⟩ := Authority.read_eq_ok success
  obtain ⟨name, read, same⟩ := Authority.hostOf_eq_ok notGeneral named
  intro host known
  cases Option.some.inj (same.symm.trans known)
  exact Host.isSpecial_ofSpecial read

theorem sound_ofAuthority {scheme : String} {cs : List Char} {url : Url}
    (success : ofAuthority scheme cs = .ok url)
    (notGeneral : SchemeKind.ofScheme scheme ≠ .general) : url.Sound := by
  obtain ⟨⟨authority, rest⟩, read, built⟩ := bind_eq_ok.mp success
  dsimp only at built
  split at built
  · next general => exact absurd general.1 notGeneral
  · cases built
    exact sound_withPath _ _ _ (Authority.isSpecial_read read notGeneral)

theorem sound_relative {base url : Url} {cs : List Char}
    (success : relative base cs = .ok url) (notGeneral : base.kind ≠ .general)
    (sound : base.Sound) : url.Sound := by
  unfold relative at success
  split at success
  · cases success
    exact ⟨sound.rooted, sound.named⟩
  · cases success
    exact ⟨sound.rooted, sound.named⟩
  · cases success
    exact ⟨sound.rooted, sound.named⟩
  · split at success
    · dsimp only at success
      split at success
      · cases success
        exact sound_withPath _ _ _ sound.named
      · exact sound_ofAuthority success notGeneral
    · cases success
      exact ⟨⟨_, rfl, resolveBeside_ne_nil _ _ _⟩, sound.named⟩

theorem scheme_relative {base url : Url} {cs : List Char}
    (success : relative base cs = .ok url) : url.scheme = base.scheme := by
  unfold relative at success
  split at success
  · cases success
    rfl
  · cases success
    rfl
  · cases success
    rfl
  · split at success
    · dsimp only at success
      split at success
      · cases success
        rfl
      · exact scheme_ofAuthority success
    · cases success
      rfl

theorem sound_rootFile (cs : List Char) : (rootFile cs).Sound :=
  sound_withPath _ _ _ nofun

theorem sound_ofFileHost {cs : List Char} {url : Url}
    (success : ofFileHost cs = .ok url) : url.Sound := by
  unfold ofFileHost at success
  simp only [bind, Except.bind, pure, Except.pure] at success
  split at success
  · cases success
    exact sound_rootFile _
  · split at success
    · cases success
    · next found =>
        split at success
        · cases success
          exact sound_rootFile _
        · cases success
          refine sound_withPath _ _ _ fun host known => ?_
          obtain ⟨_, same⟩ := Option.ite_none_left_eq_some.mp known
          cases same
          exact Host.isSpecial_ofFile found _ rfl

/-- What the root keeps of a base is its host at most. -/
theorem isSpecial_fileRoot {base : Option Url}
    (sound : ∀ known ∈ base, known.Sound) :
    ∀ host ∈ (fileRoot base).1.host, host.IsSpecial := by
  unfold fileRoot
  split
  · nofun
  · next known =>
      have named := (sound known rfl).named
      split
      · split
        · nofun
        · exact named
      · exact named

theorem sound_ofFileText {base : Option Url} {cs : List Char} {url : Url}
    (success : ofFileText base cs = .ok url)
    (file : ∀ known ∈ base, known.kind = .file ∧ known.Sound) :
    url.Sound := by
  have beside {known : Url} (is : base = some known)
      (success : relative known cs = .ok url) : url.Sound := by
    obtain ⟨kind, sound⟩ := file known is
    refine sound_relative success ?_ sound
    rw [kind]
    exact SchemeKind.noConfusion
  have root := isSpecial_fileRoot fun known is => (file known is).2
  unfold ofFileText at success
  split at success
  · split at success
    · split at success
      · split at success
        · exact sound_ofFileHost success
        · split at success
          · cases success
            exact sound_rootFile _
          · cases success
            exact sound_withPath _ _ _ root
      · cases success
        exact sound_withPath _ _ _ root
    · split at success
      · split at success
        · cases success
          exact sound_rootFile _
        · exact beside rfl success
      · cases success
        exact sound_rootFile _
  · split at success
    · exact beside rfl success
    · cases success
      exact sound_rootFile _

theorem sound_ofSchemeText {base : Option Url} {scheme : String}
    {cs : List Char} {url : Url}
    (success : ofSchemeText base scheme cs = .ok url)
    (notGeneral : url.kind ≠ .general)
    (sound : ∀ known ∈ base, known.kind ≠ .general → known.Sound) :
    url.Sound := by
  have same {known : Url} (is : base.filter (·.scheme == scheme) = some known) :
      base = some known ∧ known.kind = .ofScheme scheme := by
    obtain ⟨is, same⟩ := Option.filter_eq_some_iff.mp is
    exact ⟨is, congrArg SchemeKind.ofScheme (beq_iff_eq.mp same)⟩
  unfold ofSchemeText at success
  dsimp only at success
  split at success
  · next file =>
      refine sound_ofFileText success fun known is => ?_
      obtain ⟨is, kind⟩ := same is
      rw [file] at kind
      exact ⟨kind, sound known is (by rw [kind]; exact nofun)⟩
  · next special =>
      split at success
      · next known is =>
          obtain ⟨is, kind⟩ := same is
          split at success
          · have notGeneral : known.kind ≠ .general := by
              rw [kind, special]
              exact nofun
            exact sound_relative success notGeneral (sound known is notGeneral)
          · exact sound_ofAuthority success (by rw [special]; exact nofun)
      · exact sound_ofAuthority success (by rw [special]; exact nofun)
  · next general =>
      split at success
      · have kind : url.kind = .ofScheme scheme :=
          congrArg SchemeKind.ofScheme (scheme_ofAuthority success)
        exact absurd (kind.trans general) notGeneral
      · cases success
        exact absurd general notGeneral
      · cases success
        exact absurd general notGeneral

theorem sound_read {base : Option Url} {text : String} {url : Url}
    (success : read base text = .ok url) (notGeneral : url.kind ≠ .general)
    (sound : ∀ known ∈ base, known.kind ≠ .general → known.Sound) :
    url.Sound := by
  unfold read at success
  dsimp only at success
  split at success
  · exact sound_ofSchemeText success notGeneral sound
  · split at success
    · cases success
    · next known =>
        split at success
        · cases success
          have knownSound := sound known rfl notGeneral
          exact ⟨knownSound.rooted, knownSound.named⟩
        · split at success
          · cases success
          · split at success
            · next file =>
                refine sound_ofFileText success fun other is => ?_
                cases is
                exact ⟨file, sound known rfl (by rw [file]; exact nofun)⟩
            · have kind : url.kind = known.kind :=
                congrArg SchemeKind.ofScheme (scheme_relative success)
              rw [kind] at notGeneral
              exact sound_relative success notGeneral
                (sound known rfl notGeneral)

/-- A URL as programs come by it. -/
inductive IsRead : Url → Prop where
  | ofText {text : String} {url : Url} (success : ofText text = .ok url) :
      IsRead url
  | join {base url : Url} {text : String} (known : IsRead base)
      (success : base.join text = .ok url) : IsRead url
  | withQuery {url : Url} (known : IsRead url) (query : String) :
      IsRead (url.withQuery query)

theorem IsRead.sound {url : Url} (known : url.IsRead)
    (notGeneral : url.kind ≠ .general) : url.Sound := by
  induction known with
  | ofText success => exact sound_read success notGeneral nofun
  | join _ success induction =>
      refine sound_read success notGeneral fun base is => ?_
      cases is
      exact induction
  | withQuery _ query induction =>
      exact ⟨(induction notGeneral).rooted, (induction notGeneral).named⟩

end OperatorConsole.Url
