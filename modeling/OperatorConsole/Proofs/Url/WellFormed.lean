import Mathlib.Data.List.TakeWhile
import OperatorConsole.Proofs.Except
import OperatorConsole.Proofs.Url.Reference

/-!
# URLs that stand on their own

A text that stands on its own gives a URL with a host unless the scheme can do
without one.  Where there is no host, nothing else stands in its place, and a
flat path has no place for one.
-/

namespace OperatorConsole.Url

/-! ## Authorities -/

theorem Authority.hostOf_eq_ok {kind : SchemeKind} {cs : List Char}
    {host : Option Host} (notGeneral : kind ≠ .general)
    (named : hostOf kind cs = .ok host) :
    ∃ name, Host.ofSpecial cs = .ok name ∧ host = some name := by
  have special : hostOf kind cs =
      if cs.isEmpty then .error .emptyHost
      else (Host.ofSpecial cs).map some := by
    cases kind with
    | general => exact absurd rfl notGeneral
    | special | file => rfl
  rw [special] at named
  split at named
  · cases named
  · obtain ⟨name, read, rfl⟩ := map_eq_ok.mp named
    exact ⟨name, read, rfl⟩

/-- Without a host there is no user and no port either. -/
theorem Authority.read_eq_ok {scheme : String} {cs rest : List Char}
    {authority : Authority}
    (success : Authority.read scheme cs = .ok (authority, rest)) :
    (∃ text, hostOf (.ofScheme scheme) text = .ok authority.host) ∧
      (authority.host = none → authority = .empty) := by
  unfold Authority.read at success
  simp only [bind, Except.bind, pure, Except.pure, throw, throwThe,
    MonadExceptOf.throw] at success
  -- The guards in the order in which they are passed.
  split at success
  · cases success
  split at success
  · cases success
  next host named =>
  split at success
  · cases success
  next nothingBehind =>
  split at success
  · cases success
  next port numbered =>
  split at success
  · cases success
  next nobody =>
  cases success
  refine ⟨⟨_, named⟩, ?_⟩
  rintro rfl
  simp only [Option.isNone_none, Bool.true_and, Bool.not_eq_true',
    Bool.not_eq_false, List.isEmpty_iff, Bool.and_eq_true,
    String.isEmpty_iff] at nothingBehind nobody
  rw [nothingBehind] at numbered
  rw [nobody.1, nobody.2]
  cases numbered
  rfl

/-! ## Schemes -/

theorem toNat_lt_of_isSchemeChar {c : Char}
    (plain : isSchemeChar c = true) : c.toNat < 128 := by
  unfold isSchemeChar Char.isAlphanum Char.isAlpha Char.isUpper Char.isLower
    Char.isDigit at plain
  simp only [Bool.or_eq_true, Bool.and_eq_true, decide_eq_true_eq, beq_iff_eq,
    UInt32.le_iff_toNat_le] at plain
  change (((((65 ≤ c.toNat ∧ c.toNat ≤ 90) ∨ (97 ≤ c.toNat ∧ c.toNat ≤ 122)) ∨
    (48 ≤ c.toNat ∧ c.toNat ≤ 57)) ∨ c = '+') ∨ c = '-') ∨ c = '.' at plain
  rcases plain with ((letterOrDigit | rfl) | rfl) | rfl
  · omega
  all_goals decide

theorem isSchemeChar_toLower_of_small : ∀ n < 128,
    isSchemeChar (Char.ofNat n) = true →
      isSchemeChar (Char.ofNat n).toLower = true := by
  decide +kernel

theorem isSchemeChar_toLower {c : Char} (plain : isSchemeChar c = true) :
    isSchemeChar c.toLower = true := by
  have small := isSchemeChar_toLower_of_small c.toNat
    (toNat_lt_of_isSchemeChar plain)
  rw [Char.ofNat_toNat] at small
  exact small plain

theorem isSchemeChar_of_splitScheme? {cs rest : List Char} {scheme : String}
    (split : splitScheme? cs = some (scheme, rest)) :
    ∀ c ∈ scheme.toList, isSchemeChar c = true := by
  unfold splitScheme? at split
  split at split
  · next text behind spanned =>
      rw [List.span_eq_takeWhile_dropWhile] at spanned
      obtain ⟨rfl, _⟩ := Prod.mk.inj spanned
      split at split
      · next first more shown =>
          split at split
          · cases split
            intro c member
            rw [String.toList_ofList] at member
            obtain ⟨source, inText, rfl⟩ := List.mem_map.mp member
            rw [← shown] at inText
            obtain ⟨inText, solid⟩ := List.mem_filter.mp inText
            have kept := List.mem_takeWhile_imp inText
            apply isSchemeChar_toLower
            have noGap : isGap source = false := by simpa using solid
            simpa [noGap] using kept
          · cases split
      · cases split
  · cases split

/-! ## URLs -/

/-- What holds of a URL that was read on its own. -/
structure WellFormed (url : Url) : Prop where
  letters : ∀ c ∈ url.scheme.toList, isSchemeChar c = true
  special : url.kind = .special → url.host? ≠ none
  hostless : url.host? = none →
    url.authority = none ∨ url.authority = some .empty
  flat : url.isFlat = true → url.kind = .general ∧ url.authority = none

theorem wellFormed_ofAuthority {scheme : String} {cs : List Char} {url : Url}
    (letters : ∀ c ∈ scheme.toList, isSchemeChar c = true)
    (success : ofAuthority scheme cs = .ok url) : url.WellFormed := by
  obtain ⟨⟨authority, rest⟩, read, built⟩ := bind_eq_ok.mp success
  obtain ⟨⟨_, named⟩, hostless⟩ := Authority.read_eq_ok read
  dsimp only at built
  split at built
  all_goals
    cases built
    refine ⟨letters, ?_, ?_, Bool.noConfusion⟩
    · intro special
      have notGeneral : SchemeKind.ofScheme scheme ≠ .general := by
        rw [show SchemeKind.ofScheme scheme = .special from special]
        exact SchemeKind.noConfusion
      obtain ⟨name, _, same⟩ := Authority.hostOf_eq_ok notGeneral named
      exact ne_of_eq_of_ne same (Option.some_ne_none name)
    · intro none
      exact .inr (congrArg some (hostless none))

/-- A file may have no host. -/
theorem wellFormed_file {authority : Authority} {done : List String}
    {cs : List Char} (hostless : authority.host = none → authority = .empty) :
    (withPath "file" (some authority) done cs).WellFormed where
  letters := by
    have letters : "file".toList.all isSchemeChar = true := rfl
    exact List.all_eq_true.mp letters
  special := by
    intro special
    rw [kind, scheme_withPath] at special
    exact absurd special (by decide)
  hostless := fun none => .inr (congrArg some (hostless none))
  flat := Bool.noConfusion

theorem wellFormed_ofFileHost {cs : List Char} {url : Url}
    (success : ofFileHost cs = .ok url) : url.WellFormed := by
  unfold ofFileHost at success
  simp only [bind, Except.bind, pure, Except.pure] at success
  split at success
  · cases success
    exact wellFormed_file fun _ => rfl
  · split at success
    · cases success
    · split at success
      · cases success
        exact wellFormed_file fun _ => rfl
      · cases success
        exact wellFormed_file fun none =>
          congrArg (fun host => { Authority.empty with host := host }) none

theorem wellFormed_ofFileText {cs : List Char} {url : Url}
    (success : ofFileText none cs = .ok url) : url.WellFormed := by
  have root (cs : List Char) : (rootFile cs).WellFormed :=
    wellFormed_file fun _ => rfl
  unfold ofFileText at success
  split at success
  · split at success
    · split at success
      · split at success
        · exact wellFormed_ofFileHost success
        · split at success
          · cases success
            exact root _
          · cases success
            exact wellFormed_file fun _ => rfl
      · cases success
        exact wellFormed_file fun _ => rfl
    · cases success
      exact root _
  · cases success
    exact root _

theorem wellFormed_of_no_authority {url : Url}
    (letters : ∀ c ∈ url.scheme.toList, isSchemeChar c = true)
    (general : url.kind = .general) (none : url.authority = none) :
    url.WellFormed where
  letters := letters
  special := fun special => by rw [general] at special; cases special
  hostless := fun _ => .inl none
  flat := fun _ => ⟨general, none⟩

theorem wellFormed_ofText {text : String} {url : Url}
    (success : ofText text = .ok url) : url.WellFormed := by
  simp only [ofText, read] at success
  cases named : splitScheme? (trimmed text) with
  | none =>
      rw [named] at success
      cases success
  | some parts =>
      obtain ⟨scheme, rest⟩ := parts
      have letters := isSchemeChar_of_splitScheme? named
      rw [named] at success
      simp only [ofSchemeText, Option.filter_none] at success
      split at success
      · exact wellFormed_ofFileText success
      · exact wellFormed_ofAuthority letters success
      · next general =>
          split at success
          · exact wellFormed_ofAuthority letters success
          · cases success
            exact wellFormed_of_no_authority letters general rfl
          · cases success
            exact wellFormed_of_no_authority letters general rfl

/-- Only a URL of a general scheme can have a path without segments. -/
theorem isFlat_ofText {text : String} {url : Url}
    (success : ofText text = .ok url) (notGeneral : url.kind ≠ .general) :
    url.isFlat = false := by
  by_contra flat
  rw [Bool.not_eq_false] at flat
  exact notGeneral ((wellFormed_ofText success).flat flat).1

end OperatorConsole.Url
