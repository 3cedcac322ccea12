import OperatorConsole.CommandTable.Format
import OperatorConsole.Proofs.Json.Steady

/-!
# Reading kinds

A kind is a string, or the only member of an object.  One member alone has no
other order, so rearranging the text of a kind makes no difference.
-/

namespace OperatorConsole.CommandTable

open Json

section Kinds

variable {known : List String} {kind name : String} {depth : Nat}
  {cs rest : List Char}

theorem knownName_eq_ok_iff :
    knownName known name cs = .ok (kind, rest) ↔
      (name ∈ known ∧ name = kind) ∧ rest = cs := by
  unfold knownName
  split
  · next isKnown =>
      have isKnown := List.contains_iff_mem.mp isKnown
      simp [isKnown, eq_comm]
  · next unknown =>
      have unknown : name ∉ known :=
        fun isKnown => unknown (List.contains_iff_mem.mpr isKnown)
      simp [unknown]

theorem steady_kindName (known : List String) (depth : Nat) :
    Steady (kindName known) depth Eq :=
  (steady_stringAs "variant identifier" depth).andThen_eq
    (fun name kind => name ∈ known ∧ name = kind)
    fun _ _ _ _ => knownName_eq_ok_iff

/-! ## Names of kinds -/

theorem exists_content_of_kindName
    (read : kindName known depth cs = .ok (kind, rest)) :
    ∃ before content, Blanks before ∧ Spells content kind.toList ∧
      kind ∈ known ∧ cs = before ++ (quoted content ++ rest) := by
  obtain ⟨⟨found, tail⟩, inner, accepted⟩ := bind_eq_ok.mp read
  obtain ⟨⟨isKnown, rfl⟩, rfl⟩ := knownName_eq_ok_iff.mp accepted
  obtain ⟨before, _, blank, ⟨content, spells, rfl⟩, split⟩ :=
    (parses_stringAs _ depth).taken inner
  exact ⟨before, content, blank, spells, isKnown, split⟩

theorem kindName_quoted {content : List Char}
    (spells : Spells content kind.toList) (isKnown : kind ∈ known)
    (rest : List Char) :
    kindName known depth ('"' :: (content ++ '"' :: rest)) =
      .ok (kind, rest) := by
  refine bind_eq_ok.mpr
    ⟨(kind, rest), ?_, knownName_eq_ok_iff.mpr ⟨⟨isKnown, rfl⟩, rfl⟩⟩
  rw [stringAs, skipBlanks_cons (by decide)]
  exact stringBody_eq_ok_iff.mpr ⟨content, spells, rfl⟩

theorem exists_content_of_kindKey
    (read : kindKey known depth cs = .ok (kind, rest)) :
    ∃ before content, Blanks before ∧ Spells content kind.toList ∧
      kind ∈ known ∧ cs = before ++ (quoted content ++ rest) := by
  obtain ⟨before, blank, split⟩ := exists_blanks cs
  unfold kindKey at read
  split at read
  · cases read
  · next stands =>
      obtain ⟨between, content, betweenBlank, spells, isKnown, same⟩ :=
        exists_content_of_kindName read
      refine ⟨before ++ between, content, blank.append betweenBlank, spells,
        isKnown, ?_⟩
      rw [split, stands, same, List.append_assoc]
  · cases read
  · cases read

theorem kindKey_quoted {before content : List Char} (blank : Blanks before)
    (spells : Spells content kind.toList) (isKnown : kind ∈ known)
    (rest : List Char) :
    kindKey known depth (before ++ '"' :: (content ++ '"' :: rest)) =
      .ok (kind, rest) := by
  rw [kindKey, skipBlanks_blanks blank (by decide)]
  exact kindName_quoted spells isKnown rest

/-! ## Kinds as objects -/

/-- What stands for a kind. -/
inductive IsKind (known : List String) (depth : Nat) :
    List Char → String → Prop where
  | name {content : List Char} {kind : String}
      (spells : Spells content kind.toList) (isKnown : kind ∈ known) :
      IsKind known depth (quoted content) kind
  | map {name text : List Char} {kind : String} (deep : 1 < depth)
      (isObject : IsObject [⟨name, "null".toList⟩] text)
      (spells : Spells name kind.toList) (isKnown : kind ∈ known) :
      IsKind known depth text kind

theorem exists_kind_of_read
    (read : kindNameOrMap known depth cs = .ok (kind, rest)) :
    ∃ before text, Blanks before ∧ IsKind known depth text kind ∧
      cs = before ++ (text ++ rest) := by
  obtain ⟨before, blank, split⟩ := exists_blanks cs
  unfold kindNameOrMap at read
  split at read
  · cases read
  · next stands =>
      obtain ⟨between, content, betweenBlank, spells, isKnown, same⟩ :=
        exists_content_of_kindName read
      refine ⟨before ++ between, _, blank.append betweenBlank,
        .name spells isKnown, ?_⟩
      rw [split, stands, same, List.append_assoc]
  · next stands =>
      split at read
      · cases read
      · next deep =>
          obtain ⟨⟨found, tail⟩, keyed, keyRead⟩ := bind_eq_ok.mp read
          obtain ⟨value, past, colonRead⟩ := bind_eq_ok.mp keyRead
          obtain ⟨⟨_, behind⟩, absent, nullRead⟩ := bind_eq_ok.mp colonRead
          obtain ⟨lead, content, leadBlank, spells, isKnown, rfl⟩ :=
            exists_content_of_kindKey keyed
          obtain ⟨after, afterBlank, rfl⟩ := colon_eq_ok_iff.mp past
          obtain ⟨between, _, betweenBlank, rfl, rfl⟩ :=
            (parses_unit _).taken absent
          obtain ⟨last, lastBlank, splitLast⟩ := exists_blanks behind
          dsimp only at nullRead
          split at nullRead
          · cases nullRead
          · next ended =>
              cases nullRead
              have isValue : IsValue "null".toList := .word (by decide)
              have ahead := Ahead.member (.first leadBlank) spells.isString
                afterBlank betweenBlank isValue (.none lastBlank)
              refine ⟨before, _, blank, .map (Nat.lt_of_not_le deep)
                (isObject_iff.mpr ⟨_, ahead, rfl⟩) spells isKnown, ?_⟩
              rw [split, stands, splitLast, ended]
              simp [quoted]
          · cases nullRead
  · cases read

theorem kindNameOrMap_object
    {before lead name after between last : List Char} (blank : Blanks before)
    (leadBlank : Blanks lead) (afterBlank : Blanks after)
    (betweenBlank : Blanks between) (lastBlank : Blanks last)
    (deep : 1 < depth) (spells : Spells name kind.toList)
    (isKnown : kind ∈ known) (rest : List Char) :
    kindNameOrMap known depth (before ++ ('{' :: (lead ++ '"' ::
        (name ++ '"' :: (after ++ ':' :: (between ++
          ("null".toList ++ last)))) ++ ['}']) ++ rest)) =
      .ok (kind, rest) := by
  have same : before ++ ('{' :: (lead ++ '"' ::
      (name ++ '"' :: (after ++ ':' :: (between ++
        ("null".toList ++ last)))) ++ ['}']) ++ rest) =
      before ++ '{' :: (lead ++ '"' :: (name ++ '"' ::
        (after ++ ':' :: (between ++
          ("null".toList ++ (last ++ '}' :: rest)))))) := by
    simp
  have absent : unit (depth - 1)
      (between ++ ("null".toList ++ (last ++ '}' :: rest))) =
        .ok ((), last ++ '}' :: rest) :=
    (parses_unit _).result betweenBlank rfl
      (lastBlank.delimited_mark (.inr (.inr rfl)) rest)
  rw [same, kindNameOrMap, skipBlanks_blanks blank (by decide)]
  refine (if_neg (Nat.not_le_of_lt deep)).trans ?_
  refine bind_eq_ok.mpr ⟨_, kindKey_quoted leadBlank spells isKnown _,
    bind_eq_ok.mpr ⟨_, colon_eq_ok_iff.mpr ⟨after, afterBlank, rfl⟩,
      bind_eq_ok.mpr ⟨_, absent, ?_⟩⟩⟩
  dsimp only
  rw [skipBlanks_blanks lastBlank (by decide)]
  rfl

theorem read_kind {before text : List Char} (blank : Blanks before)
    (isKind : IsKind known depth text kind) :
    kindNameOrMap known depth (before ++ (text ++ rest)) =
      .ok (kind, rest) := by
  cases isKind with
  | @name content _ spells isKnown =>
      have same : before ++ (quoted content ++ rest) =
          before ++ '"' :: (content ++ '"' :: rest) := by
        simp [quoted]
      rw [same, kindNameOrMap, skipBlanks_blanks blank (by decide)]
      exact kindName_quoted spells isKnown rest
  | map deep isObject spells isKnown =>
      obtain ⟨_, ahead, rfl⟩ := isObject_iff.mp isObject
      cases ahead with
      | @member _ _ lead name after between _ _ leads _ afterBlank betweenBlank
        _ later =>
          cases leads with
          | first leadBlank =>
              cases later with
              | @none _ last lastBlank =>
                  exact kindNameOrMap_object blank leadBlank afterBlank
                    betweenBlank lastBlank deep spells isKnown rest

theorem IsKind.isValue {text : List Char}
    (isKind : IsKind known depth text kind) : IsValue text := by
  cases isKind with
  | name spells _ => exact .string spells.isString
  | map _ isObject _ _ => exact .object isObject

theorem parses_kindNameOrMap (known : List String) (depth : Nat) :
    Parses (kindNameOrMap known) depth (IsKind known depth) where
  isValue := IsKind.isValue
  taken := exists_kind_of_read
  result := fun blank isKind _ => read_kind blank isKind

theorem steady_kindNameOrMap (known : List String) (depth : Nat) :
    Steady (kindNameOrMap known) depth Eq := by
  refine (parses_kindNameOrMap known depth).steady ?_
  intro text other kind alike isKind
  refine ⟨kind, ?_, rfl⟩
  cases isKind with
  | name spells isKnown =>
      obtain rfl := alike.eq_of_isScalar (isScalar_quoted _)
      exact .name spells isKnown
  | map deep isObject spells isKnown =>
      obtain ⟨others, isOther, rearranges⟩ := alike.exists_members isObject
      have kept (left right : List Char) (isNull : left = "null".toList)
          (alike : Alike left right) : right = "null".toList := by
        subst isNull
        exact alike.eq_of_isScalar (by simp [IsScalar])
      obtain ⟨⟨name, value⟩, rfl, rfl, rfl⟩ :=
        rearranges.exists_singleton kept rfl rfl
      exact .map deep isOther spells isKnown

end Kinds

end OperatorConsole.CommandTable
