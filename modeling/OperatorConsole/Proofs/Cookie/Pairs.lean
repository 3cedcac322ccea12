import OperatorConsole.Proofs.Cookie.Setting
import OperatorConsole.Proofs.Text.Split
import OperatorConsole.Proofs.Text.Trim

/-!
# Pairs in a request

A server takes the cookies of a request apart at the semicolons.  What it finds
are the pairs that were put together, because a header cannot set a name or a
value with a semicolon in it.
-/

namespace OperatorConsole

/-! ## Taking pairs apart -/

namespace Cookie

/-- The pairs of a request's cookies: what stands between the semicolons,
without the spaces in front of it. -/
def pairsOf (header : String) : List String :=
  (header.toList.splitOn ';').map fun piece =>
    String.ofList (piece.dropWhile (· == ' '))

theorem pairsOf_append (left right : String) :
    pairsOf (left ++ ";" ++ right) = pairsOf left ++ pairsOf right := by
  have split : (left ++ ";" ++ right).toList =
      left.toList ++ ';' :: right.toList := by simp
  rw [pairsOf, split, List.splitOn_append_cons_self, List.map_append]
  rfl

theorem pairsOf_space (text : String) :
    pairsOf (" " ++ text) = pairsOf text := by
  have split : (" " ++ text).toList = ' ' :: text.toList := by simp
  rw [pairsOf, split, List.splitOn_cons_eq_if_modifyHead,
    if_neg (by decide), pairsOf]
  cases text.toList.splitOn ';' with
  | nil => rfl
  | cons first pieces => rfl

/-- Joining texts joins their pairs. -/
theorem pairsOf_intercalate (first : String) (others : List String) :
    pairsOf (String.intercalate "; " (first :: others)) =
      (first :: others).flatMap pairsOf := by
  induction others generalizing first with
  | nil => simp [String.intercalate_singleton]
  | cons second others induction =>
      have joined : String.intercalate "; " (first :: second :: others) =
          first ++ ";" ++ (" " ++ String.intercalate "; "
            (second :: others)) := by
        apply String.toList_injective
        simp
      rw [joined, pairsOf_append, pairsOf_space, induction]
      exact (List.flatMap_cons).symm

/-- A text that is one pair. -/
structure IsPair (text : String) : Prop where
  closed : ';' ∉ text.toList
  front : text.toList.head? ≠ some ' '

theorem IsPair.pairsOf_eq {text : String} (isPair : IsPair text) :
    pairsOf text = [text] := by
  have whole : text.toList.splitOn ';' = [text.toList] :=
    List.splitOn_eq_singleton isPair.closed
  have kept : text.toList.dropWhile (· == ' ') = text.toList := by
    cases front : text.toList with
    | nil => rfl
    | cons c cs =>
        refine List.dropWhile_cons_of_neg ?_
        intro space
        exact isPair.front (by rw [front, beq_iff_eq.mp space]; rfl)
  rw [pairsOf, whole, List.map_singleton, kept, String.ofList_toList]

theorem splitOn_append {front : List Char} (closed : ';' ∉ front)
    (cs : List Char) :
    ∃ first pieces, (front ++ cs).splitOn ';' = (front ++ first) :: pieces := by
  induction front with
  | nil => exact List.exists_cons_of_ne_nil (List.splitOn_ne_nil ';' cs)
  | cons c front induction =>
      obtain ⟨other, closed⟩ := not_or.mp (mt List.mem_cons.mpr closed)
      obtain ⟨first, pieces, split⟩ := induction closed
      refine ⟨first, pieces, ?_⟩
      rw [List.cons_append, List.splitOn_cons_eq_if_modifyHead,
        if_neg (by simpa using Ne.symm other), split]
      rfl

/-- The front of a text is the front of its first pair. -/
theorem IsPair.exists_mem_pairsOf {front : String} (isPair : IsPair front)
    (named : front ≠ "") (text : String) :
    ∃ rest, front ++ rest ∈ pairsOf (front ++ text) := by
  obtain ⟨first, pieces, split⟩ := splitOn_append isPair.closed text.toList
  refine ⟨String.ofList first, ?_⟩
  rw [pairsOf, String.toList_append, split, List.map_cons]
  refine List.mem_cons.mpr (.inl (String.toList_injective ?_))
  cases characters : front.toList with
  | nil => exact (named (String.toList_eq_nil_iff.mp characters)).elim
  | cons c cs =>
      have noSpace : c ≠ ' ' := by
        rintro rfl
        exact isPair.front (by rw [characters]; rfl)
      simp [characters, noSpace]

end Cookie

/-! ## Pairs of settings -/

namespace SetCookie

theorem name_withAttribute (said : SetCookie) (cs : List Char) :
    (said.withAttribute cs).name = said.name ∧
      (said.withAttribute cs).value = said.value := by
  unfold withAttribute
  split
  split
  case h_4 => split <;> exact ⟨rfl, rfl⟩
  all_goals exact ⟨rfl, rfl⟩

theorem mem_of_mem_unquote {c : Char} {cs : List Char}
    (member : c ∈ unquote cs) : c ∈ cs := by
  unfold unquote at member
  split at member
  · split at member
    · exact List.mem_cons_of_mem _
        (List.dropLast_subset _ (Text.mem_of_mem_trimChars member))
    · exact member
  · exact member

/-- The sides of a pair are what stands before and behind its first equals
sign. -/
theorem splitPair_eq_some {cs name value : List Char}
    (parts : splitPair cs = (name, some value)) :
    name = Text.trimChars (cs.takeWhile (· != '=')) ∧
      value = Text.trimChars ((cs.dropWhile (· != '=')).drop 1) := by
  have whole := List.span_eq_takeWhile_dropWhile (· != '=') cs
  unfold splitPair at parts
  split at parts
  · next split =>
      rw [split, Prod.mk.injEq] at whole
      cases parts
      rw [← whole.1, ← whole.2]
      exact ⟨rfl, rfl⟩
  · cases parts

/-- A header's name and value are the sides of its part before the first
semicolon. -/
theorem parts_of_ofHeader? {header : String} {said : SetCookie}
    (read : ofHeader? header = some said) :
    ∃ name value, splitPair (header.toList.takeWhile (· != ';')) =
        (name, some value) ∧
      said.name = String.ofList name ∧
      said.value = String.ofList (unquote value) := by
  have kept : ∀ (attributes : List (List Char)) (said : SetCookie),
      (attributes.foldl withAttribute said).name = said.name ∧
        (attributes.foldl withAttribute said).value = said.value := by
    intro attributes
    induction attributes with
    | nil => exact fun _ => ⟨rfl, rfl⟩
    | cons cs attributes induction =>
        intro said
        obtain ⟨name, value⟩ := induction (said.withAttribute cs)
        obtain ⟨sameName, sameValue⟩ := said.name_withAttribute cs
        exact ⟨name.trans sameName, value.trans sameValue⟩
  have first := Text.head?_splitOn ';' header.toList
  unfold ofHeader? at read
  split at read
  · cases read
  · next pair attributes pieces =>
      rw [pieces, List.head?_cons, Option.some.injEq] at first
      split at read
      · cases read
      · next name value parts =>
          split at read
          · cases read
          · cases read
            exact ⟨name, value, first ▸ parts, (kept _ _).1, (kept _ _).2⟩

theorem mem_name_of_ofHeader? {header : String} {said : SetCookie}
    (read : ofHeader? header = some said) {c : Char}
    (member : c ∈ said.name.toList) :
    c ∈ header.toList ∧ c ≠ ';' ∧ c ≠ '=' := by
  obtain ⟨name, value, parts, sameName, _⟩ := parts_of_ofHeader? read
  rw [sameName, String.toList_ofList, (splitPair_eq_some parts).1] at member
  have inside := Text.mem_of_mem_trimChars member
  obtain ⟨inPair, noEquals⟩ := Text.mem_of_mem_takeWhile_ne inside
  obtain ⟨inHeader, closed⟩ := Text.mem_of_mem_takeWhile_ne inPair
  exact ⟨inHeader, closed, noEquals⟩

theorem mem_value_of_ofHeader? {header : String} {said : SetCookie}
    (read : ofHeader? header = some said) {c : Char}
    (member : c ∈ said.value.toList) : c ∈ header.toList ∧ c ≠ ';' := by
  obtain ⟨name, value, parts, _, sameValue⟩ := parts_of_ofHeader? read
  rw [sameValue, String.toList_ofList] at member
  have inside := mem_of_mem_unquote member
  rw [(splitPair_eq_some parts).2] at inside
  have behind := List.mem_of_mem_drop (Text.mem_of_mem_trimChars inside)
  exact Text.mem_of_mem_takeWhile_ne ((List.dropWhile_suffix _).subset behind)

/-- A header's name and value come out of its part before the first
semicolon. -/
theorem isPair_of_ofHeader? {header : String} {said : SetCookie}
    (read : ofHeader? header = some said) :
    Cookie.IsPair said.name ∧ ';' ∉ said.value.toList := by
  refine ⟨⟨fun member => (mem_name_of_ofHeader? read member).2.1 rfl, ?_⟩,
    fun member => (mem_value_of_ofHeader? read member).2 rfl⟩
  obtain ⟨name, value, parts, sameName, _⟩ := parts_of_ofHeader? read
  rw [sameName, String.toList_ofList, (splitPair_eq_some parts).1]
  intro space
  have blank := (Text.isTrimmed_trimChars _).front _ space
  rw [Text.isBlank_space] at blank
  cases blank

end SetCookie

theorem CookieJar.mem_of_mem_bareValue {value : String} {c : Char}
    (member : c ∈ (bareValue value).toList) : c ∈ value.toList := by
  rw [bareValue, String.toList_ofList, List.mem_reverse] at member
  have inside := (List.dropWhile_suffix _).subset member
  rw [List.mem_reverse] at inside
  exact (List.dropWhile_suffix _).subset inside

namespace Setting

theorem said_of_header {header : String} {url : Url} {instant : Int}
    {setting : Setting} (asked : ofHeader? header url instant = some setting) :
    SetCookie.ofHeader? header = some setting.said := by
  simp only [ofHeader?, Option.bind_eq_bind, Option.bind_eq_some_iff] at asked
  obtain ⟨said, read, host, _, accepted⟩ := asked
  obtain ⟨_, same⟩ := Option.ite_none_right_eq_some.mp accepted
  rw [← Option.some.inj same]
  exact read

/-- The pair that a header sets is one pair of a request. -/
theorem pairsOf_pair {header : String} {url : Url} {instant : Int}
    {setting : Setting} (asked : ofHeader? header url instant = some setting) :
    Cookie.pairsOf setting.pair = [setting.pair] := by
  obtain ⟨isPair, closed⟩ :=
    SetCookie.isPair_of_ofHeader? (said_of_header asked)
  have characters : setting.pair.toList =
      setting.said.name.toList ++ '=' :: setting.value.toList := by
    simp [pair]
  refine Cookie.IsPair.pairsOf_eq ⟨?_, ?_⟩
  · rw [characters]
    simp only [List.mem_append, List.mem_cons, not_or]
    refine ⟨isPair.closed, by decide, ?_⟩
    exact fun member => closed (CookieJar.mem_of_mem_bareValue member)
  · rw [characters]
    cases name : setting.said.name.toList with
    | nil => simp
    | cons c cs => simpa [name] using isPair.front

end Setting

end OperatorConsole
