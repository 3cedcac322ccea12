import OperatorConsole.Markup

/-!
# One scan of a markup

The tokens are replaced one after the other, each in the whole text.  That comes
to one scan from the left, because no token overlaps another one and because
nothing that is put in for a token belongs to a token that is replaced later.
-/

namespace OperatorConsole.Markup

/-- One scan from the left.  Where a token starts it is consumed and its meaning
is put out; a character at which none starts is copied. -/
inductive Scans (known : List Token) : List Char → List Char → Prop where
  | done : Scans known [] []
  | token {token : Token} {rest text : List Char} :
      token ∈ known →
      Scans known rest text →
      Scans known (token.spelling ++ rest) (token.meaning ++ text)
  | copied {c : Char} {rest text : List Char} :
      (∀ token ∈ known, ¬ token.spelling <+: c :: rest) →
      Scans known rest text →
      Scans known (c :: rest) (c :: text)

/-- The characters that tokens begin with. -/
def opens (c : Char) : Bool :=
  c == '<' || c == '&'

namespace Token

/-- The token opens with its first character and nowhere else, and it leaves
something behind. -/
structure Sound (token : Token) : Prop where
  first : token.spelling.head?.any opens = true
  others : ∀ c ∈ token.spelling.tail, opens c = false
  meaning : token.meaning ≠ []

/-- Neither token is a beginning of the other one, and nothing that `earlier`
leaves behind occurs in `later`. -/
structure Precedes (earlier later : Token) : Prop where
  not_begins : ¬ earlier.spelling <+: later.spelling
  not_extension : ¬ later.spelling <+: earlier.spelling
  foreign : ∀ c ∈ earlier.meaning, c ∉ later.spelling

theorem Sound.exists_cons {token : Token} (sound : token.Sound) :
    ∃ first others, token.spelling = first :: others ∧
      opens first = true ∧ ∀ c ∈ others, opens c = false := by
  have first := sound.first
  have others := sound.others
  cases spelled : token.spelling with
  | nil => simp [spelled] at first
  | cons head tail =>
      rw [spelled] at first others
      exact ⟨head, tail, rfl, by simpa using first, others⟩

theorem Sound.not_begins {token : Token} (sound : token.Sound) {c : Char}
    (closed : opens c = false) (rest : List Char) :
    ¬ token.spelling <+: c :: rest := by
  obtain ⟨first, others, spelled, opening, _⟩ := sound.exists_cons
  rw [spelled, List.cons_prefix_cons]
  rintro ⟨rfl, _⟩
  rw [closed] at opening
  cases opening

end Token

/-- Tokens in an order in which they can be replaced one after the other. -/
structure Orderly (known : List Token) : Prop where
  sound : ∀ token ∈ known, token.Sound
  order : known.Pairwise Token.Precedes

/-! ## Replacing one token -/

section ReplaceToken

variable (token : Token)

@[simp] theorem replaceToken_nil : replaceToken [] token = [] := rfl

theorem replaceFrom_append (front rest : List Char) :
    replaceFrom token front.length (front ++ rest) =
      replaceToken rest token := by
  induction front with
  | nil => rfl
  | cons c front induction => exact induction

theorem replaceToken_cons {c : Char} {rest : List Char}
    (absent : ¬ token.spelling <+: c :: rest) :
    replaceToken (c :: rest) token = c :: replaceToken rest token := by
  have notPrefix : ¬ token.spelling.isPrefixOf (c :: rest) = true := by
    rwa [List.isPrefixOf_iff_prefix]
  rw [replaceToken, replaceFrom, if_neg notPrefix, replaceToken]

variable {token}

theorem replaceToken_spelling (sound : token.Sound) (rest : List Char) :
    replaceToken (token.spelling ++ rest) token =
      token.meaning ++ replaceToken rest token := by
  obtain ⟨first, others, spelled, _, _⟩ := sound.exists_cons
  have isPrefix : token.spelling.isPrefixOf (first :: (others ++ rest)) =
      true := by
    rw [List.isPrefixOf_iff_prefix, spelled]
    exact List.prefix_append (first :: others) rest
  have skipped : token.spelling.length - 1 = others.length := by
    rw [spelled]
    rfl
  rw [spelled, List.cons_append, replaceToken, replaceFrom, if_pos isPrefix,
    skipped, replaceFrom_append]

theorem replaceToken_append (sound : token.Sound) {front : List Char}
    (closed : ∀ c ∈ front, opens c = false) (rest : List Char) :
    replaceToken (front ++ rest) token = front ++ replaceToken rest token := by
  induction front with
  | nil => rfl
  | cons c front induction =>
      obtain ⟨first, others⟩ := List.forall_mem_cons.mp closed
      rw [List.cons_append,
        replaceToken_cons token (sound.not_begins first _),
        induction others, List.cons_append]

/-- A token that is replaced later is left as it is. -/
theorem replaceToken_later {later : Token} (sound : token.Sound)
    (laterSound : later.Sound) (precedes : token.Precedes later)
    (rest : List Char) :
    replaceToken (later.spelling ++ rest) token =
      later.spelling ++ replaceToken rest token := by
  have absent : ¬ token.spelling <+: later.spelling ++ rest := by
    intro starts
    rcases List.prefix_or_prefix_of_prefix starts
      (List.prefix_append later.spelling rest) with inside | around
    · exact precedes.not_begins inside
    · exact precedes.not_extension around
  obtain ⟨first, others, spelled, _, closed⟩ := laterSound.exists_cons
  rw [spelled, List.cons_append] at absent ⊢
  rw [replaceToken_cons token absent, replaceToken_append sound closed]
  rfl

/-- What begins the text after a replacement began it before, if it has nothing
in common with what is put in. -/
theorem prefix_of_prefix_replaceToken (sound : token.Sound)
    {word cs : List Char} (foreign : ∀ c ∈ token.meaning, c ∉ word)
    (begins : word <+: replaceToken cs token) : word <+: cs := by
  induction cs generalizing word with
  | nil => exact begins
  | cons c rest induction =>
      cases word with
      | nil => exact List.nil_prefix
      | cons first word =>
          by_cases starts : token.spelling <+: c :: rest
          · obtain ⟨behind, whole⟩ := starts
            obtain ⟨put, more, meaning⟩ :=
              List.exists_cons_of_ne_nil sound.meaning
            rw [← whole, replaceToken_spelling sound, meaning,
              List.cons_append, List.cons_prefix_cons] at begins
            have absent := foreign put (by simp [meaning])
            exact absurd begins.1.symm
              (List.ne_of_not_mem_cons absent)
          · rw [replaceToken_cons token starts, List.cons_prefix_cons]
              at begins
            refine List.cons_prefix_cons.mpr ⟨begins.1, ?_⟩
            exact induction (fun put member inside =>
              foreign put member (List.mem_cons_of_mem first inside))
              begins.2

end ReplaceToken

/-! ## Scans -/

theorem scans_nil_iff {cs text : List Char} :
    Scans [] cs text ↔ cs = text := by
  constructor
  · intro scans
    induction scans with
    | done => rfl
    | token member _ _ => exact absurd member List.not_mem_nil
    | copied _ _ induction => rw [induction]
  · rintro rfl
    induction cs with
    | nil => exact .done
    | cons c cs induction =>
        exact .copied (fun _ member => absurd member List.not_mem_nil)
          induction

theorem Scans.append_of_absent {known : List Token} {front rest text : List Char}
    (absent : ∀ c ∈ front, ∀ token ∈ known, token.Sound ∧ c ∉ token.spelling)
    (scans : Scans known rest text) :
    Scans known (front ++ rest) (front ++ text) := by
  induction front with
  | nil => exact scans
  | cons c front induction =>
      obtain ⟨first, others⟩ := List.forall_mem_cons.mp absent
      refine .copied ?_ (induction others)
      intro token member starts
      obtain ⟨sound, notIn⟩ := first token member
      obtain ⟨opening, _, spelled, _, _⟩ := sound.exists_cons
      rw [spelled] at starts notIn
      exact List.ne_of_not_mem_cons notIn
        (List.cons_prefix_cons.mp starts).1.symm

section Orderly

variable {known : List Token}

/-- The step from one token to those after it: a scan for all of them scans what
is left when the first one has been replaced. -/
theorem Scans.afterFirst {token : Token} (orderly : Orderly (token :: known))
    {cs text : List Char} (scans : Scans (token :: known) cs text) :
    Scans known (replaceToken cs token) text := by
  obtain ⟨sound, sounds⟩ := List.forall_mem_cons.mp orderly.sound
  obtain ⟨precedes, _⟩ := List.pairwise_cons.mp orderly.order
  induction scans with
  | done => exact .done
  | @token found rest text member _ induction =>
      rcases List.mem_cons.mp member with rfl | later
      · rw [replaceToken_spelling sound]
        refine Scans.append_of_absent ?_ induction
        intro c put other known
        exact ⟨sounds other known, (precedes other known).foreign c put⟩
      · rw [replaceToken_later sound (sounds found later)
          (precedes found later)]
        exact .token later induction
  | @copied c rest text absent _ induction =>
      obtain ⟨first, others⟩ := List.forall_mem_cons.mp absent
      have copies := replaceToken_cons token first
      rw [copies]
      refine .copied ?_ induction
      intro other known starts
      rw [← copies] at starts
      exact others other known (prefix_of_prefix_replaceToken sound
        (precedes other known).foreign starts)

theorem Scans.foldl_eq (orderly : Orderly known) {cs text : List Char}
    (scans : Scans known cs text) : known.foldl replaceToken cs = text := by
  induction known generalizing cs with
  | nil => exact scans_nil_iff.mp scans
  | cons token known induction =>
      have others : Orderly known :=
        ⟨fun other member =>
          orderly.sound other (List.mem_cons_of_mem token member),
          (List.pairwise_cons.mp orderly.order).2⟩
      exact induction others (scans.afterFirst orderly)

theorem exists_scans (sound : ∀ token ∈ known, token.Sound) (cs : List Char) :
    ∃ text, Scans known cs text := by
  induction length : cs.length using Nat.strongRecOn
    generalizing cs with
  | _ size induction =>
      cases cs with
      | nil => exact ⟨[], .done⟩
      | cons c rest =>
          by_cases starts : ∃ token ∈ known, token.spelling <+: c :: rest
          · obtain ⟨token, member, behind, whole⟩ := starts
            obtain ⟨first, others, spelled, _, _⟩ :=
              (sound token member).exists_cons
            have shorter : behind.length < size := by
              rw [← length, ← whole, spelled]
              simp only [List.length_append, List.length_cons]
              omega
            obtain ⟨text, scans⟩ := induction _ shorter behind rfl
            rw [← whole]
            exact ⟨_, .token member scans⟩
          · have shorter : rest.length < size := by
              rw [← length]
              simp
            obtain ⟨text, scans⟩ := induction _ shorter rest rfl
            exact ⟨c :: text, .copied
              (fun token member begins => starts ⟨token, member, begins⟩)
              scans⟩

/-- Replacing tokens one after the other is the one scan that there is. -/
theorem scans_iff (orderly : Orderly known) {cs text : List Char} :
    Scans known cs text ↔ known.foldl replaceToken cs = text := by
  refine ⟨Scans.foldl_eq orderly, ?_⟩
  rintro rfl
  obtain ⟨text, scans⟩ := exists_scans orderly.sound cs
  rwa [scans.foldl_eq orderly]

end Orderly

theorem orderly_tokens : Orderly tokens := by
  -- Without quantifiers over characters, so that they can be evaluated.
  constructor
  · have all : ∀ token ∈ tokens, token.spelling.head?.any opens = true ∧
        token.spelling.tail.any opens = false ∧ token.meaning ≠ [] := by decide
    intro token member
    obtain ⟨first, others, meaning⟩ := all token member
    refine ⟨first, ?_, meaning⟩
    simpa using others
  · have all : tokens.Pairwise fun earlier later =>
        ¬ earlier.spelling <+: later.spelling ∧
          ¬ later.spelling <+: earlier.spelling ∧
            earlier.meaning.any later.spelling.contains = false := by decide
    refine all.imp ?_
    rintro earlier later ⟨notBegins, notExtension, foreign⟩
    refine ⟨notBegins, notExtension, ?_⟩
    simpa using foreign

end OperatorConsole.Markup
