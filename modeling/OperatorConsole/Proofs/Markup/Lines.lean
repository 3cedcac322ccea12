import Mathlib.Data.List.Basic
import Mathlib.Data.List.TakeWhile
import OperatorConsole.Proofs.Markup.Scan
import OperatorConsole.Proofs.Text.Split

/-!
# Lines of a markup

A token is decoded on its own, whatever stands around it, and a text without
tokens stands for itself.  A break ends a part of a markup whose lines are the
same whatever follows it.
-/

namespace OperatorConsole.Markup

/-! ## Decoding -/

theorem scans_decode (cs : List Char) : Scans tokens cs (decode cs) :=
  (scans_iff orderly_tokens).mpr rfl

theorem Scans.decode_eq {cs text : List Char} (scans : Scans tokens cs text) :
    decode cs = text :=
  (scans_iff orderly_tokens).mp scans

theorem sound_of_mem {token : Token} (member : token ∈ tokens) : token.Sound :=
  orderly_tokens.sound token member

theorem decode_spelling {token : Token} (member : token ∈ tokens)
    (rest : List Char) :
    decode (token.spelling ++ rest) = token.meaning ++ decode rest :=
  (Scans.token member (scans_decode rest)).decode_eq

theorem decode_cons {c : Char} (closed : opens c = false)
    (rest : List Char) : decode (c :: rest) = c :: decode rest :=
  (Scans.copied
    (fun _ member => (sound_of_mem member).not_begins closed rest)
    (scans_decode rest)).decode_eq

/-- The inside of a token does not go on where another token could begin. -/
theorem prefix_of_prefix_append {word front back : List Char}
    (closed : ∀ c ∈ word, opens c = false)
    (boundary : ∀ c ∈ back.head?, opens c = true)
    (begins : word <+: front ++ back) : word <+: front := by
  induction front generalizing word with
  | nil =>
      cases word with
      | nil => exact List.nil_prefix
      | cons c word =>
          obtain ⟨behind, rfl⟩ := begins
          have opening := boundary c rfl
          rw [closed c List.mem_cons_self] at opening
          cases opening
  | cons c front induction =>
      cases word with
      | nil => exact List.nil_prefix
      | cons first word =>
          obtain ⟨same, later⟩ := List.cons_prefix_cons.mp begins
          refine List.cons_prefix_cons.mpr ⟨same, ?_⟩
          exact induction
            (fun c member => closed c (List.mem_cons_of_mem first member))
            later

theorem Scans.append {front back text more : List Char}
    (boundary : ∀ c ∈ back.head?, opens c = true)
    (first : Scans tokens front text) (second : Scans tokens back more) :
    Scans tokens (front ++ back) (text ++ more) := by
  induction first with
  | done => exact second
  | @token token rest text member _ induction =>
      rw [List.append_assoc, List.append_assoc]
      exact .token member induction
  | @copied c rest text absent _ induction =>
      refine .copied ?_ induction
      intro token member starts
      obtain ⟨opening, inside, spelled, _, closed⟩ :=
        (sound_of_mem member).exists_cons
      rw [spelled] at starts
      obtain ⟨same, later⟩ := List.cons_prefix_cons.mp starts
      apply absent token member
      rw [spelled]
      exact List.cons_prefix_cons.mpr
        ⟨same, prefix_of_prefix_append closed boundary later⟩

/-- A token is decoded on its own, whatever stands around it. -/
theorem decode_around {token : Token} (member : token ∈ tokens)
    (front back : List Char) :
    decode (front ++ (token.spelling ++ back)) =
      decode front ++ (token.meaning ++ decode back) := by
  have boundary : ∀ c ∈ (token.spelling ++ back).head?, opens c = true := by
    obtain ⟨first, others, spelled, opening, _⟩ :=
      (sound_of_mem member).exists_cons
    rw [spelled]
    rintro c ⟨⟩
    exact opening
  rw [← decode_spelling member]
  exact ((scans_decode front).append boundary (scans_decode _)).decode_eq

theorem length_meaning_lt {token : Token} (member : token ∈ tokens) :
    token.meaning.length < token.spelling.length := by
  have all : ∀ token ∈ tokens,
      token.meaning.length < token.spelling.length := by decide
  exact all token member

theorem Scans.length_le {cs text : List Char} (scans : Scans tokens cs text) :
    text.length ≤ cs.length := by
  induction scans with
  | done => exact Nat.le_refl 0
  | token member _ induction =>
      have less := length_meaning_lt member
      rw [List.length_append, List.length_append]
      omega
  | copied _ _ induction => exact Nat.succ_le_succ induction

/-- A text without tokens stands for itself, and no other one does. -/
theorem decode_eq_self_iff {cs : List Char} :
    decode cs = cs ↔ ∀ token ∈ tokens, ¬ token.spelling <:+: cs := by
  constructor
  · rintro same token member ⟨front, back, rfl⟩
    have less := length_meaning_lt member
    have first := (scans_decode front).length_le
    have last := (scans_decode back).length_le
    have lengths := congrArg List.length same
    rw [List.append_assoc, decode_around member] at lengths
    simp only [List.length_append] at lengths
    omega
  · intro absent
    induction cs with
    | nil => rfl
    | cons c rest induction =>
        have starts : ∀ token ∈ tokens, ¬ token.spelling <+: c :: rest :=
          fun token member begins => absent token member begins.isInfix
        have others : decode rest = rest :=
          induction fun token member inside =>
            absent token member (List.infix_cons inside)
        have scans := Scans.copied starts (scans_decode rest)
        rw [scans.decode_eq, others]

/-! ## Lines -/

section DropLastEmpty

variable {rows : List (List Char)}

theorem dropLastEmpty_append (front : List (List Char)) (left : rows ≠ []) :
    dropLastEmpty (front ++ rows) = front ++ dropLastEmpty rows := by
  unfold dropLastEmpty
  rw [List.getLast?_append_of_ne_nil front left,
    List.dropLast_append_of_ne_nil left]
  split <;> rfl

/-- One empty row at the end is dropped and nothing else. -/
theorem dropLastEmpty_cases (rows : List (List Char)) :
    (rows.getLast? ≠ some [] ∧ dropLastEmpty rows = rows) ∨
      rows = dropLastEmpty rows ++ [[]] := by
  unfold dropLastEmpty
  by_cases last : rows.getLast? = some []
  · obtain ⟨front, rfl⟩ := List.getLast?_eq_some_iff.mp last
    right
    rw [if_pos last, List.dropLast_concat]
  · left
    exact ⟨last, if_neg last⟩

end DropLastEmpty

theorem decode_break (front back : List Char) :
    decode (front ++ ("<br>".toList ++ back)) =
      decode front ++ '\n' :: decode back := by
  have member : Token.of "<br>" "\n" ∈ tokens := by decide
  have newline : "\n".toList = ['\n'] := by decide
  have around := decode_around member front back
  rwa [Token.of, newline, List.singleton_append] at around

theorem lines_break (front back : String) :
    lines (front ++ "<br>" ++ back) =
      ((decode front.toList).splitOn '\n').map String.ofList ++ lines back := by
  rw [lines, String.toList_append, String.toList_append, List.append_assoc,
    decode_break, List.splitOn_append_cons_self,
    dropLastEmpty_append _ (List.splitOn_ne_nil _ _), List.map_append, lines]

@[simp] theorem lines_empty : lines "" = [] := rfl

/-- Nothing is lost or joined where a break ends a part of a markup. -/
theorem lines_append_of_break (front back : String) :
    lines (front ++ "<br>" ++ back) =
      lines (front ++ "<br>") ++ lines back := by
  have alone := lines_break front ""
  rw [lines_empty, List.append_nil, String.append_empty] at alone
  rw [lines_break, alone]

/-- The first line of a text, as it is shown. -/
def firstLine (text : String) : String :=
  String.ofList ((decode text.toList).takeWhile (· != '\n'))

/-- A text is shown as it is just if it is one line without tokens. -/
theorem firstLine_eq_self_iff {text : String} :
    firstLine text = text ↔
      '\n' ∉ text.toList ∧
        ∀ token ∈ tokens, ¬ token.spelling <:+: text.toList := by
  have asList : firstLine text = text ↔
      (decode text.toList).takeWhile (· != '\n') = text.toList := by
    rw [firstLine, ← String.toList_inj, String.toList_ofList]
  rw [asList]
  constructor
  · intro same
    have within : text.toList <+: decode text.toList := by
      have begins := List.takeWhile_prefix (l := decode text.toList) (· != '\n')
      rwa [same] at begins
    have decoded : decode text.toList = text.toList :=
      (within.eq_of_length_le (scans_decode text.toList).length_le).symm
    refine ⟨?_, decode_eq_self_iff.mp decoded⟩
    intro newline
    rw [← same] at newline
    simpa using List.mem_takeWhile_imp newline
  · rintro ⟨noNewline, absent⟩
    rw [decode_eq_self_iff.mpr absent, List.takeWhile_eq_self_iff]
    intro c member
    rw [bne_iff_ne]
    rintro rfl
    exact noNewline member

/-- The lines of a markup are those of its one scan, with at most one empty line
less at the end. -/
theorem lines_of_scan (markup : String) :
    (∀ text, Scans tokens markup.toList text ↔
        tokens.foldl replaceToken markup.toList = text) ∧
      (∀ token ∈ tokens, ∀ front back,
        markup.toList = front ++ (token.spelling ++ back) →
          decode markup.toList =
            decode front ++ (token.meaning ++ decode back)) ∧
      ∃ rows : List (List Char), rows ≠ [] ∧ (∀ row ∈ rows, '\n' ∉ row) ∧
        ['\n'].intercalate rows = decode markup.toList ∧
        ((rows.getLast? ≠ some [] ∧ lines markup = rows.map String.ofList) ∨
          ∃ shown, rows = shown ++ [[]] ∧
            lines markup = shown.map String.ofList) := by
  refine ⟨fun text => scans_iff orderly_tokens, ?_,
    (decode markup.toList).splitOn '\n', List.splitOn_ne_nil _ _,
    Text.not_mem_of_mem_splitOn, List.intercalate_splitOn _, ?_⟩
  · intro token member front back split
    rw [split, decode_around member]
  · rcases dropLastEmpty_cases ((decode markup.toList).splitOn '\n') with
      ⟨last, same⟩ | ended
    · exact .inl ⟨last, by rw [lines, same]⟩
    · exact .inr ⟨_, ended, rfl⟩

/-- An ampersand that is put in begins no entity, and a bracket that is put in
ends no break. -/
theorem entity_put_in_not_decoded :
    decode "&amp;lt;<br&gt;<br>".toList =
        "&".toList ++ decode "lt;<br&gt;<br>".toList ∧
      lines "&amp;lt;<br&gt;<br>" = ["&lt;<br>"] := by
  have member : Token.of "&amp;" "&" ∈ tokens := by decide
  have split : "&amp;lt;<br&gt;<br>".toList =
      [] ++ ("&amp;".toList ++ "lt;<br&gt;<br>".toList) := by decide
  constructor
  · exact (lines_of_scan "&amp;lt;<br&gt;<br>").2.1 _ member _ _ split
  · decide +kernel

end OperatorConsole.Markup
