import OperatorConsole.Proofs.Markup.Lines
import OperatorConsole.Transcript

/-!
# Lines of a transcript

Taking the markup of a transcript apart into lines gives the lines of its
blocks, one block after the other, because a block ends with a break.  The
first line of a block is the echo of its label.
-/

namespace OperatorConsole

namespace Block

theorem markup_eq (block : Block) :
    block.markup =
      ("# " ++ block.label) ++ "<br>" ++ (block.text ++ "<br>" ++ "<br>") := by
  have breaks : "<br><br>" = "<br>" ++ "<br>" := by decide
  rw [markup, breaks]
  simp only [String.append_assoc]

/-- No line reaches from a block into what stands below it. -/
theorem lines_markup_append (block : Block) (below : String) :
    Markup.lines (block.markup ++ below) =
      Markup.lines block.markup ++ Markup.lines below := by
  have ended : block.markup =
      ("# " ++ block.label ++ "<br>" ++ block.text ++ "<br>") ++ "<br>" := by
    rw [markup_eq]
    simp only [String.append_assoc]
  rw [ended, Markup.lines_append_of_break]

@[simp] theorem texts_lines (block : Block) :
    block.lines.map ShownLine.text = Markup.lines block.markup := by
  rw [lines, List.map_map]
  exact List.map_id _

/-- A block starts with the echo of its label. -/
theorem head?_lines (block : Block) :
    block.lines.head? =
      some ⟨"# " ++ Markup.firstLine block.label, block.isError⟩ := by
  have decoded : Markup.decode ("# " ++ block.label).toList =
      '#' :: ' ' :: Markup.decode block.label.toList := by
    rw [String.toList_append]
    exact (Markup.decode_cons rfl _).trans
      (congrArg ('#' :: ·) (Markup.decode_cons rfl _))
  have first : String.ofList ('#' :: ' ' ::
      (Markup.decode block.label.toList).takeWhile (· != '\n')) =
        "# " ++ Markup.firstLine block.label := by
    rw [Markup.firstLine, ← String.toList_inj]
    simp
  have split := Text.head?_splitOn '\n'
    (Markup.decode ("# " ++ block.label).toList)
  rw [lines, markup_eq, Markup.lines_break, List.head?_map, List.head?_append,
    List.head?_map, split, decoded]
  simp [first]

end Block

namespace Transcript

theorem lines_markups (blocks : List Block) :
    Markup.lines (String.join (blocks.map Block.markup)) =
      blocks.flatMap fun block => Markup.lines block.markup := by
  induction blocks with
  | nil => rfl
  | cons block blocks induction =>
      rw [List.map_cons, String.join_cons, Block.lines_markup_append,
        induction, List.flatMap_cons]

theorem texts_lines (transcript : Transcript) :
    transcript.lines.map ShownLine.text = Markup.lines transcript.markup := by
  rw [markup, lines_markups, lines, List.map_flatMap]
  simp only [Block.texts_lines]

section Parts

variable {transcript above below : Transcript} {block : Block}

theorem markup_of_parts
    (parts : transcript.blocks = above.blocks ++ block :: below.blocks) :
    transcript.markup = above.markup ++ (block.markup ++ below.markup) := by
  rw [markup, parts, List.map_append, List.map_cons, String.join_append,
    String.join_cons, markup, markup]

theorem lines_of_parts
    (parts : transcript.blocks = above.blocks ++ block :: below.blocks) :
    transcript.lines = above.lines ++ (block.lines ++ below.lines) := by
  rw [lines, parts, List.flatMap_append, List.flatMap_cons, lines, lines]

/-- Where a block starts in the lines. -/
theorem getElem?_lines_of_parts
    (parts : transcript.blocks = above.blocks ++ block :: below.blocks) :
    transcript.lines[above.lines.length]? =
      some ⟨"# " ++ Markup.firstLine block.label, block.isError⟩ := by
  obtain ⟨rest, split⟩ := List.head?_eq_some_iff.mp block.head?_lines
  rw [lines_of_parts parts, split, List.getElem?_append_right (Nat.le_refl _),
    Nat.sub_self]
  rfl

end Parts

/-- The lines are those of the markup, and each is marked like the block whose
markup it comes from. -/
theorem lines_agree (transcript : Transcript) :
    transcript.lines.map ShownLine.text = Markup.lines transcript.markup ∧
      ∀ (above : Transcript) (block : Block) (below : Transcript),
        transcript.blocks = above.blocks ++ block :: below.blocks →
          transcript.markup =
              above.markup ++ (block.markup ++ below.markup) ∧
            Markup.lines transcript.markup =
              Markup.lines above.markup ++
                (Markup.lines block.markup ++ Markup.lines below.markup) ∧
            above.lines.length = (Markup.lines above.markup).length ∧
            transcript.lines = above.lines ++
              ((Markup.lines block.markup).map (⟨·, block.isError⟩) ++
                below.lines) := by
  refine ⟨texts_lines transcript, ?_⟩
  intro above block below parts
  refine ⟨markup_of_parts parts, ?_, ?_, ?_⟩
  · rw [← texts_lines, lines_of_parts parts, List.map_append, List.map_append,
      texts_lines, Block.texts_lines, texts_lines]
  · rw [← texts_lines, List.length_map]
  · rw [lines_of_parts parts, Block.lines]

def cutTag : Block :=
  ⟨"get <b", "error: &l", true⟩

def cutEntity : Block :=
  ⟨"t;", "v<br", false⟩

/-- Pieces of tags and entities stay pieces where blocks meet. -/
theorem pieces_not_joined :
    (Transcript.mk .append [cutTag, cutEntity]).lines.map ShownLine.text =
        Markup.lines (Transcript.mk .append [cutTag, cutEntity]).markup ∧
      (Transcript.mk .append [cutTag, cutEntity]).lines =
        (Transcript.mk .append []).lines ++
          ([⟨"# get <b", true⟩, ⟨"error: &l", true⟩, ⟨"", true⟩] ++
            (Transcript.mk .append [cutEntity]).lines) := by
  obtain ⟨texts, agree⟩ := lines_agree ⟨.append, [cutTag, cutEntity]⟩
  obtain ⟨_, _, _, marked⟩ :=
    agree ⟨.append, []⟩ cutTag ⟨.append, [cutEntity]⟩ rfl
  have own : Markup.lines cutTag.markup = ["# get <b", "error: &l", ""] := by
    decide +kernel
  rw [own] at marked
  exact ⟨texts, marked⟩

end Transcript

end OperatorConsole
