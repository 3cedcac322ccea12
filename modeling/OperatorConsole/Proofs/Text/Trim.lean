import Mathlib.Data.List.TakeDrop
import OperatorConsole.Text.Blank

/-!
# Trimmed texts

Trimming takes blanks off both ends and stops at the first other character, so
what stands between blanks does not depend on how many of them there are.
-/

namespace OperatorConsole.Text

variable {cs lead trail : List Char}

def AllBlank (cs : List Char) : Prop :=
  ∀ c ∈ cs, isBlank c = true

/-- Neither of a text's ends is blank. -/
structure IsTrimmed (cs : List Char) : Prop where
  front : ∀ c, cs.head? = some c → isBlank c = false
  back : ∀ c, cs.getLast? = some c → isBlank c = false

theorem dropBlankEnd_begins (cs : List Char) : dropBlankEnd cs <+: cs := by
  rw [dropBlankEnd, ← List.reverse_suffix, List.reverse_reverse]
  exact List.dropWhile_suffix _

theorem mem_of_mem_trimChars {c : Char} (member : c ∈ trimChars cs) :
    c ∈ cs :=
  (List.dropWhile_suffix _).subset ((dropBlankEnd_begins _).subset member)

theorem isBlank_of_head?_dropWhile {c : Char}
    (first : (cs.dropWhile isBlank).head? = some c) : isBlank c = false := by
  have stops := List.head?_dropWhile_not isBlank cs
  rw [first] at stops
  simpa using stops

theorem isTrimmed_trimChars (cs : List Char) : IsTrimmed (trimChars cs) where
  front := by
    intro c first
    obtain ⟨rest, split⟩ := List.head?_eq_some_iff.mp first
    obtain ⟨after, whole⟩ := dropBlankEnd_begins (cs.dropWhile isBlank)
    change trimChars cs ++ after = _ at whole
    apply isBlank_of_head?_dropWhile
    rw [← whole, split]
    rfl
  back := by
    intro c last
    rw [trimChars, dropBlankEnd, List.getLast?_reverse] at last
    exact isBlank_of_head?_dropWhile last

/-- What trimming takes away. -/
theorem exists_blanks_around (cs : List Char) :
    ∃ lead trail, AllBlank lead ∧ AllBlank trail ∧
      cs = lead ++ trimChars cs ++ trail := by
  have blank (cs : List Char) : AllBlank (cs.takeWhile isBlank) :=
    List.all_eq_true.mp List.all_takeWhile
  let rest := cs.dropWhile isBlank
  refine ⟨cs.takeWhile isBlank, (rest.reverse.takeWhile isBlank).reverse,
    blank cs, fun c member => blank _ c (List.mem_reverse.mp member), ?_⟩
  have back : trimChars cs ++ (rest.reverse.takeWhile isBlank).reverse =
      rest := by
    rw [trimChars, dropBlankEnd, ← List.reverse_append,
      List.takeWhile_append_dropWhile, List.reverse_reverse]
  rw [List.append_assoc, back, List.takeWhile_append_dropWhile]

theorem dropWhile_blanks (blank : AllBlank lead) (cs : List Char) :
    (lead ++ cs).dropWhile isBlank = cs.dropWhile isBlank :=
  List.dropWhile_append_of_pos blank

theorem dropBlankEnd_blanks (blank : AllBlank trail) (cs : List Char) :
    dropBlankEnd (cs ++ trail) = dropBlankEnd cs := by
  have reversed : AllBlank trail.reverse :=
    fun c member => blank c (List.mem_reverse.mp member)
  rw [dropBlankEnd, List.reverse_append, dropWhile_blanks reversed,
    dropBlankEnd]

/-- Blanks at the ends of a text make no difference to what is left of it. -/
theorem trimChars_around (leadBlank : AllBlank lead)
    (trailBlank : AllBlank trail) (cs : List Char) :
    trimChars (lead ++ cs ++ trail) = trimChars cs := by
  rw [trimChars, List.append_assoc, dropWhile_blanks leadBlank,
    List.dropWhile_append]
  split
  · next empty =>
      have nothing := List.isEmpty_iff.mp empty
      have trailDropped := dropWhile_blanks trailBlank []
      rw [List.append_nil] at trailDropped
      rw [trimChars, nothing, trailDropped]
      rfl
  · rw [dropBlankEnd_blanks trailBlank, trimChars]

theorem trimChars_eq_nil_iff : trimChars cs = [] ↔ AllBlank cs := by
  constructor
  · intro nothing
    obtain ⟨lead, trail, leadBlank, trailBlank, split⟩ := exists_blanks_around cs
    rw [nothing, List.append_nil] at split
    rw [split]
    intro c member
    rcases List.mem_append.mp member with front | back
    · exact leadBlank c front
    · exact trailBlank c back
  · intro blank
    have nothing : AllBlank [] := fun c member => by cases member
    have dropped := trimChars_around blank nothing []
    rwa [List.append_nil, List.append_nil] at dropped

namespace IsTrimmed

theorem reverse (trimmed : IsTrimmed cs) : IsTrimmed cs.reverse where
  front := by
    rw [List.head?_reverse]
    exact trimmed.back
  back := by
    rw [List.getLast?_reverse]
    exact trimmed.front

theorem dropWhile_eq (trimmed : IsTrimmed cs) :
    cs.dropWhile isBlank = cs := by
  cases cs with
  | nil => rfl
  | cons c cs =>
      have kept := trimmed.front c rfl
      exact List.dropWhile_cons_of_neg (by simp [kept])

theorem trimChars_eq (trimmed : IsTrimmed cs) : trimChars cs = cs := by
  rw [trimChars, trimmed.dropWhile_eq, dropBlankEnd,
    trimmed.reverse.dropWhile_eq, List.reverse_reverse]

end IsTrimmed

end OperatorConsole.Text
