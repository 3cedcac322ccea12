/-!
# Splitting a text

What stands between separators.  No piece holds a separator, and the first piece
reaches to the first one.  Joined pieces have no characters but their own and
those between them.
-/

namespace OperatorConsole.Text

variable {separator : Char} {cs : List Char}

theorem not_mem_of_mem_splitOn :
    ∀ piece ∈ cs.splitOn separator, separator ∉ piece := by
  induction cs with
  | nil => simp
  | cons c cs induction =>
      rw [List.splitOn_cons_eq_if_modifyHead]
      split
      · simpa using induction
      · next other =>
          cases split : cs.splitOn separator with
          | nil => exact (List.splitOn_ne_nil _ _ split).elim
          | cons first pieces =>
              rw [split] at induction
              have different : separator ≠ c := by
                rintro rfl
                simp at other
              simpa [different] using induction

theorem mem_of_mem_takeWhile_ne {c : Char}
    (member : c ∈ cs.takeWhile (· != separator)) : c ∈ cs ∧ c ≠ separator := by
  have all : ∀ c ∈ cs.takeWhile (· != separator), (c != separator) = true :=
    List.all_eq_true.mp List.all_takeWhile
  exact ⟨(List.takeWhile_prefix _).subset member, bne_iff_ne.mp (all c member)⟩

theorem head?_splitOn (separator : Char) (cs : List Char) :
    (cs.splitOn separator).head? =
      some (cs.takeWhile (· != separator)) := by
  induction cs with
  | nil => rfl
  | cons c cs induction =>
      rw [List.splitOn_cons_eq_if_modifyHead]
      by_cases same : c = separator
      · simp [same]
      · cases split : cs.splitOn separator with
        | nil => exact (List.splitOn_ne_nil separator cs split).elim
        | cons piece pieces =>
            rw [split] at induction
            simp only [List.head?_cons, Option.some.injEq] at induction
            simp [same, induction]

theorem length_splitOn (separator : Char) (cs : List Char) :
    (cs.splitOn separator).length = cs.count separator + 1 := by
  induction cs with
  | nil => rfl
  | cons c cs induction =>
      rw [List.splitOn_cons_eq_if_modifyHead, List.count_cons]
      split
      · rw [List.length_cons, induction]
      · rw [List.length_modifyHead, induction, Nat.add_zero]

/-- A text whose last piece is empty is empty or ends with the separator. -/
theorem intercalate_of_last_empty :
    ∀ {pieces : List (List Char)}, pieces.getLast? = some [] →
      [separator].intercalate pieces = [] ∨
        ([separator].intercalate pieces).getLast? = some separator
  | [], last => by cases last
  | [piece], last => by
      rw [List.getLast?_singleton, Option.some.injEq] at last
      exact .inl (by rw [List.intercalate_singleton, last])
  | first :: second :: pieces, last => by
      rw [List.getLast?_cons_cons] at last
      refine .inr ?_
      rw [List.intercalate_cons_cons]
      rcases intercalate_of_last_empty last with nothing | separated
      · rw [nothing, List.append_nil, List.getLast?_concat]
      · rw [List.getLast?_append, separated]
        rfl

theorem intercalate_append {back : List (List Char)} (goesOn : back ≠ []) :
    ∀ {front : List (List Char)}, front ≠ [] →
      [separator].intercalate (front ++ back) =
        [separator].intercalate front ++
          separator :: [separator].intercalate back
  | [], nonempty => (nonempty rfl).elim
  | [piece], _ => by
      obtain ⟨first, others, rfl⟩ := List.exists_cons_of_ne_nil goesOn
      rw [List.singleton_append, List.intercalate_cons_cons,
        List.intercalate_singleton, List.append_assoc, List.singleton_append]
  | first :: second :: pieces, _ => by
      have later : [separator].intercalate (second :: pieces ++ back) = _ :=
        intercalate_append goesOn (List.cons_ne_nil _ _)
      rw [List.cons_append, List.cons_append, List.intercalate_cons_cons,
        ← List.cons_append, later, List.intercalate_cons_cons,
        List.append_assoc _ _ (_ :: _)]

theorem mem_intercalate {between : List Char} {c : Char} :
    ∀ {pieces : List (List Char)}, c ∈ between.intercalate pieces →
      c ∈ between ∨ ∃ piece ∈ pieces, c ∈ piece
  | [], member => by cases member
  | [piece], member => by
      rw [List.intercalate_singleton] at member
      exact .inr ⟨piece, List.mem_cons_self, member⟩
  | first :: second :: pieces, member => by
      rw [List.intercalate_cons_cons] at member
      simp only [List.mem_append] at member
      rcases member with (inFirst | separates) | later
      · exact .inr ⟨first, List.mem_cons_self, inFirst⟩
      · exact .inl separates
      · rcases mem_intercalate later with separates | ⟨piece, member, inside⟩
        · exact .inl separates
        · exact .inr ⟨piece, List.mem_cons_of_mem _ member, inside⟩

end OperatorConsole.Text
