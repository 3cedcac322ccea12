import OperatorConsole.OrderedBy

/-!
# Looking up in lists in key order

An ordered list is determined by what is found under each key.  Putting an
entry changes what is found under its key and nothing else, and so does erasing
a key.
-/

namespace OperatorConsole

namespace OrderedBy

variable {α κ : Type} [Ord κ] {key : α → κ}

@[simp] theorem find?_empty (wanted : κ) :
    (empty : OrderedBy key).find? wanted = none := rfl

theorem insertInto_of_last [Std.OrientedOrd κ] {entry : α} {entries : List α}
    (last : ∀ a ∈ entries, compare (key a) (key entry) = .lt) :
    insertInto key entry entries = entries ++ [entry] := by
  induction entries with
  | nil => rfl
  | cons first rest induction =>
      have after : compare (key entry) (key first) = .gt :=
        Std.OrientedCmp.gt_of_lt (last first List.mem_cons_self)
      have later := induction fun a member =>
        last a (List.mem_cons_of_mem _ member)
      simp [insertInto, after, later]

variable [Std.LawfulEqOrd κ]

theorem nodup_of_ordered {entries : List α}
    (ordered : entries.Pairwise fun a b => compare (key a) (key b) = .lt) :
    entries.Nodup := by
  refine ordered.imp ?_
  intro left right before same
  subst same
  simp at before

/-- The order leaves no choice but of the entries. -/
theorem eq_of_mem_iff [Std.OrientedOrd κ] {left right : List α}
    (leftOrdered : left.Pairwise fun a b => compare (key a) (key b) = .lt)
    (rightOrdered : right.Pairwise fun a b => compare (key a) (key b) = .lt)
    (same : ∀ entry, entry ∈ left ↔ entry ∈ right) : left = right := by
  have perm : left.Perm right :=
    (List.perm_ext_iff_of_nodup (nodup_of_ordered leftOrdered)
      (nodup_of_ordered rightOrdered)).mpr same
  refine perm.eq_of_pairwise ?_ leftOrdered rightOrdered
  intro a b _ _ before after
  rw [Std.OrientedCmp.gt_of_lt before] at after
  contradiction

theorem mem_iff_find? {entries : OrderedBy key} {entry : α} :
    entry ∈ entries.toList ↔ entries.find? (key entry) = some entry := by
  constructor
  · intro member
    obtain ⟨before, after, split⟩ := List.append_of_mem member
    have ordered := entries.ordered
    rw [split, List.pairwise_append] at ordered
    refine List.find?_eq_some_iff_append.mpr
      ⟨by simp, before, after, split, ?_⟩
    intro earlier earlierMember
    have smaller := ordered.2.2 earlier earlierMember entry List.mem_cons_self
    simp [smaller]
  · exact List.mem_of_find?_eq_some

theorem find?_eq [DecidableEq κ] (wanted : κ) (entries : OrderedBy key) :
    entries.find? wanted =
      entries.toList.find? fun entry => decide (key entry = wanted) := by
  unfold find?
  congr 1
  funext entry
  by_cases same : key entry = wanted
  · simp [same]
  · simp [same]

theorem find?_insertInto [DecidableEq κ] (entry : α) (wanted : κ)
    (entries : List α) :
    (insertInto key entry entries).find? (fun a => decide (key a = wanted)) =
      if key entry = wanted then some entry
      else entries.find? fun a => decide (key a = wanted) := by
  induction entries with
  | nil =>
      by_cases same : key entry = wanted
      · simp [insertInto, same]
      · simp [insertInto, same]
  | cons first rest induction =>
      unfold insertInto
      split
      · by_cases same : key entry = wanted
        · simp [same]
        · simp [List.find?_cons_of_neg, same]
      · next same =>
          have sameKey : key entry = key first :=
            Std.LawfulEqCmp.eq_of_compare same
          by_cases found : key first = wanted
          · simp [sameKey, found]
          · simp [sameKey, found]
      · next after =>
          by_cases found : key first = wanted
          · have other : key entry ≠ wanted := by
              intro same
              simp [found, same] at after
            simp [found, other]
          · simp [found, induction]

@[simp] theorem find?_put [Std.TransOrd κ] [DecidableEq κ]
    (entry : α) (entries : OrderedBy key) (wanted : κ) :
    (entries.put entry).find? wanted =
      if key entry = wanted then some entry else entries.find? wanted := by
  simp only [find?_eq, toList_put]
  exact find?_insertInto entry wanted entries.toList

@[simp] theorem find?_erase [DecidableEq κ] (erased : κ)
    (entries : OrderedBy key) (wanted : κ) :
    (entries.erase erased).find? wanted =
      if erased = wanted then none else entries.find? wanted := by
  simp only [find?_eq, erase, toList_filter, List.find?_filter]
  by_cases same : erased = wanted
  · subst same
    simp
  · rw [if_neg same]
    congr 1
    funext entry
    by_cases found : key entry = wanted
    · simp [found, Ne.symm same]
    · simp [found]

/-- Lists in which the same is found are the same. -/
theorem eq_of_find?_eq [Std.OrientedOrd κ] {left right : OrderedBy key}
    (same : ∀ wanted, left.find? wanted = right.find? wanted) :
    left = right := by
  refine eq_of_toList_eq (eq_of_mem_iff left.ordered right.ordered ?_)
  intro entry
  rw [mem_iff_find?, mem_iff_find?, same]

/-- Of the entries that are put the last one under a key is found. -/
theorem find?_putAll [Std.TransOrd κ] [DecidableEq κ] (wanted : κ)
    (more : List α) (entries : OrderedBy key) :
    (entries.putAll more).find? wanted =
      (more.reverse.find? fun entry => decide (key entry = wanted)).or
        (entries.find? wanted) := by
  induction more generalizing entries with
  | nil => rfl
  | cons entry more induction =>
      have later := induction (entries.put entry)
      rw [List.reverse_cons, List.find?_append, Option.or_assoc]
      refine later.trans (congrArg _ ?_)
      by_cases same : key entry = wanted
      · simp [same]
      · simp [same]

theorem mem_of_mem_putAll [Std.TransOrd κ] [DecidableEq κ] {more : List α}
    {entries : OrderedBy key} {entry : α}
    (member : entry ∈ (entries.putAll more).toList) :
    entry ∈ more ∨ entry ∈ entries.toList := by
  rw [mem_iff_find?, find?_putAll, Option.or_eq_some_iff] at member
  rcases member with new | ⟨_, old⟩
  · exact .inl (List.mem_reverse.mp (List.mem_of_find?_eq_some new))
  · exact .inr (mem_iff_find?.mpr old)

/-- Entries that come in order are put behind those that are there. -/
theorem toList_putAll [Std.TransOrd κ] (more : List α) :
    ∀ entries : OrderedBy key,
      ((entries.toList ++ more).Pairwise fun a b =>
        compare (key a) (key b) = .lt) →
      (entries.putAll more).toList = entries.toList ++ more := by
  induction more with
  | nil => exact fun entries _ => (List.append_nil _).symm
  | cons entry more induction =>
      intro entries ordered
      have last : (entries.put entry).toList = entries.toList ++ [entry] := by
        rw [toList_put]
        refine insertInto_of_last fun a member => ?_
        exact (List.pairwise_append.mp ordered).2.2 a member entry
          List.mem_cons_self
      have later := induction (entries.put entry)
      rw [last, List.append_assoc] at later
      exact later ordered

end OrderedBy

end OperatorConsole
