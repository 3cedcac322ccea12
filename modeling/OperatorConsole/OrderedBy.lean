/-!
# Lists in key order

A list of entries whose keys strictly increase holds one entry per key at most,
and two such lists with the same entries are equal.  `put` replaces the entry
with the same key or inserts at the one place that keeps the order.
-/

namespace OperatorConsole

/-- Entries in strictly increasing order of their keys. -/
structure OrderedBy {α κ : Type} [Ord κ] (key : α → κ) where
  toList : List α
  ordered : toList.Pairwise fun a b => compare (key a) (key b) = .lt
deriving DecidableEq

namespace OrderedBy

variable {α κ : Type} [Ord κ] {key : α → κ}

theorem eq_of_toList_eq {left right : OrderedBy key}
    (equal : left.toList = right.toList) : left = right := by
  cases left
  cases right
  cases equal
  rfl

def empty : OrderedBy key :=
  ⟨[], .nil⟩

instance : Inhabited (OrderedBy key) := ⟨empty⟩

/-- Put `entry` where it belongs in an ordered list. -/
def insertInto (key : α → κ) (entry : α) : List α → List α
  | [] => [entry]
  | first :: rest =>
      match compare (key entry) (key first) with
      | .lt => entry :: first :: rest
      | .eq => entry :: rest
      | .gt => first :: insertInto key entry rest

theorem mem_of_mem_insertInto {entry a : α} {entries : List α}
    (member : a ∈ insertInto key entry entries) :
    a = entry ∨ a ∈ entries := by
  induction entries with
  | nil => simpa [insertInto] using member
  | cons first rest induction =>
      unfold insertInto at member
      split at member
      · simpa using member
      · rcases List.mem_cons.mp member with same | later
        · exact .inl same
        · exact .inr (List.mem_cons_of_mem _ later)
      · rcases List.mem_cons.mp member with same | later
        · exact .inr (same ▸ List.mem_cons_self)
        · rcases induction later with same | later
          · exact .inl same
          · exact .inr (List.mem_cons_of_mem _ later)

theorem pairwise_insertInto [Std.TransOrd κ] [Std.LawfulEqOrd κ]
    (entry : α) {entries : List α}
    (ordered : entries.Pairwise fun a b => compare (key a) (key b) = .lt) :
    (insertInto key entry entries).Pairwise
      fun a b => compare (key a) (key b) = .lt := by
  induction entries with
  | nil => simp [insertInto]
  | cons first rest induction =>
      have ⟨beforeRest, restOrdered⟩ := List.pairwise_cons.mp ordered
      unfold insertInto
      split
      · next before =>
          refine List.pairwise_cons.mpr ⟨?_, ordered⟩
          intro a member
          rcases List.mem_cons.mp member with same | later
          · exact same ▸ before
          · exact Std.TransCmp.lt_trans before (beforeRest a later)
      · next same =>
          have sameKey : key entry = key first :=
            Std.LawfulEqCmp.eq_of_compare same
          refine List.pairwise_cons.mpr ⟨?_, restOrdered⟩
          intro a later
          exact sameKey ▸ beforeRest a later
      · next after =>
          refine List.pairwise_cons.mpr ⟨?_, induction restOrdered⟩
          intro a member
          rcases mem_of_mem_insertInto member with same | later
          · exact same ▸ Std.OrientedCmp.lt_of_gt after
          · exact beforeRest a later

/-- Insert an entry, replacing the one with the same key. -/
def put [Std.TransOrd κ] [Std.LawfulEqOrd κ]
    (entry : α) (entries : OrderedBy key) : OrderedBy key :=
  ⟨insertInto key entry entries.toList,
    pairwise_insertInto entry entries.ordered⟩

/-- Keep the entries that pass a test. -/
def filter (test : α → Bool) (entries : OrderedBy key) : OrderedBy key :=
  ⟨entries.toList.filter test, entries.ordered.filter test⟩

/-- Remove the entry with key `wanted`, if there is one. -/
def erase (wanted : κ) (entries : OrderedBy key) : OrderedBy key :=
  entries.filter fun entry => compare (key entry) wanted != .eq

/-- The entry with a given key. -/
def find? (wanted : κ) (entries : OrderedBy key) : Option α :=
  entries.toList.find? fun entry => compare (key entry) wanted == .eq

/-- Put the entries of a list one after the other, so that the last one with a
key stays. -/
def putAll [Std.TransOrd κ] [Std.LawfulEqOrd κ]
    (more : List α) (entries : OrderedBy key) : OrderedBy key :=
  more.foldl (fun entries entry => entries.put entry) entries

@[simp] theorem toList_empty : (empty : OrderedBy key).toList = [] := rfl

@[simp] theorem toList_filter (test : α → Bool) (entries : OrderedBy key) :
    (entries.filter test).toList = entries.toList.filter test := rfl

@[simp] theorem toList_put [Std.TransOrd κ] [Std.LawfulEqOrd κ]
    (entry : α) (entries : OrderedBy key) :
    (entries.put entry).toList = insertInto key entry entries.toList := rfl

end OrderedBy

end OperatorConsole
