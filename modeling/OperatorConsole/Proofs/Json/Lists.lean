import Mathlib.Data.List.Forall2
import OperatorConsole.Proofs.Json.Containers

/-!
# Reading lists

A list is divided into items as an object is into members.  What is read from
its contents is read from the items that are ahead, one at a time, whatever they
are read with.
-/

namespace OperatorConsole.Json

/-! ## The items that are ahead -/

/-- What is left of a list before its closing bracket, with the items in it.  A
comma belongs to the item behind it, as it does in an object. -/
inductive ItemsAhead : Bool → List (List Char) → List Char → Prop where
  | none {first : Bool} {text : List Char} (blank : Blanks text) :
      ItemsAhead first [] text
  | item {first : Bool} {others : List (List Char)}
      {lead value text : List Char} (leads : Leads first lead)
      (isValue : IsValue value) (later : ItemsAhead false others text) :
      ItemsAhead first (value :: others) (lead ++ (value ++ text))

/-- A list with its items in the order in which they stand. -/
def IsList (items : List (List Char)) (list : List Char) : Prop :=
  ∃ text, ItemsAhead true items text ∧ list = '[' :: (text ++ [']'])

theorem Leads.append {first : Bool} {lead between : List Char}
    (leads : Leads first lead) (blank : Blanks between) :
    Leads first (lead ++ between) := by
  cases leads with
  | first before => exact .first (before.append blank)
  | later before inner =>
      rw [List.append_assoc, List.cons_append]
      exact .later before (inner.append blank)

namespace ItemsAhead

variable {first : Bool} {items : List (List Char)} {text : List Char}

theorem delimited (ahead : ItemsAhead false items text) (rest : List Char) :
    Delimited (text ++ ']' :: rest) := by
  cases ahead with
  | none blank => exact blank.delimited_mark (.inr (.inl rfl)) rest
  | item leads =>
      cases leads with
      | later blank _ =>
          rw [List.append_assoc, List.append_assoc, List.cons_append]
          exact blank.delimited_mark (.inl rfl) _

theorem areItems (ahead : ItemsAhead false items text) :
    ∀ {before value : List Char}, Blanks before → IsValue value →
      IsItems (before ++ (value ++ text)) := by
  generalize same : false = first at ahead
  -- the blanks before a comma go to the item in front of it
  induction ahead with
  | none blank =>
      intro before value beforeBlank isValue
      exact .last isValue (.of_blanks beforeBlank blank value)
  | @item _ _ lead next tail leads nextIsValue _ induction =>
      cases same
      cases leads with
      | later behindBlank betweenBlank =>
          intro before value beforeBlank isValue
          have are := IsItems.more isValue
            (.of_blanks beforeBlank behindBlank value)
            (induction rfl betweenBlank nextIsValue)
          simpa using are

end ItemsAhead

theorem IsList.isValue {items : List (List Char)} {list : List Char}
    (isList : IsList items list) : IsValue list := by
  obtain ⟨text, ahead, rfl⟩ := isList
  cases ahead with
  | none blank => exact .emptyList blank
  | item leads isValue later =>
      cases leads with
      | first blank => exact .list (later.areItems blank isValue)

/-! ## Finding the next item -/

section Moving

variable {first : Bool} {cs rest : List Char}

theorem moreItems_end {before : List Char} (blank : Blanks before)
    (after : List Char) :
    moreItems first (before ++ ']' :: after) = .ok (false, ']' :: after) := by
  rw [moreItems, skipBlanks_blanks blank (by decide)]
  rfl

theorem Leads.moreItems {lead : List Char} (leads : Leads first lead) {c : Char}
    (visible : isBlank c = false) (notEnd : c ≠ ']') (body : List Char) :
    moreItems first (lead ++ c :: body) = .ok (true, c :: body) := by
  cases leads with
  | first blank =>
      rw [Json.moreItems, skipBlanks_blanks blank visible]
      split
      · next none => cases none
      · next ended => exact absurd (List.cons.inj ended).1 notEnd
      · next same =>
          obtain ⟨rfl, rfl⟩ := List.cons.inj same
          rfl
  | later blank betweenBlank =>
      have found := skipBlanks_blanks betweenBlank visible body
      rw [List.append_assoc, List.cons_append, Json.moreItems,
        skipBlanks_blanks blank (by decide)]
      simp [found, notEnd]

theorem moreItems_end_iff :
    moreItems first cs = .ok (false, rest) ↔
      ∃ before after, Blanks before ∧ rest = ']' :: after ∧
        cs = before ++ ']' :: after := by
  constructor
  · intro ended
    obtain ⟨before, blank, split⟩ := exists_blanks cs
    unfold moreItems at ended
    split at ended
    · cases ended
    · next after stands =>
        cases ended
        exact ⟨before, after, blank, rfl, by rw [← stands, ← split]⟩
    · repeat' split at ended
      all_goals cases ended
  · rintro ⟨before, after, blank, rfl, rfl⟩
    exact moreItems_end blank after

theorem exists_leads_of_moreItems
    (goesOn : moreItems first cs = .ok (true, rest)) :
    ∃ lead, Leads first lead ∧ cs = lead ++ rest := by
  obtain ⟨before, blank, split⟩ := exists_blanks cs
  unfold moreItems at goesOn
  split at goesOn
  · cases goesOn
  · cases goesOn
  · next c body _ stands =>
      cases first with
      | true =>
          rw [if_pos rfl] at goesOn
          cases goesOn
          exact ⟨before, .first blank, by rw [← stands, ← split]⟩
      | false =>
          rw [if_neg Bool.false_ne_true] at goesOn
          split at goesOn
          · next comma =>
              obtain ⟨between, betweenBlank, splitBody⟩ := exists_blanks body
              split at goesOn
              · cases goesOn
              · cases goesOn
              · cases goesOn
                refine ⟨before ++ ',' :: between, .later blank betweenBlank, ?_⟩
                rw [List.append_assoc, List.cons_append, ← splitBody, ← comma,
                  ← stands, ← split]
          · cases goesOn

end Moving

theorem Leads.moreItems_value {first : Bool} {lead value : List Char}
    (leads : Leads first lead) (isValue : IsValue value) (body : List Char) :
    Json.moreItems first (lead ++ (value ++ body)) =
      .ok (true, value ++ body) := by
  obtain ⟨c, more, rfl, visible, notEnd, _⟩ := isValue.begins
  exact leads.moreItems visible notEnd (more ++ body)

/-- The first item of a list, whatever stands behind it. -/
theorem itemAt_zero_eq_ok_iff {α : Type} {item : Reader α} {depth : Nat}
    {expected : String} {denotes : List Char → α → Prop} {value : α}
    {cs rest : List Char} (parses : Parses item depth denotes)
    (delimited : Delimited rest) :
    itemAt 0 expected item depth cs = .ok (value, rest) ↔
      ∃ before text, Blanks before ∧ denotes text value ∧
        cs = before ++ (text ++ rest) := by
  constructor
  · intro read
    obtain ⟨⟨found, tail⟩, reads, goesOn⟩ := bind_eq_ok.mp read
    cases found with
    | none => cases goesOn
    | some present =>
        cases goesOn
        obtain ⟨⟨more, inner⟩, moves, goesOn⟩ := bind_eq_ok.mp reads
        cases more with
        | false => cases goesOn
        | true =>
            obtain ⟨_, itemRead, ended⟩ := bind_eq_ok.mp goesOn
            cases ended
            obtain ⟨before, ⟨blank⟩, rfl⟩ := exists_leads_of_moreItems moves
            obtain ⟨between, text, betweenBlank, said, rfl⟩ :=
              parses.taken itemRead
            exact ⟨before ++ between, text, blank.append betweenBlank, said,
              by simp⟩
  · rintro ⟨before, text, blank, said, rfl⟩
    have goesOn :=
      (Leads.first blank).moreItems_value (parses.isValue said) rest
    have read : item depth (text ++ rest) = .ok (value, rest) :=
      parses.result blanks_nil said delimited
    exact bind_eq_ok.mpr ⟨_, bind_eq_ok.mpr ⟨_, goesOn,
      bind_eq_ok.mpr ⟨_, read, rfl⟩⟩, rfl⟩

/-! ## Items are unique -/

theorem item_append (lead value text : List Char) {after : List Char} :
    lead ++ (value ++ text) ++ ']' :: after =
      lead ++ (value ++ (text ++ ']' :: after)) := by
  simp

theorem ItemsAhead.unique {first : Bool} {items : List (List Char)}
    {text : List Char} (ahead : ItemsAhead first items text) :
    ∀ {found : List (List Char)} {other rest tail : List Char},
      ItemsAhead first found other →
      text ++ ']' :: rest = other ++ ']' :: tail → items = found := by
  induction ahead with
  | @none first _ blank =>
      intro found other rest tail otherAhead same
      cases otherAhead with
      | none _ => rfl
      | item leads isValue _ =>
          have ended : moreItems first _ = _ := moreItems_end blank rest
          rw [same, item_append, leads.moreItems_value isValue] at ended
          cases ended
  | @item first _ lead value text leads isValue later induction =>
      intro found other rest tail otherAhead same
      have goesOn := leads.moreItems_value isValue (text ++ ']' :: rest)
      rw [← item_append, same] at goesOn
      cases otherAhead with
      | none otherBlank =>
          cases goesOn.symm.trans (moreItems_end otherBlank _)
      | item otherLeads isOther otherLater =>
          rw [item_append, otherLeads.moreItems_value isOther] at goesOn
          have inside := congrArg Prod.snd (Except.ok.inj goesOn)
          obtain ⟨rfl, left⟩ := value_unique blanks_nil blanks_nil isOther
            isValue (otherLater.delimited tail) (later.delimited rest) inside
          rw [induction otherLater left.symm]

theorem IsList.unique {items found : List (List Char)} {list : List Char}
    (isList : IsList items list) (isOther : IsList found list) :
    items = found := by
  obtain ⟨text, ahead, rfl⟩ := isList
  obtain ⟨other, otherAhead, same⟩ := isOther
  exact ahead.unique otherAhead (List.cons.inj same).2

/-! ## Reading the contents of a list -/

/-- What is read from the contents of a list is what its items mean. -/
structure ParsesItems {α : Type} (first : Bool)
    (contents : List Char → Except Fault (WithRest α))
    (means : List (List Char) → α → Prop) : Prop where
  taken : ∀ {cs rest after : List Char} {value : α},
    contents cs = .ok (value, rest) → closeList rest = (none, after) →
      ∃ items text, ItemsAhead first items text ∧ means items value ∧
        cs = text ++ ']' :: after
  result : ∀ {items : List (List Char)} {text : List Char} {value : α}
    (after : List Char), ItemsAhead first items text → means items value →
      ∃ rest, contents (text ++ ']' :: after) = .ok (value, rest) ∧
        closeList rest = (none, after)

section Contents

variable {α β : Type} {first : Bool}

theorem ParsesItems.congr {contents : List Char → Except Fault (WithRest α)}
    {means others : List (List Char) → α → Prop}
    (parses : ParsesItems first contents means)
    (same : ∀ items value, means items value ↔ others items value) :
    ParsesItems first contents others := by
  obtain rfl : means = others := by
    funext items value
    exact propext (same items value)
  exact parses

theorem parsesItems_end (value : α) :
    ParsesItems first (fun cs => .ok (value, cs))
      fun items result => items = [] ∧ value = result where
  taken := by
    intro cs rest after result read closed
    cases read
    obtain ⟨before, blank, rfl⟩ := closeList_eq_none_iff.mp closed
    exact ⟨[], before, .none blank, ⟨rfl, rfl⟩, rfl⟩
  result := by
    rintro items text _ after ahead ⟨rfl, rfl⟩
    cases ahead with
    | none blank => exact ⟨_, rfl, closeList_eq_none_iff.mpr ⟨_, blank, rfl⟩⟩

theorem parsesItems_fail {fault : List Char → Fault} :
    ParsesItems first
      (fun cs => (.error (fault cs) : Except Fault (WithRest α)))
      fun _ _ => False where
  taken := by
    intro cs rest after value read
    cases read
  result := by
    intro items text value after _ impossible
    exact impossible.elim

theorem ParsesItems.into {contents : List Char → Except Fault (WithRest α)}
    {means : List (List Char) → α → Prop}
    (parses : ParsesItems first contents means) (store : α → β) :
    ParsesItems first
      (fun cs => do
        let (value, cs) ← contents cs
        return (store value, cs))
      fun items stored =>
        ∃ value, means items value ∧ store value = stored where
  taken := by
    intro cs rest after stored read closed
    obtain ⟨⟨value, _⟩, inner, ended⟩ := bind_eq_ok.mp read
    cases ended
    obtain ⟨items, text, ahead, meant, rfl⟩ := parses.taken inner closed
    exact ⟨items, text, ahead, ⟨value, meant, rfl⟩, rfl⟩
  result := by
    rintro items text _ after ahead ⟨value, meant, rfl⟩
    obtain ⟨rest, read, closed⟩ := parses.result after ahead meant
    exact ⟨rest, bind_eq_ok.mpr ⟨_, read, rfl⟩, closed⟩

/-- Go on with what was found, or fail. -/
def goOn (fault : List Char → Fault)
    (next : WithRest α → Except Fault (WithRest β)) :
    WithRest (Option α) → Except Fault (WithRest β)
  | (some value, cs) => next (value, cs)
  | (none, cs) => .error (fault cs)

theorem parsesItems_goOn {fault : List Char → Fault}
    {next : WithRest α → Except Fault (WithRest β)}
    {means : α → List (List Char) → β → Prop}
    (later : ∀ value,
      ParsesItems false (fun cs => next (value, cs)) (means value))
    (found : Option α) :
    ParsesItems false (fun cs => goOn fault next (found, cs))
      fun items result =>
        ∃ value, found = some value ∧ means value items result := by
  cases found with
  | none => exact parsesItems_fail.congr (by simp)
  | some value => exact (later value).congr (by simp)

theorem itemAt_bind {index : Nat} {expected : String} {item : Reader α}
    {depth : Nat} {next : WithRest α → Except Fault (WithRest β)} :
    (fun cs => itemAt index expected item depth cs >>= next) =
      fun cs => itemAt? index item depth cs >>=
        goOn (.pending (.wrongLength index expected)) next := by
  funext cs
  unfold itemAt
  cases itemAt? index item depth cs with
  | error fault => rfl
  | ok result =>
      obtain ⟨found, tail⟩ := result
      cases found <;> rfl

variable {item : Reader α} {depth : Nat} {denotes : List Char → α → Prop}
  (parses : Parses item depth denotes)

include parses

/-- The item at a fixed place, and then the others. -/
theorem Parses.itemAt? {index : Nat} (isFirst : (index == 0) = first)
    {next : WithRest (Option α) → Except Fault (WithRest β)}
    {means : Option α → List (List Char) → β → Prop}
    (later : ∀ found,
      ParsesItems false (fun cs => next (found, cs)) (means found)) :
    ParsesItems first
      (fun cs => Json.itemAt? index item depth cs >>= next)
      fun items result =>
        (items = [] ∧ means none [] result) ∨
          ∃ text others value, items = text :: others ∧ denotes text value ∧
            means (some value) others result where
  taken := by
    intro cs rest after result read closed
    obtain ⟨⟨found, tail⟩, reads, goesOn⟩ := bind_eq_ok.mp read
    obtain ⟨⟨more, inner⟩, moves, ended⟩ := bind_eq_ok.mp reads
    rw [isFirst] at moves
    cases more with
    | false =>
        cases ended
        obtain ⟨before, behind, blank, rfl, rfl⟩ := moreItems_end_iff.mp moves
        obtain ⟨items, text, ahead, meant, same⟩ :=
          (later none).taken goesOn closed
        obtain rfl : [] = items :=
          (ItemsAhead.none blanks_nil).unique ahead same
        cases ahead with
        | none textBlank =>
            have here : moreItems false (']' :: behind) =
                .ok (false, ']' :: behind) := moreItems_end blanks_nil behind
            have there : moreItems false (text ++ ']' :: after) =
                .ok (false, ']' :: after) := moreItems_end textBlank after
            rw [← same] at there
            cases here.symm.trans there
            exact ⟨[], before, .none blank, .inl ⟨rfl, meant⟩, rfl⟩
    | true =>
        obtain ⟨⟨value, tail⟩, itemRead, ended⟩ := bind_eq_ok.mp ended
        cases ended
        obtain ⟨items, text, ahead, meant, rfl⟩ :=
          (later _).taken goesOn closed
        obtain ⟨lead, leads, rfl⟩ := exists_leads_of_moreItems moves
        obtain ⟨between, value, blank, said, rfl⟩ := parses.taken itemRead
        refine ⟨value :: items, _, .item (leads.append blank)
          (parses.isValue said) ahead, .inr ⟨_, _, _, rfl, said, meant⟩, ?_⟩
        simp
  result := by
    rintro items text result after ahead (⟨rfl, meant⟩ |
      ⟨value, others, found, rfl, said, meant⟩)
    · cases ahead with
      | none blank =>
          obtain ⟨rest, read, closed⟩ :=
            (later none).result after (.none blanks_nil) meant
          refine ⟨rest, bind_eq_ok.mpr ⟨(none, ']' :: after), ?_, read⟩, closed⟩
          rw [Json.itemAt?, isFirst, moreItems_end blank]
          rfl
    · cases ahead with
      | item leads isValue ahead =>
          obtain ⟨rest, read, closed⟩ :=
            (later (some found)).result after ahead meant
          refine ⟨rest, bind_eq_ok.mpr
            ⟨(some found, _ ++ ']' :: after), ?_, read⟩, closed⟩
          have itemRead := parses.result blanks_nil said (ahead.delimited after)
          rw [item_append, Json.itemAt?, isFirst,
            leads.moreItems_value isValue]
          exact bind_eq_ok.mpr ⟨_, rfl, bind_eq_ok.mpr ⟨_, itemRead, rfl⟩⟩

theorem Parses.itemAt {index : Nat} (isFirst : (index == 0) = first)
    (expected : String) {next : WithRest α → Except Fault (WithRest β)}
    {means : α → List (List Char) → β → Prop}
    (later : ∀ value,
      ParsesItems false (fun cs => next (value, cs)) (means value)) :
    ParsesItems first
      (fun cs => Json.itemAt index expected item depth cs >>= next)
      fun items result =>
        ∃ text others value, items = text :: others ∧ denotes text value ∧
          means value others result := by
  rw [itemAt_bind]
  refine (parses.itemAt? isFirst (parsesItems_goOn later)).congr ?_
  intro items result
  simp

/-- Each item takes a character at least, so the fuel lasts. -/
theorem forall₂_of_itemsFrom (fuel : Nat) :
    ∀ {first : Bool} {cs rest after : List Char} {values : List α},
      cs.length < fuel →
      itemsFrom item depth fuel first cs = .ok (values, rest) →
      closeList rest = (none, after) →
        ∃ items text, ItemsAhead first items text ∧
          List.Forall₂ denotes items values ∧ cs = text ++ ']' :: after := by
  induction fuel with
  | zero => exact fun short => absurd short (Nat.not_lt_zero _)
  | succ fuel induction =>
      intro first cs rest after values short read closed
      obtain ⟨⟨more, inner⟩, moves, goesOn⟩ := bind_eq_ok.mp read
      cases more with
      | false =>
          cases goesOn
          obtain ⟨before, behind, blank, rfl, rfl⟩ := moreItems_end_iff.mp moves
          cases closed
          exact ⟨[], before, .none blank, .nil, rfl⟩
      | true =>
          obtain ⟨⟨value, tail⟩, itemRead, goesOn⟩ := bind_eq_ok.mp goesOn
          obtain ⟨⟨others, _⟩, othersRead, ended⟩ := bind_eq_ok.mp goesOn
          cases ended
          obtain ⟨lead, leads, rfl⟩ := exists_leads_of_moreItems moves
          obtain ⟨between, text, blank, said, rfl⟩ := parses.taken itemRead
          obtain ⟨c, more, rfl, _⟩ := (parses.isValue said).begins
          simp only [List.length_append, List.length_cons] at short
          obtain ⟨items, textAhead, ahead, meant, rfl⟩ :=
            induction (by omega) othersRead closed
          refine ⟨(c :: more) :: items, _, .item (leads.append blank)
            (parses.isValue said) ahead, .cons said meant, ?_⟩
          simp

theorem itemsFrom_of_forall₂ {items : List (List Char)} {values : List α}
    (said : List.Forall₂ denotes items values) :
    ∀ {fuel : Nat} {first : Bool} {text : List Char} (after : List Char),
      ItemsAhead first items text → (text ++ ']' :: after).length < fuel →
        itemsFrom item depth fuel first (text ++ ']' :: after) =
          .ok (values, ']' :: after) := by
  induction said with
  | nil =>
      intro fuel first text after ahead enough
      obtain ⟨fuel, rfl, _⟩ := exists_fuel_behind text enough
      cases ahead with
      | none blank =>
          rw [itemsFrom, moreItems_end blank]
          rfl
  | @cons value result items values said _ induction =>
      intro fuel first text after ahead enough
      obtain ⟨fuel, rfl, _⟩ := exists_fuel_behind text enough
      cases ahead with
      | @item _ _ lead _ text leads isValue ahead =>
          have fewer : (text ++ ']' :: after).length < fuel := by
            obtain ⟨c, more, rfl, _⟩ := isValue.begins
            simp only [List.length_append, List.length_cons] at enough ⊢
            omega
          have itemRead := parses.result blanks_nil said (ahead.delimited after)
          have others := induction after ahead fewer
          rw [item_append, itemsFrom, leads.moreItems_value isValue]
          exact bind_eq_ok.mpr ⟨_, rfl, bind_eq_ok.mpr ⟨_, itemRead,
            bind_eq_ok.mpr ⟨_, others, rfl⟩⟩⟩

theorem Parses.itemsFrom (first : Bool) :
    ParsesItems first
      (fun cs => Json.itemsFrom item depth (cs.length + 1) first cs)
      (List.Forall₂ denotes) where
  taken := forall₂_of_itemsFrom parses _ (Nat.lt_succ_self _)
  result := by
    intro items text values after ahead said
    exact ⟨_, itemsFrom_of_forall₂ parses said after ahead (Nat.lt_succ_self _),
      rfl⟩

end Contents

end OperatorConsole.Json
