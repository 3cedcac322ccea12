import OperatorConsole.Proofs.Json.Steady

/-!
# Slots

The members of many objects go to slots of a state.  A slot has a name, and a
member with that name may stand once.  If the slots have places of their own, it
makes no difference which of two is filled first.
-/

namespace OperatorConsole.Json

/-- Where the content of a member is kept that may stand once. -/
structure Slot (σ : Type) where
  Content : Type
  name : String
  get : σ → Option Content
  set : σ → Content → σ
  reader : Reader Content

namespace Slot

variable {σ : Type}

/-- The plan for the member with the name of a slot, and for the others. -/
def plan (slot : Slot σ) (others : σ → String → MemberPlan σ)
    (state : σ) (name : String) : MemberPlan σ :=
  if name = slot.name then
    once name (slot.get state) slot.reader (slot.set state)
  else others state name

/-- What is done with the member with the name of a slot, and with others. -/
inductive Does (slot : Slot σ) (depth : Nat)
    (others : σ → String → List Char → σ → Prop) (state : σ) :
    String → List Char → σ → Prop where
  | own {text : List Char} {content : slot.Content}
      (absent : slot.get state = none)
      (said : Alone slot.reader depth text content) :
      Does slot depth others state slot.name text (slot.set state content)
  | other {name : String} {text : List Char} {next : σ}
      (different : name ≠ slot.name) (done : others state name text next) :
      Does slot depth others state name text next

/-- A slot has its own place if nothing else is done with that place. -/
structure Untouched (slot : Slot σ)
    (others : σ → String → List Char → σ → Prop) : Prop where
  get : ∀ {state next : σ} {name : String} {text : List Char},
    others state name text next → slot.get next = slot.get state
  set : ∀ {state next : σ} {name : String} {text : List Char}
    (content : slot.Content),
    others (slot.set state content) name text next ↔
      ∃ result, others state name text result ∧
        slot.set result content = next

variable {slot : Slot σ} {depth : Nat}
  {plans : σ → String → MemberPlan σ}
  {does : σ → String → List Char → σ → Prop} {related : σ → σ → Prop}

theorem does_of_ne {state next : σ} {name : String} {text : List Char}
    (different : name ≠ slot.name) :
    slot.Does depth does state name text next ↔
      does state name text next := by
  constructor
  · intro done
    cases done with
    | own => exact absurd rfl different
    | other _ done => exact done
  · exact .other different

theorem does_own {state next : σ} {text : List Char} :
    slot.Does depth does state slot.name text next ↔
      slot.get state = none ∧ ∃ content,
        Alone slot.reader depth text content ∧
        slot.set state content = next := by
  constructor
  · intro done
    cases done with
    | own absent said => exact ⟨absent, _, said, rfl⟩
    | other different _ => exact absurd rfl different
  · rintro ⟨absent, content, said, rfl⟩
    exact .own absent said

theorem obeys (steady : Steady slot.reader depth Eq)
    (othersObey : ∀ state name,
      (plans state name).Obeys depth state (does state name))
    (state : σ) (name : String) :
    (slot.plan plans state name).Obeys depth state
      (slot.Does depth does state name) := by
  unfold plan
  by_cases isName : name = slot.name
  · subst isName
    rw [if_pos rfl, once]
    cases absent : slot.get state with
    | some seen =>
        intro text next done
        rw [does_own, absent] at done
        cases done.1
    | none =>
        refine (steady.parses.into (slot.set state)).congr ?_
        intro text next
        rw [does_own]
        simp [absent]
  · rw [if_neg isName]
    have same : slot.Does depth does state name = does state name := by
      funext text next
      exact propext (does_of_ne isName)
    rw [same]
    exact othersObey state name

theorem orderly (steady : Steady slot.reader depth Eq)
    (othersOrderly : Orderly does related) (untouched : slot.Untouched does)
    (sameGet : ∀ {state other : σ}, related state other →
      slot.get state = slot.get other)
    (set : ∀ {state other : σ} (content : slot.Content),
      related state other →
        related (slot.set state content) (slot.set other content)) :
    Orderly (slot.Does depth does) related where
  refl := othersOrderly.refl
  trans := othersOrderly.trans
  follows := by
    intro state other next name text again isRelated alike done
    cases done with
    | own absent said =>
        obtain ⟨_, saidAgain, rfl⟩ := steady.keeps alike said
        rw [sameGet isRelated] at absent
        exact ⟨_, .own absent saidAgain, set _ isRelated⟩
    | other different done =>
        obtain ⟨result, doneAgain, nextRelated⟩ :=
          othersOrderly.follows isRelated alike done
        exact ⟨result, .other different doneAgain, nextRelated⟩
  commutes := by
    intro state middle last name other text otherText apart first second
    cases first with
    | own absent said =>
        obtain ⟨result, done, rfl⟩ :=
          (untouched.set _).mp ((does_of_ne apart.symm).mp second)
        have stillAbsent := (untouched.get done).trans absent
        exact ⟨result, _, .other apart.symm done, .own stillAbsent said,
          othersOrderly.refl _⟩
    | other different done =>
        cases second with
        | @own _ content absent said =>
            have wasAbsent := (untouched.get done).symm.trans absent
            have moved := (untouched.set content).mpr ⟨_, done, rfl⟩
            exact ⟨_, _, .own wasAbsent said, .other different moved,
              othersOrderly.refl _⟩
        | other otherDifferent otherDone =>
            obtain ⟨between, result, doneFirst, doneSecond, isRelated⟩ :=
              othersOrderly.commutes apart done otherDone
            exact ⟨between, result, .other otherDifferent doneFirst,
              .other different doneSecond, isRelated⟩

end Slot

/-! ## Several slots -/

section Slots

variable {σ : Type} {depth : Nat}

/-- Members without a slot are skipped. -/
def slotsPlan : List (Slot σ) → σ → String → MemberPlan σ
  | [] => fun _ _ => .skip
  | slot :: slots => slot.plan (slotsPlan slots)

def SlotsDo (depth : Nat) :
    List (Slot σ) → σ → String → List Char → σ → Prop
  | [] => fun state _ text next => IsValue text ∧ next = state
  | slot :: slots => slot.Does depth (SlotsDo depth slots)

/-- Two slots with different places. -/
structure Slot.Independent (left right : Slot σ) : Prop where
  get_left : ∀ state content,
    left.get (right.set state content) = left.get state
  get_right : ∀ state content,
    right.get (left.set state content) = right.get state
  set : ∀ state content other,
    left.set (right.set state other) content =
      right.set (left.set state content) other

theorem Slot.untouched_slots {slot : Slot σ} {slots : List (Slot σ)}
    (independent : ∀ other ∈ slots, slot.Independent other) :
    slot.Untouched (SlotsDo depth slots) := by
  induction slots with
  | nil =>
      refine ⟨fun done => congrArg slot.get done.2, fun content => ?_⟩
      simp [SlotsDo, eq_comm]
  | cons other slots induction =>
      obtain ⟨apart, independent⟩ := List.forall_mem_cons.mp independent
      have untouched := induction independent
      constructor
      case get =>
        intro state next name text done
        cases done with
        | own _ _ => exact apart.get_left state _
        | other _ done => exact untouched.get done
      case set =>
        intro state next name text content
        by_cases isName : name = other.name
        · subst isName
          simp only [SlotsDo, Slot.does_own, apart.get_right, ← apart.set]
          constructor
          · rintro ⟨absent, found, said, rfl⟩
            exact ⟨_, ⟨absent, found, said, rfl⟩, rfl⟩
          · rintro ⟨_, ⟨absent, found, said, rfl⟩, rfl⟩
            exact ⟨absent, found, said, rfl⟩
        · simp only [SlotsDo, Slot.does_of_ne isName]
          exact untouched.set content

theorem obeys_slots {slots : List (Slot σ)}
    (steady : ∀ slot ∈ slots, Steady slot.reader depth Eq) :
    ∀ state name, (slotsPlan slots state name).Obeys depth state
      (SlotsDo depth slots state name) := by
  induction slots with
  | nil => exact fun state _ _ _ => Iff.rfl
  | cons slot slots induction =>
      obtain ⟨slotSteady, steady⟩ := List.forall_mem_cons.mp steady
      exact Slot.obeys slotSteady (induction steady)

theorem orderly_slots {slots : List (Slot σ)}
    (apart : slots.Pairwise Slot.Independent)
    (steady : ∀ slot ∈ slots, Steady slot.reader depth Eq) :
    Orderly (SlotsDo depth slots) Eq := by
  induction slots with
  | nil =>
      refine ⟨fun _ => rfl, Eq.trans, ?_, ?_⟩
      · rintro state _ _ name text again rfl alike ⟨isValue, rfl⟩
        exact ⟨_, ⟨alike.isValue isValue, rfl⟩, rfl⟩
      · rintro state _ _ name other text otherText _
          ⟨isValue, rfl⟩ ⟨isOther, rfl⟩
        exact ⟨_, _, ⟨isOther, rfl⟩, ⟨isValue, rfl⟩, rfl⟩
  | cons slot slots induction =>
      obtain ⟨slotApart, apart⟩ := List.pairwise_cons.mp apart
      obtain ⟨slotSteady, steady⟩ := List.forall_mem_cons.mp steady
      exact Slot.orderly slotSteady (induction apart steady)
        (Slot.untouched_slots slotApart) (congrArg slot.get)
        fun content same => congrArg (slot.set · content) same

theorem steady_slots {slots : List (Slot σ)}
    (apart : slots.Pairwise Slot.Independent)
    (steady : ∀ slot ∈ slots, Steady slot.reader depth Eq) (start : σ) :
    SteadyMembers (members (slotsPlan slots) start depth) Eq :=
  steady_members (obeys_slots steady) (orderly_slots apart steady) start

end Slots

/-- A slot that must be filled when the object ends. -/
theorem required_eq_ok_iff {α : Type} {name : String} {seen : Option α}
    {rest : List Char} {value : α} :
    required name seen rest = .ok value ↔ seen = some value := by
  cases seen with
  | none => simp [required]
  | some found => simp [required]

end OperatorConsole.Json
