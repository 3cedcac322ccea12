import OperatorConsole.Json.Reader
import OperatorConsole.Proofs.Except

/-!
# What readers accept

What is known of each value that a reader can yield, whatever text it is given.
A container yields what its contents yield; the members of an object keep what
each of them keeps.
-/

namespace OperatorConsole.Json

/-- Every value that a reader gets out of a text is good. -/
structure Yields {α : Type} (reader : Reader α) (good : α → Prop) :
    Prop where
  holds : ∀ {depth : Nat} {cs rest : List Char} {value : α},
    reader depth cs = .ok (value, rest) → good value

theorem mismatch_ne_ok {α : Type} {expected : String} {cs : List Char}
    {result : WithRest α} : mismatch expected cs ≠ .ok result := by
  intro accepted
  unfold mismatch at accepted
  split at accepted
  case h_6 | h_7 | h_9 => cases accepted
  case h_8 =>
    split at accepted
    · obtain ⟨_, _, ended⟩ := bind_eq_ok.mp accepted
      cases ended
    · cases accepted
  all_goals
    obtain ⟨_, _, ended⟩ := bind_eq_ok.mp accepted
    cases ended

theorem boundedNumber_eq_ok_iff {least greatest value : Int}
    {expected : String} {number : Number} {cs rest : List Char} :
    boundedNumber least greatest expected number cs = .ok (value, rest) ↔
      number = .whole value ∧ rest = cs ∧ least ≤ value ∧
        value ≤ greatest := by
  constructor
  · intro accepted
    unfold boundedNumber at accepted
    split at accepted
    · split at accepted
      · next within =>
          cases accepted
          exact ⟨rfl, rfl, within⟩
      · cases accepted
    · cases accepted
  · rintro ⟨rfl, rfl, within⟩
    exact if_pos within

theorem yields_whole (least greatest : Int) (expected : String) :
    Yields (whole least greatest expected)
      fun value => least ≤ value ∧ value ≤ greatest := by
  constructor
  intro depth cs rest value accepted
  unfold whole at accepted
  split at accepted
  · cases accepted
  · obtain ⟨_, _, bounded⟩ := bind_eq_ok.mp accepted
    exact (boundedNumber_eq_ok_iff.mp bounded).2.2
  · split at accepted
    · obtain ⟨_, _, bounded⟩ := bind_eq_ok.mp accepted
      exact (boundedNumber_eq_ok_iff.mp bounded).2.2
    · exact absurd accepted mismatch_ne_ok

section Contents

variable {α σ : Type} {reader : Reader α} {good : α → Prop}

theorem Yields.optional (yields : Yields reader good) :
    Yields (optional reader) fun value => ∀ present ∈ value, good present := by
  constructor
  intro depth cs rest value accepted
  unfold Json.optional at accepted
  split at accepted
  · obtain ⟨_, _, ended⟩ := bind_eq_ok.mp accepted
    cases ended
    simp
  · obtain ⟨⟨present, after⟩, read, ended⟩ := bind_eq_ok.mp accepted
    cases ended
    intro same member
    cases member
    exact yields.holds read

theorem Yields.into (yields : Yields reader good) {store : α → σ}
    {better : σ → Prop} (stored : ∀ value, good value → better (store value)) :
    Yields (reader.into store) better := by
  constructor
  intro depth cs rest value accepted
  obtain ⟨⟨inner, after⟩, read, ended⟩ := bind_eq_ok.mp accepted
  cases ended
  exact stored inner (yields.holds read)

theorem enclosed_eq_ok_iff {close : List Char → Option Fault × List Char}
    {contents : Except Fault (WithRest α)} {value : α} {rest : List Char} :
    enclosed close contents = .ok (value, rest) ↔
      ∃ inner, contents = .ok (value, inner) ∧ close inner = (none, rest) := by
  constructor
  · intro accepted
    unfold enclosed at accepted
    split at accepted
    · next inner =>
        split at accepted
        · next closed =>
            cases accepted
            exact ⟨inner, rfl, closed⟩
        · cases accepted
    · cases accepted
    · cases accepted
  · rintro ⟨inner, rfl, closed⟩
    simp only [enclosed, closed]

theorem Yields.nested {close : List Char → Option Fault × List Char}
    (yields : Yields reader good) : Yields (nested close reader) good := by
  constructor
  intro depth cs rest value accepted
  unfold Json.nested at accepted
  split at accepted
  · cases accepted
  · obtain ⟨_, read, _⟩ := enclosed_eq_ok_iff.mp accepted
    exact yields.holds read

theorem yields_container {expected : String}
    {ofList ofObject : Option (Reader α)}
    (list : ∀ contents ∈ ofList, Yields contents good)
    (object : ∀ contents ∈ ofObject, Yields contents good) :
    Yields (container expected ofList ofObject) good := by
  constructor
  intro depth cs rest value accepted
  unfold container at accepted
  split at accepted
  · cases accepted
  · cases ofList with
    | none => exact absurd accepted mismatch_ne_ok
    | some contents => exact (list contents rfl).nested.holds accepted
  · cases ofObject with
    | none => exact absurd accepted mismatch_ne_ok
    | some contents => exact (object contents rfl).nested.holds accepted
  · exact absurd accepted mismatch_ne_ok

theorem Yields.itemsFrom (yields : Yields reader good) {depth : Nat}
    (fuel : Nat) : ∀ {first : Bool} {cs rest : List Char} {values : List α},
      itemsFrom reader depth fuel first cs = .ok (values, rest) →
        ∀ value ∈ values, good value := by
  induction fuel with
  | zero =>
      intro first cs rest values accepted
      cases accepted
      simp
  | succ fuel induction =>
      intro first cs rest values accepted
      obtain ⟨⟨more, tail⟩, _, goesOn⟩ := bind_eq_ok.mp accepted
      cases more with
      | false =>
          cases goesOn
          simp
      | true =>
          obtain ⟨⟨value, tail⟩, read, goesOn⟩ := bind_eq_ok.mp goesOn
          obtain ⟨⟨others, tail⟩, later, ended⟩ := bind_eq_ok.mp goesOn
          cases ended
          intro wanted member
          rcases List.mem_cons.mp member with rfl | other
          · exact yields.holds read
          · exact induction later wanted other

theorem Yields.listOf (yields : Yields reader good) :
    Yields (listOf reader) fun values => ∀ value ∈ values, good value := by
  refine yields_container ?_ fun _ none => by cases none
  intro contents same
  cases same
  exact ⟨fun accepted => yields.itemsFrom _ accepted⟩

theorem Yields.itemAt (yields : Yields reader good) (index : Nat)
    (expected : String) : Yields (itemAt index expected reader) good := by
  constructor
  intro depth cs rest value accepted
  obtain ⟨⟨found, tail⟩, read, goesOn⟩ := bind_eq_ok.mp accepted
  cases found with
  | none => cases goesOn
  | some present =>
      cases goesOn
      obtain ⟨⟨more, tail⟩, _, goesOn⟩ := bind_eq_ok.mp read
      cases more with
      | false => cases goesOn
      | true =>
          obtain ⟨⟨item, tail⟩, read, ended⟩ := bind_eq_ok.mp goesOn
          cases ended
          exact yields.holds read

end Contents

/-! ## Members -/

section Plans

variable {σ : Type} {plan : σ → String → MemberPlan σ} {depth fuel : Nat}
  {first : Bool} {state last : σ} {cs rest : List Char}

/-- The value of a member is skipped, or read into the next state. -/
inductive Takes (depth : Nat) (state : σ) :
    MemberPlan σ → List Char → σ → List Char → Prop where
  | skip {cs rest : List Char} (skipped : skipValue cs = .ok rest) :
      Takes depth state .skip cs state rest
  | read {reader : Reader σ} {cs rest : List Char} {next : σ}
      (reads : reader depth cs = .ok (next, rest)) :
      Takes depth state (.read reader) cs next rest

/-- No member is left, or one is taken and then the others. -/
theorem membersFrom_eq_ok_iff :
    membersFrom plan depth (fuel + 1) first state cs = .ok (last, rest) ↔
      (moreMembers first cs = .ok (false, rest) ∧ state = last) ∨
        ∃ inner name after value next tail,
          moreMembers first cs = .ok (true, inner) ∧
          stringBody (inner.drop 1) = .ok (name, after) ∧
          colon after = .ok value ∧
          Takes depth state (plan state name) value next tail ∧
          membersFrom plan depth fuel false next tail = .ok (last, rest) := by
  constructor
  · intro read
    obtain ⟨⟨more, inner⟩, found, goesOn⟩ := bind_eq_ok.mp read
    cases more with
    | false =>
        cases goesOn
        exact .inl ⟨found, rfl⟩
    | true =>
        obtain ⟨⟨name, after⟩, named, goesOn⟩ := bind_eq_ok.mp goesOn
        refine .inr ⟨inner, name, after, ?_⟩
        dsimp only at goesOn
        cases planned : plan state name with
        | refuse cause =>
            rw [planned] at goesOn
            cases goesOn
        | skip =>
            rw [planned] at goesOn
            obtain ⟨value, past, goesOn⟩ := bind_eq_ok.mp goesOn
            obtain ⟨tail, skipped, later⟩ := bind_eq_ok.mp goesOn
            exact ⟨value, state, tail, found, named, past, .skip skipped, later⟩
        | read reader =>
            rw [planned] at goesOn
            obtain ⟨value, past, goesOn⟩ := bind_eq_ok.mp goesOn
            obtain ⟨⟨next, tail⟩, reads, later⟩ := bind_eq_ok.mp goesOn
            exact ⟨value, next, tail, found, named, past, .read reads, later⟩
  · rintro (⟨ended, rfl⟩ |
      ⟨inner, name, after, value, next, tail, found, named, past, takes, later⟩)
    · exact bind_eq_ok.mpr ⟨_, ended, rfl⟩
    · refine bind_eq_ok.mpr ⟨_, found, bind_eq_ok.mpr ⟨_, named, ?_⟩⟩
      dsimp only
      generalize plan state name = planned at takes
      cases takes with
      | skip skipped =>
          exact bind_eq_ok.mpr ⟨_, past, bind_eq_ok.mpr ⟨_, skipped, later⟩⟩
      | read reads =>
          exact bind_eq_ok.mpr ⟨_, past, bind_eq_ok.mpr ⟨_, reads, later⟩⟩

/-- What a plan does with a member keeps a state good. -/
def MemberPlan.Keeps (good : σ → Prop) : MemberPlan σ → Prop
  | .skip | .refuse _ => True
  | .read reader => Yields reader good

theorem keeps_once {α : Type} {reader : Reader α} {good : α → Prop}
    {better : σ → Prop} {name : String} {seen : Option α} {store : α → σ}
    (yields : Yields reader good)
    (stored : ∀ value, good value → better (store value)) :
    (once name seen reader store).Keeps better := by
  unfold once
  split
  · trivial
  · exact yields.into stored

theorem MemberPlan.Keeps.takes {good : σ → Prop}
    {memberPlan : MemberPlan σ} {next : σ} (keeps : memberPlan.Keeps good)
    (takes : Takes depth state memberPlan cs next rest)
    (isGood : good state) : good next := by
  cases takes with
  | skip _ => exact isGood
  | read reads => exact Yields.holds keeps reads

theorem membersFrom_keeps {good : σ → Prop}
    (keeps : ∀ state name, good state → (plan state name).Keeps good)
    (fuel : Nat) :
    ∀ {first : Bool} {cs rest : List Char} {state last : σ}, good state →
      membersFrom plan depth fuel first state cs = .ok (last, rest) →
        good last := by
  induction fuel with
  | zero =>
      intro first cs rest state last isGood accepted
      cases accepted
      exact isGood
  | succ fuel induction =>
      intro first cs rest state last isGood accepted
      rcases membersFrom_eq_ok_iff.mp accepted with
        ⟨_, rfl⟩ | ⟨_, name, _, _, next, _, _, _, _, takes, later⟩
      · exact isGood
      · exact induction ((keeps state name isGood).takes takes isGood) later

end Plans

theorem yields_members {σ : Type} {plan : σ → String → MemberPlan σ}
    {good : σ → Prop} {start : σ} (isGood : good start)
    (keeps : ∀ state name, good state → (plan state name).Keeps good) :
    Yields (members plan start) good :=
  ⟨fun accepted => membersFrom_keeps keeps _ isGood accepted⟩

theorem readText_eq_ok {α : Type} {reader : Reader α} {good : α → Prop}
    (yields : Yields reader good) {text : String} {value : α}
    (accepted : readText reader text = .ok value) : good value := by
  unfold readText at accepted
  split at accepted
  · cases accepted
  · next read =>
      split at accepted
      · cases accepted
        exact yields.holds read
      · cases accepted

end OperatorConsole.Json
