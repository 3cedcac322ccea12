import OperatorConsole.Proofs.Json.Accepted
import OperatorConsole.Proofs.Json.Nesting

/-!
# Reading containers

A plan is run over the members of an object, in the order in which they stand.
An object is read exactly if it is one of the grammar, the names of its members
are texts, and the plan takes each member.
-/

namespace OperatorConsole.Json

/-! ## The members that are ahead -/

/-- What stands before the name of a member. -/
inductive Leads : Bool → List Char → Prop where
  | first {before : List Char} (blank : Blanks before) : Leads true before
  | later {before between : List Char} (blank : Blanks before)
      (betweenBlank : Blanks between) : Leads false (before ++ ',' :: between)

/-- What is left of an object before its closing brace, with the members in it.
A comma belongs to the member behind it here, as it is read with that member. -/
inductive Ahead : Bool → List Member → List Char → Prop where
  | none {first : Bool} {text : List Char} (blank : Blanks text) :
      Ahead first [] text
  | member {first : Bool} {others : List Member}
      {lead name after before value text : List Char}
      (leads : Leads first lead) (isString : IsString name)
      (afterBlank : Blanks after) (blank : Blanks before)
      (isValue : IsValue value) (later : Ahead false others text) :
      Ahead first (⟨name, value⟩ :: others)
        (lead ++ '"' :: (name ++ '"' ::
          (after ++ ':' :: (before ++ (value ++ text)))))

theorem member_append (lead name after before value text rest : List Char) :
    lead ++ '"' :: (name ++ '"' ::
        (after ++ ':' :: (before ++ (value ++ text)))) ++ rest =
      lead ++ '"' :: (name ++ '"' ::
        (after ++ ':' :: (before ++ (value ++ (text ++ rest))))) := by
  simp

theorem Ahead.behind {member : Member} {others : List Member}
    {before text : List Char} (ahead : Ahead true (member :: others) text)
    (blank : Blanks before) :
    Ahead false (member :: others) (before ++ ',' :: text) := by
  cases ahead with
  | member leads isString afterBlank beforeBlank isValue later =>
      cases leads with
      | first leadBlank =>
          have ahead := Ahead.member (.later blank leadBlank) isString
            afterBlank beforeBlank isValue later
          simpa using ahead

theorem IsMembers.exists_first {members : List Member} {text : List Char}
    (areMembers : IsMembers members text) :
    ∃ member others, members = member :: others := by
  cases areMembers with
  | last => exact ⟨_, _, rfl⟩
  | more => exact ⟨_, _, rfl⟩

theorem IsMembers.ahead : ∀ {members : List Member} {text : List Char},
    IsMembers members text → Ahead true members text
  | _, _, @IsMembers.last _ value _ _ isString named isValue padded => by
      obtain ⟨lead, after, leadBlank, afterBlank, rfl⟩ := named
      obtain ⟨before, behind, blank, behindBlank, rfl⟩ := padded
      have ahead := Ahead.member (.first leadBlank) isString afterBlank blank
        isValue (.none behindBlank)
      simpa [quoted] using ahead
  | _, _, @IsMembers.more _ value _ _ _ _ isString named isValue padded
      areMembers => by
      obtain ⟨lead, after, leadBlank, afterBlank, rfl⟩ := named
      obtain ⟨before, behind, blank, behindBlank, rfl⟩ := padded
      obtain ⟨member, others, rfl⟩ := areMembers.exists_first
      have ahead := Ahead.member (.first leadBlank) isString afterBlank blank
        isValue (areMembers.ahead.behind behindBlank)
      simpa [quoted] using ahead

/-- A member and those ahead of it. -/
theorem Ahead.areMembers {others : List Member} {text : List Char}
    (ahead : Ahead false others text) :
    ∀ {name front before value : List Char}, IsString name →
      Padded (quoted name) front → Blanks before → IsValue value →
      IsMembers (⟨name, value⟩ :: others)
        (front ++ ':' :: (before ++ (value ++ text))) := by
  generalize same : false = first at ahead
  -- the blanks before a comma go to the value in front of it
  induction ahead with
  | none blank =>
      intro name front before value isString named beforeBlank isValue
      exact .last isString named isValue (.of_blanks beforeBlank blank value)
  | @member _ _ lead nextName after between nextValue tail leads nextIsString
      afterBlank betweenBlank nextIsValue _ induction =>
      cases same
      cases leads with
      | @later behind next behindBlank nextBlank =>
          intro name front before value isString named beforeBlank isValue
          have nextNamed : Padded (quoted nextName)
              (next ++ (quoted nextName ++ after)) :=
            .of_blanks nextBlank afterBlank _
          have are := IsMembers.more isString named isValue
            (.of_blanks beforeBlank behindBlank value)
            (induction rfl nextIsString nextNamed betweenBlank nextIsValue)
          simpa [quoted] using are

theorem isObject_iff {members : List Member} {object : List Char} :
    IsObject members object ↔
      ∃ text, Ahead true members text ∧
        object = '{' :: (text ++ ['}']) := by
  constructor
  · intro isObject
    cases isObject with
    | empty blank => exact ⟨_, .none blank, rfl⟩
    | members areMembers => exact ⟨_, areMembers.ahead, rfl⟩
  · rintro ⟨text, ahead, rfl⟩
    cases ahead with
    | none blank => exact .empty blank
    | @member _ _ _ name after _ _ _ leads isString afterBlank blank isValue
        later =>
        cases leads with
        | @first lead leadBlank =>
            have are := later.areMembers isString
              (.of_blanks leadBlank afterBlank (quoted name)) blank isValue
            refine .members ?_
            simpa [quoted] using are

theorem Blanks.delimited_mark {before : List Char} (blank : Blanks before)
    {c : Char} (mark : c = ',' ∨ c = ']' ∨ c = '}') (rest : List Char) :
    Delimited (before ++ c :: rest) :=
  blank.delimited (stops_cons mark).delimited

theorem Ahead.delimited {members : List Member} {text : List Char}
    (ahead : Ahead false members text) (rest : List Char) :
    Delimited (text ++ '}' :: rest) := by
  cases ahead with
  | none blank => exact blank.delimited_mark (.inr (.inr rfl)) rest
  | member leads =>
      cases leads with
      | later blank _ =>
          rw [List.append_assoc, List.append_assoc, List.cons_append]
          exact blank.delimited_mark (.inl rfl) _

theorem Ahead.areValues {first : Bool} {members : List Member}
    {text : List Char} (ahead : Ahead first members text) :
    ∀ member ∈ members, IsValue member.value := by
  induction ahead with
  | none => exact fun _ isIn => by cases isIn
  | member _ _ _ _ isValue _ induction =>
      exact List.forall_mem_cons.mpr ⟨isValue, induction⟩

/-! ## Finding the next member -/

section Moving

variable {first : Bool} {cs rest : List Char}

theorem moreMembers_end {before : List Char} (blank : Blanks before)
    (after : List Char) :
    moreMembers first (before ++ '}' :: after) =
      .ok (false, '}' :: after) := by
  rw [moreMembers, skipBlanks_blanks blank (by decide)]
  rfl

theorem Leads.moreMembers {lead : List Char} (leads : Leads first lead)
    (body : List Char) :
    moreMembers first (lead ++ '"' :: body) = .ok (true, '"' :: body) := by
  cases leads with
  | first blank =>
      rw [Json.moreMembers, skipBlanks_blanks blank (by decide)]
      rfl
  | @later _ between blank betweenBlank =>
      have found : skipBlanks (between ++ '"' :: body) = '"' :: body :=
        skipBlanks_blanks betweenBlank (by decide) body
      rw [List.append_assoc, List.cons_append, Json.moreMembers,
        skipBlanks_blanks blank (by decide)]
      simp [found]

theorem moreMembers_end_iff :
    moreMembers first cs = .ok (false, rest) ↔
      ∃ before after, Blanks before ∧ rest = '}' :: after ∧
        cs = before ++ '}' :: after := by
  constructor
  · intro ended
    obtain ⟨before, blank, split⟩ := exists_blanks cs
    unfold moreMembers at ended
    split at ended
    · cases ended
    · next after stands =>
        cases ended
        exact ⟨before, after, blank, rfl, by rw [← stands, ← split]⟩
    · repeat' split at ended
      all_goals cases ended
  · rintro ⟨before, after, blank, rfl, rfl⟩
    exact moreMembers_end blank after

theorem moreMembers_more_iff :
    moreMembers first cs = .ok (true, rest) ↔
      ∃ lead body, Leads first lead ∧ rest = '"' :: body ∧
        cs = lead ++ '"' :: body := by
  constructor
  · intro goesOn
    obtain ⟨before, blank, split⟩ := exists_blanks cs
    unfold moreMembers at goesOn
    split at goesOn
    · cases goesOn
    · cases goesOn
    · next c body _ stands =>
        cases first with
        | true =>
            rw [if_pos rfl] at goesOn
            split at goesOn
            · next quote =>
                cases goesOn
                rw [quote] at stands
                exact ⟨before, body, .first blank, by rw [quote],
                  by rw [← stands, ← split]⟩
            · cases goesOn
        | false =>
            rw [if_neg Bool.false_ne_true] at goesOn
            split at goesOn
            · next comma =>
                obtain ⟨between, betweenBlank, splitBody⟩ := exists_blanks body
                split at goesOn
                · cases goesOn
                · next inner behind =>
                    cases goesOn
                    refine ⟨before ++ ',' :: between, inner,
                      .later blank betweenBlank, rfl, ?_⟩
                    rw [split, stands, comma, splitBody, behind]
                    simp
                · cases goesOn
                · cases goesOn
            · cases goesOn
  · rintro ⟨lead, body, leads, rfl, rfl⟩
    exact leads.moreMembers body

end Moving

/-! ## Members are unique

The readers that skip a name and a value are functions, so a text has no two
divisions into members. -/

theorem name_unique {name other rest tail : List Char}
    (isString : IsString name) (isOther : IsString other)
    (same : name ++ '"' :: rest = other ++ '"' :: tail) :
    name = other ∧ rest = tail := by
  have first := skipString_of_isString isString rest
  have second := skipString_of_isString isOther tail
  rw [same] at first
  cases first.symm.trans second
  exact ⟨List.append_cancel_right same, rfl⟩

theorem colon_unique {before between rest tail : List Char}
    (blank : Blanks before) (betweenBlank : Blanks between)
    (same : before ++ ':' :: rest = between ++ ':' :: tail) : rest = tail := by
  have first : colon (before ++ ':' :: rest) = .ok rest :=
    colon_eq_ok_iff.mpr ⟨before, blank, rfl⟩
  have second : colon (between ++ ':' :: tail) = .ok tail :=
    colon_eq_ok_iff.mpr ⟨between, betweenBlank, rfl⟩
  rw [same] at first
  exact Except.ok.inj (first.symm.trans second)

theorem value_unique {before between value other rest tail : List Char}
    (blank : Blanks before) (betweenBlank : Blanks between)
    (isValue : IsValue value) (isOther : IsValue other)
    (delimited : Delimited rest) (otherDelimited : Delimited tail)
    (same : before ++ (value ++ rest) = between ++ (other ++ tail)) :
    value = other ∧ rest = tail := by
  have first := skipValue_of_isValue blank isValue delimited
  have second := skipValue_of_isValue betweenBlank isOther otherDelimited
  rw [same] at first
  cases first.symm.trans second
  obtain ⟨c, more, rfl, visible, _⟩ := isValue.begins
  obtain ⟨d, others, rfl, otherVisible, _⟩ := isOther.begins
  have skipped := congrArg skipBlanks same
  rw [List.cons_append, List.cons_append, skipBlanks_blanks blank visible,
    skipBlanks_blanks betweenBlank otherVisible] at skipped
  exact ⟨List.append_cancel_right skipped, rfl⟩

theorem Ahead.unique {first : Bool} {members : List Member}
    {text : List Char} (ahead : Ahead first members text) :
    ∀ {found : List Member} {other rest tail : List Char},
      Ahead first found other →
      text ++ '}' :: rest = other ++ '}' :: tail → members = found := by
  induction ahead with
  | @none first _ blank =>
      intro found other rest tail otherAhead same
      cases otherAhead with
      | none _ => rfl
      | member leads =>
          have ended : moreMembers first _ = _ := moreMembers_end blank rest
          rw [same, member_append, leads.moreMembers] at ended
          cases ended
  | @member first _ _ name after before value text leads isString afterBlank
      blank isValue later induction =>
      intro found other rest tail otherAhead same
      have goesOn := leads.moreMembers (name ++ '"' ::
        (after ++ ':' :: (before ++ (value ++ (text ++ '}' :: rest)))))
      rw [← member_append, same] at goesOn
      cases otherAhead with
      | none otherBlank =>
          cases goesOn.symm.trans (moreMembers_end otherBlank _)
      | member otherLeads isOther otherAfter otherBlank isOtherValue
          otherLater =>
          rw [member_append, otherLeads.moreMembers] at goesOn
          have inside := (List.cons.inj (congrArg Prod.snd
            (Except.ok.inj goesOn))).2
          obtain ⟨rfl, past⟩ := name_unique isOther isString inside
          have values := colon_unique otherAfter afterBlank past
          obtain ⟨rfl, left⟩ := value_unique otherBlank blank isOtherValue
            isValue (otherLater.delimited tail) (later.delimited rest) values
          rw [induction otherLater left.symm]

theorem IsObject.unique {members found : List Member}
    {object other rest tail : List Char} (isObject : IsObject members object)
    (isOther : IsObject found other) (same : object ++ rest = other ++ tail) :
    members = found := by
  obtain ⟨text, ahead, rfl⟩ := isObject_iff.mp isObject
  obtain ⟨otherText, otherAhead, rfl⟩ := isObject_iff.mp isOther
  simp only [List.cons_append, List.append_assoc, List.cons.injEq, true_and,
    List.nil_append] at same
  exact ahead.unique otherAhead same

/-! ## Running a plan -/

/-- A reader gets values out of what spells them, and out of nothing else.  It
gets them wherever no number can go on behind them. -/
structure Parses {α : Type} (reader : Reader α) (depth : Nat)
    (denotes : List Char → α → Prop) : Prop where
  isValue : ∀ {text : List Char} {value : α}, denotes text value → IsValue text
  taken : ∀ {cs rest : List Char} {value : α},
    reader depth cs = .ok (value, rest) →
      ∃ before text, Blanks before ∧ denotes text value ∧
        cs = before ++ (text ++ rest)
  result : ∀ {before text rest : List Char} {value : α}, Blanks before →
    denotes text value → Delimited rest →
      reader depth (before ++ (text ++ rest)) = .ok (value, rest)

theorem Parses.congr {α : Type} {reader : Reader α} {depth : Nat}
    {denotes others : List Char → α → Prop}
    (parses : Parses reader depth denotes)
    (same : ∀ text value, denotes text value ↔ others text value) :
    Parses reader depth others := by
  obtain rfl : denotes = others := by
    funext text value
    exact propext (same text value)
  exact parses

theorem Parses.into {α σ : Type} {reader : Reader α} {depth : Nat}
    {denotes : List Char → α → Prop} (parses : Parses reader depth denotes)
    (store : α → σ) :
    Parses (reader.into store) depth
      fun text stored =>
        ∃ value, denotes text value ∧ store value = stored where
  isValue := by
    rintro text _ ⟨value, said, _⟩
    exact parses.isValue said
  taken := by
    intro cs rest stored read
    obtain ⟨⟨value, _⟩, inner, ended⟩ := bind_eq_ok.mp read
    cases ended
    obtain ⟨before, text, blank, said, rfl⟩ := parses.taken inner
    exact ⟨before, text, blank, ⟨value, said, rfl⟩, rfl⟩
  result := by
    rintro before text rest _ blank ⟨value, said, rfl⟩ delimited
    exact bind_eq_ok.mpr ⟨_, parses.result blank said delimited, rfl⟩

theorem parses_stringAs (expected : String) (depth : Nat) :
    Parses (stringAs expected) depth fun text value =>
      ∃ content, Spells content value.toList ∧ text = quoted content where
  isValue := by
    rintro _ value ⟨content, spells, rfl⟩
    exact .string spells.isString
  taken := by
    intro cs rest value read
    obtain ⟨before, blank, split⟩ := exists_blanks cs
    unfold stringAs at read
    split at read
    · cases read
    · next stands =>
        obtain ⟨content, spells, rfl⟩ := stringBody_eq_ok_iff.mp read
        refine ⟨before, _, blank, ⟨content, spells, rfl⟩, ?_⟩
        rw [split, stands]
        simp [quoted]
    · exact absurd read mismatch_ne_ok
  result := by
    rintro before _ rest value blank ⟨content, spells, rfl⟩ _
    have text : before ++ (quoted content ++ rest) =
        before ++ '"' :: (content ++ '"' :: rest) := by
      simp [quoted]
    rw [text, stringAs, skipBlanks_blanks blank (by decide)]
    exact stringBody_eq_ok_iff.mpr ⟨content, spells, rfl⟩

theorem parses_string (depth : Nat) :
    Parses string depth fun text value =>
      ∃ content, Spells content value.toList ∧ text = quoted content :=
  parses_stringAs "a string" depth

section Plans

variable {σ : Type}

/-- What is done with the value of a member, in a given state, is what a
relation of values and next states says. -/
def MemberPlan.Obeys (depth : Nat) (state : σ)
    (does : List Char → σ → Prop) : MemberPlan σ → Prop
  | .skip => ∀ value next, does value next ↔ IsValue value ∧ next = state
  | .refuse _ => ∀ value next, ¬does value next
  | .read reader => Parses reader depth does

/-- What is done with the members of an object leads from one state to another
one.  Their names must be texts. -/
inductive Gathers (does : σ → String → List Char → σ → Prop) :
    σ → List Member → σ → Prop where
  | none (state : σ) : Gathers does state [] state
  | member {state next last : σ} {name : String} {member : Member}
      {others : List Member} (named : Spells member.name name.toList)
      (done : does state name member.value next)
      (later : Gathers does next others last) :
      Gathers does state (member :: others) last

variable {plan : σ → String → MemberPlan σ}
  {does : σ → String → List Char → σ → Prop} {depth fuel : Nat} {first : Bool}
  {state last : σ} {cs rest : List Char}

theorem Takes.exists_value {memberPlan : MemberPlan σ} {next : σ}
    {does : List Char → σ → Prop}
    (takes : Takes depth state memberPlan cs next rest)
    (obeys : memberPlan.Obeys depth state does) :
    ∃ before value, Blanks before ∧ IsValue value ∧ does value next ∧
      cs = before ++ (value ++ rest) := by
  cases takes with
  | skip skipped =>
      obtain ⟨before, value, blank, isValue, rfl⟩ :=
        isValue_of_skipValue skipped
      exact ⟨before, value, blank, isValue, (obeys _ _).mpr ⟨isValue, rfl⟩, rfl⟩
  | read reads =>
      obtain ⟨before, value, blank, done, rfl⟩ :=
        Parses.taken obeys reads
      exact ⟨before, value, blank, Parses.isValue obeys done, done, rfl⟩

theorem MemberPlan.Obeys.takes {memberPlan : MemberPlan σ} {next : σ}
    {does : List Char → σ → Prop} {before value : List Char}
    (obeys : memberPlan.Obeys depth state does) (done : does value next)
    (blank : Blanks before) (delimited : Delimited rest) :
    Takes depth state memberPlan (before ++ (value ++ rest)) next rest := by
  cases memberPlan with
  | skip =>
      obtain ⟨isValue, rfl⟩ := (obeys _ _).mp done
      exact .skip (skipValue_of_isValue blank isValue delimited)
  | refuse cause => exact absurd done (obeys _ _)
  | read reader =>
      exact .read (Parses.result obeys blank done delimited)

section Obeying

variable (obeys : ∀ state name,
  (plan state name).Obeys depth state (does state name))

include obeys

/-- Each member takes a character at least, so the fuel lasts. -/
theorem gathers_of_membersFrom (fuel : Nat) :
    ∀ {first : Bool} {state last : σ} {cs rest : List Char},
      cs.length < fuel →
      membersFrom plan depth fuel first state cs = .ok (last, rest) →
        ∃ members text after, Ahead first members text ∧
          Gathers does state members last ∧ rest = '}' :: after ∧
          cs = text ++ '}' :: after := by
  induction fuel with
  | zero => exact fun short => absurd short (Nat.not_lt_zero _)
  | succ fuel induction =>
      intro first state last cs rest short read
      rcases membersFrom_eq_ok_iff.mp read with ⟨ended, rfl⟩ |
        ⟨_, name, after, value, next, tail, found, named, past, takes, later⟩
      · obtain ⟨before, after, blank, rfl, rfl⟩ := moreMembers_end_iff.mp ended
        exact ⟨[], before, after, .none blank, .none state, rfl, rfl⟩
      · obtain ⟨lead, body, leads, rfl, rfl⟩ := moreMembers_more_iff.mp found
        obtain ⟨content, spells, rfl⟩ := stringBody_eq_ok_iff.mp named
        obtain ⟨between, betweenBlank, rfl⟩ := colon_eq_ok_iff.mp past
        obtain ⟨before, item, blank, isValue, done, rfl⟩ :=
          takes.exists_value (obeys state name)
        simp only [List.length_append, List.length_cons] at short
        obtain ⟨others, text, after, ahead, gathers, rfl, rfl⟩ :=
          induction (by omega) later
        exact ⟨⟨content, item⟩ :: others, _, after,
          .member leads spells.isString betweenBlank blank isValue ahead,
          .member spells done gathers, rfl, by simp⟩

theorem membersFrom_of_gathers {members : List Member}
    (gathers : Gathers does state members last) :
    ∀ {fuel : Nat} {first : Bool} {text : List Char} (after : List Char),
      Ahead first members text → (text ++ '}' :: after).length < fuel →
        membersFrom plan depth fuel first state (text ++ '}' :: after) =
          .ok (last, '}' :: after) := by
  induction gathers with
  | none state =>
      intro fuel first text after ahead enough
      obtain ⟨fuel, rfl, _⟩ := exists_fuel_behind text enough
      cases ahead with
      | none blank =>
          exact membersFrom_eq_ok_iff.mpr (.inl
            ⟨moreMembers_end_iff.mpr ⟨_, after, blank, rfl, rfl⟩, rfl⟩)
  | @member state next last name _ others named done _ induction =>
      intro fuel first _ after ahead enough
      obtain ⟨fuel, rfl, _⟩ := exists_fuel_behind _ enough
      cases ahead with
      | @member _ _ lead content between before value text leads _
          betweenBlank blank _ later =>
          rw [member_append] at enough ⊢
          simp only [List.length_append, List.length_cons] at enough
          refine membersFrom_eq_ok_iff.mpr (.inr ⟨_, name, _, _, next, _,
            moreMembers_more_iff.mpr ⟨lead, _, leads, rfl, rfl⟩,
            stringBody_eq_ok_iff.mpr ⟨content, named, rfl⟩,
            colon_eq_ok_iff.mpr ⟨between, betweenBlank, rfl⟩,
            (obeys state name).takes done blank (later.delimited after), ?_⟩)
          refine induction after later ?_
          simp only [List.length_append, List.length_cons]
          omega

theorem members_eq_ok_iff :
    members plan state depth cs = .ok (last, rest) ↔
      ∃ members text after, Ahead true members text ∧
        Gathers does state members last ∧ rest = '}' :: after ∧
        cs = text ++ '}' :: after := by
  constructor
  · exact gathers_of_membersFrom obeys _ (Nat.lt_succ_self _)
  · rintro ⟨found, text, after, ahead, gathers, rfl, rfl⟩
    exact membersFrom_of_gathers obeys gathers after ahead (Nat.lt_succ_self _)

end Obeying

end Plans

/-! ## Brackets -/

section Brackets

variable {α : Type} {cs rest : List Char} {value : α}

theorem closeList_eq_none_iff :
    closeList cs = (none, rest) ↔
      ∃ before, Blanks before ∧ cs = before ++ ']' :: rest := by
  constructor
  · intro closed
    obtain ⟨before, blank, split⟩ := exists_blanks cs
    unfold closeList at closed
    split at closed
    · cases closed
    · next stands =>
        cases closed
        exact ⟨before, blank, by rw [← stands, ← split]⟩
    · split at closed
      all_goals cases closed
    · cases closed
  · rintro ⟨before, blank, rfl⟩
    rw [closeList, skipBlanks_blanks blank (by decide)]
    rfl

theorem nested_eq_ok_iff {close : List Char → Option Fault × List Char}
    {contents : Reader α} {depth : Nat} {bracket : Char} :
    nested close contents depth (bracket :: cs) = .ok (value, rest) ↔
      1 < depth ∧ ∃ inner, contents (depth - 1) cs = .ok (value, inner) ∧
        close inner = (none, rest) := by
  constructor
  · intro read
    unfold nested at read
    split at read
    · cases read
    · next deep =>
        obtain ⟨inner, contained, closed⟩ := enclosed_eq_ok_iff.mp read
        exact ⟨Nat.lt_of_not_le deep, inner, contained, closed⟩
  · rintro ⟨deep, inner, contained, closed⟩
    rw [nested, if_neg (Nat.not_le_of_lt deep)]
    exact enclosed_eq_ok_iff.mpr ⟨inner, contained, closed⟩

theorem container_eq_ok_iff {expected : String}
    {ofList ofObject : Option (Reader α)} {depth : Nat} :
    container expected ofList ofObject depth cs = .ok (value, rest) ↔
      ∃ before inside, Blanks before ∧
        ((∃ contents, ofList = some contents ∧
            nested closeList contents depth ('[' :: inside) =
              .ok (value, rest) ∧
            cs = before ++ '[' :: inside) ∨
          (∃ contents, ofObject = some contents ∧
            nested closeObject contents depth ('{' :: inside) =
              .ok (value, rest) ∧
            cs = before ++ '{' :: inside)) := by
  constructor
  · intro read
    obtain ⟨before, blank, split⟩ := exists_blanks cs
    unfold container at read
    split at read
    · cases read
    · next stands =>
        split at read
        · exact ⟨before, _, blank, .inl
            ⟨_, rfl, read, by rw [← stands, ← split]⟩⟩
        · exact absurd read mismatch_ne_ok
    · next stands =>
        split at read
        · exact ⟨before, _, blank, .inr
            ⟨_, rfl, read, by rw [← stands, ← split]⟩⟩
        · exact absurd read mismatch_ne_ok
    · exact absurd read mismatch_ne_ok
  · rintro ⟨before, inside, blank,
      ⟨contents, rfl, read, rfl⟩ | ⟨contents, rfl, read, rfl⟩⟩
    · rw [container, skipBlanks_blanks blank (by decide)]
      exact read
    · rw [container, skipBlanks_blanks blank (by decide)]
      exact read

theorem readText_eq_ok_iff {reader : Reader α} {text : String} :
    readText reader text = .ok value ↔
      ∃ rest, Blanks rest ∧
        reader depthLimit text.toList = .ok (value, rest) := by
  constructor
  · intro read
    unfold readText at read
    split at read
    · cases read
    · next rest accepted =>
        split at read
        · next ended =>
            cases read
            exact ⟨rest, skipBlanks_eq_nil_iff.mp ended, accepted⟩
        · cases read
  · rintro ⟨rest, blank, accepted⟩
    simp only [readText, accepted, skipBlanks_eq_nil_iff.mpr blank]

end Brackets

end OperatorConsole.Json
