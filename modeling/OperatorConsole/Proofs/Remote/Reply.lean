import OperatorConsole.Proofs.Json.Lists
import OperatorConsole.Proofs.Text.Trim
import OperatorConsole.Remote.Reply

/-!
# What a reply says

A body is an answer if it is an object whose members have texts for names and
of which exactly one is named `text`, with a string for its value.  Apart from
that, a list with a string as its only item is an answer, too.
-/

namespace OperatorConsole.Remote

open Json

/-- The body is an object with these members. -/
def HasMembers (body : String) (members : List Member) : Prop :=
  ∃ object, IsObject members object ∧ Padded object body.toList

/-- Exactly one member is named `text`, and its value is a string for this
text. -/
inductive Tells : List Member → String → Prop where
  | only {before after : List Member} {name content : List Char}
      {text : String} (named : Spells name "text".toList)
      (spells : Spells content text.toList)
      (sole : ∀ other ∈ before ++ after, ¬Spells other.name "text".toList) :
      Tells (before ++ ⟨name, quoted content⟩ :: after) text

/-- The names of members are texts, without surrogates that are not in pairs. -/
def Named (members : List Member) : Prop :=
  ∀ member ∈ members, ∃ name, Spells member.name name

instance (members : List Member) : Decidable (Named members) :=
  inferInstanceAs
    (Decidable (∀ member ∈ members, ∃ name, Spells member.name name))

/-- The body is a list whose only item is a string for this text. -/
def IsSoleItem (body text : String) : Prop :=
  ∃ content item, Spells content text.toList ∧ Padded (quoted content) item ∧
    Padded ('[' :: (item ++ [']'])) body.toList

/-! ## Members -/

/-- What a member does to the text that has been found so far. -/
inductive Finds :
    Option String → String → List Char → Option String → Prop where
  | other {found : Option String} {name : String} {value : List Char}
      (different : name ≠ "text") (isValue : IsValue value) :
      Finds found name value found
  | text {content : List Char} {text : String}
      (spells : Spells content text.toList) :
      Finds none "text" (quoted content) (some text)

/-- The plan of a reply. -/
def textPlan (found : Option String) (name : String) :
    MemberPlan (Option String) :=
  if name = "text" then once name found string some else .skip

theorem textPlan_obeys (depth : Nat) (found : Option String) (name : String) :
    (textPlan found name).Obeys depth found (Finds found name) := by
  unfold textPlan
  split
  · next same =>
      subst same
      cases found with
      | some text =>
          intro value next finds
          cases finds with
          | other different _ => exact different rfl
      | none =>
          refine ((parses_string depth).into some).congr ?_
          intro value next
          constructor
          · rintro ⟨text, ⟨content, spells, rfl⟩, rfl⟩
            exact .text spells
          · intro finds
            cases finds with
            | other different _ => exact absurd rfl different
            | text spells => exact ⟨_, ⟨_, spells, rfl⟩, rfl⟩
  · next different =>
      intro value next
      constructor
      · intro finds
        cases finds with
        | other _ isValue => exact ⟨isValue, rfl⟩
        | text _ => exact absurd rfl different
      · rintro ⟨isValue, rfl⟩
        exact .other different isValue

/-- A member with another name. -/
def IsOther (member : Member) : Prop :=
  ∃ name, Spells member.name name ∧ name ≠ "text".toList

theorem IsOther.named {member : Member} (isOther : IsOther member) :
    ∃ name, Spells member.name name := by
  obtain ⟨name, spells, _⟩ := isOther
  exact ⟨name, spells⟩

theorem IsOther.notNamed {member : Member} (isOther : IsOther member) :
    ¬Spells member.name "text".toList := by
  obtain ⟨name, spells, different⟩ := isOther
  exact fun named => different (spells.unique named)

section Gathering

variable {members others : List Member} {found last : Option String}
  {text : String}

theorem gathers_past (areOther : ∀ member ∈ members, IsOther member)
    (areValues : ∀ member ∈ members, IsValue member.value)
    (gathers : Gathers Finds found others last) :
    Gathers Finds found (members ++ others) last := by
  induction members with
  | nil => exact gathers
  | cons member members induction =>
      obtain ⟨name, spells, different⟩ := areOther member List.mem_cons_self
      have later := induction
        (fun other isIn => areOther other (List.mem_cons_of_mem _ isIn))
        (fun other isIn => areValues other (List.mem_cons_of_mem _ isIn))
      have notText : String.ofList name ≠ "text" := by
        intro same
        exact different (by rw [← same, String.toList_ofList])
      have named : Spells member.name (String.ofList name).toList := by
        rwa [String.toList_ofList]
      exact .member named
        (.other notText (areValues member List.mem_cons_self)) later

/-- After the text, only other members are taken. -/
theorem areOther_of_gathers
    (gathers : Gathers Finds (some text) members last) :
    last = some text ∧ ∀ member ∈ members, IsOther member := by
  generalize same : some text = found at gathers
  induction gathers with
  | none =>
      subst same
      exact ⟨rfl, fun _ isIn => by cases isIn⟩
  | @member _ _ _ _ member _ named done _ induction =>
      obtain ⟨spelled, value⟩ := member
      cases done with
      | text => cases same
      | other different _ =>
          obtain ⟨ended, areOther⟩ := induction same
          refine ⟨ended, List.forall_mem_cons.mpr ⟨⟨_, named, ?_⟩, areOther⟩⟩
          exact fun equal => different (String.toList_inj.mp equal)

theorem exists_text_of_gathers
    (gathers : Gathers Finds none members (some text)) :
    ∃ before name content after,
      members = before ++ ⟨name, quoted content⟩ :: after ∧
      Spells name "text".toList ∧ Spells content text.toList ∧
      ∀ other ∈ before ++ after, IsOther other := by
  generalize start : none = found at gathers
  generalize ending : some text = last at gathers
  induction gathers with
  | none =>
      subst start
      cases ending
  | @member _ _ _ _ member others named done later induction =>
      obtain ⟨spelled, value⟩ := member
      cases done with
      | text spells =>
          subst ending
          obtain ⟨same, areOther⟩ := areOther_of_gathers later
          cases same
          exact ⟨[], spelled, _, others, rfl, named, spells, areOther⟩
      | other different _ =>
          obtain ⟨before, name, content, after, rfl, isText, spells,
            areOther⟩ := induction start ending
          refine ⟨⟨spelled, value⟩ :: before, name, content, after, rfl,
            isText, spells, ?_⟩
          refine List.forall_mem_cons.mpr ⟨⟨_, named, ?_⟩, areOther⟩
          exact fun equal => different (String.toList_inj.mp equal)

theorem gathers_text_iff
    (areValues : ∀ member ∈ members, IsValue member.value) :
    Gathers Finds none members (some text) ↔
      Tells members text ∧ Named members := by
  constructor
  · intro gathers
    obtain ⟨before, name, content, after, rfl, isText, spells, areOther⟩ :=
      exists_text_of_gathers gathers
    have sole : ∀ other ∈ before ++ after, ¬Spells other.name "text".toList :=
      fun other isIn => (areOther other isIn).notNamed
    refine ⟨.only isText spells sole, ?_⟩
    intro member isIn
    rcases List.mem_append.mp isIn with inFront | inBack
    · exact (areOther member (List.mem_append_left _ inFront)).named
    · rcases List.mem_cons.mp inBack with rfl | later
      · exact ⟨_, isText⟩
      · exact (areOther member (List.mem_append_right _ later)).named
  · rintro ⟨tells, named⟩
    cases tells with
    | @only before after name content _ isText spells sole =>
        have areOther : ∀ other ∈ before ++ after, IsOther other := by
          intro other isIn
          have within : other ∈ before ++ ⟨name, quoted content⟩ :: after :=
            List.mem_append.mpr ((List.mem_append.mp isIn).imp_right
              (List.mem_cons_of_mem _))
          obtain ⟨spelled, spells⟩ := named other within
          refine ⟨spelled, spells, ?_⟩
          rintro rfl
          exact sole other isIn spells
        obtain ⟨front, back⟩ := List.forall_mem_append.mp areOther
        obtain ⟨frontValues, values⟩ := List.forall_mem_append.mp areValues
        have behind := gathers_past back (List.forall_mem_cons.mp values).2
          (.none (some text))
        rw [List.append_nil] at behind
        exact gathers_past front frontValues
          (.member isText (.text spells) behind)

end Gathering

/-! ## Bodies -/

section Bodies

variable {depth : Nat} {cs rest : List Char} {body text : String}

theorem replyMembers_eq_ok_iff :
    replyMembers depth cs = .ok (text, rest) ↔
      ∃ members content after, Ahead true members content ∧
        (Tells members text ∧ Named members) ∧ rest = '}' :: after ∧
        cs = content ++ '}' :: after := by
  constructor
  · intro read
    obtain ⟨⟨found, tail⟩, gathered, goesOn⟩ := bind_eq_ok.mp read
    obtain ⟨present, needed, ended⟩ := bind_eq_ok.mp goesOn
    cases ended
    cases found with
    | none => cases needed
    | some found =>
        cases needed
        obtain ⟨members, content, after, ahead, gathers, rfl, rfl⟩ :=
          (members_eq_ok_iff (textPlan_obeys depth)).mp gathered
        exact ⟨members, content, after, ahead,
          (gathers_text_iff ahead.areValues).mp gathers, rfl, rfl⟩
  · rintro ⟨members, content, after, ahead, tells, rfl, rfl⟩
    have gathers := (gathers_text_iff ahead.areValues).mpr tells
    have gathered := (members_eq_ok_iff (textPlan_obeys depth)).mpr
      ⟨members, content, after, ahead, gathers, rfl, rfl⟩
    exact bind_eq_ok.mpr ⟨_, gathered, rfl⟩

theorem replyItems_eq_ok_iff (delimited : Delimited rest) :
    replyItems depth cs = .ok (text, rest) ↔
      ∃ before content, Blanks before ∧ Spells content text.toList ∧
        cs = before ++ (quoted content ++ rest) := by
  rw [replyItems, itemAt_zero_eq_ok_iff (parses_string depth) delimited]
  constructor
  · rintro ⟨before, _, blank, ⟨content, spells, rfl⟩, rfl⟩
    exact ⟨before, content, blank, spells, rfl⟩
  · rintro ⟨before, content, blank, spells, rfl⟩
    exact ⟨before, _, blank, ⟨content, spells, rfl⟩, rfl⟩

theorem replyList_eq_ok_iff (deep : 1 < depth) :
    nested closeList replyItems depth ('[' :: cs) = .ok (text, rest) ↔
      ∃ content item, Spells content text.toList ∧
        Padded (quoted content) item ∧ cs = item ++ ']' :: rest := by
  rw [nested_eq_ok_iff]
  constructor
  · rintro ⟨_, inner, items, closed⟩
    obtain ⟨after, afterBlank, rfl⟩ := closeList_eq_none_iff.mp closed
    obtain ⟨before, content, blank, spells, rfl⟩ :=
      (replyItems_eq_ok_iff (afterBlank.delimited_mark (.inr (.inl rfl)) _)).mp
          items
    exact ⟨content, _, spells, .of_blanks blank afterBlank _, by simp⟩
  · rintro ⟨content, _, spells, ⟨before, after, blank, afterBlank, rfl⟩, rfl⟩
    have delimited := afterBlank.delimited_mark (.inr (.inl rfl)) rest
    refine ⟨deep, after ++ ']' :: rest, (replyItems_eq_ok_iff delimited).mpr
      ⟨before, content, blank, spells, by simp⟩, ?_⟩
    exact closeList_eq_none_iff.mpr ⟨after, afterBlank, rfl⟩

theorem replyObject_eq_ok_iff (deep : 1 < depth) :
    nested closeObject replyMembers depth ('{' :: cs) = .ok (text, rest) ↔
      ∃ members content, Ahead true members content ∧
        (Tells members text ∧ Named members) ∧
        cs = content ++ '}' :: rest := by
  rw [nested_eq_ok_iff]
  constructor
  · rintro ⟨_, inner, contained, closed⟩
    obtain ⟨members, content, after, ahead, tells, rfl, rfl⟩ :=
      replyMembers_eq_ok_iff.mp contained
    -- the closing brace is next, so nothing is skipped before it
    obtain rfl : after = rest := congrArg Prod.snd closed
    exact ⟨members, content, ahead, tells, rfl⟩
  · rintro ⟨members, content, ahead, tells, rfl⟩
    exact ⟨deep, '}' :: rest, replyMembers_eq_ok_iff.mpr
      ⟨members, content, rest, ahead, tells, rfl, rfl⟩, rfl⟩

/-- The bodies that are read. -/
theorem readText_replyReader_iff :
    readText replyReader body = .ok text ↔
      (∃ members, HasMembers body members ∧ Tells members text ∧
          Named members) ∨ IsSoleItem body text := by
  have deep : 1 < depthLimit := by decide
  rw [readText_eq_ok_iff]
  constructor
  · rintro ⟨rest, blank, read⟩
    obtain ⟨before, inside, frontBlank, ⟨_, chosen, list, same⟩ |
      ⟨_, chosen, object, same⟩⟩ := container_eq_ok_iff.mp read
    · cases chosen
      obtain ⟨content, item, spells, padded, rfl⟩ :=
        (replyList_eq_ok_iff deep).mp list
      exact .inr ⟨content, item, spells, padded, before, rest, frontBlank,
        blank, by simp [same]⟩
    · cases chosen
      obtain ⟨members, content, ahead, tells, rfl⟩ :=
        (replyObject_eq_ok_iff deep).mp object
      exact .inl ⟨members, ⟨_, isObject_iff.mpr ⟨content, ahead, rfl⟩, before,
        rest, frontBlank, blank, by simp [same]⟩, tells⟩
  · rintro (⟨members, ⟨_, isObject, before, rest, frontBlank, blank, same⟩,
        tells⟩ |
      ⟨content, item, spells, padded, before, rest, frontBlank, blank, same⟩)
    · obtain ⟨content, ahead, rfl⟩ := isObject_iff.mp isObject
      refine ⟨rest, blank, container_eq_ok_iff.mpr
        ⟨before, content ++ '}' :: rest, frontBlank,
          .inr ⟨_, rfl, ?_, ?_⟩⟩⟩
      · exact (replyObject_eq_ok_iff deep).mpr
          ⟨members, content, ahead, tells, rfl⟩
      · simp [same]
    · refine ⟨rest, blank, container_eq_ok_iff.mpr
        ⟨before, item ++ ']' :: rest, frontBlank, .inl ⟨_, rfl, ?_, ?_⟩⟩⟩
      · exact (replyList_eq_ok_iff deep).mpr
          ⟨content, item, spells, padded, rfl⟩
      · simp [same]

theorem HasMembers.unique {members others : List Member}
    (has : HasMembers body members) (hasOthers : HasMembers body others) :
    members = others := by
  obtain ⟨_, isObject, padded⟩ := has
  obtain ⟨_, isOther, otherPadded⟩ := hasOthers
  obtain ⟨more, rfl⟩ := isObject.begins
  obtain ⟨rest, rfl⟩ := isOther.begins
  obtain ⟨after, skipped⟩ := padded.exists_skipBlanks (by decide)
  obtain ⟨trail, otherSkipped⟩ := otherPadded.exists_skipBlanks (by decide)
  exact isObject.unique isOther (skipped.symm.trans otherSkipped)

end Bodies

/-! ## Outcomes -/

/-- A text is the start of a body, up to 200 characters, without the blanks at
the ends of the body. -/
def IsExcerpt (body text : String) : Prop :=
  ∃ lead core trail, Text.AllBlank lead ∧ Text.AllBlank trail ∧
    Text.IsTrimmed core ∧ body.toList = lead ++ core ++ trail ∧
    text.toList = core.take 200

/-- A body is reported as one that is no reply. -/
def IsReported (status : Nat) (body : String) : Prop :=
  if 200 ≤ status ∧ status < 300 then
    ∃ detail, outcomeOf status body = .error (.decode detail)
  else
    ∃ text, IsExcerpt body text ∧
      outcomeOf status body = .error (.status status text)

section Outcomes

variable {status : Nat} {body text : String}

theorem isSuccess_iff :
    isSuccess status = true ↔ 200 ≤ status ∧ status < 300 := by
  simp [isSuccess]

theorem isExcerpt_excerpt (body : String) : IsExcerpt body (excerpt body) := by
  obtain ⟨lead, trail, leadBlank, trailBlank, split⟩ :=
    Text.exists_blanks_around body.toList
  exact ⟨lead, _, trail, leadBlank, trailBlank, Text.isTrimmed_trimChars _,
    split, String.toList_ofList⟩

theorem outcomeOf_of_read (read : readText replyReader body = .ok text) :
    outcomeOf status body =
      if 200 ≤ status ∧ status < 300 then .ok text
      else .error (.status status text) := by
  simp only [outcomeOf, read, isSuccess_iff]

/-- A body is read, or it is reported. -/
theorem read_or_isReported (status : Nat) (body : String) :
    (∃ text, readText replyReader body = .ok text) ∨
      IsReported status body := by
  unfold IsReported outcomeOf
  cases readText replyReader body with
  | ok text => exact .inl ⟨text, rfl⟩
  | error error =>
      simp only [isSuccess_iff]
      split
      · exact .inr ⟨error.message, rfl⟩
      · exact .inr ⟨excerpt body, isExcerpt_excerpt body, rfl⟩

theorem isReported_of_unread
    (unread : ∀ text, readText replyReader body ≠ .ok text) (status : Nat) :
    IsReported status body := by
  rcases read_or_isReported status body with ⟨text, read⟩ | reported
  · exact absurd read (unread text)
  · exact reported

theorem isText_of_read (read : readText replyReader body = .ok text) :
    IsText body.toList := by
  rcases readText_replyReader_iff.mp read with
    ⟨members, ⟨object, isObject, padded⟩, _⟩ |
    ⟨content, item, spells, inner, outer⟩
  · exact ⟨object, .object isObject, padded⟩
  · exact ⟨_, .list (.last (.string spells.isString) inner), outer⟩

theorem not_isSoleItem_of_hasMembers {members : List Member}
    (has : HasMembers body members) : ¬IsSoleItem body text := by
  rintro ⟨content, item, _, _, listPadded⟩
  obtain ⟨_, isObject, padded⟩ := has
  obtain ⟨more, rfl⟩ := isObject.begins
  obtain ⟨after, skipped⟩ := padded.exists_skipBlanks (by decide)
  obtain ⟨trail, listSkipped⟩ := listPadded.exists_skipBlanks (by decide)
  cases skipped.symm.trans listSkipped

/-- With a status of success, a body is an answer or malformed. -/
theorem answer_or_malformed (success : 200 ≤ status ∧ status < 300)
    (body : String) :
    (∃ text, outcomeOf status body = .ok text) ∨
      ∃ detail, outcomeOf status body = .error (.decode detail) := by
  rcases read_or_isReported status body with ⟨text, read⟩ | reported
  · exact .inl ⟨text, (outcomeOf_of_read read).trans (if_pos success)⟩
  · rw [IsReported, if_pos success] at reported
    exact .inr reported

/-- With any other status, the status is reported with a text. -/
theorem status_reported (failure : ¬(200 ≤ status ∧ status < 300))
    (body : String) :
    ∃ text, outcomeOf status body = .error (.status status text) := by
  rcases read_or_isReported status body with ⟨text, read⟩ | reported
  · exact ⟨text, (outcomeOf_of_read read).trans (if_neg failure)⟩
  · rw [IsReported, if_neg failure] at reported
    obtain ⟨text, _, outcome⟩ := reported
    exact ⟨text, outcome⟩

theorem success_iff :
    (200 ≤ status ∧ status < 300) ↔
      (∃ text, outcomeOf status body = .ok text) ∨
        ∃ detail, outcomeOf status body = .error (.decode detail) := by
  constructor
  · exact fun success => answer_or_malformed success body
  · intro outcome
    by_cases success : 200 ≤ status ∧ status < 300
    · exact success
    · obtain ⟨text, reported⟩ := status_reported success body
      rw [reported] at outcome
      rcases outcome with ⟨_, same⟩ | ⟨_, same⟩
      · cases same
      · cases same

theorem failure_iff :
    ¬(200 ≤ status ∧ status < 300) ↔
      ∃ code text, outcomeOf status body = .error (.status code text) := by
  constructor
  · intro failure
    obtain ⟨text, reported⟩ := status_reported failure body
    exact ⟨status, text, reported⟩
  · rintro ⟨code, text, reported⟩ success
    rcases answer_or_malformed success body with ⟨_, same⟩ | ⟨_, same⟩
    · cases reported.symm.trans same
    · cases reported.symm.trans same

theorem outcomeOf_eq_ok_iff :
    outcomeOf status body = .ok text ↔
      (200 ≤ status ∧ status < 300) ∧ readText replyReader body = .ok text := by
  constructor
  · intro answered
    have success := success_iff.mpr (.inl ⟨text, answered⟩)
    refine ⟨success, ?_⟩
    rcases read_or_isReported status body with ⟨told, read⟩ | reported
    · have outcome := (outcomeOf_of_read read).trans (if_pos success)
      cases answered.symm.trans outcome
      exact read
    · rw [IsReported, if_pos success] at reported
      obtain ⟨detail, outcome⟩ := reported
      cases answered.symm.trans outcome
  · rintro ⟨success, read⟩
    exact (outcomeOf_of_read read).trans (if_pos success)

end Outcomes

/-- An object that tells a text is passed on as that text, and what is no JSON,
or has a name that is no text, is reported.  The status alone decides whether
that is a success or a failure. -/
theorem outcome_of_told_text (status : Nat) (body : String) :
    (∀ members text, HasMembers body members → Tells members text →
        Named members →
        outcomeOf status body =
          if 200 ≤ status ∧ status < 300 then .ok text
          else .error (.status status text)) ∧
      (¬IsText body.toList → IsReported status body) ∧
      (∀ members, HasMembers body members → ¬Named members →
        IsReported status body) ∧
      ((200 ≤ status ∧ status < 300) ↔
        (∃ text, outcomeOf status body = .ok text) ∨
          ∃ detail, outcomeOf status body = .error (.decode detail)) ∧
      (¬(200 ≤ status ∧ status < 300) ↔
        ∃ code text,
          outcomeOf status body = .error (.status code text)) := by
  refine ⟨?told, ?noText, ?unnamed, success_iff, failure_iff⟩
  case told =>
    intro members text has tells named
    exact outcomeOf_of_read
      (readText_replyReader_iff.mpr (.inl ⟨members, has, tells, named⟩))
  case noText =>
    intro notText
    refine isReported_of_unread ?_ _
    exact fun text read => notText (isText_of_read read)
  case unnamed =>
    intro members has notNamed
    refine isReported_of_unread ?_ _
    intro text read
    rcases readText_replyReader_iff.mp read with
      ⟨others, hasOthers, _, named⟩ | sole
    · rw [has.unique hasOthers] at notNamed
      exact notNamed named
    · exact not_isSoleItem_of_hasMembers has sole

/-- A reply with blanks, escapes and another member that is nested. -/
def escapedReply : String :=
  " " ++ braced ("\"x\":[1," ++ braced "\"\":\"\\ud800\"" ++ "] ," ++
    "\t\"\\u0074ext\" :\"\\ud83d\\ude00\\n\"")

theorem escaped_text_told :
    (∃ members, HasMembers escapedReply members ∧ Tells members "😀\n" ∧
      Named members ∧
      outcomeOf 404 escapedReply = .error (.status 404 "😀\n")) ∧
    (¬IsText "Bad Gateway\n".toList ∧ IsReported 502 "Bad Gateway\n") ∧
    (∃ members, HasMembers (braced "\"\\ud800\":1") members ∧
      ¬Named members ∧ IsReported 200 (braced "\"\\ud800\":1")) := by
  refine ⟨?told, ?noText, ?unnamed⟩
  case told =>
    let other : Member := ⟨"x".toList,
      ("[1," ++ braced "\"\":\"\\ud800\"" ++ "]").toList⟩
    let text : Member :=
      ⟨"\\u0074ext".toList, quoted "\\ud83d\\ude00\\n".toList⟩
    have space : Blanks [' '] := by decide
    have tab : Blanks ['\t'] := by decide
    have has : HasMembers escapedReply [other, text] :=
      ⟨_, .members (.more (by decide) (.of_blanks blanks_nil blanks_nil _)
          (by decide) (.of_blanks blanks_nil space _)
          (.last (by decide) (.of_blanks tab space _)
            (by decide) (.of_blanks blanks_nil blanks_nil _))),
        [' '], [], space, blanks_nil, by decide⟩
    have tells : Tells [other, text] "😀\n" := by
      change Tells ([other] ++ text :: []) "😀\n"
      exact .only (by decide) (by decide) (by decide)
    have named : Named [other, text] := by decide
    exact ⟨_, has, tells, named,
      (outcome_of_told_text 404 _).1 _ _ has tells named⟩
  case noText =>
    have notText : ¬IsText "Bad Gateway\n".toList := by decide
    exact ⟨notText, (outcome_of_told_text 502 _).2.1 notText⟩
  case unnamed =>
    let unpaired : Member := ⟨"\\ud800".toList, "1".toList⟩
    have has : HasMembers (braced "\"\\ud800\":1") [unpaired] :=
      ⟨_, .members (.last (by decide) (.of_blanks blanks_nil blanks_nil _)
          (by decide) (.of_blanks blanks_nil blanks_nil _)),
        [], [], blanks_nil, blanks_nil, by decide⟩
    have notNamed : ¬Named [unpaired] := by decide
    exact ⟨_, has, notNamed,
      (outcome_of_told_text 200 _).2.2.1 _ has notNamed⟩

/-- A name that is an unpaired surrogate is a string of JSON, but no text. -/
theorem unpaired_surrogate_malformed :
    ∃ members,
      HasMembers (braced "\"text\":\"a\",\"\\ud800\":1") members ∧
        Tells members "a" ∧
        outcomeOf 200 (braced "\"text\":\"a\",\"\\ud800\":1") ≠ .ok "a" := by
  refine ⟨[⟨"text".toList, quoted "a".toList⟩, ⟨"\\ud800".toList, "1".toList⟩],
    ⟨_, .members (.more (by decide)
      (.of_blanks blanks_nil blanks_nil _) (by decide)
      (.of_blanks blanks_nil blanks_nil _) (.last (by decide)
        (.of_blanks blanks_nil blanks_nil _) (by decide)
        (.of_blanks blanks_nil blanks_nil _))),
      [], [], blanks_nil, blanks_nil, by decide⟩, ?_, by decide⟩
  change Tells ([] ++ ⟨"text".toList, quoted "a".toList⟩ ::
    [⟨"\\ud800".toList, "1".toList⟩]) "a"
  exact .only (by decide) (by decide) (by decide)

/-- A text is an answer only with a status of success, and only if an object
tells it or it is the only item of a list; any other body is malformed then. -/
theorem answered_iff (status : Nat) (body : String) :
    (∀ text, outcomeOf status body = .ok text ↔
        (200 ≤ status ∧ status < 300) ∧
          ((∃ members, HasMembers body members ∧ Tells members text ∧
              Named members) ∨ IsSoleItem body text)) ∧
      (200 ≤ status ∧ status < 300 →
        (∀ text, ¬(∃ members, HasMembers body members ∧
            Tells members text ∧ Named members) ∧ ¬IsSoleItem body text) →
        ∃ detail, outcomeOf status body = .error (.decode detail)) := by
  constructor
  · intro text
    rw [outcomeOf_eq_ok_iff, readText_replyReader_iff]
  · intro success none
    rcases answer_or_malformed success body with ⟨text, answered⟩ | malformed
    · obtain ⟨_, read⟩ := outcomeOf_eq_ok_iff.mp answered
      rcases readText_replyReader_iff.mp read with told | sole
      · exact absurd told (none text).1
      · exact absurd sole (none text).2
    · exact malformed

/-- The only item of a list is taken for an answer, although there is no
object. -/
theorem sole_item_answered :
    outcomeOf 200 "[\"x\"]" = .ok "x" ∧
      ∀ members, ¬HasMembers "[\"x\"]" members := by
  have sole : IsSoleItem "[\"x\"]" "x" :=
    ⟨"x".toList, _, by decide, .of_blanks blanks_nil blanks_nil _,
      [], [], blanks_nil, blanks_nil, by decide⟩
  exact ⟨by decide, fun members has => not_isSoleItem_of_hasMembers has sole⟩

theorem two_items_malformed :
    (200 ≤ 204 ∧ 204 < 300) ∧
      (∀ text, ¬(∃ members, HasMembers "[\"x\",\"y\"]" members ∧
          Tells members text ∧ Named members) ∧
        ¬IsSoleItem "[\"x\",\"y\"]" text) ∧
      ∃ detail, outcomeOf 204 "[\"x\",\"y\"]" = .error (.decode detail) := by
  have success : 200 ≤ 204 ∧ 204 < 300 := by decide
  have none (text : String) :
      ¬(∃ members, HasMembers "[\"x\",\"y\"]" members ∧
          Tells members text ∧ Named members) ∧
        ¬IsSoleItem "[\"x\",\"y\"]" text := by
    have unread : readText replyReader "[\"x\",\"y\"]" ≠ .ok text := by
      have fails : (readText replyReader "[\"x\",\"y\"]").toOption = .none :=
        rfl
      intro read
      cases fails.symm.trans (toOption_eq_some_iff.mpr read)
    rw [ne_eq, readText_replyReader_iff, not_or] at unread
    exact unread
  exact ⟨success, none, (answered_iff 204 _).2 success none⟩

end OperatorConsole.Remote
