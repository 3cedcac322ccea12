import OperatorConsole.Proofs.Except
import OperatorConsole.Proofs.Text.AsciiCase
import OperatorConsole.Settings

/-!
# Variables that are accepted

Three variables can make an environment unusable: the URL of the front-end, the
name of a mode and a number of seconds.  Each of them is unset or is checked on
its own, in this order, and the first one that does not pass is named.  The
variables for paths are not checked.
-/

namespace OperatorConsole.Settings

/-! ## Seconds -/

/-- Decimal digits for a number, with a plus sign before them or without. -/
inductive IsDecimal : List Char → Nat → Prop where
  | bare {cs : List Char} (notEmpty : cs ≠ [])
      (areDigits : ∀ c ∈ cs, c.isDigit = true) :
      IsDecimal cs (Nat.ofDigitChars 10 cs 0)
  | plus {cs : List Char} (notEmpty : cs ≠ [])
      (areDigits : ∀ c ∈ cs, c.isDigit = true) :
      IsDecimal ('+' :: cs) (Nat.ofDigitChars 10 cs 0)

/-- The number that digits stand for. -/
def numberOf? (cs : List Char) : Option Nat :=
  if cs.isEmpty || !cs.all Char.isDigit then none
  else some (Nat.ofDigitChars 10 cs 0)

theorem foldl_eq_ofDigitChars (cs : List Char) (start : Nat) :
    cs.foldl (fun value c => value * 10 + (c.toNat - 0x30)) start =
      Nat.ofDigitChars 10 cs start := by
  induction cs generalizing start with
  | nil => rfl
  | cons c cs induction =>
      rw [List.foldl_cons, induction, Nat.ofDigitChars_cons, Nat.mul_comm]
      rfl

theorem numberOf?_eq_some_iff {cs : List Char} {number : Nat} :
    numberOf? cs = some number ↔
      cs ≠ [] ∧ (∀ c ∈ cs, c.isDigit = true) ∧
        Nat.ofDigitChars 10 cs 0 = number := by
  simp only [numberOf?, Option.ite_none_left_eq_some, Bool.or_eq_true,
    List.isEmpty_iff, Bool.not_eq_true', not_or, Bool.not_eq_false,
    List.all_eq_true, Option.some.injEq, and_assoc, ne_eq]

theorem secondsOf?_plus (cs : List Char) :
    secondsOf? ('+' :: cs) = numberOf? cs := by
  simp only [secondsOf?, numberOf?, foldl_eq_ofDigitChars]

theorem secondsOf?_bare {cs : List Char}
    (bare : ∀ rest, cs ≠ '+' :: rest) : secondsOf? cs = numberOf? cs := by
  unfold secondsOf?
  split
  · next rest => exact absurd rfl (bare rest)
  · simp only [numberOf?, foldl_eq_ofDigitChars]

theorem secondsOf?_eq_some_iff {cs : List Char} {seconds : Nat} :
    secondsOf? cs = some seconds ↔ IsDecimal cs seconds := by
  constructor
  · intro read
    by_cases signed : ∃ rest, cs = '+' :: rest
    · obtain ⟨rest, rfl⟩ := signed
      rw [secondsOf?_plus, numberOf?_eq_some_iff] at read
      obtain ⟨notEmpty, areDigits, rfl⟩ := read
      exact .plus notEmpty areDigits
    · rw [secondsOf?_bare (not_exists.mp signed),
        numberOf?_eq_some_iff] at read
      obtain ⟨notEmpty, areDigits, rfl⟩ := read
      exact .bare notEmpty areDigits
  · intro decimal
    cases decimal with
    | plus notEmpty areDigits =>
        rw [secondsOf?_plus]
        exact numberOf?_eq_some_iff.mpr ⟨notEmpty, areDigits, rfl⟩
    | bare notEmpty areDigits =>
        rw [secondsOf?_bare]
        · exact numberOf?_eq_some_iff.mpr ⟨notEmpty, areDigits, rfl⟩
        · rintro rest rfl
          have digit := areDigits '+' List.mem_cons_self
          revert digit
          decide

/-! ## Single variables -/

/-- The text of a URL. -/
def IsUrl (text : String) : Prop :=
  ∃ url, Url.ofText text = .ok url

/-- The name of a mode with blanks around it, in small or capital letters of
ASCII. -/
def IsModeName (text : String) (mode : RenderMode) : Prop :=
  Text.asciiLowercase (Text.trim text) = mode.name

/-- A number of seconds of 64 bits that is not zero, with blanks around it. -/
structure IsSeconds (text : String) (seconds : Nat) : Prop where
  decimal : IsDecimal (Text.trimChars text.toList) seconds
  positive : 1 ≤ seconds
  small : seconds < UInt64.size

theorem name_unshared (mode : RenderMode) :
    ∀ c ∈ mode.name.toList, Text.isUnshared c = true := by
  apply List.all_eq_true.mp
  cases mode with
  | append => decide
  | replace => decide

theorem ofText_eq_ok_iff {text : String} {mode : RenderMode} :
    RenderMode.ofText text = .ok mode ↔ IsModeName text mode := by
  rw [IsModeName, ← Text.lowercase_eq_iff (name_unshared mode)]
  simp only [RenderMode.ofText, beq_iff_eq]
  constructor
  · intro read
    split at read
    · next same =>
        cases read
        exact same
    · split at read
      · next same =>
          cases read
          exact same
      · cases read
  · intro same
    rw [same]
    cases mode with
    | append => rfl
    | replace => rfl

theorem timeoutOf_eq_ok_iff {text : String} {seconds : Nat} :
    timeoutOf (some text) = .ok seconds ↔ IsSeconds text seconds := by
  constructor
  · intro read
    unfold timeoutOf at read
    dsimp only at read
    split at read
    · cases read
    · next found =>
        split at read
        · next within =>
            cases read
            exact ⟨secondsOf?_eq_some_iff.mp found, within.1,
              Nat.lt_succ_of_le within.2⟩
        · cases read
  · intro named
    have found := secondsOf?_eq_some_iff.mpr named.decimal
    simp only [timeoutOf, found]
    exact if_pos ⟨named.positive, Nat.le_of_lt_succ named.small⟩

theorem defaultUrl_isUrl : IsUrl defaultUrl :=
  exists_eq_ok (by decide +kernel)

theorem urlOf_eq_ok_iff {asked : Option String} {base : Url} :
    urlOf asked = .ok base ↔
      Url.ofText (asked.getD defaultUrl) = .ok base :=
  mapError_eq_ok (f := Fault.url (asked.getD defaultUrl))

theorem modeOf_eq_ok_iff {text : String} {mode : RenderMode} :
    modeOf (some text) = .ok mode ↔ IsModeName text mode := by
  simp only [modeOf, mapError_eq_ok, ofText_eq_ok_iff]

/-! ## What is named -/

/-- The first message of a fault says which variable is wrong. -/
def Fault.Names (fault : Fault) (name : String) : Prop :=
  ∃ more, fault.chain.head? = some ("Invalid " ++ name ++ more) ∧
    (more = "" ∨ more.toList.head? = some ' ')

section Names

variable {asked : Option String} {fault : Fault}

theorem names_of_urlOf (failed : urlOf asked = .error fault) :
    fault.Names "ITISADB_CONSOLE_URL" := by
  obtain ⟨detail, _, rfl⟩ := mapError_eq_error.mp failed
  refine ⟨" " ++ Text.quote (asked.getD defaultUrl), ?_, .inr (by simp)⟩
  rw [← String.append_assoc]
  rfl

theorem names_of_modeOf (failed : modeOf asked = .error fault) :
    fault.Names "ITISADB_CONSOLE_RENDER" := by
  unfold modeOf at failed
  split at failed
  · cases failed
  · obtain ⟨word, _, rfl⟩ := mapError_eq_error.mp failed
    exact ⟨"", rfl, .inl rfl⟩

theorem names_of_timeoutOf (failed : timeoutOf asked = .error fault) :
    fault.Names "ITISADB_CONSOLE_TIMEOUT_SECS" := by
  have named (text : String) :
      (Fault.timeout text).Names "ITISADB_CONSOLE_TIMEOUT_SECS" := by
    refine ⟨" " ++ (Text.quote text ++
      ", expected a positive number of seconds"), ?_, .inr (by simp)⟩
    rw [← String.append_assoc, ← String.append_assoc]
    rfl
  unfold timeoutOf at failed
  split at failed
  · cases failed
  · split at failed
    · cases failed
      exact named _
    · split at failed
      · cases failed
      · cases failed
        exact named _

end Names

/-! ## Environments -/

/-- The variables that are checked, in the order in which they are. -/
def checkedVariables : List String :=
  ["ITISADB_CONSOLE_URL", "ITISADB_CONSOLE_RENDER",
    "ITISADB_CONSOLE_TIMEOUT_SECS"]

/-- The URL of the front-end is unset, or can be read. -/
def UrlPasses (lookUp : String → Option String) : Prop :=
  ∀ text ∈ lookUp "ITISADB_CONSOLE_URL", IsUrl text

/-- The mode is unset, or there is one with this name. -/
def ModePasses (lookUp : String → Option String) : Prop :=
  ∀ text ∈ lookUp "ITISADB_CONSOLE_RENDER", ∃ mode, IsModeName text mode

/-- The time is unset, or a number of seconds. -/
def TimeoutPasses (lookUp : String → Option String) : Prop :=
  ∀ text ∈ lookUp "ITISADB_CONSOLE_TIMEOUT_SECS",
    ∃ seconds, IsSeconds text seconds

/-- There are no settings, and the message says which variable is wrong. -/
def FailsNaming (places : Places) (lookUp : String → Option String)
    (name : String) : Prop :=
  ∃ fault, ofVariables places lookUp = .error fault ∧ fault.Names name

section Environment

variable {places : Places} {lookUp : String → Option String}

theorem urlPasses_iff :
    UrlPasses lookUp ↔
      ∃ base, urlOf (lookUp "ITISADB_CONSOLE_URL") = .ok base := by
  simp only [UrlPasses, urlOf_eq_ok_iff]
  cases lookUp "ITISADB_CONSOLE_URL" with
  | none =>
      simp only [Option.getD_none]
      exact ⟨fun _ => defaultUrl_isUrl, fun _ _ none => by cases none⟩
  | some text =>
      simp only [Option.mem_def, Option.some.injEq, forall_eq',
        Option.getD_some]
      exact Iff.rfl

theorem modePasses_iff :
    ModePasses lookUp ↔
      ∃ mode, modeOf (lookUp "ITISADB_CONSOLE_RENDER") = .ok mode := by
  unfold ModePasses
  cases lookUp "ITISADB_CONSOLE_RENDER" with
  | none => exact ⟨fun _ => ⟨.append, rfl⟩, fun _ _ none => by cases none⟩
  | some text =>
      simp only [Option.mem_def, Option.some.injEq, forall_eq',
        modeOf_eq_ok_iff]

theorem timeoutPasses_iff :
    TimeoutPasses lookUp ↔
      ∃ seconds,
        timeoutOf (lookUp "ITISADB_CONSOLE_TIMEOUT_SECS") = .ok seconds := by
  unfold TimeoutPasses
  cases lookUp "ITISADB_CONSOLE_TIMEOUT_SECS" with
  | none =>
      exact ⟨fun _ => ⟨defaultTimeout, rfl⟩, fun _ _ none => by cases none⟩
  | some text =>
      simp only [Option.mem_def, Option.some.injEq, forall_eq',
        timeoutOf_eq_ok_iff]

instance : Decidable (UrlPasses lookUp) :=
  decidable_of_iff _ urlPasses_iff.symm

instance : Decidable (ModePasses lookUp) :=
  decidable_of_iff _ modePasses_iff.symm

instance : Decidable (TimeoutPasses lookUp) :=
  decidable_of_iff _ timeoutPasses_iff.symm

/-- The parts of accepted settings that are checked. -/
theorem ofVariables_eq_ok {settings : Settings}
    (accepted : ofVariables places lookUp = .ok settings) :
    urlOf (lookUp "ITISADB_CONSOLE_URL") = .ok settings.base ∧
      modeOf (lookUp "ITISADB_CONSOLE_RENDER") = .ok settings.mode ∧
      timeoutOf (lookUp "ITISADB_CONSOLE_TIMEOUT_SECS") =
        .ok settings.timeout := by
  obtain ⟨base, read, rest⟩ := bind_eq_ok.mp accepted
  obtain ⟨mode, named, rest⟩ := bind_eq_ok.mp rest
  obtain ⟨timeout, counted, built⟩ := bind_eq_ok.mp rest
  cases built
  exact ⟨read, named, counted⟩

theorem exists_ofVariables_iff :
    (∃ settings, ofVariables places lookUp = .ok settings) ↔
      UrlPasses lookUp ∧ ModePasses lookUp ∧ TimeoutPasses lookUp := by
  rw [urlPasses_iff, modePasses_iff, timeoutPasses_iff]
  constructor
  · rintro ⟨settings, accepted⟩
    obtain ⟨read, named, counted⟩ := ofVariables_eq_ok accepted
    exact ⟨⟨_, read⟩, ⟨_, named⟩, ⟨_, counted⟩⟩
  · rintro ⟨⟨base, read⟩, ⟨mode, named⟩, ⟨timeout, counted⟩⟩
    exact ⟨_, bind_eq_ok.mpr ⟨base, read, bind_eq_ok.mpr ⟨mode, named,
      bind_eq_ok.mpr ⟨timeout, counted, rfl⟩⟩⟩⟩

/-- A fault comes from the three variables that are checked alone. -/
theorem ofVariables_eq_error {fault : Fault} :
    ofVariables places lookUp = .error fault ↔
      urlOf (lookUp "ITISADB_CONSOLE_URL") = .error fault ∨
      ∃ base, urlOf (lookUp "ITISADB_CONSOLE_URL") = .ok base ∧
        (modeOf (lookUp "ITISADB_CONSOLE_RENDER") = .error fault ∨
        ∃ mode, modeOf (lookUp "ITISADB_CONSOLE_RENDER") = .ok mode ∧
          timeoutOf (lookUp "ITISADB_CONSOLE_TIMEOUT_SECS") =
            .error fault) := by
  constructor
  · intro failed
    refine (bind_eq_error.mp failed).imp_right ?_
    rintro ⟨base, read, rest⟩
    refine ⟨base, read, (bind_eq_error.mp rest).imp_right ?_⟩
    rintro ⟨mode, named, rest⟩
    obtain failed | ⟨_, _, accepted⟩ := bind_eq_error.mp rest
    · exact ⟨mode, named, failed⟩
    · cases accepted
  · rintro (failed | ⟨base, read, failed | ⟨mode, named, failed⟩⟩)
    · exact bind_eq_error.mpr (.inl failed)
    · exact bind_eq_error.mpr (.inr ⟨base, read,
        bind_eq_error.mpr (.inl failed)⟩)
    · exact bind_eq_error.mpr (.inr ⟨base, read, bind_eq_error.mpr (.inr
        ⟨mode, named, bind_eq_error.mpr (.inl failed)⟩)⟩)

/-- What accepted settings say is what the variables say. -/
theorem values_of_ofVariables {settings : Settings}
    (accepted : ofVariables places lookUp = .ok settings) :
    (∀ text ∈ lookUp "ITISADB_CONSOLE_TIMEOUT_SECS",
        IsSeconds text settings.timeout) ∧
      ∀ text ∈ lookUp "ITISADB_CONSOLE_RENDER",
        IsModeName text settings.mode := by
  obtain ⟨_, named, counted⟩ := ofVariables_eq_ok accepted
  constructor
  · intro text set
    rw [Option.mem_def.mp set] at counted
    exact timeoutOf_eq_ok_iff.mp counted
  · intro text set
    rw [Option.mem_def.mp set] at named
    exact modeOf_eq_ok_iff.mp named

theorem fails_at_url (faulty : ¬UrlPasses lookUp) :
    FailsNaming places lookUp "ITISADB_CONSOLE_URL" := by
  rw [urlPasses_iff] at faulty
  obtain ⟨fault, failed⟩ := exists_eq_error faulty
  exact ⟨fault, ofVariables_eq_error.mpr (.inl failed), names_of_urlOf failed⟩

theorem fails_at_mode (passes : UrlPasses lookUp)
    (faulty : ¬ModePasses lookUp) :
    FailsNaming places lookUp "ITISADB_CONSOLE_RENDER" := by
  rw [modePasses_iff] at faulty
  obtain ⟨base, read⟩ := urlPasses_iff.mp passes
  obtain ⟨fault, failed⟩ := exists_eq_error faulty
  refine ⟨fault, ?_, names_of_modeOf failed⟩
  exact ofVariables_eq_error.mpr (.inr ⟨base, read, .inl failed⟩)

theorem fails_at_timeout (passes : UrlPasses lookUp)
    (modePasses : ModePasses lookUp) (faulty : ¬TimeoutPasses lookUp) :
    FailsNaming places lookUp "ITISADB_CONSOLE_TIMEOUT_SECS" := by
  rw [timeoutPasses_iff] at faulty
  obtain ⟨base, read⟩ := urlPasses_iff.mp passes
  obtain ⟨mode, named⟩ := modePasses_iff.mp modePasses
  obtain ⟨fault, failed⟩ := exists_eq_error faulty
  refine ⟨fault, ?_, names_of_timeoutOf failed⟩
  exact ofVariables_eq_error.mpr (.inr ⟨base, read, .inr ⟨mode, named, failed⟩⟩)

end Environment

/-- An environment is accepted if each variable that is set passes its own
check: the URL is one, the mode has its name in ASCII letters of either case,
and the time is a number that is not zero and has 64 bits at most.  Otherwise
the first variable that does not pass is named.  Whatever the other variables
say, it makes no difference. -/
theorem first_faulty_variable_named (places : Places)
    (lookUp : String → Option String) :
    ((∃ settings, ofVariables places lookUp = .ok settings) ↔
        UrlPasses lookUp ∧ ModePasses lookUp ∧ TimeoutPasses lookUp) ∧
      (∀ settings, ofVariables places lookUp = .ok settings →
        (∀ text ∈ lookUp "ITISADB_CONSOLE_TIMEOUT_SECS",
            IsSeconds text settings.timeout) ∧
          ∀ text ∈ lookUp "ITISADB_CONSOLE_RENDER",
            IsModeName text settings.mode) ∧
      (¬UrlPasses lookUp →
        FailsNaming places lookUp "ITISADB_CONSOLE_URL") ∧
      (UrlPasses lookUp → ¬ModePasses lookUp →
        FailsNaming places lookUp "ITISADB_CONSOLE_RENDER") ∧
      (UrlPasses lookUp → ModePasses lookUp → ¬TimeoutPasses lookUp →
        FailsNaming places lookUp "ITISADB_CONSOLE_TIMEOUT_SECS") ∧
      ∀ otherPlaces other,
        (∀ name ∈ checkedVariables, other name = lookUp name) →
        ∀ fault, ofVariables otherPlaces other = .error fault ↔
          ofVariables places lookUp = .error fault := by
  refine ⟨exists_ofVariables_iff, fun _ => values_of_ofVariables,
    fails_at_url, fails_at_mode, fails_at_timeout, ?_⟩
  intro otherPlaces other same fault
  have sameUrl := same "ITISADB_CONSOLE_URL" (by simp [checkedVariables])
  have sameMode := same "ITISADB_CONSOLE_RENDER" (by simp [checkedVariables])
  have sameTimeout := same "ITISADB_CONSOLE_TIMEOUT_SECS"
    (by simp [checkedVariables])
  rw [ofVariables_eq_error, ofVariables_eq_error, sameUrl, sameMode,
    sameTimeout]

/-- An environment that sets none but the variables that are checked. -/
def checkedAlone (url mode timeout : Option String) (name : String) :
    Option String :=
  if name = "ITISADB_CONSOLE_URL" then url
  else if name = "ITISADB_CONSOLE_RENDER" then mode
  else if name = "ITISADB_CONSOLE_TIMEOUT_SECS" then timeout
  else none

/-- Blanks of any alphabet are cut off, and zeros and a plus sign may stand
before the number.  A letter with an accent is not the letter without. -/
theorem odd_spellings_accepted :
    (∃ settings,
      ofVariables ⟨none, none⟩ (checkedAlone (some "http://[::1]/")
        (some "\tRePLACE\u00a0") (some "\u3000+0005 ")) = .ok settings ∧
      settings.mode = .replace ∧ settings.timeout = 5) ∧
    FailsNaming ⟨none, none⟩
      (checkedAlone (some "/x") (some "r\u00e9place") (some "0"))
      "ITISADB_CONSOLE_URL" ∧
    FailsNaming ⟨none, none⟩
      (checkedAlone none (some "r\u00e9place") (some "0"))
      "ITISADB_CONSOLE_RENDER" ∧
    FailsNaming ⟨none, none⟩
      (checkedAlone none none (some "18446744073709551616"))
      "ITISADB_CONSOLE_TIMEOUT_SECS" := by
  have unset (mode timeout : Option String) :
      UrlPasses (checkedAlone none mode timeout) := by
    intro text set
    cases Option.mem_def.mp set
  refine ⟨?accepted, ?url, ?mode, ?timeout⟩
  case accepted =>
    obtain ⟨passes, values, _⟩ := first_faulty_variable_named ⟨none, none⟩
      (checkedAlone (some "http://[::1]/") (some "\tRePLACE\u00a0")
        (some "\u3000+0005 "))
    obtain ⟨settings, accepted⟩ := passes.mpr (by decide +kernel)
    obtain ⟨seconds, name⟩ := values settings accepted
    refine ⟨settings, accepted, ?_, ?_⟩
    · have named := ofText_eq_ok_iff.mpr (name _ rfl)
      exact Except.ok.inj (named.symm.trans (by decide +kernel))
    · have counted := timeoutOf_eq_ok_iff.mpr (seconds _ rfl)
      exact Except.ok.inj (counted.symm.trans (by decide +kernel))
  case url =>
    exact (first_faulty_variable_named _ _).2.2.1 (by decide +kernel)
  case mode =>
    exact (first_faulty_variable_named _ _).2.2.2.1 (unset _ _)
      (by decide +kernel)
  case timeout =>
    exact (first_faulty_variable_named _ _).2.2.2.2.1 (unset _ _)
      (by decide +kernel) (by decide +kernel)

end OperatorConsole.Settings
