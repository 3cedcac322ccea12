import OperatorConsole.Cookie.Jar
import OperatorConsole.Proofs.OrderedBy

/-!
# Expiry of cookies

Every instant at which a cookie can be set to expire fits 64 bits, so it can be
written to a file and read from it.  A lifetime is cut off at the end of time,
and a date has a year of four digits at most.
-/

namespace OperatorConsole

/-- The instant fits 64 bits. -/
def IsInstant (instant : Int) : Prop :=
  -SetCookie.endOfTime - 1 ≤ instant ∧ instant ≤ SetCookie.endOfTime

namespace Date

/-! ## Numbers of few digits -/

theorem digitsValue_lt {digits : List Char}
    (areDigits : ∀ digit ∈ digits, digit.isDigit = true) :
    digitsValue digits < Nat.pow 10 digits.length := by
  have bound : ∀ (digits : List Char) (value : Nat),
      (∀ digit ∈ digits, digit.isDigit = true) →
      digits.foldl (fun value c => value * 10 + (c.toNat - 0x30)) value <
        (value + 1) * Nat.pow 10 digits.length := by
    intro digits
    induction digits with
    | nil => simp
    | cons digit digits induction =>
        intro value areDigits
        have isDigit := areDigits digit List.mem_cons_self
        obtain ⟨_, most⟩ := Char.isDigit_iff_toNat.mp isDigit
        have nine : '9'.toNat = 57 := rfl
        have later := induction (value * 10 + (digit.toNat - 0x30))
          fun other member => areDigits other (List.mem_cons_of_mem _ member)
        have power : Nat.pow 10 (digit :: digits).length =
            10 * Nat.pow 10 digits.length := Nat.mul_comm _ _
        rw [List.foldl_cons]
        refine Nat.lt_of_lt_of_le later ?_
        rw [power, ← Nat.mul_assoc]
        exact Nat.mul_le_mul_right _ (by omega)
  simpa [digitsValue] using bound digits 0 areDigits

theorem twoDigits?_lt {cs rest : List Char} {value : Nat}
    (read : twoDigits? cs = some (value, rest)) : value < 100 := by
  unfold twoDigits? at read
  split at read
  · next first second rest =>
      split at read
      · next areDigits =>
          cases read
          refine digitsValue_lt ?_
          simpa using areDigits
      · cases read
  · cases read

theorem blankedDigits?_lt {cs rest : List Char} {value : Nat}
    (read : blankedDigits? cs = some (value, rest)) : value < 100 := by
  unfold blankedDigits? at read
  split at read
  · split at read
    · next isDigit =>
        cases read
        have small := digitsValue_lt (List.forall_mem_singleton.mpr isDigit)
        exact Nat.lt_trans small (by decide : Nat.pow 10 1 < 100)
    · cases read
  · exact twoDigits?_lt read

theorem fewDigits?_lt {cs rest : List Char} {value : Nat}
    (read : fewDigits? cs = some (value, rest)) : value < 10000 := by
  unfold fewDigits? at read
  dsimp only at read
  split at read
  · cases read
  · rw [Option.some.injEq, Prod.mk.injEq] at read
    rw [← read.1]
    have areDigits : ∀ digit ∈ (cs.take 4).takeWhile Char.isDigit,
        digit.isDigit = true := List.all_eq_true.mp List.all_takeWhile
    have few : ((cs.take 4).takeWhile Char.isDigit).length ≤ 4 :=
      Nat.le_trans (List.takeWhile_prefix _).length_le
        (List.length_take_le 4 cs)
    refine Nat.lt_of_lt_of_le (digitsValue_lt areDigits) ?_
    exact Nat.pow_le_pow_right (by decide) few

theorem year?_bounds {cs rest : List Char} {year : Int}
    (read : year? cs = some (year, rest)) :
    -10000 < year ∧ year < 10000 := by
  unfold year? at read
  split at read
  all_goals
    obtain ⟨⟨value, after⟩, digits, same⟩ := Option.map_eq_some_iff.mp read
    have small := fewDigits?_lt digits
    cases same
    omega

theorem fullYear_bounds {year : Int} (short : -10000 < year ∧ year < 10000) :
    -10000 < fullYear year ∧ fullYear year < 10000 := by
  unfold fullYear
  split
  · omega
  · split
    · omega
    · exact short

/-! ## Dates that are read -/

/-- Every number of the date is short. -/
structure Short (date : Date) : Prop where
  year : -10000 < date.year ∧ date.year < 10000
  day : date.day < 100
  hour : date.hour < 100
  minute : date.minute < 100
  second : date.second < 100

theorem Short.read? {date next : Date} (short : Short date) {piece : Piece}
    {cs rest : List Char} (read : piece.read? date cs = some (next, rest)) :
    Short next := by
  cases piece with
  | exactly text =>
      obtain ⟨_, _, same⟩ := Option.map_eq_some_iff.mp read
      cases same
      exact short
  | weekday | longWeekday =>
      obtain ⟨_, _, same⟩ := Option.map_eq_some_iff.mp read
      cases same
      exact short
  | day =>
      obtain ⟨⟨number, after⟩, digits, same⟩ := Option.bind_eq_some_iff.mp read
      cases same
      exact { short with day := twoDigits?_lt digits }
  | blankedDay =>
      obtain ⟨⟨number, after⟩, digits, same⟩ := Option.bind_eq_some_iff.mp read
      cases same
      exact { short with day := blankedDigits?_lt digits }
  | month =>
      obtain ⟨_, _, same⟩ := Option.bind_eq_some_iff.mp read
      cases same
      exact { short with }
  | twoDigitYear =>
      obtain ⟨⟨number, after⟩, digits, same⟩ := Option.bind_eq_some_iff.mp read
      have small := twoDigits?_lt digits
      cases same
      exact { short with year := fullYear_bounds (by omega) }
  | year =>
      obtain ⟨⟨number, after⟩, digits, same⟩ := Option.bind_eq_some_iff.mp read
      cases same
      exact { short with year := fullYear_bounds (year?_bounds digits) }
  | clock =>
      obtain ⟨⟨⟨hour, minute, second⟩, after⟩, read, same⟩ :=
        Option.bind_eq_some_iff.mp read
      obtain ⟨⟨first, _⟩, hours, read⟩ := Option.bind_eq_some_iff.mp read
      obtain ⟨_, _, read⟩ := Option.bind_eq_some_iff.mp read
      obtain ⟨⟨middle, _⟩, minutes, read⟩ := Option.bind_eq_some_iff.mp read
      obtain ⟨_, _, read⟩ := Option.bind_eq_some_iff.mp read
      obtain ⟨⟨last, _⟩, seconds, ended⟩ := Option.bind_eq_some_iff.mp read
      cases ended
      cases same
      exact { short with
        hour := twoDigits?_lt hours
        minute := twoDigits?_lt minutes
        second := twoDigits?_lt seconds }

theorem Short.readLayout? (layout : List Piece) :
    ∀ {date last : Date} {cs : List Char}, Short date →
      readLayout? layout date cs = some last → Short last := by
  induction layout with
  | nil =>
      intro date last cs short read
      cases cs with
      | nil =>
          cases read
          exact short
      | cons => cases read
  | cons piece layout induction =>
      intro date last cs short read
      obtain ⟨⟨next, rest⟩, first, later⟩ := Option.bind_eq_some_iff.mp read
      exact induction (short.read? first) later

theorem short_of_ofText? {cs : List Char} {date : Date}
    (read : ofText? cs = some date) : Short date := by
  obtain ⟨layout, _, fits⟩ := List.exists_of_findSome?_eq_some read
  obtain ⟨read, _⟩ := Option.filter_eq_some_iff.mp fits
  refine Short.readLayout? layout ?_ read
  exact ⟨by decide, by decide, by decide, by decide, by decide⟩

theorem daysBeforeMonth_le (year : Int) (month : Nat) :
    daysBeforeMonth year month ≤ 366 := by
  have whole : (monthLengths year).sum ≤ 366 := by
    unfold monthLengths
    cases isLeap year <;> decide
  have parts := congrArg List.sum
    (List.take_append_drop month (monthLengths year))
  rw [List.sum_append] at parts
  rw [daysBeforeMonth, ← List.sum_eq_foldl]
  omega

theorem Short.isInstant {date : Date} (short : Short date) :
    IsInstant date.seconds := by
  obtain ⟨⟨least, most⟩, day, hour, minute, second⟩ := short
  have month := daysBeforeMonth_le date.year date.month
  simp only [IsInstant, SetCookie.endOfTime, seconds, days, daysBeforeYear]
  omega

end Date

/-! ## Headers -/

namespace SetCookie

/-- Lifetimes are not negative, and dates are instants. -/
structure Sound (said : SetCookie) : Prop where
  lifetime : ∀ lifetime ∈ said.maxAge, 0 ≤ lifetime
  date : ∀ instant ∈ said.expires, IsInstant instant

theorem lifetime?_nonneg {cs : List Char} {lifetime : Int}
    (read : lifetime? cs = some lifetime) : 0 ≤ lifetime := by
  unfold lifetime? at read
  split at read
  · split at read
    · cases read
      exact Int.le_refl 0
    · cases read
  · split at read
    · cases read
    · split at read
      · cases read
        decide
      · cases read
        have positive : (0 : Int) ≤ endOfTime := by decide
        omega

theorem Sound.withAttribute {said : SetCookie} (sound : Sound said)
    (cs : List Char) : Sound (said.withAttribute cs) := by
  unfold SetCookie.withAttribute
  split
  next key value _ =>
    split
    case h_1 | h_5 | h_6 => exact { sound with }
    case h_2 text _ =>
      refine { sound with lifetime := ?_ }
      intro lifetime member
      rcases Option.or_eq_some_iff.mp member with read | ⟨_, before⟩
      · exact lifetime?_nonneg read
      · exact sound.lifetime lifetime before
    case h_3 text _ =>
      refine { sound with date := ?_ }
      intro instant member
      rcases Option.or_eq_some_iff.mp member with read | ⟨_, before⟩
      · obtain ⟨date, found, rfl⟩ := Option.map_eq_some_iff.mp read
        exact (Date.short_of_ofText? found).isInstant
      · exact sound.date instant before
    case h_4 =>
      split
      · exact sound
      · exact { sound with }

theorem sound_of_ofHeader? {header : String} {said : SetCookie}
    (read : ofHeader? header = some said) : Sound said := by
  have attributes : ∀ (attributes : List (List Char)) {said : SetCookie},
      Sound said → Sound (attributes.foldl SetCookie.withAttribute said) := by
    intro attributes
    induction attributes with
    | nil => exact fun sound => sound
    | cons cs attributes induction =>
        exact fun sound => induction (sound.withAttribute cs)
  unfold ofHeader? at read
  split at read
  · cases read
  · split at read
    · cases read
    · split at read
      · cases read
      · cases read
        exact attributes _ ⟨by simp, by simp⟩

end SetCookie

/-! ## Jars -/

namespace Cookie

/-- The cookie can be written to a file and read from it. -/
def Storable (cookie : Cookie) : Prop :=
  ∀ limit ∈ cookie.expires, IsInstant limit

theorem isInstant_expiryOf {said : SetCookie} (sound : said.Sound)
    {now : Int} (positive : 0 ≤ now) :
    ∀ limit ∈ CookieJar.expiryOf said now, IsInstant limit := by
  intro limit member
  unfold CookieJar.expiryOf at member
  split at member
  · next lifetime age =>
      have nonneg := sound.lifetime lifetime age
      cases member
      simp only [IsInstant, SetCookie.endOfTime]
      omega
  · exact sound.date limit member

theorem storable_of_header {header : String} {url : Url} {now : Int}
    {cookie : Cookie} (positive : 0 ≤ now)
    (asked : CookieJar.cookieOf? header url now = some cookie) :
    cookie.Storable := by
  simp only [CookieJar.cookieOf?, Option.bind_eq_bind,
    Option.bind_eq_some_iff] at asked
  obtain ⟨said, read, _, _, _, _, same⟩ := asked
  cases same
  exact isInstant_expiryOf (SetCookie.sound_of_ofHeader? read) positive

end Cookie

namespace CookieJar

/-- Every cookie of the jar can be written to a file and read from it. -/
def Storable (jar : CookieJar) : Prop :=
  ∀ cookie ∈ jar.toList, cookie.Storable

namespace Storable

variable {jar : CookieJar}

theorem empty : Storable .empty :=
  fun _ member => absurd member List.not_mem_nil

theorem put (storable : Storable jar) {cookie : Cookie}
    (new : cookie.Storable) : Storable (jar.put cookie) := by
  intro other member
  rw [OrderedBy.toList_put] at member
  rcases OrderedBy.mem_of_mem_insertInto member with rfl | old
  · exact new
  · exact storable other old

theorem putAll (storable : Storable jar) {cookies : List Cookie}
    (new : ∀ cookie ∈ cookies, cookie.Storable) :
    Storable (OrderedBy.putAll cookies jar) := by
  intro cookie member
  rcases OrderedBy.mem_of_mem_putAll member with listed | old
  · exact new cookie listed
  · exact storable cookie old

theorem store (storable : Storable jar) {cookie : Cookie}
    (new : cookie.Storable) (now : Int) :
    Storable (jar.store cookie now) := by
  unfold CookieJar.store
  split
  · intro other member
    exact storable other (List.mem_filter.mp member).1
  · exact storable.put new

theorem receive (storable : Storable jar) (header : String) (url : Url)
    {now : Int} (positive : 0 ≤ now) :
    Storable (jar.receive header url now) := by
  unfold CookieJar.receive
  split
  · exact storable
  · next cookie asked =>
      exact storable.store (Cookie.storable_of_header positive asked) now

theorem receiveAll (storable : Storable jar) (headers : List String)
    (url : Url) {now : Int} (positive : 0 ≤ now) :
    Storable (jar.receiveAll headers url now) := by
  unfold CookieJar.receiveAll
  generalize headers.filter _ = headers
  induction headers generalizing jar with
  | nil => exact storable
  | cons header headers induction =>
      exact induction (storable.receive header url positive)

end Storable

end CookieJar

end OperatorConsole
