import Mathlib.Logic.Function.Basic
import OperatorConsole.Proofs.Cookie.Setting

/-!
# Updates of a jar

A header that is accepted decides what a jar has under one key, whatever was
there before, and a header that is rejected changes nothing.  So headers for
different keys can come in either order, and of those for one key only the last
one counts.
-/

namespace OperatorConsole

/-- A header with the URL from which it came and the instant at which it did. -/
structure Arrival where
  header : String
  url : Url
  instant : Int
deriving DecidableEq, Repr

namespace Arrival

/-- What the header asks for, unless it is rejected. -/
def setting? (arrival : Arrival) : Option Setting :=
  Setting.ofHeader? arrival.header arrival.url arrival.instant

/-- The key that the header decides. -/
def key? (arrival : Arrival) : Option Cookie.Key :=
  arrival.setting?.map Setting.key

/-- What the header leaves under its key. -/
def kept? (arrival : Arrival) : Option Cookie :=
  arrival.setting?.bind Setting.kept?

/-- Why nothing is done about a header. -/
inductive Rejected (arrival : Arrival) : Prop where
  | malformed (unread : SetCookie.ofHeader? arrival.header = none)
  | nameless (noHost : Cookie.hostName? arrival.url = none)
  /-- The host asks for a domain that it does not lie in. -/
  | foreign {said : SetCookie} {host : String}
      (read : SetCookie.ofHeader? arrival.header = some said)
      (named : Cookie.hostName? arrival.url = some host)
      (outside : ¬ Setting.Allowed ⟨said, host,
        Cookie.directoryOf arrival.url.path.text, arrival.instant⟩)

theorem setting?_eq_none_iff {arrival : Arrival} :
    arrival.setting? = none ↔ arrival.Rejected := by
  unfold setting? Setting.ofHeader?
  cases read : SetCookie.ofHeader? arrival.header with
  | none => exact iff_of_true rfl (.malformed read)
  | some said =>
      cases named : Cookie.hostName? arrival.url with
      | none => exact iff_of_true rfl (.nameless named)
      | some host =>
          simp only [Option.bind_eq_bind, Option.bind_some,
            ite_eq_right_iff, reduceCtorEq, imp_false]
          constructor
          · exact fun outside => .foreign read named outside
          · rintro (unread | noHost | ⟨sameSaid, sameHost, outside⟩)
            · rw [read] at unread
              cases unread
            · rw [named] at noHost
              cases noHost
            · rw [read] at sameSaid
              rw [named] at sameHost
              cases sameSaid
              cases sameHost
              exact outside

theorem key?_eq_none {arrival : Arrival} (rejected : arrival.Rejected) :
    arrival.key? = none := by
  rw [key?, setting?_eq_none_iff.mpr rejected]
  rfl

end Arrival

/-! ## Maps that do not know about keys -/

/-- Cookies under keys, which need not be their own ones. -/
abbrev CookieMap : Type :=
  Cookie.Key → Option Cookie

namespace CookieMap

/-- Put a cookie under its key, or clear what stands there. -/
def hear (map : CookieMap) (arrival : Arrival) : CookieMap :=
  match CookieJar.cookieOf? arrival.header arrival.url arrival.instant with
  | none => map
  | some cookie =>
      Function.update map cookie.key
        (if cookie.value.isEmpty || cookie.isExpired arrival.instant then none
          else some cookie)

/-- Each cookie stands under its own key. -/
def Keyed (map : CookieMap) : Prop :=
  ∀ key, ∀ cookie ∈ map key, cookie.key = key

theorem Keyed.hear {map : CookieMap} (keyed : Keyed map) (arrival : Arrival) :
    Keyed (map.hear arrival) := by
  unfold CookieMap.hear
  split
  · exact keyed
  · next cookie _ =>
      intro key other member
      by_cases same : key = cookie.key
      · subst same
        rw [Function.update_self] at member
        split at member
        · cases member
        · cases member
          rfl
      · rw [Function.update_of_ne same] at member
        exact keyed key other member

theorem Keyed.hearAll (arrivals : List Arrival) :
    ∀ {map : CookieMap}, Keyed map →
      Keyed (arrivals.foldl CookieMap.hear map) := by
  induction arrivals with
  | nil => exact fun keyed => keyed
  | cons arrival arrivals induction =>
      exact fun keyed => induction (keyed.hear arrival)

end CookieMap

/-! ## Headers in turn -/

namespace CookieJar

def hear (jar : CookieJar) (arrival : Arrival) : CookieJar :=
  jar.receive arrival.header arrival.url arrival.instant

def hearAll (jar : CookieJar) (arrivals : List Arrival) : CookieJar :=
  arrivals.foldl hear jar

theorem find?_hear (jar : CookieJar) (arrival : Arrival)
    (wanted : Cookie.Key) :
    (jar.hear arrival).find? wanted =
      if arrival.key? = some wanted then arrival.kept?
      else jar.find? wanted := by
  rw [hear, find?_receive, Arrival.key?, Arrival.kept?, Arrival.setting?]
  cases Setting.ofHeader? arrival.header arrival.url arrival.instant with
  | none => rfl
  | some setting => simp

theorem hear_of_rejected (jar : CookieJar) {arrival : Arrival}
    (rejected : arrival.Rejected) : jar.hear arrival = jar := by
  refine OrderedBy.eq_of_find?_eq fun wanted => ?_
  rw [find?_hear, Arrival.key?_eq_none rejected, if_neg (by simp)]

/-- Of two headers for one key the first one leaves no trace. -/
theorem hear_hear_of_same (jar : CookieJar) {first second : Arrival}
    (same : first.key? = second.key?) :
    (jar.hear first).hear second = jar.hear second := by
  refine OrderedBy.eq_of_find?_eq fun wanted => ?_
  rw [find?_hear, find?_hear, find?_hear, same]
  split
  · rfl
  · rfl

theorem hear_comm (jar : CookieJar) {first second : Arrival}
    (other : first.key? ≠ second.key?) :
    (jar.hear first).hear second = (jar.hear second).hear first := by
  refine OrderedBy.eq_of_find?_eq fun wanted => ?_
  simp only [find?_hear]
  by_cases byFirst : first.key? = some wanted
  · have notSecond : second.key? ≠ some wanted :=
      fun bySecond => other (byFirst.trans bySecond.symm)
    rw [if_neg notSecond, if_pos byFirst, if_pos byFirst]
  · rw [if_neg byFirst, if_neg byFirst]

/-- What a jar has under a key after some headers is what the last one of them
leaves that is for the key. -/
theorem find?_hearAll (jar : CookieJar) (arrivals : List Arrival)
    (wanted : Cookie.Key) :
    (jar.hearAll arrivals).find? wanted =
      match arrivals.reverse.find? (·.key? = some wanted) with
      | none => jar.find? wanted
      | some last => last.kept? := by
  induction arrivals generalizing jar with
  | nil => rfl
  | cons arrival arrivals induction =>
      have later := induction (jar.hear arrival)
      rw [List.reverse_cons, List.find?_append]
      refine later.trans ?_
      cases arrivals.reverse.find? (·.key? = some wanted) with
      | some last => rfl
      | none =>
          simp only [find?_hear, Option.none_or]
          by_cases decided : arrival.key? = some wanted
          · simp [decided]
          · simp [decided]

theorem find?_hearAll_of_others (jar : CookieJar) {arrivals : List Arrival}
    {wanted : Cookie.Key}
    (others : ∀ arrival ∈ arrivals, arrival.key? ≠ some wanted) :
    (jar.hearAll arrivals).find? wanted = jar.find? wanted := by
  have none : arrivals.reverse.find? (·.key? = some wanted) = none := by
    refine List.find?_eq_none.mpr fun arrival member => ?_
    simpa using others arrival (List.mem_reverse.mp member)
  rw [find?_hearAll, none]

/-- The headers of a response are heard one by one. -/
theorem receiveAll_eq_hearAll (jar : CookieJar) (headers : List String)
    (url : Url) (now : Int) :
    jar.receiveAll headers url now =
      jar.hearAll ((headers.filter fun header =>
        header.toList.all isVisible).map fun header => ⟨header, url, now⟩) := by
  rw [hearAll, List.foldl_map]
  rfl

/-! ## The keys of a jar -/

theorem keyed_find? (jar : CookieJar) : CookieMap.Keyed jar.find? := by
  intro key cookie member
  have same := List.find?_some member
  exact Std.LawfulEqCmp.eq_of_compare (beq_iff_eq.mp same)

/-- A jar is the map that comes of doing what the header says to its key. -/
theorem find?_hear_eq (jar : CookieJar) (arrival : Arrival) :
    (jar.hear arrival).find? = CookieMap.hear jar.find? arrival := by
  unfold hear receive CookieMap.hear
  cases cookieOf? arrival.header arrival.url arrival.instant with
  | none => rfl
  | some cookie =>
      funext wanted
      dsimp only
      rw [Function.update_apply, store]
      split
      · rw [OrderedBy.find?_erase]
        simp only [eq_comm]
      · rw [OrderedBy.find?_put]
        simp only [eq_comm]

theorem find?_hearAll_eq (arrivals : List Arrival) :
    ∀ jar : CookieJar, (jar.hearAll arrivals).find? =
      arrivals.foldl CookieMap.hear jar.find? := by
  induction arrivals with
  | nil => exact fun _ => rfl
  | cons arrival arrivals induction =>
      intro jar
      have later := induction (jar.hear arrival)
      rw [find?_hear_eq] at later
      exact later

end CookieJar

/-- Whatever a jar has and whatever headers come, each of them decides one key
or is rejected, and the last one for a key counts. -/
theorem CookieJar.headers_decide_keys (jar : CookieJar) :
    (∀ arrival : Arrival, arrival.Rejected → jar.hear arrival = jar) ∧
      (∀ arrival : Arrival, ¬ arrival.Rejected →
        ∃ setting, arrival.setting? = some setting ∧
          ∀ wanted, (jar.hear arrival).find? wanted =
            if setting.key = wanted then setting.kept?
            else jar.find? wanted) ∧
      (∀ arrival, (jar.hear arrival).hear arrival = jar.hear arrival) ∧
      (∀ first second : Arrival, first.key? ≠ second.key? →
        (jar.hear first).hear second = (jar.hear second).hear first) ∧
      (∀ first second : Arrival, first.key? = second.key? →
        (jar.hear first).hear second = jar.hear second) ∧
      ∀ arrivals : List Arrival,
        (∀ wanted, (jar.hearAll arrivals).find? wanted =
          match arrivals.reverse.find? (·.key? = some wanted) with
          | none => jar.find? wanted
          | some last => last.kept?) ∧
        (jar.hearAll arrivals).find? =
          arrivals.foldl CookieMap.hear jar.find? ∧
        CookieMap.Keyed (arrivals.foldl CookieMap.hear jar.find?) := by
  refine ⟨fun _ => jar.hear_of_rejected, ?_,
    fun _ => jar.hear_hear_of_same rfl, fun _ _ => jar.hear_comm,
    fun _ _ => jar.hear_hear_of_same, fun arrivals =>
      ⟨jar.find?_hearAll arrivals, find?_hearAll_eq arrivals jar,
        jar.keyed_find?.hearAll arrivals⟩⟩
  intro arrival accepted
  obtain ⟨setting, asked⟩ := Option.ne_none_iff_exists'.mp
    (mt Arrival.setting?_eq_none_iff.mp accepted)
  refine ⟨setting, asked, fun wanted => ?_⟩
  rw [find?_hear, Arrival.key?, Arrival.kept?, asked]
  simp

end OperatorConsole
