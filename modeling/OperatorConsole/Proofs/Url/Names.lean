import OperatorConsole.Proofs.Cookie.Scope
import OperatorConsole.Proofs.Except
import OperatorConsole.Proofs.Text.AsciiCase
import OperatorConsole.Proofs.Url.Literal
import OperatorConsole.Url.Host

/-!
# Names of hosts

A host that has been read for a special scheme is an address, or a name that
holds no bracket and does not end in a number.  So it does not lie below an
address: what ends like an address in brackets holds one, and what ends like
four numbers has a number for its last label.
-/

namespace OperatorConsole.Url

/-! ## Brackets -/

namespace Punycode

theorem digitChar_ne_bracket : ∀ digit < 36, digitChar digit ≠ ']' := by
  decide

theorem noBracket_digits (bias place number : Nat) :
    ']' ∉ digits bias place number := by
  have lower := one_le_threshold
  have upper := threshold_le
  fun_induction digits bias place number with
  | case1 place number limit small =>
      have bound : limit ≤ 26 := upper place bias
      rw [List.mem_singleton]
      exact (digitChar_ne_bracket number (by omega)).symm
  | case2 place number limit large induction =>
      have least : 1 ≤ limit := lower place bias
      have most : limit ≤ 26 := upper place bias
      have digit := Nat.mod_lt (number - limit) (by omega : 0 < 36 - limit)
      rw [List.mem_cons, not_or]
      exact ⟨(digitChar_ne_bracket _ (by omega)).symm, induction⟩

theorem Progress.noBracket_pass {state : Progress} (basic current : Nat)
    (clean : ']' ∉ state.output) (c : Char) :
    ']' ∉ (state.pass basic current c).output := by
  unfold pass
  split
  · exact clean
  · split
    · rw [List.mem_append, not_or]
      exact ⟨clean, noBracket_digits _ _ _⟩
    · exact clean

theorem Progress.noBracket_passAll (basic current : Nat) (cs : List Char) :
    ∀ state : Progress, ']' ∉ state.output →
      ']' ∉ (cs.foldl (Progress.pass basic current) state).output := by
  induction cs with
  | nil => exact fun _ clean => clean
  | cons c cs induction =>
      intro state clean
      exact induction _ (state.noBracket_pass basic current clean c)

theorem noBracket_encodeFrom (label : List Char) (basic : Nat)
    (others : List Nat) : ∀ (previous : Nat) (state : Progress),
    ']' ∉ state.output →
      ']' ∉ (encodeFrom label basic others previous state).output := by
  induction others with
  | nil => exact fun _ _ clean => clean
  | cons current others induction =>
      intro previous state clean
      exact induction _ _
        (Progress.noBracket_passAll basic current label _ clean)

theorem noBracket_encode {label : List Char} (clean : ']' ∉ label) :
    ']' ∉ encode label := by
  simp only [encode, List.mem_append, not_or]
  refine ⟨⟨fun member => clean (List.mem_filter.mp member).1, ?_⟩,
    noBracket_encodeFrom _ _ _ _ _ List.not_mem_nil⟩
  split
  · exact List.not_mem_nil
  · decide

end Punycode

namespace Domain

theorem noBracket_of_allowed {label : List Char}
    (allowed : ∀ c ∈ label, isForbidden c = false) : ']' ∉ label := by
  intro member
  have forbidden := allowed _ member
  revert forbidden
  decide

theorem noBracket_of_isValidLabel {label : List Char}
    (valid : isValidLabel label = true) : ']' ∉ label := by
  simp only [isValidLabel, Bool.and_eq_true, List.all_eq_true,
    Bool.not_eq_true'] at valid
  exact noBracket_of_allowed fun c member => (valid.1.1.1.1 c member).1

theorem noBracket_label? {label meant : List Char}
    (read : label? label = some meant) : ']' ∉ meant := by
  unfold label? at read
  split at read
  · split at read
    · cases read
    · obtain ⟨_, valid⟩ := Option.filter_eq_some_iff.mp read
      simp only [Bool.and_eq_true] at valid
      exact noBracket_of_isValidLabel valid.1.1
  · split at read
    · obtain ⟨allowed, same⟩ := Option.ite_none_right_eq_some.mp read
      cases same
      apply noBracket_of_allowed
      simpa using allowed
    · obtain ⟨valid, same⟩ := Option.ite_none_right_eq_some.mp read
      cases same
      exact noBracket_of_isValidLabel valid

theorem noBracket_written {label : List Char} (clean : ']' ∉ label) :
    ']' ∉ written label := by
  unfold written
  split
  · exact clean
  · rw [List.mem_append, not_or]
    exact ⟨by decide, Punycode.noBracket_encode clean⟩

theorem exists_of_mem_mapM {α β : Type} {f : α → Option β} :
    ∀ {inputs : List α} {outputs : List β}, inputs.mapM f = some outputs →
      ∀ output ∈ outputs, ∃ input ∈ inputs, f input = some output
  | [], _, read, output, member => by
      cases read
      cases member
  | input :: inputs, _, read, output, member => by
      simp only [List.mapM_cons, Option.bind_eq_bind,
        Option.bind_eq_some_iff] at read
      obtain ⟨first, now, others, later, same⟩ := read
      cases same
      rcases List.mem_cons.mp member with rfl | behind
      · exact ⟨input, List.mem_cons_self, now⟩
      · obtain ⟨source, inside, meant⟩ :=
          exists_of_mem_mapM later output behind
        exact ⟨source, List.mem_cons_of_mem _ inside, meant⟩

theorem noBracket_ofText? {cs name : List Char}
    (read : ofText? cs = some name) : ']' ∉ name := by
  obtain ⟨text, _, read⟩ := Option.bind_eq_some_iff.mp read
  simp only [ascii?, Option.bind_eq_bind, Option.bind_eq_some_iff] at read
  obtain ⟨mapped, _, labels, known, read⟩ := read
  obtain ⟨_, same⟩ := Option.ite_none_right_eq_some.mp read
  cases same
  intro member
  rcases Text.mem_intercalate member with between | ⟨label, inside, member⟩
  · revert between
    decide
  · obtain ⟨meant, isMeant, rfl⟩ := List.mem_map.mp inside
    obtain ⟨source, _, read⟩ := exists_of_mem_mapM known meant isMeant
    exact noBracket_written (noBracket_label? read) member

end Domain

/-! ## Hosts of special schemes -/

/-- A host as a special scheme may have it. -/
def Host.IsSpecial : Host → Prop
  | .domain name =>
      ']' ∉ name.toList ∧ Ipv4.endsInNumber name.toList = false
  | .ipv4 _ | .ipv6 _ => True

theorem Host.isSpecial_ofBrackets {cs : List Char} {host : Host}
    (read : ofBrackets cs = .ok host) : host.IsSpecial := by
  unfold ofBrackets at read
  dsimp only at read
  split at read
  · split at read
    · cases read
      trivial
    · cases read
  · cases read

theorem Host.isSpecial_ofSpecial {cs : List Char} {host : Host}
    (read : ofSpecial cs = .ok host) : host.IsSpecial := by
  unfold ofSpecial at read
  split at read
  · exact isSpecial_ofBrackets read
  · split at read
    · cases read
    · next name named =>
        split at read
        · cases read
        · split at read
          · split at read
            · cases read
              trivial
            · cases read
          · next noNumber =>
              cases read
              rw [IsSpecial, String.toList_ofList]
              exact ⟨Domain.noBracket_ofText? named, by simpa using noNumber⟩

theorem Host.isSpecial_ofFile {cs : List Char} {host? : Option Host}
    (read : ofFile cs = .ok host?) : ∀ host ∈ host?, host.IsSpecial := by
  unfold ofFile at read
  split at read
  · cases read
    nofun
  · obtain ⟨name, special, same⟩ := map_eq_ok.mp read
    intro host known
    rw [← same] at known
    obtain ⟨_, same⟩ := Option.ite_none_left_eq_some.mp known
    cases same
    exact isSpecial_ofSpecial special

/-! ## Names below an address -/

/-- Four numbers behind a dot end in a number. -/
theorem Ipv4.endsInNumber_below (below : List Char) (address : Address) :
    endsInNumber (below ++ '.' :: address.text.toList) = true := by
  have labels : (below ++ '.' :: address.text.toList).splitOn '.' =
      below.splitOn '.' ++ address.octets.map (Nat.toDigits 10) := by
    rw [← splitOn_text]
    exact List.splitOnP_append_cons _ _ (by decide)
  have last : lastLabel (below ++ '.' :: address.text.toList) =
      Nat.toDigits 10 (address.value % 256) := by
    obtain ⟨c, cs, digits⟩ := List.exists_cons_of_ne_nil
      (Nat.toDigits_ne_nil (n := address.value % 256) (b := 10))
    rw [lastLabel, labels, Address.octets, List.reverse_append]
    simp [digits]
  rw [endsInNumber, last]
  have some := Nat.toDigits_ne_nil (n := address.value % 256) (b := 10)
  have digits : (Nat.toDigits 10 (address.value % 256)).all Char.isDigit =
      true := by
    rw [List.all_eq_true]
    exact fun c => Nat.isDigit_of_mem_toDigits (by decide) (by decide)
  simp [some, digits]

theorem Ipv4.noLetters_text {address : Address} {c : Char}
    (member : c ∈ address.text.toList) :
    ¬(0x61 ≤ c.toNat ∧ c.toNat ≤ 0x7a) := by
  have noLetter : ∀ digit < 10, ¬(0x61 ≤ (Nat.digitChar digit).toNat ∧
      (Nat.digitChar digit).toNat ≤ 0x7a) := by
    decide
  rcases mem_text member with rfl | ⟨digit, small, rfl⟩
  · decide
  · exact noLetter digit small

/-- What lowercasing makes of a text without letters is the text itself. -/
theorem eq_of_map_toLower {cs ds : List Char}
    (lowered : cs.map Char.toLower = ds)
    (noLetters : ∀ d ∈ ds, ¬(0x61 ≤ d.toNat ∧ d.toNat ≤ 0x7a)) : cs = ds := by
  subst lowered
  refine ((List.map_congr_left fun c member => ?_).trans
    (List.map_id' cs)).symm
  have noLetter := noLetters _ (List.mem_map_of_mem member)
  exact (Text.eq_of_toLower_eq rfl noLetter).symm

namespace Host

variable {name : String} {below : List Char}

theorem not_below_ipv4 {address : Ipv4.Address}
    (special : (domain name).IsSpecial) :
    name.toList.map Char.toLower ≠ below ++ '.' :: address.text.toList := by
  intro lies
  obtain ⟨front, back, split, _, lowered⟩ := List.map_eq_append_iff.mp lies
  have behind : back = '.' :: address.text.toList := by
    refine eq_of_map_toLower lowered fun d member => ?_
    rcases List.mem_cons.mp member with rfl | inside
    · decide
    · exact Ipv4.noLetters_text inside
  have number := special.2
  rw [split, behind, Ipv4.endsInNumber_below] at number
  cases number

theorem not_below_bracket {address : Ipv6.Address}
    (special : (domain name).IsSpecial) :
    name.toList.map Char.toLower ≠
      below ++ '.' :: (ipv6 address).text.toList := by
  intro lies
  have bracket : ']' ∈ name.toList.map Char.toLower := by
    rw [lies]
    simp [text]
  obtain ⟨c, member, lowered⟩ := List.mem_map.mp bracket
  have same := Text.eq_of_toLower_eq lowered (by decide)
  exact special.1 (same ▸ member)

/-- Pieces stand between colons and never between dots. -/
theorem noDot_ipv6 {address : Ipv6.Address} {behind : List Char} :
    (ipv6 address).text.toList.map Char.toLower ≠ below ++ '.' :: behind := by
  intro lies
  have dot : '.' ∈ (ipv6 address).text.toList.map Char.toLower := by
    rw [lies]
    exact List.mem_append_right _ List.mem_cons_self
  obtain ⟨c, member, lowered⟩ := List.mem_map.mp dot
  cases Text.eq_of_toLower_eq lowered (by decide)
  have inside : '.' ∈ address.text.toList := by
    simpa [text] using member
  have noDot : ∀ digit < 16, '.' ≠ Nat.digitChar digit := by decide
  rcases Ipv6.mem_text inside with colon | ⟨digit, small, same⟩
  · revert colon
    decide
  · exact noDot digit small same

end Host

end Url

/-! ## Domains that are addresses -/

namespace Cookie

open Url

/-- A host of a special scheme lies in no domain that is an address but
itself. -/
theorem Within.eq_of_isLiteral {host other : Host} (special : other.IsSpecial)
    (literal : host.IsLiteral)
    (within : Within (Text.asciiLowercase other.text)
      (Text.asciiLowercase host.text)) :
    Text.asciiLowercase other.text = Text.asciiLowercase host.text := by
  rcases within with same | ⟨noAddress, below, lies⟩
  · exact same
  · exfalso
    rw [asciiLowercase_of_isLiteral literal] at lies
    have split := congrArg String.toList lies
    simp only [Text.asciiLowercase, String.toList_ofList, String.toList_append,
      List.append_assoc] at split
    cases other with
    | domain name =>
        cases host with
        | domain _ => exact literal.elim
        | ipv4 address => exact Host.not_below_ipv4 special split
        | ipv6 address => exact Host.not_below_bracket special split
    | ipv4 address =>
        have literal : (Host.ipv4 address).IsLiteral := trivial
        rw [isAddress_of_isLiteral literal] at noAddress
        cases noAddress
    | ipv6 address => exact Host.noDot_ipv6 split

end Cookie

end OperatorConsole
