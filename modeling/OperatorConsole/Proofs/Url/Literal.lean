import OperatorConsole.Cookie.Basic
import OperatorConsole.Proofs.Text.Split

/-!
# Hosts that are addresses

The text of an address is read as an address again, also as the name of a host
with brackets around it.  Such a host lies in no domain but its own.
-/

namespace OperatorConsole

namespace Url

/-- The host is an address and no name. -/
def Host.IsLiteral : Host → Prop
  | .domain _ => False
  | .ipv4 _ => True
  | .ipv6 address =>
      address.pieces.length = 8 ∧ ∀ piece ∈ address.pieces, piece < 65536

instance : (host : Host) → Decidable host.IsLiteral
  | .domain _ => inferInstanceAs (Decidable False)
  | .ipv4 _ => inferInstanceAs (Decidable True)
  | .ipv6 _ => inferInstanceAs (Decidable (_ ∧ ∀ piece ∈ _, _))

theorem exists_digitChar {base : Nat} (two : 1 < base) (n : Nat) :
    ∀ c ∈ Nat.toDigits base n, ∃ digit < base, c = Nat.digitChar digit := by
  induction n using Nat.strongRecOn with
  | ind n induction =>
      by_cases small : n < base
      · rw [Nat.toDigits_of_lt_base small]
        intro c member
        exact ⟨n, small, List.mem_singleton.mp member⟩
      · have positive : 0 < n := by omega
        rw [Nat.toDigits_of_base_le two (Nat.not_lt.mp small)]
        intro c member
        rcases List.mem_append.mp member with front | last
        · exact induction _ (Nat.div_lt_self positive two) c front
        · exact ⟨n % base, Nat.mod_lt _ (by omega),
            List.mem_singleton.mp last⟩

/-! ## Four numbers -/

namespace Ipv4

theorem isSome_octet? :
    ∀ number < 256, (octet? (Nat.toDigits 10 number)).isSome = true := by
  decide +kernel

theorem toList_text (address : Address) :
    address.text.toList =
      ['.'].intercalate (address.octets.map (Nat.toDigits 10)) := by
  simp [Address.text, String.toList_intercalate, Function.comp_def]

theorem splitOn_text (address : Address) :
    address.text.toList.splitOn '.' =
      address.octets.map (Nat.toDigits 10) := by
  rw [toList_text]
  refine List.splitOn_intercalate _ ?_ (by simp [Address.octets])
  intro label member dot
  obtain ⟨octet, _, rfl⟩ := List.mem_map.mp member
  have digit := Nat.isDigit_of_mem_toDigits (by decide) (by decide) dot
  revert digit
  decide

theorem isLiteral_text (address : Address) :
    isLiteral address.text.toList = true := by
  simp only [isLiteral, splitOn_text, List.length_map, Bool.and_eq_true,
    beq_iff_eq, List.all_map, List.all_eq_true, Function.comp_apply]
  refine ⟨rfl, fun octet member => isSome_octet? octet ?_⟩
  simp only [Address.octets, List.mem_cons, List.not_mem_nil, or_false]
    at member
  omega

end Ipv4

/-! ## Eight pieces -/

namespace Ipv6

/-- The pieces as they stand in a text. -/
def joined (pieces : List Nat) : List Char :=
  [':'].intercalate (pieces.map (Nat.toDigits 16))

theorem joined_singleton (piece : Nat) :
    joined [piece] = Nat.toDigits 16 piece := by
  simp [joined]

theorem joined_cons (first second : Nat) (pieces : List Nat) :
    joined (first :: second :: pieces) =
      Nat.toDigits 16 first ++ ':' :: joined (second :: pieces) := by
  simp [joined, List.intercalate_cons_cons]

theorem length_le_joined (pieces : List Nat) :
    pieces.length ≤ (joined pieces).length := by
  match pieces with
  | [] => exact Nat.zero_le _
  | [piece] =>
      rw [joined_singleton]
      exact Nat.length_toDigits_pos
  | first :: second :: pieces =>
      have later := length_le_joined (second :: pieces)
      rw [joined_cons]
      simp only [List.length_append, List.length_cons] at later ⊢
      omega

theorem toList_piecesText (pieces : List Nat) :
    (piecesText pieces).toList = joined pieces := by
  simp [piecesText, joined, String.toList_intercalate, Function.comp_def]

theorem isHexDigit_of_mem {n : Nat} {c : Char}
    (member : c ∈ Nat.toDigits 16 n) : isHexDigit c = true := by
  obtain ⟨digit, small, rfl⟩ := exists_digitChar (by decide) n c member
  have all : ∀ digit < 16, isHexDigit (Nat.digitChar digit) = true := by decide
  exact all digit small

theorem exists_toDigits (piece : Nat) :
    ∃ c cs, Nat.toDigits 16 piece = c :: cs ∧ c ≠ ':' := by
  obtain ⟨c, cs, digits⟩ :=
    List.exists_cons_of_ne_nil (Nat.toDigits_ne_nil (n := piece) (b := 16))
  refine ⟨c, cs, digits, ?_⟩
  rintro rfl
  have isDigit : isHexDigit ':' = true :=
    isHexDigit_of_mem (n := piece) (by rw [digits]; exact List.mem_cons_self)
  revert isDigit
  decide

theorem length_toDigits_le {piece : Nat} (small : piece < 65536) :
    (Nat.toDigits 16 piece).length ≤ 4 :=
  (Nat.length_toDigits_le_iff (by decide) (by decide)).mpr small

theorem hexRun_append {digits rest : List Char} (few : digits.length ≤ 4)
    (areDigits : ∀ c ∈ digits, isHexDigit c = true)
    (ends : ∀ c ∈ rest.head?, isHexDigit c = false) :
    hexRun (digits ++ rest) = digits := by
  rw [hexRun, List.take_append, List.take_of_length_le few,
    List.takeWhile_append_of_pos areDigits]
  have none : (rest.take (4 - digits.length)).takeWhile isHexDigit = [] := by
    cases rest with
    | nil => simp
    | cons c cs =>
        cases 4 - digits.length with
        | zero => rfl
        | succ left =>
            rw [List.take_succ_cons, List.takeWhile_cons_of_neg]
            simp [ends c rfl]
  rw [none, List.append_nil]

/-- One more piece has been read. -/
def Progress.withPiece (progress : Progress) (piece : Nat) : Progress :=
  { progress with
    pieces := hexadecimal (Nat.toDigits 16 piece) :: progress.pieces }

def Progress.withPieces (progress : Progress) (pieces : List Nat) : Progress :=
  pieces.foldl withPiece progress

theorem Progress.gap_withPieces (progress : Progress) (pieces : List Nat) :
    (progress.withPieces pieces).gap = progress.gap := by
  induction pieces generalizing progress with
  | nil => rfl
  | cons piece pieces induction => exact induction (progress.withPiece piece)

theorem Progress.length_withPieces (progress : Progress) (pieces : List Nat) :
    (progress.withPieces pieces).pieces.length =
      progress.pieces.length + pieces.length := by
  induction pieces generalizing progress with
  | nil => rfl
  | cons piece pieces induction =>
      refine (induction (progress.withPiece piece)).trans ?_
      simp only [withPiece, List.length_cons]
      omega

/-- Read on behind a piece: there is nothing, or a colon and more. -/
def readBehind (fuel : Nat) (progress : Progress) :
    List Char → Option Progress
  | [] => some progress
  | _ :: rest => if rest.isEmpty then none else readFrom fuel progress rest

theorem readFrom_piece {progress : Progress} {piece : Nat} (fuel : Nat)
    (room : progress.pieces.length < 8) (small : piece < 65536)
    (rest : List Char) (ends : ∀ c ∈ rest.head?, c = ':') :
    readFrom (fuel + 1) progress (Nat.toDigits 16 piece ++ rest) =
      readBehind fuel (progress.withPiece piece) rest := by
  have run : hexRun (Nat.toDigits 16 piece ++ rest) =
      Nat.toDigits 16 piece := by
    refine hexRun_append (length_toDigits_le small)
      (fun c => isHexDigit_of_mem) ?_
    intro c first
    rw [ends c first]
    decide
  obtain ⟨c, cs, digits, noColon⟩ := exists_toDigits piece
  rw [Progress.withPiece]
  rw [digits, List.cons_append] at run ⊢
  rw [readFrom, if_neg (by omega), if_neg noColon, run]
  simp only [List.drop_left, ← List.cons_append]
  cases rest with
  | nil => rfl
  | cons colon rest =>
      cases ends colon rfl
      rfl

/-- Pieces are read up to the end or to one more colon. -/
theorem readFrom_joined (pieces : List Nat) :
    ∀ (progress : Progress) {piece : Nat} (fuel : Nat) (rest : List Char),
      (∀ member ∈ piece :: pieces, member < 65536) →
      progress.pieces.length + (piece :: pieces).length ≤ 8 →
      (∀ c ∈ rest.head?, c = ':') →
      readFrom (fuel + (piece :: pieces).length) progress
          (joined (piece :: pieces) ++ rest) =
        readBehind fuel (progress.withPieces (piece :: pieces)) rest := by
  induction pieces with
  | nil =>
      intro progress piece fuel rest small room ends
      rw [joined_singleton]
      exact readFrom_piece fuel (Nat.lt_of_succ_le room)
        (small piece List.mem_cons_self) rest ends
  | cons second pieces induction =>
      intro progress piece fuel rest small room ends
      have space : progress.pieces.length < 8 := by
        simp only [List.length_cons] at room
        omega
      have later := induction (progress.withPiece piece) fuel rest
        (fun member inside => small member (List.mem_cons_of_mem _ inside))
        (by simp only [Progress.withPiece, List.length_cons] at room ⊢; omega)
        ends
      rw [joined_cons, List.append_assoc, List.cons_append]
      refine (readFrom_piece (fuel + (second :: pieces).length) space
        (small piece List.mem_cons_self) _ (by simp)).trans ?_
      have notEmpty : (joined (second :: pieces) ++ rest).isEmpty = false := by
        have atLeast := length_le_joined (second :: pieces)
        rw [List.isEmpty_eq_false_iff, ← List.length_pos_iff]
        simp only [List.length_append, List.length_cons] at atLeast ⊢
        omega
      rw [readBehind, notEmpty]
      exact later

/-! ## Addresses in texts -/

theorem exists_joined (piece : Nat) (pieces : List Nat) :
    ∃ c cs, joined (piece :: pieces) = c :: cs ∧ c ≠ ':' := by
  obtain ⟨c, cs, digits, noColon⟩ := exists_toDigits piece
  cases pieces with
  | nil => exact ⟨c, cs, by rw [joined_singleton, digits], noColon⟩
  | cons second pieces =>
      exact ⟨c, _, by rw [joined_cons, digits]; rfl, noColon⟩

theorem ofText?_of_ne_colon {c : Char} (noColon : c ≠ ':') {cs : List Char}
    (more : cs ≠ []) :
    ofText? (c :: cs) =
      (readFrom ((c :: cs).length + 1) ⟨[], none⟩ (c :: cs)).bind
        (·.address?) := by
  cases cs with
  | nil => exact (more rfl).elim
  | cons second cs =>
      unfold ofText?
      split
      all_goals simp_all

theorem isSome_address?_of_gap {progress : Progress} {before : Nat}
    (gap : progress.gap = some before) : progress.address?.isSome = true := by
  rw [Progress.address?, gap]
  rfl

theorem isSome_address?_of_full {progress : Progress}
    (gap : progress.gap = none) (full : progress.pieces.length = 8) :
    progress.address?.isSome = true := by
  rw [Progress.address?, gap]
  simp [full]

/-- The pieces that end a text, if there are any. -/
theorem readFrom_last (fuel : Nat) (progress : Progress)
    {pieces : List Nat} (small : ∀ piece ∈ pieces, piece < 65536)
    (room : progress.pieces.length + pieces.length ≤ 8) :
    readFrom (fuel + pieces.length) progress (joined pieces) =
      some (progress.withPieces pieces) := by
  cases pieces with
  | nil =>
      rw [joined, List.map_nil, List.intercalate_nil, readFrom]
      rfl
  | cons piece pieces =>
      have read := readFrom_joined pieces progress fuel [] small room (by simp)
      rw [List.append_nil] at read
      exact read

theorem isSome_ofText?_joined {pieces : List Nat} (eight : pieces.length = 8)
    (small : ∀ piece ∈ pieces, piece < 65536) :
    (ofText? (joined pieces)).isSome = true := by
  have long := length_le_joined pieces
  obtain ⟨fuel, enough⟩ := Nat.exists_eq_add_of_le' long
  have read := readFrom_last (fuel + 1) ⟨[], none⟩ small (by simp [eight])
  obtain ⟨piece, others, rfl⟩ :=
    List.exists_cons_of_length_pos (by omega : 0 < pieces.length)
  obtain ⟨c, cs, characters, noColon⟩ := exists_joined piece others
  have more : cs ≠ [] := by
    rintro rfl
    rw [characters, List.length_singleton] at long
    omega
  rw [characters, ofText?_of_ne_colon noColon more, ← characters, enough,
    Nat.add_right_comm, read]
  refine isSome_address?_of_full (Progress.gap_withPieces _ _) ?_
  rw [Progress.length_withPieces, eight]
  rfl

/-- The second colon of a gap is read as a piece of its own. -/
theorem isSome_readFrom_gap (fuel : Nat) {progress : Progress}
    {pieces : List Nat} (gap : progress.gap = none)
    (small : ∀ piece ∈ pieces, piece < 65536)
    (room : progress.pieces.length + 1 + pieces.length ≤ 8) :
    ((readFrom (fuel + pieces.length + 1) progress
      (':' :: joined pieces)).bind (·.address?)).isSome = true := by
  have read := readFrom_last fuel
    ⟨0 :: progress.pieces, some (progress.pieces.length + 1)⟩
    small room
  rw [readFrom, if_neg (by omega), if_pos rfl, gap]
  simp only [Option.isSome_none, Bool.false_eq_true, if_false]
  rw [read]
  exact isSome_address?_of_gap (Progress.gap_withPieces _ _)

theorem isSome_ofText?_gap {front back : List Nat}
    (room : front.length + back.length ≤ 6)
    (small : ∀ piece ∈ front ++ back, piece < 65536) :
    (ofText? (joined front ++ ':' :: ':' :: joined back)).isSome = true := by
  have smallBack : ∀ piece ∈ back, piece < 65536 :=
    fun piece member => small piece (List.mem_append_right _ member)
  obtain ⟨fuel, enough⟩ := Nat.exists_eq_add_of_le' (length_le_joined back)
  cases front with
  | nil =>
      have read := readFrom_last (fuel + 1) ⟨[0], some 1⟩ smallBack
        (by simp at room ⊢; omega)
      change ((readFrom ((joined back).length + 1) ⟨[0], some 1⟩
        (joined back)).bind (·.address?)).isSome = true
      rw [enough, Nat.add_right_comm, read]
      exact isSome_address?_of_gap (Progress.gap_withPieces _ _)
  | cons piece front =>
      obtain ⟨frontFuel, frontEnough⟩ :=
        Nat.exists_eq_add_of_le' (length_le_joined (piece :: front))
      obtain ⟨c, cs, characters, noColon⟩ := exists_joined piece front
      have total : (joined (piece :: front) ++ ':' :: ':' ::
          joined back).length + 1 =
          (frontFuel + fuel + 2 + back.length + 1) +
            (piece :: front).length := by
        simp only [List.length_append, List.length_cons] at frontEnough ⊢
        omega
      have read := readFrom_joined front ⟨[], none⟩
        (frontFuel + fuel + 2 + back.length + 1) (':' :: ':' :: joined back)
        (fun member inside => small member (List.mem_append_left _ inside))
        (by simp only [List.length_cons, List.length_nil] at room ⊢; omega)
        (by simp)
      rw [← total, characters, List.cons_append] at read
      rw [characters, List.cons_append, ofText?_of_ne_colon noColon (by simp),
        read]
      refine isSome_readFrom_gap (frontFuel + fuel + 2)
        (Progress.gap_withPieces _ _) smallBack ?_
      rw [Progress.length_withPieces]
      simp only [List.length_cons, List.length_nil] at room ⊢
      omega

theorem longestRun_le (pieces : List Nat) :
    (longestRun pieces).1 + (longestRun pieces).2 ≤ pieces.length := by
  have bound : ∀ (starts : List Nat) (best : Nat × Nat),
      (∀ start ∈ starts, start < pieces.length) →
      best.1 + best.2 ≤ pieces.length →
      ∀ last, starts.foldl (fun best start =>
        let length := zeroRun (pieces.drop start)
        if best.2 < length then (start, length) else best) best = last →
      last.1 + last.2 ≤ pieces.length := by
    intro starts
    induction starts with
    | nil =>
        rintro best _ fits last rfl
        exact fits
    | cons start starts induction =>
        intro best inside fits last ended
        refine induction _ (fun other member =>
          inside other (List.mem_cons_of_mem _ member)) ?_ last ended
        have run : zeroRun (pieces.drop start) ≤ pieces.length - start := by
          rw [← List.length_drop]
          exact (List.takeWhile_prefix _).length_le
        have here := inside start List.mem_cons_self
        dsimp only
        split
        · dsimp only
          omega
        · exact fits
  exact bound _ (0, 0) (fun start => List.mem_range.mp) (by simp) _ rfl

/-- The text of an address is read as one. -/
theorem isSome_ofText?_text {address : Address}
    (eight : address.pieces.length = 8)
    (small : ∀ piece ∈ address.pieces, piece < 65536) :
    (ofText? address.text.toList).isSome = true := by
  have bound := longestRun_le address.pieces
  unfold Address.text
  generalize longestRun address.pieces = run at bound ⊢
  obtain ⟨start, length⟩ := run
  dsimp only at bound ⊢
  split
  · rw [toList_piecesText]
    exact isSome_ofText?_joined eight small
  · next long =>
      have text : (piecesText (address.pieces.take start) ++ "::" ++
          piecesText (address.pieces.drop (start + length))).toList =
          joined (address.pieces.take start) ++ ':' :: ':' ::
            joined (address.pieces.drop (start + length)) := by
        simp [toList_piecesText]
      rw [text]
      refine isSome_ofText?_gap ?_ ?_
      · rw [List.length_take, List.length_drop]
        omega
      · intro piece member
        rcases List.mem_append.mp member with front | back
        · exact small piece (List.mem_of_mem_take front)
        · exact small piece (List.mem_of_mem_drop back)

end Ipv6

/-! ## Characters of addresses -/

/-- A character that neither lowercasing nor dropping brackets touches. -/
def IsPlain (c : Char) : Prop :=
  c.toLower = c ∧ c ≠ '[' ∧ c ≠ ']'

instance (c : Char) : Decidable (IsPlain c) :=
  inferInstanceAs (Decidable (_ ∧ _ ∧ _))

theorem isPlain_digitChar : ∀ digit < 16, IsPlain (Nat.digitChar digit) := by
  decide

theorem Ipv4.mem_text {address : Address} {c : Char}
    (member : c ∈ address.text.toList) :
    c = '.' ∨ ∃ digit < 10, c = Nat.digitChar digit := by
  rw [toList_text] at member
  rcases Text.mem_intercalate member with between | ⟨digits, number, inside⟩
  · exact .inl (List.mem_singleton.mp between)
  · obtain ⟨octet, _, rfl⟩ := List.mem_map.mp number
    exact .inr (exists_digitChar (by decide) octet c inside)

theorem Ipv4.isPlain_text (address : Address) :
    ∀ c ∈ address.text.toList, IsPlain c := by
  intro c member
  rcases mem_text member with rfl | ⟨digit, small, rfl⟩
  · decide
  · exact isPlain_digitChar digit (by omega)

theorem Ipv6.mem_piecesText {pieces : List Nat} {c : Char}
    (member : c ∈ (piecesText pieces).toList) :
    c = ':' ∨ ∃ digit < 16, c = Nat.digitChar digit := by
  rw [toList_piecesText] at member
  rcases Text.mem_intercalate member with between | ⟨digits, number, inside⟩
  · exact .inl (List.mem_singleton.mp between)
  · obtain ⟨piece, _, rfl⟩ := List.mem_map.mp number
    exact .inr (exists_digitChar (by decide) piece c inside)

theorem Ipv6.mem_text {address : Address} {c : Char}
    (member : c ∈ address.text.toList) :
    c = ':' ∨ ∃ digit < 16, c = Nat.digitChar digit := by
  unfold Address.text at member
  dsimp only at member
  split at member
  · exact mem_piecesText member
  · simp only [String.toList_append, List.mem_append] at member
    rcases member with (front | colons) | back
    · exact mem_piecesText front
    · exact .inl (by simpa using colons)
    · exact mem_piecesText back

theorem Ipv6.isPlain_text (address : Address) :
    ∀ c ∈ address.text.toList, IsPlain c := by
  intro c member
  rcases mem_text member with rfl | ⟨digit, small, rfl⟩
  · decide
  · exact isPlain_digitChar digit small

end Url

/-! ## Addresses as hosts -/

namespace Cookie

open Url

theorem dropWhile_eq_self {p : Char → Bool} {cs : List Char}
    (none : ∀ c ∈ cs, p c = false) : cs.dropWhile p = cs := by
  cases cs with
  | nil => rfl
  | cons c cs =>
      exact List.dropWhile_cons_of_neg (by simp [none c List.mem_cons_self])

/-- Brackets around an address do not matter. -/
theorem isAddress_of_read {host : String} {inside : List Char}
    (bracketed : host.toList = inside ∨
      host.toList = '[' :: (inside ++ [']']))
    (plain : ∀ c ∈ inside, IsPlain c)
    (read : Ipv4.isLiteral inside = true ∨
      (Ipv6.ofText? inside).isSome = true) : isAddress host = true := by
  have noOpen : ∀ c ∈ inside, (c == '[') = false := by
    intro c member
    simp [(plain c member).2.1]
  have noClose : ∀ c ∈ inside.reverse, (c == ']') = false := by
    intro c member
    simp [(plain c (List.mem_reverse.mp member)).2.2]
  have bare : ((host.toList.dropWhile (· == '[')).reverse.dropWhile
      (· == ']')).reverse = inside := by
    rcases bracketed with same | same
    · rw [same, dropWhile_eq_self noOpen, dropWhile_eq_self noClose,
        List.reverse_reverse]
    · have noMore : ∀ c ∈ inside ++ [']'], (c == '[') = false := by
        intro c member
        rcases List.mem_append.mp member with inner | close
        · exact noOpen c inner
        · rw [List.mem_singleton.mp close]
          decide
      rw [same, List.dropWhile_cons_of_pos (by decide),
        dropWhile_eq_self noMore, List.reverse_append, List.reverse_singleton,
        List.singleton_append, List.dropWhile_cons_of_pos (by decide),
        dropWhile_eq_self noClose, List.reverse_reverse]
  simp only [isAddress, bare, Bool.or_eq_true]
  exact read

theorem asciiLowercase_of_plain {text : String}
    (plain : ∀ c ∈ text.toList, c.toLower = c) :
    Text.asciiLowercase text = text := by
  apply String.toList_injective
  rw [Text.asciiLowercase, String.toList_ofList]
  exact (List.map_congr_left plain).trans (List.map_id _)

theorem toList_text_ipv6 (address : Ipv6.Address) :
    (Host.ipv6 address).text.toList =
      '[' :: (address.text.toList ++ [']']) := by
  simp [Host.text]

theorem asciiLowercase_of_isLiteral {host : Host} (literal : host.IsLiteral) :
    Text.asciiLowercase host.text = host.text := by
  cases host with
  | domain name => exact literal.elim
  | ipv4 address =>
      exact asciiLowercase_of_plain fun c member =>
        (Ipv4.isPlain_text address c member).1
  | ipv6 address =>
      refine asciiLowercase_of_plain fun c member => ?_
      rw [toList_text_ipv6] at member
      simp only [List.mem_cons, List.mem_append, List.not_mem_nil,
        or_false] at member
      rcases member with rfl | inner | rfl
      · decide
      · exact (Ipv6.isPlain_text address c inner).1
      · decide

/-- The name of a host that is an address is one. -/
theorem isAddress_of_isLiteral {host : Host} (literal : host.IsLiteral) :
    isAddress (Text.asciiLowercase host.text) = true := by
  rw [asciiLowercase_of_isLiteral literal]
  cases host with
  | domain name => exact literal.elim
  | ipv4 address =>
      exact isAddress_of_read (.inl rfl) (Ipv4.isPlain_text address)
        (.inl (Ipv4.isLiteral_text _))
  | ipv6 address =>
      exact isAddress_of_read (.inr (toList_text_ipv6 address))
        (Ipv6.isPlain_text address)
        (.inr (Ipv6.isSome_ofText?_text literal.1 literal.2))

end Cookie

end OperatorConsole
