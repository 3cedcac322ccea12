import OperatorConsole.Cookie.Basic
import OperatorConsole.Proofs.Text.ByteOrder

/-!
# The scope of cookies

What the tests of hosts and paths say about texts: which hosts a domain reaches
and which paths lie below another one, and so which URLs a cookie goes to.  The
keys of cookies are in the order of their bytes.
-/

namespace OperatorConsole.Cookie

/-- A host is a domain or ends with it behind a dot, which no address does. -/
def Within (host domain : String) : Prop :=
  host = domain ∨
    isAddress host = false ∧ ∃ below, host = below ++ "." ++ domain

/-- A path is another one or extends it at a slash. -/
def Extends (path scope : String) : Prop :=
  path = scope ∨
    ∃ rest, path = scope ++ rest ∧
      ((∃ before, scope = before ++ "/") ∨ ∃ below, rest = "/" ++ below)

/-- An address lies in no domain but its own. -/
theorem Within.eq_of_isAddress {host domain : String}
    (within : Within host domain) (address : isAddress host = true) :
    host = domain := by
  rcases within with same | ⟨noAddress, _⟩
  · exact same
  · rw [address] at noAddress
    cases noAddress

theorem domainMatches_iff {host domain : String} :
    domainMatches host domain = true ↔ Within host domain := by
  simp only [domainMatches, Within, Bool.or_eq_true, Bool.and_eq_true,
    beq_iff_eq, Bool.not_eq_true', List.isSuffixOf_iff_suffix]
  refine or_congr_right (and_congr_right fun _ => ?_)
  constructor
  · rintro ⟨below, split⟩
    refine ⟨String.ofList below, String.toList_injective ?_⟩
    simp [← split]
  · rintro ⟨below, split⟩
    exact ⟨below.toList, by simp [split]⟩

theorem getLast?_eq_slash_iff {text : String} :
    text.toList.getLast? = some '/' ↔ ∃ before, text = before ++ "/" := by
  rw [List.getLast?_eq_some_iff]
  constructor
  · rintro ⟨before, split⟩
    refine ⟨String.ofList before, String.toList_injective ?_⟩
    simp [split]
  · rintro ⟨before, split⟩
    exact ⟨before.toList, by simp [split]⟩

theorem head?_eq_slash_iff {text : String} :
    text.toList.head? = some '/' ↔ ∃ below, text = "/" ++ below := by
  rw [List.head?_eq_some_iff]
  constructor
  · rintro ⟨below, split⟩
    refine ⟨String.ofList below, String.toList_injective ?_⟩
    simp [split]
  · rintro ⟨below, split⟩
    exact ⟨below.toList, by simp [split]⟩

theorem pathMatches_iff {path scope : String} :
    pathMatches path scope = true ↔ Extends path scope := by
  simp only [pathMatches, Extends, Bool.or_eq_true, Bool.and_eq_true,
    beq_iff_eq, List.isPrefixOf_iff_prefix, String.toList_inj,
    getLast?_eq_slash_iff]
  refine or_congr_right ?_
  constructor
  · rintro ⟨⟨rest, split⟩, boundary⟩
    refine ⟨String.ofList rest, String.toList_injective (by simp [← split]), ?_⟩
    rw [← split, List.drop_left] at boundary
    rw [← head?_eq_slash_iff, String.toList_ofList]
    exact boundary
  · rintro ⟨rest, split, boundary⟩
    rw [← head?_eq_slash_iff] at boundary
    rw [split, String.toList_append, List.drop_left]
    exact ⟨List.prefix_append _ _, boundary⟩

instance (host domain : String) : Decidable (Within host domain) :=
  decidable_of_iff _ domainMatches_iff

instance (path scope : String) : Decidable (Extends path scope) :=
  decidable_of_iff _ pathMatches_iff

/-! ## The cookies of a URL -/

/-- The cookie goes to a URL by host, path and scheme. -/
structure Covers (cookie : Cookie) (url : Url) : Prop where
  host : ∃ host ∈ hostName? url,
    if cookie.hostOnly then host = cookie.domain
    else Within host cookie.domain
  path : Extends url.path.text cookie.path
  scheme : cookie.secure = true → url.scheme = "https"

theorem appliesTo_iff_covers {cookie : Cookie} {url : Url} :
    cookie.appliesTo url = true ↔ cookie.Covers url := by
  have scheme : (!cookie.secure || url.scheme == "https") = true ↔
      (cookie.secure = true → url.scheme = "https") := by
    simp [Decidable.imp_iff_not_or]
  have reaches (host : String) :
      (if cookie.hostOnly then host == cookie.domain
        else domainMatches host cookie.domain) = true ↔
        if cookie.hostOnly then host = cookie.domain
        else Within host cookie.domain := by
    split
    · exact beq_iff_eq
    · exact domainMatches_iff
  unfold appliesTo
  cases named : hostName? url with
  | none =>
      constructor
      · intro applies
        cases applies
      · rintro ⟨⟨host, member, _⟩, _, _⟩
        rw [named] at member
        cases member
  | some host =>
      simp only [Bool.and_eq_true, reaches, pathMatches_iff, scheme]
      constructor
      · rintro ⟨⟨reached, path⟩, secure⟩
        exact ⟨⟨host, named, reached⟩, path, secure⟩
      · rintro ⟨⟨other, member, reached⟩, path, secure⟩
        rw [named] at member
        cases member
        exact ⟨⟨reached, path⟩, secure⟩

theorem Covers.within {cookie : Cookie} {url : Url} (covers : cookie.Covers url)
    {host : String} (named : hostName? url = some host) :
    Within host cookie.domain := by
  obtain ⟨other, member, reached⟩ := covers.host
  rw [named] at member
  cases member
  split at reached
  · exact .inl reached
  · exact reached

/-! ## The order of keys -/

/-- The bytes of the domain, the path and the name. -/
def Key.bytes (key : Key) : List (List UInt8) :=
  [key.domain, key.path, key.name].map Text.bytesOf

theorem Key.bytes_injective {left right : Key}
    (same : left.bytes = right.bytes) : left = right := by
  cases left
  cases right
  simpa [Key.bytes, Text.bytesOf_inj] using same

theorem compare_key_eq_lt_iff {left right : Key} :
    compare left right = .lt ↔ left.bytes < right.bytes := by
  change Key.order left right = .lt ↔ _
  simp [Key.order, compareLex, compareOn, Ordering.then_eq_lt, Key.bytes,
    List.cons_lt_cons_iff, Text.compare_eq_lt_iff, Text.bytesOf_inj]

end OperatorConsole.Cookie
