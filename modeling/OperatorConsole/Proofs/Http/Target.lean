import OperatorConsole.Http.Target
import OperatorConsole.Proofs.Url.WellFormed

/-!
# URLs that no request can ask for

Where there is no host, the text of a URL has nothing behind its scheme that a
request could be sent to.
-/

namespace OperatorConsole.Http.Target

theorem next?_of_small : ∀ n < 128,
    Url.isSchemeChar (Char.ofNat n) = true →
      Seen.next? {} (Char.ofNat n) = some {} := by
  decide +kernel

theorem next?_of_isSchemeChar {c : Char} (plain : Url.isSchemeChar c = true) :
    Seen.next? {} c = some {} := by
  have small := next?_of_small c.toNat (Url.toNat_lt_of_isSchemeChar plain)
  rw [Char.ofNat_toNat] at small
  exact small plain

theorem afterAuthority?_slash (rest : List Char) :
    afterAuthority? {} ('/' :: rest) = some ('/' :: rest) := rfl

theorem afterAuthority?_scheme {cs : List Char} (rest : List Char)
    (letters : ∀ c ∈ cs, Url.isSchemeChar c = true) :
    afterAuthority? {} (cs ++ ':' :: '/' :: rest) = some ('/' :: rest) := by
  induction cs with
  | nil => rfl
  | cons c cs induction =>
      obtain ⟨first, others⟩ := List.forall_mem_cons.mp letters
      have goesOn : ¬ (c = '/' ∨ c = '?' ∨ c = '#') := by
        rintro (rfl | rfl | rfl) <;> cases first
      rw [List.cons_append, afterAuthority?, if_neg goesOn,
        next?_of_isSchemeChar first, Option.bind_some, induction others]

theorem toList_text (url : Url) :
    url.text.toList = url.scheme.toList ++ ':' ::
      (url.authorityText.toList ++ url.path.text.toList ++
        url.queryText.toList ++ url.fragmentText.toList) := by
  simp [Url.text]

theorem behind_scheme (url : Url) :
    url.text.toList.drop (url.scheme.length + 1) =
      url.authorityText.toList ++ url.path.text.toList ++
        url.queryText.toList ++ url.fragmentText.toList := by
  rw [toList_text, ← String.length_toList]
  simp

theorem toList_path {url : Url} {first : String} {more : List String}
    (path : url.path = .segments (first :: more)) :
    ∃ rest, url.path.text.toList = '/' :: (first.toList ++ rest) := by
  refine ⟨(String.join (more.map ("/" ++ ·))).toList, ?_⟩
  rw [path, UrlPath.text, List.map_cons, String.join_cons,
    String.toList_append, String.toList_append]
  rfl

/-- With nothing in its authority a URL names no place to send a request to. -/
theorem isFit_of_empty_authority {url : Url} {first : String}
    {more : List String} (empty : url.authority = some .empty)
    (path : url.path = .segments (first :: more)) : isFit url = false := by
  obtain ⟨rest, front⟩ := toList_path path
  have slashes : url.authorityText.toList = ['/', '/'] := by
    have nothing : Url.Authority.empty.text = "" := by decide
    rw [Url.authorityText, empty]
    dsimp only
    rw [nothing]
    rfl
  have behind := behind_scheme url
  rw [slashes, front] at behind
  simp only [List.cons_append, List.nil_append] at behind
  simp [isFit, behind, afterAuthority?_slash]

theorem isFit_of_no_authority {url : Url} {first : String} {c : Char}
    {rest : List Char} {more : List String}
    (letters : ∀ c ∈ url.scheme.toList, Url.isSchemeChar c = true)
    (none : url.authority = none)
    (path : url.path = .segments (first :: more))
    (name : first.toList = c :: rest) (notSlash : c ≠ '/') :
    isFit url = false := by
  obtain ⟨behind, front⟩ := toList_path path
  obtain ⟨d, kept, split, single⟩ : ∃ d kept,
      url.authorityText.toList ++ url.path.text.toList ++
          url.queryText.toList ++ url.fragmentText.toList =
        '/' :: d :: kept ∧ d ≠ '/' := by
    rw [Url.authorityText, none, front, name]
    dsimp only
    split
    · exact ⟨'.', _, rfl, by decide⟩
    · exact ⟨c, _, rfl, notSlash⟩
  have after : afterAuthority? {} url.text.toList = some ('/' :: d :: kept) := by
    rw [toList_text, split]
    exact afterAuthority?_scheme _ letters
  unfold isFit
  dsimp only
  rw [behind_scheme, split, after]
  split
  · next doubled => simp_all
  · simp

/-- Nothing in the text of the URL says where to send a request. -/
inductive Nowhere (url : Url) : Prop where
  | emptyAuthority {first : String} {more : List String} :
      url.authority = some .empty →
      url.path = .segments (first :: more) →
      Nowhere url
  | noAuthority {first : String} {c : Char} {rest : List Char}
      {more : List String} :
      (∀ c ∈ url.scheme.toList, Url.isSchemeChar c = true) →
      url.authority = none →
      url.path = .segments (first :: more) →
      first.toList = c :: rest →
      c ≠ '/' →
      Nowhere url

namespace Nowhere

variable {url : Url}

theorem isFit (nowhere : Nowhere url) : isFit url = false := by
  cases nowhere with
  | emptyAuthority empty path => exact isFit_of_empty_authority empty path
  | noAuthority letters none path name notSlash =>
      exact isFit_of_no_authority letters none path name notSlash

/-- A query makes no difference. -/
theorem withQuery (nowhere : Nowhere url) (query : String) :
    Nowhere (url.withQuery query) := by
  cases nowhere with
  | emptyAuthority empty path => exact .emptyAuthority empty path
  | noAuthority letters none path name notSlash =>
      exact .noAuthority letters none path name notSlash

end Nowhere

end OperatorConsole.Http.Target
