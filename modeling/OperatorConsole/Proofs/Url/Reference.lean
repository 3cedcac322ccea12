import Mathlib.Data.List.TakeDrop
import OperatorConsole.Url.Reference

/-!
# Web URLs and paths below them

A text with one slash at its front, joined to a URL of a special scheme with
segments for its path, keeps scheme and authority and nothing else.  It can be
joined to every URL with segments.
-/

namespace OperatorConsole.Url

/-! ## Paths from the root -/

theorem splitScheme?_slash (rest : List Char) :
    splitScheme? ('/' :: rest) = none := by
  have span : ('/' :: rest).span (fun c => isGap c || isSchemeChar c) =
      ([], '/' :: rest) :=
    rfl
  rw [splitScheme?, span]
  rfl

theorem next?_slash (rest : List Char) :
    next? ('/' :: rest) = some ('/', rest) := by
  simp [next?, isGap]

/-- How a text with a slash at its front is joined. -/
theorem join_front {base : Url} {text : String} {rest : List Char}
    (slash : trimmed text = '/' :: rest) :
    base.join text =
      if base.isFlat then .error .relativeToFlat
      else if base.kind = .file then ofFileText (some base) ('/' :: rest)
      else relative base ('/' :: rest) := by
  rw [join, read, slash]
  simp only [splitScheme?_slash, next?_slash, Option.map_some]
  rw [if_neg (by decide)]

theorem relative_slash (base : Url) (rest : List Char) :
    relative base ('/' :: rest) =
      if (spanSlashes ('/' :: rest)).1.length < 2 then
        .ok (withPath base.scheme base.authority [] rest)
      else
        ofAuthority base.scheme
          ((afterTwo? ('/' :: rest)).getD (spanSlashes ('/' :: rest)).2) := by
  rw [relative, next?_slash]
  rfl

/-- A text with a slash at its front, joined to a special URL, is a path or, with
two slashes, begins with an authority. -/
theorem join_slash {base : Url} {text : String} {rest : List Char}
    (special : base.kind = .special) (layered : base.isFlat = false)
    (slash : trimmed text = '/' :: rest) :
    base.join text =
      if (spanSlashes ('/' :: rest)).1.length < 2 then
        .ok (withPath base.scheme base.authority [] rest)
      else
        ofAuthority base.scheme
          ((afterTwo? ('/' :: rest)).getD (spanSlashes ('/' :: rest)).2) := by
  have notFile : base.kind ≠ .file := by
    rw [special]
    exact SchemeKind.noConfusion
  rw [join_front slash, layered, if_neg Bool.false_ne_true, if_neg notFile,
    relative_slash]

/-- A text with one slash at its front names a path from the root of the base's
authority. -/
theorem join_of_slash {base : Url} {text : String} {rest : List Char}
    (special : base.kind = .special) (layered : base.isFlat = false)
    (slash : trimmed text = '/' :: rest)
    (single : (spanSlashes ('/' :: rest)).1.length < 2) :
    base.join text = .ok (withPath base.scheme base.authority [] rest) := by
  rw [join_slash special layered slash, if_pos single]

theorem kind_of_web {url : Url}
    (web : url.scheme = "http" ∨ url.scheme = "https") :
    url.kind = .special := by
  rw [kind]
  rcases web with http | https
  · rw [http]
    decide
  · rw [https]
    decide

/-! ## Authorities in texts -/

/-- Controls and spaces around a text and gaps in it aside, two slashes of either
kind stand at its front, and an authority behind them. -/
def namesAuthority (text : String) : Bool :=
  match visible (trimmed text) with
  | first :: second :: _ => isAnySlash first && isAnySlash second
  | _ => false

theorem trimmed_of_slash {text : String} {rest : List Char}
    (slash : text.toList = '/' :: rest) :
    ∃ kept, trimmed text = '/' :: kept := by
  let isOuter := fun (c : Char) => decide (c.toNat ≤ 0x20)
  have unfolded : trimmed text =
      (('/' :: rest).reverse.dropWhile isOuter).reverse := by
    rw [trimmed, slash]
    rfl
  rw [unfolded, List.reverse_cons, List.dropWhile_append]
  by_cases blank : (rest.reverse.dropWhile isOuter).isEmpty = true
  · rw [if_pos blank]
    exact ⟨[], rfl⟩
  · rw [if_neg blank]
    exact ⟨(rest.reverse.dropWhile isOuter).reverse, by simp⟩

theorem visible_takeWhile_slashes (cs : List Char) :
    visible (cs.takeWhile fun c => isGap c || isAnySlash c) =
      (visible cs).takeWhile isAnySlash := by
  induction cs with
  | nil => rfl
  | cons c cs induction =>
      unfold visible at induction ⊢
      cases gap : isGap c with
      | true => simpa [gap] using induction
      | false =>
          cases slash : isAnySlash c with
          | true => simpa [gap, slash] using induction
          | false => simp [gap, slash]

/-- Gaps between slashes do not matter. -/
theorem spanSlashes_eq (cs : List Char) :
    (spanSlashes cs).1 = (visible cs).takeWhile isAnySlash := by
  rw [spanSlashes, List.span_eq_takeWhile_dropWhile]
  exact visible_takeWhile_slashes cs

theorem namesAuthority_iff {text : String} :
    namesAuthority text = true ↔
      2 ≤ (spanSlashes (trimmed text)).1.length := by
  rw [spanSlashes_eq, namesAuthority]
  match visible (trimmed text) with
  | [] => simp
  | [only] =>
      cases slash : isAnySlash only <;> simp [slash]
  | first :: second :: rest =>
      cases firstSlash : isAnySlash first <;>
        cases secondSlash : isAnySlash second <;>
          simp [firstSlash, secondSlash]

theorem spanSlashes_lt_two {text : String} {rest : List Char}
    (trims : trimmed text = rest)
    (unnamed : namesAuthority text = false) :
    (spanSlashes rest).1.length < 2 := by
  have few := mt namesAuthority_iff.mpr (by rw [unnamed]; decide)
  rw [trims] at few
  omega

@[simp] theorem scheme_withPath (scheme : String)
    (authority : Option Authority) (done : List String) (cs : List Char) :
    (withPath scheme authority done cs).scheme = scheme := rfl

@[simp] theorem authority_withPath (scheme : String)
    (authority : Option Authority) (done : List String) (cs : List Char) :
    (withPath scheme authority done cs).authority = authority := rfl

theorem scheme_ofAuthority {scheme : String} {cs : List Char} {url : Url}
    (success : ofAuthority scheme cs = .ok url) : url.scheme = scheme := by
  unfold ofAuthority at success
  cases read : Authority.read scheme cs with
  | error fault =>
      rw [read] at success
      cases success
  | ok parts =>
      obtain ⟨authority, rest⟩ := parts
      simp only [read, bind, Except.bind] at success
      split at success <;> cases success <;> rfl

/-- A text with a slash at its front that names no authority is a page of the
base's server. -/
theorem join_within {base : Url} {text : String} {rest : List Char}
    (special : base.kind = .special) (layered : base.isFlat = false)
    (slash : text.toList = '/' :: rest)
    (unnamed : namesAuthority text = false) :
    ∃ url, base.join text = .ok url ∧ url.scheme = base.scheme ∧
      url.authority = base.authority := by
  obtain ⟨kept, trims⟩ := trimmed_of_slash slash
  have single := spanSlashes_lt_two trims unnamed
  exact ⟨_, join_of_slash special layered trims single, scheme_withPath _ _ _ _,
    authority_withPath _ _ _ _⟩

/-- Of the base of a text that names an authority nothing matters but the
scheme. -/
theorem join_beyond {base other : Url} {text : String} {rest : List Char}
    (special : base.kind = .special) (layered : base.isFlat = false)
    (slash : text.toList = '/' :: rest)
    (named : namesAuthority text = true)
    (sameScheme : other.scheme = base.scheme)
    (otherLayered : other.isFlat = false) :
    other.join text = base.join text := by
  obtain ⟨kept, trims⟩ := trimmed_of_slash slash
  have several : ¬ (spanSlashes ('/' :: kept)).1.length < 2 := by
    have many := namesAuthority_iff.mp named
    rw [trims] at many
    omega
  have otherSpecial : other.kind = .special := by
    rw [kind, sameScheme]
    exact special
  rw [join_slash special layered trims, if_neg several,
    join_slash otherSpecial otherLayered trims, if_neg several, sameScheme]

theorem scheme_of_join {base url : Url} {text : String} {rest : List Char}
    (special : base.kind = .special) (layered : base.isFlat = false)
    (slash : text.toList = '/' :: rest)
    (joined : base.join text = .ok url) : url.scheme = base.scheme := by
  obtain ⟨kept, trims⟩ := trimmed_of_slash slash
  rw [join_slash special layered trims] at joined
  split at joined
  · cases joined
    exact scheme_withPath _ _ _ _
  · exact scheme_ofAuthority joined

/-! ## Bases of any scheme -/

theorem join_of_flat {base : Url} {text : String} {rest : List Char}
    (flat : base.isFlat = true) (slash : text.toList = '/' :: rest) :
    base.join text = .error .relativeToFlat := by
  obtain ⟨kept, trims⟩ := trimmed_of_slash slash
  rw [join_front trims, if_pos flat]

theorem visible_of_next? {cs rest : List Char} {c : Char}
    (next : next? cs = some (c, rest)) : visible cs = c :: visible rest := by
  unfold visible
  induction cs with
  | nil => cases next
  | cons d cs induction =>
      cases gap : isGap d with
      | true =>
          rw [List.filter_cons_of_neg (by simp [gap])]
          apply induction
          rwa [next?, List.dropWhile_cons_of_pos gap] at next
      | false =>
          rw [next?, List.dropWhile_cons_of_neg (by simp [gap])] at next
          cases next
          rw [List.filter_cons_of_pos (by simp [gap])]

section Unnamed

variable {base : Url} {text : String} {rest : List Char}

theorem join_unnamed (layered : base.isFlat = false)
    (notFile : base.kind ≠ .file) (trims : trimmed text = '/' :: rest)
    (unnamed : namesAuthority text = false) :
    base.join text = .ok (withPath base.scheme base.authority [] rest) := by
  rw [join_front trims, layered, if_neg Bool.false_ne_true, if_neg notFile,
    relative_slash, if_pos (spanSlashes_lt_two trims unnamed)]

/-- A file path goes on from the drive letter of the base, if there is one, or on
its host. -/
theorem join_unnamed_file (layered : base.isFlat = false)
    (file : base.kind = .file) (trims : trimmed text = '/' :: rest)
    (unnamed : namesAuthority text = false) :
    ∃ authority done path,
      base.join text = .ok (withPath "file" (some authority) done path) ∧
        (authority = .empty ∨
          authority = { Authority.empty with host := base.host? }) := by
  have root : (fileRoot (some base)).1 = .empty ∨
      (fileRoot (some base)).1 =
        { Authority.empty with host := base.host? } := by
    unfold fileRoot
    dsimp only
    split
    · split
      · exact .inl rfl
      · exact .inr rfl
    · exact .inr rfl
  rw [join_front trims, layered, if_neg Bool.false_ne_true, if_pos file,
    ofFileText, next?_slash]
  dsimp only
  rw [if_pos (by decide)]
  split
  · next second after next =>
      have single : isAnySlash second = false := by
        rw [namesAuthority, trims, visible_of_next? (next?_slash rest),
          visible_of_next? next] at unnamed
        exact unnamed
      rw [single, if_neg Bool.false_ne_true]
      split
      · exact ⟨_, _, _, rfl, .inl rfl⟩
      · exact ⟨_, _, _, rfl, root⟩
  · exact ⟨_, _, _, rfl, root⟩

/-- A text with a slash at its front that names no authority can be joined to
every URL with segments, whatever its scheme. -/
theorem exists_join (layered : base.isFlat = false)
    (slash : text.toList = '/' :: rest)
    (unnamed : namesAuthority text = false) :
    ∃ url, base.join text = .ok url := by
  obtain ⟨kept, trims⟩ := trimmed_of_slash slash
  by_cases file : base.kind = .file
  · obtain ⟨_, _, _, joined, _⟩ :=
      join_unnamed_file layered file trims unnamed
    exact ⟨_, joined⟩
  · exact ⟨_, join_unnamed layered file trims unnamed⟩

end Unnamed

/-- A front-end on the machine itself. -/
def loopback : Url where
  scheme := "http"
  authority := some ⟨"", "", some (.ipv6 ⟨[0, 0, 0, 0, 0, 0, 0, 1]⟩), some 8087⟩
  path := .segments [""]
  query := none
  fragment := none

end OperatorConsole.Url
