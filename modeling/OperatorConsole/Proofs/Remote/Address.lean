import OperatorConsole.Proofs.Text.Percent
import OperatorConsole.Proofs.Url.Reference
import OperatorConsole.Remote.Address

/-!
# Addresses of calls on web URLs

On every web URL the address of a call is its resource's path and nothing else
of the URL's own path, query and fragment.  The action in the query stands for
the line that was typed, though the query encodes it once more.
-/

namespace OperatorConsole.Remote

open Text

/-! ## Actions -/

/-- What an action keeps in the query of a web URL: an apostrophe does not stand
for itself there. -/
def isQueryActionChar (c : Char) : Bool :=
  isActionChar c && Url.keepSpecialQuery c

/-- An action as it stands in the query of a web URL. -/
def queryAction (line : String) : String :=
  String.ofList (percentEncode isQueryActionChar line.toList)

theorem keepsEncoding_keepSpecialQuery :
    KeepsEncoding Url.keepSpecialQuery where
  percent := by decide
  digit := by decide

theorem encodeText_encodeAction (line : String) :
    Url.encodeText Url.keepSpecialQuery (encodeAction line).toList =
      queryAction line := by
  rw [Url.encodeText, encodeAction, String.toList_ofList,
    keepsEncoding_keepSpecialQuery.percentEncode_percentEncode]
  rfl

theorem decodeAction_queryAction (line : String) :
    decodeAction (queryAction line) = line := by
  rw [decodeAction, queryAction, String.toList_ofList,
    percentDecode_percentEncode (by decide), String.ofList_toList]

/-- The name of the parameter needs no encoding. -/
theorem encodeText_parameter (line : String) :
    Url.encodeText Url.keepSpecialQuery
        ("action=" ++ encodeAction line).toList =
      "action=" ++ queryAction line := by
  have name : percentEncode Url.keepSpecialQuery "action=".toList =
      "action=".toList :=
    percentEncode_eq_self (List.all_eq_true.mp rfl)
  rw [← encodeText_encodeAction, Url.encodeText, String.toList_append,
    percentEncode_append, name, String.ofList_append,
    String.ofList_toList, Url.encodeText]

/-! ## Pages -/

/-- A path that is read up to its end hides all that a web URL has behind its
authority. -/
theorem join_of_single_name {base : Url} (special : base.kind = .special)
    (layered : base.isFlat = false) {text name : String} (rest : List Char)
    (slash : Url.trimmed text = '/' :: rest)
    (single : (Url.spanSlashes ('/' :: rest)).1.length < 2)
    (resolved : Url.resolve .special [] (Url.spanPath rest).1 = [name])
    (ended : (Url.spanPath rest).2 = []) :
    base.join text =
      .ok ⟨base.scheme, base.authority, .segments [name], none, none⟩ := by
  have ofScheme : Url.SchemeKind.ofScheme base.scheme = .special := special
  rw [Url.join_of_slash special layered slash single]
  simp only [Url.withPath, ofScheme, resolved, ended]
  rfl

theorem pageUrl_path {base : Url} (special : base.kind = .special)
    (layered : base.isFlat = false) (resource : Resource) :
    pageUrl base resource.path =
      .ok ⟨base.scheme, base.authority, .segments [resource.name], none,
        none⟩ := by
  have joined : base.join resource.path = .ok ⟨base.scheme, base.authority,
      .segments [resource.name], none, none⟩ := by
    cases resource with
    | history =>
        exact join_of_single_name special layered "history".toList
          (by decide) (by decide) (by decide) (by decide)
    | servers =>
        exact join_of_single_name special layered "servers".toList
          (by decide) (by decide) (by decide) (by decide)
    | act =>
        exact join_of_single_name special layered "act".toList
          (by decide) (by decide) (by decide) (by decide)
  rw [pageUrl, joined]
  rfl

theorem text_segments_single (name : String) :
    (UrlPath.segments [name]).text = "/" ++ name := by
  simp [UrlPath.text, String.join]

theorem text_path (resource : Resource) :
    (UrlPath.segments [resource.name]).text = resource.path := by
  rw [text_segments_single]
  cases resource <;> rfl

/-! ## Calls -/

theorem url_named {base : Url} (special : base.kind = .special)
    (layered : base.isFlat = false) (resource : Resource) :
    (Call.named resource).url base =
      .ok ⟨base.scheme, base.authority, .segments [resource.name], none,
        none⟩ := by
  rw [Call.url, Call.named, pageUrl_path special layered]
  rfl

theorem url_act {base : Url} (special : base.kind = .special)
    (layered : base.isFlat = false) (line : String) :
    (Call.act line).url base =
      .ok ⟨base.scheme, base.authority, .segments [Resource.act.name],
        some ("action=" ++ queryAction line), none⟩ := by
  have ofScheme : Url.SchemeKind.ofScheme base.scheme = .special := special
  have keeps (path : UrlPath) : Url.keepsInQuery
      ⟨base.scheme, base.authority, path, none, none⟩ =
        Url.keepSpecialQuery := by
    simp [Url.keepsInQuery, Url.kind, ofScheme]
  have asked (path : UrlPath) : Url.withQuery
      ⟨base.scheme, base.authority, path, none, none⟩
        ("action=" ++ encodeAction line) =
      ⟨base.scheme, base.authority, path,
        some ("action=" ++ queryAction line), none⟩ := by
    rw [Url.withQuery, keeps, encodeText_parameter]
  rw [Call.url, Call.act, pageUrl_path special layered]
  exact congrArg Except.ok (asked _)

end OperatorConsole.Remote
