import OperatorConsole.Cookie.SessionFile
import OperatorConsole.Proofs.Cookie.Expiry
import OperatorConsole.Proofs.Json.Accepted
import OperatorConsole.Proofs.Json.Reader

/-!
# Session files read back

The text that is written for the cookies of a jar is read as these cookies, in
their order.  In turn, whatever file is accepted, its cookies can be written
again.
-/

namespace OperatorConsole

open Json

namespace Cookie

/-! ## What is accepted -/

theorem yields_expires : Yields (optional instantReader) fun expires =>
    ∀ limit ∈ expires, IsInstant limit :=
  (yields_whole _ _ _).optional

theorem yields_items : Yields itemsReader Storable := by
  constructor
  intro depth cs rest cookie accepted
  -- Of the seven items only the last one has to be within bounds.
  iterate 6 obtain ⟨_, _, accepted⟩ := bind_eq_ok.mp accepted
  obtain ⟨⟨expires, tail⟩, read, ended⟩ := bind_eq_ok.mp accepted
  cases ended
  exact (yields_expires.itemAt 6 _).holds read

/-- What has been read of a cookie can be written. -/
def Members.Storable (state : Members) : Prop :=
  ∀ expires ∈ state.expires, ∀ limit ∈ expires, IsInstant limit

theorem keeps_plan (state : Members) (name : String)
    (storable : state.Storable) :
    (state.plan name).Keeps Members.Storable := by
  have others {α : Type} {reader : Reader α} {seen : Option α}
      {store : α → Members}
      (same : ∀ value, (store value).expires = state.expires) :
      (once name seen reader store).Keeps Members.Storable := by
    refine keeps_once ⟨fun _ => trivial⟩ fun value _ => ?_
    intro expires member
    exact storable expires (same value ▸ member)
  unfold Members.plan
  split
  · exact others fun _ => rfl
  split
  · exact others fun _ => rfl
  split
  · exact others fun _ => rfl
  split
  · exact others fun _ => rfl
  split
  · exact others fun _ => rfl
  split
  · exact others fun _ => rfl
  split
  · refine keeps_once yields_expires fun value good => ?_
    intro expires member
    cases member
    exact good
  · trivial

theorem yields_membersReader : Yields membersReader Storable := by
  have none : Members.Storable {} := by
    intro expires member
    cases member
  constructor
  intro depth cs rest cookie accepted
  obtain ⟨⟨state, tail⟩, read, accepted⟩ := bind_eq_ok.mp accepted
  have storable := (yields_members none keeps_plan).holds read
  -- The other members only have to be there.
  iterate 5 obtain ⟨_, _, accepted⟩ := bind_eq_ok.mp accepted
  obtain ⟨_, _, ended⟩ := bind_eq_ok.mp accepted
  cases ended
  intro limit member
  exact storable _ (Option.join_eq_some_iff.mp member) limit rfl

theorem yields_reader : Yields reader Storable := by
  refine yields_container ?_ ?_
  · intro contents same
    cases same
    exact yields_items
  · intro contents same
    cases same
    exact yields_membersReader

/-! ## What is written -/

def expiresValue : Option Int → Value
  | none => .null
  | some instant => .number (.whole instant)

theorem reads_expires {expires : Option Int}
    (storable : ∀ limit ∈ expires, IsInstant limit) :
    Reads (optional instantReader) 0 (expiresValue expires).compact
      expires := by
  cases expires with
  | none => exact reads_null _ _
  | some instant =>
      obtain ⟨least, most⟩ := storable instant rfl
      refine (reads_whole _ _ ⟨least, most⟩ ?_).present
        (head?_wholeText_ne instant)
      have power : Nat.pow 2 63 = 9223372036854775808 := by decide
      have bound : significandBound = 18446744073709551615 := by decide
      simp only [SetCookie.endOfTime] at least most
      omega

theorem fills_members (cookie : Cookie) (storable : cookie.Storable) :
    Fills Members.plan 0 {}
      [("name", .string cookie.name), ("value", .string cookie.value),
        ("domain", .string cookie.domain),
        ("host_only", .boolean cookie.hostOnly), ("path", .string cookie.path),
        ("secure", .boolean cookie.secure),
        ("expires", expiresValue cookie.expires)]
      ⟨some cookie.name, some cookie.value, some cookie.domain,
        some cookie.hostOnly, some cookie.path, some cookie.secure,
        some cookie.expires⟩ := by
  refine .stored ⟨some cookie.name, none, none, none, none, none, none⟩
    rfl (reads_string 0 _) rfl ?_
  refine .stored ⟨some cookie.name, some cookie.value, none, none, none, none,
    none⟩ rfl (reads_string 0 _) rfl ?_
  refine .stored ⟨some cookie.name, some cookie.value, some cookie.domain,
    none, none, none, none⟩ rfl (reads_string 0 _) rfl ?_
  refine .stored ⟨some cookie.name, some cookie.value, some cookie.domain,
    some cookie.hostOnly, none, none, none⟩ rfl (reads_boolean 0 _) rfl ?_
  refine .stored ⟨some cookie.name, some cookie.value, some cookie.domain,
    some cookie.hostOnly, some cookie.path, none, none⟩
    rfl (reads_string 0 _) rfl ?_
  refine .stored ⟨some cookie.name, some cookie.value, some cookie.domain,
    some cookie.hostOnly, some cookie.path, some cookie.secure, none⟩
    rfl (reads_boolean 0 _) rfl ?_
  exact .stored _ rfl (reads_expires storable) rfl (.none _)

/-- A cookie is read as it was written. -/
theorem reads_toJson (cookie : Cookie) (storable : cookie.Storable) :
    Reads reader 1 cookie.toJson.compact cookie := by
  refine reads_inObject _ _ ?_
  intro depth rest enough
  have read := members_written enough rest (fills_members cookie storable)
  exact bind_eq_ok.mpr ⟨_, read, rfl⟩

end Cookie

namespace CookieJar

/-- The text of a file lists the live cookies. -/
theorem ofFileText_fileText {jar : CookieJar} (storable : jar.Storable)
    (now : Int) : ofFileText (jar.fileText now) = .ok (jar.live now) := by
  have reads : Reads (listOf Cookie.reader) 2
      (Value.array ((jar.live now).map Cookie.toJson)).compact
      (jar.live now) := by
    refine reads_list fun cookie member => ?_
    exact cookie.reads_toJson (storable cookie (List.mem_filter.mp member).1)
  exact readText_written reads (by decide)

theorem storable_of_ofFileText {text : String} {cookies : List Cookie}
    (accepted : ofFileText text = .ok cookies) :
    ∀ cookie ∈ cookies, cookie.Storable :=
  readText_eq_ok Cookie.yields_reader.listOf accepted

end CookieJar

end OperatorConsole
