import OperatorConsole.Proofs.Cookie.Origin
import OperatorConsole.Proofs.Cookie.Restoring

/-!
# Reading the cookies of a request

A server that takes the header of a request apart finds the names and values of
the cookies that were put together.  No name has an equals sign in it, neither
names nor values have semicolons, and none of them has a character that could
not be sent.  That holds of what comes from the network, and it outlasts a file.
-/

namespace OperatorConsole

namespace Cookie

/-! ## Taking a header apart -/

/-- What stands between the semicolons that a space follows. -/
def piecesOf : List Char → List (List Char)
  | [] => [[]]
  | ';' :: ' ' :: rest => [] :: piecesOf rest
  | c :: rest => (piecesOf rest).modifyHead (c :: ·)

/-- What stands before and behind the first equals sign. -/
def sidesOf (piece : List Char) : String × String :=
  (String.ofList (piece.takeWhile (· != '=')),
    String.ofList ((piece.dropWhile (· != '=')).drop 1))

/-- The names and values in a header. -/
def readHeader (header : String) : List (String × String) :=
  (piecesOf header.toList).map sidesOf

theorem piecesOf_append {front : List Char} (closed : ';' ∉ front)
    (cs : List Char) :
    piecesOf (front ++ cs) = (piecesOf cs).modifyHead (front ++ ·) := by
  induction front with
  | nil =>
      cases pieces : piecesOf cs with
      | nil => exact pieces
      | cons first others => exact pieces
  | cons c front induction =>
      obtain ⟨other, closed⟩ := not_or.mp (mt List.mem_cons.mpr closed)
      have step : piecesOf (c :: (front ++ cs)) =
          (piecesOf (front ++ cs)).modifyHead (c :: ·) := by
        rw [piecesOf]
        -- A separator would begin with a semicolon.
        rintro rest rfl
        exact (other rfl).elim
      rw [List.cons_append, step, induction closed, List.modifyHead_modifyHead]
      rfl

/-- Pieces without semicolons are found again when they were joined. -/
theorem piecesOf_intercalate {pieces : List (List Char)} (some : pieces ≠ [])
    (closed : ∀ piece ∈ pieces, ';' ∉ piece) :
    piecesOf ([';', ' '].intercalate pieces) = pieces := by
  induction pieces with
  | nil => exact (some rfl).elim
  | cons first others induction =>
      obtain ⟨firstClosed, othersClosed⟩ := List.forall_mem_cons.mp closed
      cases others with
      | nil =>
          have alone := piecesOf_append firstClosed []
          rw [List.append_nil] at alone
          rw [List.intercalate_singleton, alone, piecesOf,
            List.modifyHead_cons, List.append_nil]
      | cons second others =>
          have later := induction (List.cons_ne_nil _ _) othersClosed
          rw [List.intercalate_cons_cons, List.append_assoc,
            piecesOf_append firstClosed, List.cons_append,
            List.singleton_append, piecesOf, later, List.modifyHead_cons,
            List.append_nil]

/-! ## Legible cookies -/

/-- The name and the value can be read from a header. -/
structure Legible (cookie : Cookie) : Prop where
  name : ∀ c ∈ cookie.name.toList,
    CookieJar.isVisible c = true ∧ c ≠ ';' ∧ c ≠ '='
  value : ∀ c ∈ cookie.value.toList, CookieJar.isVisible c = true ∧ c ≠ ';'

theorem toList_pair (cookie : Cookie) :
    cookie.pair.toList = cookie.name.toList ++ '=' :: cookie.value.toList := by
  simp [pair]

namespace Legible

variable {cookie : Cookie}

theorem of_mem_pair (legible : cookie.Legible) {c : Char}
    (member : c ∈ cookie.pair.toList) :
    CookieJar.isVisible c = true ∧ c ≠ ';' := by
  rw [toList_pair, List.mem_append, List.mem_cons] at member
  rcases member with inName | rfl | inValue
  · exact ⟨(legible.name c inName).1, (legible.name c inName).2.1⟩
  · decide
  · exact legible.value c inValue

theorem sidesOf_pair (legible : cookie.Legible) :
    sidesOf cookie.pair.toList = (cookie.name, cookie.value) := by
  have others : ∀ c ∈ cookie.name.toList, (c != '=') = true :=
    fun c member => bne_iff_ne.mpr (legible.name c member).2.2
  rw [sidesOf, toList_pair, List.takeWhile_append_of_pos others,
    List.dropWhile_append_of_pos others]
  simp

/-- A header that can be read sets cookies that can be read. -/
theorem of_setBy {header : String} {url : Url} {instant : Int}
    (visible : header.toList.all CookieJar.isVisible = true)
    (set : cookie.SetBy header url instant) : cookie.Legible := by
  obtain ⟨setting, asked, kept⟩ := set
  obtain ⟨_, rfl⟩ := Setting.kept?_eq_some.mp kept
  have read := Setting.said_of_header asked
  have seen := List.all_eq_true.mp visible
  constructor
  case name =>
    intro c member
    obtain ⟨inHeader, apart⟩ := SetCookie.mem_name_of_ofHeader? read member
    exact ⟨seen c inHeader, apart⟩
  case value =>
    intro c member
    obtain ⟨inHeader, apart⟩ := SetCookie.mem_value_of_ofHeader? read
      (CookieJar.mem_of_mem_bareValue member)
    exact ⟨seen c inHeader, apart⟩

end Legible

end Cookie

namespace CookieJar

/-- Every cookie of the jar can be read from a header. -/
def Legible (jar : CookieJar) : Prop :=
  ∀ cookie ∈ jar.toList, cookie.Legible

theorem isUnsendable_of_isVisible {c : Char} (visible : isVisible c = true) :
    isUnsendable c = false := by
  simp only [isVisible, Bool.or_eq_true, beq_iff_eq, Bool.and_eq_true,
    decide_eq_true_eq] at visible
  rcases visible with rfl | ⟨low, high⟩
  · decide
  · have notBefore : ¬ c.toNat < 0x20 := Nat.not_lt.mpr low
    have other : c.toNat ≠ 0x7f := Nat.ne_of_lt high
    simp [isUnsendable, notBefore, other]

namespace Legible

variable {jar : CookieJar}

theorem receiveAll (legible : jar.Legible) (headers : List String) (url : Url)
    (now : Int) : Legible (jar.receiveAll headers url now) := by
  intro cookie member
  rcases mem_of_mem_receiveAll member with old | ⟨header, _, visible, set⟩
  · exact legible cookie old
  · exact .of_setBy visible set

theorem overlay (legible : jar.Legible) {cookies : List Cookie}
    (new : ∀ cookie ∈ cookies, cookie.Legible) (now : Int) :
    Legible (jar.overlay cookies now) := by
  intro cookie member
  rcases OrderedBy.mem_of_mem_putAll member with listed | old
  · exact new cookie (List.mem_filter.mp listed).1
  · exact legible cookie old

theorem of_applicable (legible : jar.Legible) (url : Url) (now : Int) :
    ∀ cookie ∈ jar.applicable url now, cookie.Legible := by
  intro cookie applies
  have live := (mem_applicable_iff.mp applies).1
  exact legible cookie (mem_live_iff.mp live).1

/-- A header is read as the names and values that were put into it. -/
theorem readHeader_header (legible : jar.Legible) {url : Url} {now : Int}
    {text : String} (answered : jar.header? url now = some text) :
    Cookie.readHeader text =
      (jar.applicable url now).map fun cookie =>
        (cookie.name, cookie.value) := by
  obtain ⟨some, rfl⟩ := header?_eq_some_iff.mp answered
  have applied := legible.of_applicable url now
  generalize jar.applicable url now = cookies at some applied ⊢
  have pieces : (String.intercalate "; " (cookies.map Cookie.pair)).toList =
      [';', ' '].intercalate (cookies.map (·.pair.toList)) := by
    rw [String.toList_intercalate, List.map_map]
    rfl
  have closed : ∀ piece ∈ cookies.map (·.pair.toList), ';' ∉ piece := by
    intro piece member inside
    obtain ⟨cookie, listed, rfl⟩ := List.mem_map.mp member
    exact ((applied cookie listed).of_mem_pair inside).2 rfl
  rw [Cookie.readHeader, pieces,
    Cookie.piecesOf_intercalate (mt List.map_eq_nil_iff.mp some) closed,
    List.map_map]
  exact List.map_congr_left fun cookie listed =>
    (applied cookie listed).sidesOf_pair

/-- No cookie keeps a header from being sent. -/
theorem sentHeader?_eq (legible : jar.Legible) (url : Url) (now : Int) :
    jar.sentHeader? url now = jar.header? url now := by
  have spaces : "; ".toList.all isVisible = true := by decide
  have sendable : ∀ text, jar.header? url now = some text →
      text.toList.any isUnsendable = false := by
    intro text answered
    obtain ⟨_, rfl⟩ := header?_eq_some_iff.mp answered
    rw [String.toList_intercalate, List.any_eq_false]
    intro c member
    have visible : isVisible c = true := by
      rcases Text.mem_intercalate member with between | ⟨_, listed, inside⟩
      · exact List.all_eq_true.mp spaces c between
      · rw [List.map_map] at listed
        obtain ⟨cookie, applies, rfl⟩ := List.mem_map.mp listed
        have applied := legible.of_applicable url now cookie applies
        exact (applied.of_mem_pair inside).1
    rw [isUnsendable_of_isVisible visible]
    exact Bool.false_ne_true
  unfold sentHeader?
  cases answered : jar.header? url now with
  | none => rfl
  | some text =>
      rw [Option.filter_some, sendable text answered]
      rfl

end Legible

/-- What goes to a URL is in the order of the keys. -/
theorem applicable_ordered (jar : CookieJar) (url : Url) (now : Int) :
    (jar.applicable url now).Pairwise fun left right =>
      left.key.bytes < right.key.bytes :=
  ((jar.ordered.filter _).filter _).imp Cookie.compare_key_eq_lt_iff.mp

end CookieJar

namespace Session

/-! ## Sessions filled from the network -/

/-- The cookies of a session came from the network or from a file that such a
session wrote. -/
inductive Filled : Session → Prop where
  | fresh (clock : Int) (files : Files) : Filled (fresh clock files)
  | receiveAll {session : Session} (filled : Filled session)
      (headers : List String) (url : Url) :
      Filled (session.receiveAll headers url)
  | expireAll {session : Session} (filled : Filled session) :
      Filled session.expireAll
  | advance {session : Session} (filled : Filled session) (seconds : Int) :
      Filled (session.advance seconds)
  /-- Others may write what they want as long as it is not read. -/
  | share {session : Session} (filled : Filled session) (files : Files) :
      Filled { session with files := files }
  | persist {session saved : Session} {path : String}
      (filled : Filled session) (written : session.persist path = .ok saved) :
      Filled saved
  | restore {session restored writer saved : Session} {path place : String}
      (filled : Filled session) (wrote : Filled writer)
      (written : writer.persist place = .ok saved)
      (own : ∀ text, session.files.readText path = .ok text →
        saved.files.readText place = .ok text)
      (read : session.restore path = .ok restored) : Filled restored

/-- The jar can be written to files and read from headers. -/
structure Readable (session : Session) : Prop where
  storable : session.jar.Storable
  legible : session.jar.Legible

theorem Readable.empty (clock : Int) (files : Files) :
    (Session.fresh clock files).Readable :=
  ⟨.empty, fun _ member => absurd member List.not_mem_nil⟩

/-- What a readable session wrote can be restored by others. -/
theorem Readable.restore {session restored writer saved : Session}
    {path place : String} (readable : session.Readable)
    (writerReadable : writer.Readable)
    (written : writer.persist place = .ok saved)
    (own : ∀ text, session.files.readText path = .ok text →
      saved.files.readText place = .ok text)
    (read : session.restore path = .ok restored) : restored.Readable := by
  refine ⟨storable_of_restore readable.storable read, ?_⟩
  have restores := restores_of_restore read
  cases restores with
  | missing => exact readable.legible
  | overlaid listed overlays =>
      -- The file lists what was alive in the jar of the writer.
      obtain ⟨text, found, accepted⟩ := listed
      have live : saved.Lists place (writer.jar.live writer.now) :=
        lists_of_persist writerReadable.storable written
      obtain rfl := Lists.unique ⟨text, own text found, accepted⟩ live
      obtain rfl := CookieJar.overlays_iff.mp overlays
      apply readable.legible.overlay
      intro cookie listed
      exact writerReadable.legible cookie (CookieJar.mem_live_iff.mp listed).1

theorem Filled.readable {session : Session} (filled : session.Filled) :
    session.Readable := by
  induction filled with
  | fresh clock files => exact .empty clock files
  | receiveAll filled headers url readable =>
      exact ⟨readable.storable.receiveAll headers url (now_nonneg _),
        readable.legible.receiveAll headers url _⟩
  | expireAll filled readable =>
      exact .empty _ _
  | advance filled seconds readable =>
      exact ⟨readable.storable, readable.legible⟩
  | share filled files readable =>
      exact ⟨readable.storable, readable.legible⟩
  | persist filled written readable =>
      obtain ⟨_, _, rfl⟩ := persist_eq_ok_iff.mp written
      exact ⟨readable.storable, readable.legible⟩
  | restore filled wrote written own read readable writerReadable =>
      exact readable.restore writerReadable written own read

end Session

/-- What is sent to a URL is the header of the cookies that go to it, and it is
read as their names and values in the order of their keys. -/
theorem Session.header_read_back {session : Session} (filled : session.Filled)
    (url : Url) :
    session.sentHeader? url = session.header? url ∧
      ∃ cookies : List Cookie,
        (cookies.Pairwise fun left right =>
          left.key.bytes < right.key.bytes) ∧
        (∀ cookie, cookie ∈ cookies ↔
          cookie ∈ session.jar.toList ∧
            (∀ limit ∈ cookie.expires, session.now < limit) ∧
            cookie.Covers url) ∧
        (session.header? url = none ↔ cookies = []) ∧
        ∀ text, session.header? url = some text →
          Cookie.readHeader text =
            cookies.map fun cookie => (cookie.name, cookie.value) := by
  have legible := filled.readable.legible
  refine ⟨legible.sentHeader?_eq url session.now,
    session.jar.applicable url session.now,
    session.jar.applicable_ordered url session.now, ?_,
    CookieJar.header?_eq_none_iff, fun text => legible.readHeader_header⟩
  intro cookie
  rw [CookieJar.mem_applicable_iff, CookieJar.mem_live_iff, and_assoc]

namespace Session

/-- Cookies with blanks and quotes, and a header that is passed over. -/
def told : Session :=
  (fresh 100 .empty).receiveAll
    ["a b=\"\" x=y \"\"; Path=/", "b=1; Max-Age=60", "größe=1"]
    (rootOf "host.test")

theorem told_read_back :
    ∃ saved restored, told.persist "state/session.json" = .ok saved ∧
      (fresh 130 saved.files).restore "state/session.json" = .ok restored ∧
      restored.header? (rootOf "host.test") = some "a b= x=y ; b=1" ∧
      restored.sentHeader? (rootOf "host.test") = some "a b= x=y ; b=1" ∧
      Cookie.readHeader "a b= x=y ; b=1" = [("a b", " x=y "), ("b", "1")] ∧
      ∃ cookies : List Cookie,
        (∀ cookie, cookie ∈ cookies ↔ cookie ∈ restored.jar.toList ∧
          (∀ limit ∈ cookie.expires, restored.now < limit) ∧
          cookie.Covers (rootOf "host.test")) ∧
        cookies.map (fun cookie => (cookie.name, cookie.value)) =
          [("a b", " x=y "), ("b", "1")] := by
  have filled : told.Filled := .receiveAll (.fresh 100 .empty) _ _
  obtain ⟨saved, written⟩ : ∃ saved, told.persist "state/session.json" =
      .ok saved := exists_eq_ok (by decide +kernel)
  have listed : (fresh 130 saved.files).Lists "state/session.json"
      (told.jar.live told.now) := by
    obtain ⟨text, found, accepted⟩ :=
      lists_of_persist filled.readable.storable written
    exact ⟨text, found, accepted⟩
  have read := restore_of_lists listed
  have again : Filled _ := .restore (.fresh 130 saved.files) filled written
    (fun _ found => found) read
  obtain ⟨same, cookies, _, held, _, readBack⟩ :=
    header_read_back again (rootOf "host.test")
  have answered : CookieJar.header?
      (CookieJar.overlay .empty (told.jar.live told.now) 130)
      (rootOf "host.test") 130 = some "a b= x=y ; b=1" := by decide +kernel
  have pairs : Cookie.readHeader "a b= x=y ; b=1" =
      [("a b", " x=y "), ("b", "1")] := by decide +kernel
  exact ⟨_, _, written, read, answered, same.trans answered, pairs, cookies,
    held, (readBack _ answered).symm.trans pairs⟩

end Session

end OperatorConsole
