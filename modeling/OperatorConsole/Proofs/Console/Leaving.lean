import OperatorConsole.Console
import OperatorConsole.Proofs.CommandTable.Accepted
import OperatorConsole.Proofs.Except
import OperatorConsole.Proofs.Url.WellFormed

/-!
# Leaving the console

Where the operator continues after a line that ends the console.  A table that
was accepted leads to pages of the front-end, unless what it leads to names an
authority: then nothing is left of the front-end but its scheme.
-/

namespace OperatorConsole

namespace Url

/-- The pages of both URLs come from one place. -/
structure SameServer (left right : Url) : Prop where
  scheme : left.scheme = right.scheme
  host : left.host? = right.host?
  port : left.port? = right.port?

theorem sameServer_of_authority {left right : Url}
    (scheme : left.scheme = right.scheme)
    (authority : left.authority = right.authority) :
    SameServer left right where
  scheme := scheme
  host := by rw [host?, authority, host?]
  port := by rw [port?, authority, scheme, port?]

end Url

namespace Console

section Leaving

variable {console : Console} {line target : String}

/-- A line that leads somewhere leaves for it, whatever else it does. -/
theorem submit_of_target? (leads : console.table.target? line = some target) :
    (console.submit line).1 =
      ((console.base.join target).mapError (⟨target, ·⟩)).map Flow.leave := by
  obtain ⟨effect, routed, leads⟩ := Option.bind_eq_some_iff.mp leads
  unfold submit
  rw [routed]
  cases effect with
  | navigate page | clearSession page =>
      cases leads
      rfl
  | localRender | remoteCall => cases leads

theorem submit_of_stays (stays : console.table.target? line = none) :
    (console.submit line).1 = .ok .goOn := by
  unfold submit
  cases routed : console.table.effect? line with
  | none => rfl
  | some effect =>
      have leadsNowhere := Option.bind_eq_none_iff.mp stays _ routed
      cases effect with
      | navigate page | clearSession page => cases leadsNowhere
      | localRender | remoteCall => rfl

theorem target?_of_leave {url : Url}
    (left : (console.submit line).1 = .ok (.leave url)) :
    ∃ target, console.table.target? line = some target ∧
      console.base.join target = .ok url := by
  cases leads : console.table.target? line with
  | some target =>
      rw [submit_of_target? leads] at left
      obtain ⟨joined, success, same⟩ := map_eq_ok.mp left
      cases same
      exact ⟨target, rfl, mapError_eq_ok.mp success⟩
  | none =>
      rw [submit_of_stays leads] at left
      cases left

end Leaving

/-- With an accepted table and a front-end on any web URL, every line that
leads somewhere leaves for the front-end's server, unless it leads to a text that
names an authority.  Such a text leads to the same place from every server. -/
theorem leaves_for_server_unless_authority_named (console : Console)
    {json text : String}
    (accepted : CommandTable.ofText json = .ok console.table)
    (read : Url.ofText text = .ok console.base)
    (web : console.base.scheme = "http" ∨ console.base.scheme = "https")
    (line : String) :
    (∀ url, (console.submit line).1 = .ok (.leave url) →
      ∃ target, console.table.target? line = some target ∧
        url.scheme = console.base.scheme ∧
        (Url.namesAuthority target = false →
          url.SameServer console.base) ∧
        (Url.namesAuthority target = true →
          ∀ other : Url, other.scheme = console.base.scheme →
            other.isFlat = false → other.join target = .ok url)) ∧
      ∀ target, console.table.target? line = some target →
        Url.namesAuthority target = false →
        ∃ url, (console.submit line).1 = .ok (.leave url) ∧
          url.SameServer console.base := by
  have special : console.base.kind = .special := Url.kind_of_web web
  have layered : console.base.isFlat = false := by
    refine Url.isFlat_ofText read ?_
    rw [special]
    exact Url.SchemeKind.noConfusion
  have sound := CommandTable.flaw?_of_ofText accepted
  have slash : ∀ target, console.table.target? line = some target →
      ∃ rest, target.toList = '/' :: rest := by
    intro target leads
    apply CommandTable.isAbsolute_iff.mp
    exact CommandTable.isAbsolute_of_target? sound leads
  constructor
  · intro url left
    obtain ⟨target, leads, joined⟩ := target?_of_leave left
    obtain ⟨rest, front⟩ := slash target leads
    refine ⟨target, leads, Url.scheme_of_join special layered front joined,
      ?_, ?_⟩
    · intro unnamed
      obtain ⟨page, success, scheme, authority⟩ :=
        Url.join_within special layered front unnamed
      rw [joined] at success
      cases success
      exact Url.sameServer_of_authority scheme authority
    · intro named other sameScheme otherLayered
      rw [← joined]
      exact Url.join_beyond special layered front named sameScheme otherLayered
  · intro target leads unnamed
    obtain ⟨rest, front⟩ := slash target leads
    obtain ⟨page, success, scheme, authority⟩ :=
      Url.join_within special layered front unnamed
    refine ⟨page, ?_, Url.sameServer_of_authority scheme authority⟩
    rw [submit_of_target? leads, success]
    rfl

/-! ## Two tables with one verb -/

/-- The text of a table whose only verb leads to `target`. -/
def docTableText (target : String) : String :=
  CommandTable.oneVerbText "doc"
    ("\"kind\":\"navigate\",\"target\":\"" ++ target ++ "\"")

def docTable (target : String) : CommandTable :=
  .oneVerb "doc" (.navigate target)

theorem front_end_page_left_for :
    CommandTable.ofText (docTableText "/doc/") = .ok (docTable "/doc/") ∧
      Url.ofText "http://[::1]:8087" = .ok .loopback ∧
      ∀ mode session file,
        ∃ url, ((start (docTable "/doc/") mode session .loopback file).submit
            "doc").1 = .ok (.leave url) ∧ url.SameServer .loopback := by
  have accepted : CommandTable.ofText (docTableText "/doc/") =
      .ok (docTable "/doc/") := rfl
  have read : Url.ofText "http://[::1]:8087" = .ok .loopback := rfl
  have leads : (docTable "/doc/").target? "doc" = some "/doc/" := rfl
  refine ⟨accepted, read, ?_⟩
  intro mode session file
  have leaves := leaves_for_server_unless_authority_named
    (start (docTable "/doc/") mode session .loopback file) accepted
    read (.inl rfl) "doc"
  exact leaves.2 "/doc/" leads (by decide)

/-- The check of a table takes two slashes for one, so an accepted table can lead
to another server. -/
theorem other_server_left_for :
    CommandTable.ofText (docTableText "//[::2]/") =
        .ok (docTable "//[::2]/") ∧
      Url.ofText "http://[::1]:8087" = .ok .loopback ∧
      ∃ url : Url, url.text = "http://[::2]/" ∧
        (∀ mode session file,
          ((start (docTable "//[::2]/") mode session .loopback file).submit
            "doc").1 = .ok (.leave url)) ∧
        ¬ url.SameServer .loopback := by
  refine ⟨rfl, rfl, ⟨"http",
    some ⟨"", "", some (.ipv6 ⟨[0, 0, 0, 0, 0, 0, 0, 2]⟩), none⟩,
    .segments [""], none, none⟩, by decide, ?_, ?_⟩
  · intro mode session file
    rfl
  · intro same
    have hosts := same.host
    revert hosts
    decide

end Console

end OperatorConsole
