import OperatorConsole.Proofs.Console.Blocks
import OperatorConsole.Proofs.Cookie.Forgetting

/-!
# What clears the session

The console changes its cookies and its files for one reason only: a line or an
answer that ends the session makes it forget the session.  The session file has
no other influence on a run, so what the operator sees does not depend on
whether it can be written.
-/

namespace OperatorConsole

/-- The answer says that there is no session any more. -/
def Remote.Completion.endsSession (completion : Remote.Completion) : Bool :=
  match completion.outcome with
  | .error failure => failure == .unauthenticated
  | .ok _ => false

/-- The line ends the session. -/
def CommandTable.endsSession (table : CommandTable) (line : String) : Bool :=
  match table.effect? line with
  | some (.clearSession _) => true
  | _ => false

namespace Console

def Deed.endsSession (table : CommandTable) : Deed → Bool
  | .submit line _ => table.endsSession line
  | .receive _ completions =>
      completions.any Remote.Completion.endsSession
  | .cancelPending _ | .report _ _ | .work _ _ | .share _ => false

/-- Nobody but the console uses the cookies, the clock and the files. -/
def Deed.Alone : Deed → Prop
  | .share _ => False
  | _ => True

/-- A run ends the session by one of its lines or by one of its answers. -/
theorem any_endsSession (table : CommandTable) (deeds : List Deed) :
    deeds.any (Deed.endsSession table) =
      ((typed deeds).any table.endsSession ||
        (deeds.flatMap Deed.completions).any
          Remote.Completion.endsSession) := by
  induction deeds with
  | nil => rfl
  | cons deed deeds induction =>
      rw [List.any_cons, induction, List.flatMap_cons, List.any_append, typed,
        typed]
      cases deed with
      | submit line flow => exact (Bool.or_assoc _ _ _).symm
      | receive manner completions => exact Bool.or_left_comm _ _ _
      | cancelPending | report | work | share => rfl

/-! ## The session -/

theorem forgetCookies_eq (console : Console) :
    console.forgetCookies =
      { console with
        session := console.session.forget console.sessionFile } := by
  unfold forgetCookies Session.forget Session.save
  cases console.sessionFile <;> rfl

section Operations

variable (console : Console)

theorem sessionFile_submit (line : String) :
    (console.submit line).2.sessionFile = console.sessionFile := by
  unfold submit
  cases console.table.effect? line with
  | none => rfl
  | some effect => cases effect <;> rfl

theorem session_submit (line : String) :
    (console.submit line).2.session =
      if console.table.endsSession line then
        console.session.forget console.sessionFile
      else console.session := by
  unfold submit CommandTable.endsSession
  cases console.table.effect? line with
  | none => rfl
  | some effect =>
      cases effect with
      | clearSession redirect =>
          exact congrArg Console.session console.forgetCookies_eq
      | localRender | remoteCall | navigate => rfl

theorem renderOutcome_eq (completion : Remote.Completion) :
    console.renderOutcome completion =
      { console with
        transcript := console.transcript.push completion.block
        session :=
          if completion.endsSession then
            console.session.forget console.sessionFile
          else console.session } := by
  unfold renderOutcome Remote.Completion.block Remote.Completion.endsSession
  cases completion.outcome with
  | ok text => rfl
  | error failure =>
      by_cases dead : failure = .unauthenticated
      · simp [dead, forgetCookies_eq, Transcript.renderError]
      · simp [dead, Transcript.renderError]

end Operations

/-- A session that is forgotten several times is forgotten once. -/
theorem renderAll_eq (completions : List Remote.Completion) :
    ∀ console : Console, console.renderAll completions =
      { console with
        transcript := console.transcript.pushAll
          (completions.map Remote.Completion.block)
        session :=
          if completions.any Remote.Completion.endsSession then
            console.session.forget console.sessionFile
          else console.session } := by
  induction completions with
  | nil => exact fun _ => rfl
  | cons completion completions induction =>
      intro console
      have unfolded : console.renderAll (completion :: completions) =
          (console.renderOutcome completion).renderAll completions := rfl
      rw [unfolded, induction, renderOutcome_eq]
      cases ends : completion.endsSession with
      | false => simp [ends, Transcript.pushAll]
      | true => simp [ends, Transcript.pushAll, Session.forget_forget]

section Deeds

variable {console after : Console} {deed : Deed}

theorem Does.sessionFile (next : Does console deed after) :
    after.sessionFile = console.sessionFile := by
  cases next with
  | @submit _ line _ _ submitted _ =>
      have same := console.sessionFile_submit line
      rw [submitted] at same
      exact same
  | receive _ =>
      rw [renderAll_eq]
      rfl
  | cancelPending cancelled _ =>
      cases cancelled
      rfl
  | report | work | share => rfl

/-- A deed makes the console forget its session or leaves the session as it
is. -/
theorem Does.session (next : Does console deed after) (alone : deed.Alone) :
    after.session =
      if deed.endsSession console.table then
        console.session.forget console.sessionFile
      else console.session := by
  cases next with
  | @submit _ line _ _ submitted _ =>
      have same := console.session_submit line
      rw [submitted] at same
      exact same
  | receive _ =>
      rw [renderAll_eq]
      rfl
  | cancelPending cancelled _ =>
      cases cancelled
      rfl
  | report | work => rfl
  | share => cases alone

end Deeds

theorem Runs.sessionFile {first last : Console} {deeds : List Deed}
    (run : Runs first deeds last) : last.sessionFile = first.sessionFile := by
  induction run with
  | none => rfl
  | step _ next induction => rw [next.sessionFile, induction]

/-- A run forgets its session or leaves it as it was. -/
theorem Runs.session {first last : Console} {deeds : List Deed}
    (run : Runs first deeds last) (alone : ∀ deed ∈ deeds, deed.Alone) :
    last.session =
      if deeds.any (Deed.endsSession first.table) then
        first.session.forget first.sessionFile
      else first.session := by
  induction run with
  | none => rfl
  | @step deeds deed middle last run next induction =>
      have before := induction fun other member =>
        alone other (List.mem_append_left _ member)
      have now := next.session
        (alone deed (List.mem_append_right _ List.mem_cons_self))
      rw [run.table, run.sessionFile, before] at now
      rw [now, List.any_append, List.any_cons, List.any_nil, Bool.or_false]
      cases deeds.any (Deed.endsSession first.table) with
      | false => simp
      | true => simp [Session.forget_forget]

/-! ## The session file -/

/-- The console as it would be without a session file, among other files. -/
def unsaved (console : Console) (files : Files) : Console :=
  { console with
    session := { console.session with files := files }
    sessionFile := none }

section Unsaved

variable (console : Console) (files : Files)

theorem unsaved_forgetCookies :
    (console.unsaved files).forgetCookies =
      console.forgetCookies.unsaved files := by
  obtain ⟨saved, same⟩ := console.session.forget_eq console.sessionFile
  rw [forgetCookies_eq, forgetCookies_eq, unsaved, same]
  rfl

theorem submit_unsaved (line : String) :
    (console.unsaved files).submit line =
      ((console.submit line).1, (console.submit line).2.unsaved files) := by
  have sameTable : (console.unsaved files).table = console.table := rfl
  unfold submit
  rw [sameTable]
  cases console.table.effect? line with
  | none => rfl
  | some effect =>
      cases effect with
      | localRender | remoteCall | navigate => rfl
      | clearSession redirect =>
          simp only [perform, unsaved_forgetCookies]
          rfl

theorem renderAll_unsaved (completions : List Remote.Completion) :
    (console.unsaved files).renderAll completions =
      (console.renderAll completions).unsaved files := by
  rw [renderAll_eq, renderAll_eq]
  by_cases ends : completions.any Remote.Completion.endsSession
  · obtain ⟨saved, same⟩ := console.session.forget_eq console.sessionFile
    simp only [ends, if_true, same]
    rfl
  · simp only [ends]
    rfl

end Unsaved

section Bisimulation

variable {console after other : Console} {deed : Deed} {line : String}
  {last : Remote.Pool} (files : Files)

/-- What a line does to the pool does not depend on the session. -/
theorem Handles.with_session (handles : console.Handles line last)
    (session : Session) (file : Option String) :
    Handles { console with session := session, sessionFile := file }
      line last := by
  cases handles with
  | nothing routed => exact .nothing routed
  | localText routed => exact .localText routed
  | adding routed appends => exact .adding routed appends
  | superseding routed replaces given =>
      exact .superseding routed replaces given
  | leaving routed given => exact .leaving routed given
  | clearing routed given => exact .clearing routed given

theorem Does.unsaved (next : Does console deed after) (alone : deed.Alone) :
    Does (console.unsaved files) deed (after.unsaved files) := by
  cases next with
  | @submit _ line _ _ submitted handles =>
      have same := submit_unsaved console files line
      rw [submitted] at same
      exact .submit same (handles.with_session _ _)
  | receive received =>
      rw [← renderAll_unsaved]
      exact .receive received
  | cancelPending cancelled given =>
      cases cancelled
      exact .cancelPending rfl given
  | report => exact .report _ _ _
  | work outcome member => exact .work outcome member
  | share => cases alone

theorem Does.of_unsaved (next : Does (console.unsaved files) deed other)
    (alone : deed.Alone) :
    ∃ after, Does console deed after ∧ other = after.unsaved files := by
  cases next with
  | @submit _ line _ last submitted handles =>
      have before := handles.with_session console.session console.sessionFile
      cases told : console.submit line with
      | mk flow after =>
          rw [submit_unsaved, told] at submitted
          cases submitted
          exact ⟨after.withPool last, .submit told before, rfl⟩
  | receive received =>
      refine ⟨_, .receive received, ?_⟩
      rw [← renderAll_unsaved]
      rfl
  | cancelPending cancelled given =>
      cases cancelled
      exact ⟨_, .cancelPending rfl given, rfl⟩
  | report => exact ⟨_, .report _ _ _, rfl⟩
  | work outcome member => exact ⟨_, .work outcome member, rfl⟩
  | share => cases alone

end Bisimulation

section Runs

variable {table : CommandTable} {mode : RenderMode} {session : Session}
  {base : Url} {file : Option String} {deeds : List Deed}

/-- The runs without a session file are those with one, as they look without
it. -/
theorem runs_unsaved_iff (alone : ∀ deed ∈ deeds, deed.Alone)
    (other : Console) :
    Runs (start table mode session base none) deeds other ↔
      ∃ same, Runs (start table mode session base file) deeds same ∧
        other = same.unsaved session.files := by
  constructor
  · intro run
    induction run with
    | none => exact ⟨_, .none, rfl⟩
    | step _ next induction =>
        obtain ⟨same, before, rfl⟩ := induction fun deed member =>
          alone deed (List.mem_append_left _ member)
        have last := alone _ (List.mem_append_right _ List.mem_cons_self)
        obtain ⟨after, now, rfl⟩ := next.of_unsaved session.files last
        exact ⟨after, .step before now, rfl⟩
  · rintro ⟨same, run, rfl⟩
    induction run with
    | none => exact .none
    | step _ next induction =>
        have before := induction fun deed member =>
          alone deed (List.mem_append_left _ member)
        have last := alone _ (List.mem_append_right _ List.mem_cons_self)
        exact .step before (next.unsaved session.files last)

/-- Only a line or an answer that ends the session changes the cookies or the
files, and then no cookie is left: none in the jar, and none in the session file
if there is one that can be written.  Whether there is one does not show in
anything else. -/
theorem session_forgotten_when_ended {console : Console}
    (run : Runs (start table mode session base file) deeds console)
    (alone : ∀ deed ∈ deeds, deed.Alone) :
    (∀ deed after, Does console deed after → deed.Alone →
      (deed.endsSession table = false → after.session = console.session) ∧
      (deed.endsSession table = true →
        after.session.jar = .empty ∧
        after.session.clock = console.session.clock ∧
        ∀ path saved, file = some path →
          console.session.expireAll.persist path = .ok saved →
          after.session = saved ∧ saved.ForgottenAt path)) ∧
      ∀ other, Runs (start table mode session base none) deeds other ↔
        ∃ same, Runs (start table mode session base file) deeds same ∧
          other = same.unsaved session.files := by
  refine ⟨?_, runs_unsaved_iff alone⟩
  intro deed after next isAlone
  have changed := next.session isAlone
  have sameTable : console.table = table := run.table
  have sameFile : console.sessionFile = file := run.sessionFile
  rw [sameTable, sameFile] at changed
  constructor
  · intro goesOn
    rw [changed, goesOn]
    rfl
  · intro ends
    rw [ends, if_pos rfl] at changed
    rw [changed]
    refine ⟨Session.jar_forget _ _, Session.clock_forget _ _, ?_⟩
    rintro path saved rfl written
    exact ⟨Session.save_of_persist written,
      Session.forgottenAt_of_saved written⟩

end Runs

/-- A table whose only verb ends the session. -/
def exitOnly : CommandTable :=
  .oneVerb "exit" (.clearSession "/exit")

/-- A console with a session that is kept in a file. -/
def signedIn : Console :=
  start exitOnly .append .signedIn (Session.rootOf "host.test")
    (some "state/session.json")

theorem session_forgotten_on_exit :
    let asking := (signedIn.submit "get k").2
    asking.session.hasSession = true ∧ asking.pending = 1 ∧
      asking.pump.2.session = asking.session ∧
      ∃ saved, (asking.submit "exit").2.session = saved ∧
        saved.jar = .empty ∧ saved.ForgottenAt "state/session.json" := by
  intro asking
  have asked := does_submit (Prod.eta (signedIn.submit "get k")).symm
  have alone : ∀ deed ∈ [Deed.submit "get k" (signedIn.submit "get k").1],
      deed.Alone := by
    intro deed member
    rw [List.mem_singleton.mp member]
    trivial
  obtain ⟨changes, _⟩ := session_forgotten_when_ended asked.runs alone
  obtain ⟨saved, written⟩ : ∃ saved,
      asking.session.expireAll.persist "state/session.json" = .ok saved :=
    exists_eq_ok (by decide +kernel)
  have pumped := changes _ _ asking.does_pump trivial
  have exited := changes _ _
    (does_submit (Prod.eta (asking.submit "exit")).symm) trivial
  obtain ⟨jar, _, forgotten⟩ := exited.2 (by decide +kernel)
  obtain ⟨same, gone⟩ := forgotten _ _ rfl written
  refine ⟨by decide +kernel, by decide +kernel, pumped.1 (by decide +kernel),
    saved, same, ?_, gone⟩
  exact same ▸ jar

end Console

end OperatorConsole
