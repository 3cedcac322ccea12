import OperatorConsole.Proofs.Cookie.Restart

/-!
# Forgotten sessions

To forget a session is to drop its cookies and, where there is a session file,
to write the empty jar to it.  What was written has no cookie to restore, and to
forget a session that is forgotten already changes neither the jar nor the files,
even if the file cannot be written.
-/

namespace OperatorConsole

namespace CookieJar

section Persist

variable {jar : CookieJar} {now : Int} {files after : Files} {path : String}

/-- To write a jar once more changes nothing, whether or not it could be
written. -/
theorem files_persist_again (jar : CookieJar) (now : Int) (files : Files)
    (path : String) :
    (jar.persist now (jar.persist now files path).2 path).2 =
      (jar.persist now files path).2 := by
  rcases done : jar.persist now files path with ⟨trouble | _, after⟩
  · rcases persist_eq_error done with failed | ⟨fault, created, refused⟩
    · obtain ⟨other, again⟩ := Files.createParent_fails_again failed
      simp only [persist, again]
    · have again := Files.createParent_again created fun _ still => still
      simp only [persist, again, refused]
  · obtain ⟨inside, created, written⟩ := persist_eq_ok_iff.mp done
    have again := Files.createParent_again created (Files.keeps_write written)
    have same := persist_eq_ok_iff.mpr
      ⟨after, again, Files.write_again written⟩
    rw [same]

/-- Whether a file can be written does not depend on the cookies. -/
theorem persist_any (written : jar.persist now files path = (.ok (), after))
    (other : CookieJar) (instant : Int) :
    ∃ there, other.persist instant files path = (.ok (), there) := by
  obtain ⟨inside, created, written⟩ := persist_eq_ok_iff.mp written
  obtain ⟨there, possible⟩ :=
    Files.write_any written (other.fileText instant)
  exact ⟨there, persist_eq_ok_iff.mpr ⟨inside, created, possible⟩⟩

end Persist

/-- The text of a file without cookies. -/
def emptyText : String := "[]"

theorem ofFileText_emptyText : ofFileText emptyText = .ok [] :=
  ofFileText_fileText .empty 0

end CookieJar

namespace Session

/-- Write the cookies to a session file, if there is one that can be written. -/
def save (session : Session) : Option String → Session
  | none => session
  | some path => (session.write path).2

/-- Drop every cookie, also from a session file that can be written. -/
def forget (session : Session) (file : Option String) : Session :=
  session.expireAll.save file

/-- The session file does not bring back any cookie. -/
structure ForgottenAt (session : Session) (path : String) : Prop where
  text : session.files.readText path = .ok CookieJar.emptyText
  restored : ∀ other : Session, other.files = session.files →
    other.restore path = .ok other

variable (session : Session) (file : Option String)

theorem save_of_persist {session saved : Session} {path : String}
    (written : session.persist path = .ok saved) :
    session.save (some path) = saved := by
  obtain ⟨_, _, same⟩ := map_eq_ok.mp written
  exact same

/-- Saving changes nothing but the files. -/
theorem save_eq : ∃ files, session.save file =
    { session with files := files } := by
  cases file with
  | none => exact ⟨session.files, rfl⟩
  | some path => exact ⟨_, rfl⟩

theorem forget_eq : ∃ files, session.forget file =
    { session.expireAll with files := files } :=
  session.expireAll.save_eq file

@[simp] theorem jar_forget : (session.forget file).jar = .empty := by
  obtain ⟨files, same⟩ := session.forget_eq file
  rw [same]
  rfl

@[simp] theorem clock_forget :
    (session.forget file).clock = session.clock := by
  obtain ⟨files, same⟩ := session.forget_eq file
  rw [same]
  rfl

theorem forget_forget :
    (session.forget file).forget file = session.forget file := by
  cases file with
  | none => rfl
  | some path =>
      have again := CookieJar.files_persist_again .empty session.now
        session.files path
      exact congrArg (fun files : Files =>
        ({ session.expireAll with files := files } : Session)) again

theorem forgottenAt_of_text {session : Session} {path : String}
    (read : session.files.readText path = .ok CookieJar.emptyText) :
    session.ForgottenAt path where
  text := read
  restored := by
    intro other same
    refine map_eq_ok.mpr ⟨other.jar, ?_, rfl⟩
    rw [same, CookieJar.restore, read]
    dsimp only
    rw [CookieJar.ofFileText_emptyText]
    rfl

theorem forgottenAt_of_saved {session saved : Session} {path : String}
    (written : session.expireAll.persist path = .ok saved) :
    saved.ForgottenAt path := by
  obtain ⟨files, persisted, rfl⟩ := persist_eq_ok_iff.mp written
  apply forgottenAt_of_text
  exact CookieJar.readText_persist persisted

end Session

end OperatorConsole
