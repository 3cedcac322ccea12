import OperatorConsole.Files
import OperatorConsole.Proofs.Except
import OperatorConsole.Proofs.Text.Utf8

/-!
# Reading files back

What is written to a path is read from it.  A path is walked as before once a
file stands at its end, because only directories matter on the way and the file
does not take the place of one.  For the same reason directories that were made
are still there, and to make and write everything again changes nothing.
-/

namespace OperatorConsole.Files

theorem node?_set (files : Files) {place : List String} (below : place ≠ [])
    (node : FileNode) (other : List String) :
    (files.set place node).node? other =
      if other = place then some node else files.node? other := by
  unfold node? set
  by_cases root : other = []
  · simp [root, Ne.symm below]
  · by_cases same : other = place
    · simp [same, below]
    · rw [if_neg root, if_neg same, if_neg root]
      rw [List.find?_cons_of_neg (by simp [Ne.symm same]), List.find?_filter]
      congr 2
      funext entry
      by_cases found : entry.1 = other
      · simp [found, same]
      · simp [found]

theorem lookUp_of_node? {files : Files} {place : List String}
    (short : ¬ longestName < (place.getLastD "").utf8ByteSize) :
    files.lookUp place = .ok (files.node? place) := by
  rw [lookUp, if_neg short]

theorem lookUp_eq_ok {files : Files} {place : List String}
    {node : Option FileNode} (found : files.lookUp place = .ok node) :
    ¬ longestName < (place.getLastD "").utf8ByteSize ∧
      files.node? place = node := by
  unfold lookUp at found
  split at found
  · cases found
  · next short =>
      cases found
      exact ⟨short, rfl⟩

theorem enter_eq_ok {files : Files} {place next : List String} {part : String}
    (entered : files.enter place part = .ok next) :
    next = FilePath.enter place part ∧
      files.lookUp next = .ok (some .directory) := by
  obtain ⟨node, found, goesOn⟩ := bind_eq_ok.mp entered
  match node with
  | some .directory =>
      cases goesOn
      exact ⟨rfl, found⟩
  | some (.file _) | none => cases goesOn

/-- Directories of one file system are directories of another one. -/
def Keeps (before after : Files) : Prop :=
  ∀ place, before.node? place = some .directory →
    after.node? place = some .directory

theorem keeps_set {files : Files} {place : List String}
    (taken : files.node? place ≠ some .directory) (node : FileNode) :
    Keeps files (files.set place node) := by
  have below : place ≠ [] := by
    rintro rfl
    exact taken rfl
  intro other directory
  rw [node?_set files below, if_neg ?_]
  · exact directory
  · rintro rfl
    exact taken directory

namespace Keeps

variable {before after : Files}

theorem enter (keeps : Keeps before after) {place next : List String}
    {part : String} (entered : before.enter place part = .ok next) :
    after.enter place part = .ok next := by
  obtain ⟨rfl, found⟩ := enter_eq_ok entered
  obtain ⟨short, directory⟩ := lookUp_eq_ok found
  have still : after.lookUp (FilePath.enter place part) = _ :=
    lookUp_of_node? short
  rw [keeps _ directory] at still
  rw [Files.enter, still]
  rfl

theorem walk (keeps : Keeps before after) {slash : Bool} {spot : Spot}
    (parts : List String) :
    ∀ {place : List String}, before.walk slash place parts = .ok spot →
      after.walk slash place parts = .ok spot := by
  induction parts with
  | nil => exact fun walked => walked
  | cons part parts induction =>
      intro place walked
      cases parts with
      | nil => exact walked
      | cons next rest =>
          obtain ⟨inner, entered, goesOn⟩ := bind_eq_ok.mp walked
          exact bind_eq_ok.mpr
            ⟨inner, keeps.enter entered, induction goesOn⟩

theorem spot (keeps : Keeps before after) {path : String} {spot : Spot}
    (walked : before.spot path = .ok spot) : after.spot path = .ok spot := by
  unfold Files.spot at walked ⊢
  split at walked
  · cases walked
  · split at walked
    · cases walked
    · next notEmpty short =>
        rw [if_neg notEmpty, if_neg short]
        exact keeps.walk _ walked

end Keeps

theorem filePlace_eq_ok {files : Files} {path : String} {place : List String}
    {node : Option FileNode} (found : files.filePlace path = .ok (place, node)) :
    files.spot path = .ok (.name place false) ∧
      files.lookUp place = .ok node ∧ node ≠ some .directory := by
  obtain ⟨spot, walked, goesOn⟩ := bind_eq_ok.mp found
  match spot with
  | .directory _ | .name _ true => cases goesOn
  | .name name false =>
      obtain ⟨there, looked, ends⟩ := bind_eq_ok.mp goesOn
      match there with
      | some .directory => cases ends
      | some (.file bytes) | none =>
          cases ends
          exact ⟨walked, looked, by simp⟩

def textFile (text : String) : FileNode :=
  .file (Text.Utf8.encode text.toList)

/-- Writing puts a file where the path leads, and the path leads there
afterwards too. -/
theorem write_eq_ok {files after : Files} {path text : String}
    (written : files.write path text = .ok after) :
    ∃ place, files.node? place ≠ some .directory ∧
      files.set place (textFile text) = after ∧
      after.spot path = .ok (.name place false) ∧
      after.lookUp place = .ok (some (textFile text)) := by
  obtain ⟨⟨place, node⟩, found, rest⟩ := bind_eq_ok.mp written
  obtain ⟨walked, looked, notDirectory⟩ := filePlace_eq_ok found
  obtain ⟨short, there⟩ := lookUp_eq_ok looked
  have taken : files.node? place ≠ some .directory := there ▸ notDirectory
  have below : place ≠ [] := by
    rintro rfl
    exact taken rfl
  have same : files.set place (textFile text) = after := Except.ok.inj rest
  refine ⟨place, taken, same, ?_, ?_⟩
  · exact same ▸ (keeps_set taken (textFile text)).spot walked
  · rw [lookUp_of_node? short, ← same, node?_set files below, if_pos rfl]

/-- Whether a file can be written does not depend on the text. -/
theorem write_any {files after : Files} {path text : String}
    (written : files.write path text = .ok after) (other : String) :
    ∃ there, files.write path other = .ok there := by
  obtain ⟨found, place, _⟩ := bind_eq_ok.mp written
  exact ⟨_, bind_eq_ok.mpr ⟨found, place, rfl⟩⟩

theorem keeps_write {files after : Files} {path text : String}
    (written : files.write path text = .ok after) : Keeps files after := by
  obtain ⟨place, taken, same, _, _⟩ := write_eq_ok written
  exact same ▸ keeps_set taken (textFile text)

/-- What is written to a file is read from it. -/
theorem readText_write {files after : Files} {path text : String}
    (written : files.write path text = .ok after) :
    after.readText path = .ok text := by
  obtain ⟨place, _, _, spot, lookUp⟩ := write_eq_ok written
  have bytes : after.readBytes path = .ok (Text.Utf8.encode text.toList) :=
    bind_eq_ok.mpr ⟨_, spot, bind_eq_ok.mpr ⟨_, lookUp, rfl⟩⟩
  refine bind_eq_ok.mpr ⟨_, bytes, ?_⟩
  rw [Text.Utf8.decode?_encode]
  exact congrArg Except.ok String.ofList_toList

/-! ## The same again -/

theorem set_again (files : Files) (place : List String) (node : FileNode) :
    (files.set place node).set place node = files.set place node := by
  simp [set]

/-- Writing a text twice is writing it once. -/
theorem write_again {files after : Files} {path text : String}
    (written : files.write path text = .ok after) :
    after.write path text = .ok after := by
  obtain ⟨place, _, same, spot, lookUp⟩ := write_eq_ok written
  have stands : after.filePlace path = .ok (place, some (textFile text)) :=
    bind_eq_ok.mpr ⟨_, spot, bind_eq_ok.mpr ⟨_, lookUp, rfl⟩⟩
  refine bind_eq_ok.mpr ⟨_, stands, ?_⟩
  exact congrArg Except.ok (same ▸ set_again files place (textFile text))

theorem Keeps.hasDirectory {before after : Files} (keeps : Keeps before after)
    {path : String} (there : before.hasDirectory path = true) :
    after.hasDirectory path = true := by
  unfold Files.hasDirectory at there ⊢
  split at there
  · next walked => rw [keeps.spot walked]
  · next walked =>
      rw [keeps.spot walked]
      unfold isDirectory at there ⊢
      exact beq_iff_eq.mpr (keeps _ (beq_iff_eq.mp there))
  · cases there

theorem hasDirectory_makeDirectory {files made : Files} {path : String}
    (isMade : files.makeDirectory path = .ok made) :
    made.hasDirectory path = true := by
  obtain ⟨spot, walked, goesOn⟩ := bind_eq_ok.mp isMade
  match spot with
  | .directory _ => cases goesOn
  | .name place slash =>
      obtain ⟨node, looked, ends⟩ := bind_eq_ok.mp goesOn
      match node with
      | some _ => cases ends
      | none =>
          obtain ⟨_, nothing⟩ := lookUp_eq_ok looked
          have below : place ≠ [] := by
            rintro rfl
            cases nothing
          have free : files.node? place ≠ some .directory := by
            simp [nothing]
          have same : files.set place .directory = made := Except.ok.inj ends
          have still := (keeps_set free .directory).spot walked
          rw [same] at still
          rw [hasDirectory, still]
          apply beq_iff_eq.mpr
          rw [← same, node?_set files below, if_pos rfl]

theorem hasDirectory_ensureDirectory {files made : Files} {path : String}
    (ensured : files.ensureDirectory path = (.ok (), made)) :
    made.hasDirectory path = true := by
  unfold ensureDirectory at ensured
  split at ensured
  · next isMade =>
      cases ensured
      exact hasDirectory_makeDirectory isMade
  · split at ensured
    · next there =>
        cases ensured
        exact there
    · cases ensured

/-- A directory that cannot be made changes nothing, and it is not there. -/
theorem ensureDirectory_eq_error {files made : Files} {path : String}
    {fault : FileFault}
    (refused : files.ensureDirectory path = (.error fault, made)) :
    made = files ∧ files.hasDirectory path = false := by
  unfold ensureDirectory at refused
  split at refused
  · cases refused
  · split at refused
    · cases refused
    · next absent =>
        cases refused
        exact ⟨rfl, Bool.not_eq_true _ ▸ absent⟩

theorem ensureDirectory_of_hasDirectory {files : Files} {path : String}
    (there : files.hasDirectory path = true) :
    files.ensureDirectory path = (.ok (), files) := by
  cases isMade : files.makeDirectory path with
  | error fault => simp [ensureDirectory, isMade, there]
  | ok made =>
      -- What is there cannot be made.
      obtain ⟨spot, walked, goesOn⟩ := bind_eq_ok.mp isMade
      simp only [hasDirectory, walked] at there
      match spot with
      | .directory _ => cases goesOn
      | .name place slash =>
          obtain ⟨node, looked, ends⟩ := bind_eq_ok.mp goesOn
          obtain ⟨_, stands⟩ := lookUp_eq_ok looked
          have directory : node = some .directory :=
            stands.symm.trans (beq_iff_eq.mp there)
          rw [directory] at ends
          cases ends

theorem hasDirectory_ensureDirectories {files made : Files} {path : String}
    {outer : List String}
    (ensured : files.ensureDirectories (path :: outer) = (.ok (), made)) :
    made.hasDirectory path = true := by
  rw [ensureDirectories] at ensured
  split at ensured
  · split at ensured
    · exact hasDirectory_ensureDirectory ensured
    · next failed => exact (failed _ ensured).elim
  · exact hasDirectory_ensureDirectory ensured

/-- Directories that were made need not be made again. -/
theorem ensureDirectories_again {files made after : Files}
    {paths : List String}
    (ensured : files.ensureDirectories paths = (.ok (), made))
    (keeps : Keeps made after) :
    after.ensureDirectories paths = (.ok (), after) := by
  cases paths with
  | nil => rfl
  | cons inner outer =>
      have there := keeps.hasDirectory (hasDirectory_ensureDirectories ensured)
      rw [ensureDirectories, ensureDirectory_of_hasDirectory there]

end OperatorConsole.Files
