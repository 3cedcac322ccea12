import OperatorConsole.Proofs.Files
import OperatorConsole.Proofs.Text.Split

/-!
# Directories that cannot be made

A path leads nowhere unless the directory that it names as its parent is there.
So if a directory cannot be made because one before it cannot, it cannot be made
the next time either, and what was made on the way is not made again.
-/

namespace OperatorConsole

namespace FilePath

/-! ## Parents -/

/-- The parts between slashes that count. -/
def named (parts : List (List Char)) : List String :=
  (parts.filter (· != [])).map String.ofList

theorem dropIdle_suffix : ∀ parts, dropIdle parts <:+ parts
  | [] => List.suffix_refl _
  | part :: before => by
      rw [dropIdle]
      split
      · exact (dropIdle_suffix before).trans (List.suffix_cons _ _)
      · exact List.suffix_refl _

theorem ne_nil_of_dropIdle {part : List Char} {before : List (List Char)} :
    ∀ {parts}, dropIdle parts = part :: before → part ≠ []
  | [], dropped => by cases dropped
  | first :: others, dropped => by
      rw [dropIdle] at dropped
      split at dropped
      · exact ne_nil_of_dropIdle dropped
      · next keeps =>
          cases dropped
          exact fun empty => keeps (.inl empty)

/-- What a parent keeps of a path, if it has a parent itself. -/
theorem parent?_eq_some {path outer : String}
    (isParent : parent? path = some outer) (deeper : parent? outer ≠ none) :
    ∃ kept more : List (List Char), kept ≠ [] ∧ named more ≠ [] ∧
      path.toList.splitOn '/' = kept ++ more ∧
      outer.toList = List.intercalate ['/'] kept := by
  unfold parent? at isParent
  dsimp only at isParent
  split at isParent
  · cases isParent
  · next last before dropped =>
      obtain ⟨idle, split⟩ := dropIdle_suffix (path.toList.splitOn '/').reverse
      obtain ⟨others, splitBefore⟩ := dropIdle_suffix before
      rw [dropped, ← splitBefore] at split
      have parts := congrArg List.reverse split
      rw [List.reverse_reverse] at parts
      cases keeps : dropIdle before with
      | nil =>
          -- The root and the empty path have no parent.
          rw [keeps] at isParent
          cases isParent
          split at deeper
          · exact (deeper rfl).elim
          · exact (deeper rfl).elim
      | cons part outside =>
          rw [keeps] at isParent parts
          cases isParent
          refine ⟨(part :: outside).reverse,
            others.reverse ++ ([last] ++ idle.reverse), by simp, ?_, ?_, ?_⟩
          · simp [named, ne_nil_of_dropIdle dropped]
          · rw [← parts]
            simp
          · rw [String.toList_ofList]

end FilePath

namespace Files

variable {files : Files} {slash : Bool} {spot : Spot}

/-! ## The way to a directory -/

/-- All parts of a path but the last are entered. -/
theorem exists_entered {back : List String} (goesOn : back ≠ [])
    (front : List String) : ∀ {place : List String},
      files.walk slash place (front ++ back) = .ok spot →
        ∃ inner, front.foldlM files.enter place = .ok inner := by
  induction front with
  | nil => exact fun _ => ⟨_, rfl⟩
  | cons part front induction =>
      intro place walked
      obtain ⟨next, rest, split⟩ : ∃ next rest, front ++ back = next :: rest :=
        List.exists_cons_of_ne_nil (by simp [goesOn])
      rw [List.cons_append, split] at walked
      obtain ⟨entered, isEntered, walked⟩ := bind_eq_ok.mp walked
      rw [← split] at walked
      obtain ⟨inner, reached⟩ := induction walked
      exact ⟨inner, bind_eq_ok.mpr ⟨entered, isEntered, reached⟩⟩

/-- The spot is a directory. -/
def LeadsIn (files : Files) : Spot → Prop
  | .directory _ => True
  | .name place _ => files.isDirectory place = true

/-- Parts that can all be entered lead to a directory. -/
theorem walk_of_entered {inner : List String} (parts : List String) :
    ∀ {place : List String}, parts.foldlM files.enter place = .ok inner →
      ∃ spot, files.walk slash place parts = .ok spot ∧ files.LeadsIn spot := by
  induction parts with
  | nil => exact fun _ => ⟨_, rfl, trivial⟩
  | cons part parts induction =>
      intro place reached
      obtain ⟨next, entered, reached⟩ := bind_eq_ok.mp reached
      cases parts with
      | nil =>
          obtain ⟨rfl, found⟩ := enter_eq_ok entered
          refine ⟨_, rfl, ?_⟩
          by_cases dots : isDots part
          · rw [if_pos dots]
            trivial
          · rw [if_neg dots]
            exact beq_iff_eq.mpr (lookUp_eq_ok found).2
      | cons other others =>
          obtain ⟨spot, walked, leadsIn⟩ := induction reached
          exact ⟨spot, bind_eq_ok.mpr ⟨next, entered, walked⟩, leadsIn⟩

/-- Wherever a path leads, its parent is there. -/
theorem hasDirectory_parent {path outer : String}
    (isParent : FilePath.parent? path = some outer)
    (deeper : FilePath.parent? outer ≠ none)
    (walked : files.spot path = .ok spot) :
    files.hasDirectory outer = true := by
  obtain ⟨kept, more, nonempty, namesMore, split, text⟩ :=
    FilePath.parent?_eq_some isParent deeper
  have apart : ∀ part ∈ kept, '/' ∉ part := fun part member =>
    Text.not_mem_of_mem_splitOn part (split ▸ List.mem_append_left _ member)
  have outerParts : FilePath.components outer = FilePath.named kept := by
    rw [FilePath.components, text, List.splitOn_intercalate _ apart nonempty]
    rfl
  have parts : FilePath.components path =
      FilePath.named kept ++ FilePath.named more := by
    rw [FilePath.components, split, List.filter_append, List.map_append]
    rfl
  have longer : outer.utf8ByteSize ≤ path.utf8ByteSize := by
    have more : more ≠ [] := by
      rintro rfl
      exact namesMore rfl
    have joined : List.intercalate ['/'] (path.toList.splitOn '/') =
        path.toList := List.intercalate_splitOn '/'
    rw [split, Text.intercalate_append more nonempty, ← text] at joined
    rw [← String.ofList_toList (s := path), ← joined, String.ofList_append,
      String.ofList_toList, String.utf8ByteSize_append]
    exact Nat.le_add_right _ _
  have notEmpty : outer ≠ "" := by
    rintro rfl
    exact deeper rfl
  unfold Files.spot at walked
  split at walked
  · cases walked
  · split at walked
    · cases walked
    · next short =>
        rw [parts] at walked
        obtain ⟨_, reached⟩ := exists_entered namesMore _ walked
        obtain ⟨place, outerWalked, leadsIn⟩ := walk_of_entered _ reached
        have found : files.spot outer = .ok place := by
          rw [Files.spot, if_neg notEmpty,
            if_neg fun long => short (Nat.lt_of_lt_of_le long longer),
            outerParts]
          exact outerWalked
        rw [hasDirectory, found]
        cases place with
        | directory => rfl
        | name => exact leadsIn

/-! ## The same failure again -/

/-- A path that leads nowhere is no directory, and it cannot be made one. -/
theorem ensureDirectory_of_lost {path : String} {fault : FileFault}
    (lost : files.spot path = .error fault) :
    files.ensureDirectory path = (.error fault, files) ∧
      files.hasDirectory path = false := by
  have absent : files.hasDirectory path = false := by
    rw [hasDirectory, lost]
  have refused : files.makeDirectory path = .error fault := by
    rw [makeDirectory, lost]
    rfl
  rw [ensureDirectory, refused]
  exact ⟨by simp [absent], absent⟩

/-- Where one directory is refused and those before are as they were, all are as
they were. -/
theorem ensureDirectories_of_refused {path : String} {outer : List String}
    {fault : FileFault} {result : Except FileFault Unit}
    (refused : files.ensureDirectory path = (.error fault, files))
    (idle : files.ensureDirectories outer = (result, files)) :
    ∃ other, files.ensureDirectories (path :: outer) =
      (.error other, files) := by
  rw [ensureDirectories, refused, idle]
  cases fault with
  | notFound =>
      cases result with
      | ok => exact ⟨_, refused⟩
      | error fault => exact ⟨fault, rfl⟩
  | alreadyExists | notDirectory | isDirectory | nameTooLong | notUtf8 =>
      exact ⟨_, rfl⟩

theorem ensureDirectories_cons_eq_error {path : String} {outer : List String}
    {made : Files} {fault : FileFault}
    (failed : files.ensureDirectories (path :: outer) =
      (.error fault, made)) :
    files.ensureDirectory path = (.error fault, made) ∨
      files.ensureDirectories outer = (.error fault, made) ∨
      ∃ there, files.ensureDirectories outer = (.ok (), there) ∧
        there.ensureDirectory path = (.error fault, made) := by
  rw [ensureDirectories] at failed
  split at failed
  · split at failed
    · next there ensured => exact .inr (.inr ⟨there, ensured, failed⟩)
    · exact .inr (.inl failed)
  · exact .inl failed

/-- Directories that could not all be made are left as they are the next time,
and again cannot all be made. -/
theorem ensureAncestors_fails_again (fuel : Nat) :
    ∀ {path : String} {files made : Files} {fault : FileFault},
      files.ensureDirectories (FilePath.ancestors fuel path) =
          (.error fault, made) →
        made.hasDirectory path = false ∧
          ∃ other, made.ensureDirectories (FilePath.ancestors fuel path) =
            (.error other, made) := by
  induction fuel with
  | zero => exact fun failed => nomatch failed
  | succ fuel induction =>
      intro path files made fault failed
      rw [FilePath.ancestors] at failed ⊢
      cases isParent : FilePath.parent? path with
      | none =>
          rw [isParent] at failed
          cases failed
      | some outer =>
          rw [isParent] at failed
          dsimp only at failed ⊢
          rcases ensureDirectories_cons_eq_error failed with
            refused | outerFailed | ⟨there, outerMade, refused⟩
          · obtain ⟨rfl, absent⟩ := ensureDirectory_eq_error refused
            exact ⟨absent, _, failed⟩
          · -- Without the parent the path leads nowhere.
            obtain ⟨absent, other, again⟩ := induction outerFailed
            have deeper : FilePath.parent? outer ≠ none := by
              intro none
              cases fuel with
              | zero => cases outerFailed
              | succ fuel =>
                  rw [FilePath.ancestors, none] at outerFailed
                  cases outerFailed
            cases walked : made.spot path with
            | ok spot =>
                rw [hasDirectory_parent isParent deeper walked] at absent
                cases absent
            | error lost =>
                obtain ⟨refused, missing⟩ := ensureDirectory_of_lost walked
                exact ⟨missing, ensureDirectories_of_refused refused again⟩
          · obtain ⟨rfl, absent⟩ := ensureDirectory_eq_error refused
            have idle := ensureDirectories_again outerMade fun _ still => still
            exact ⟨absent, ensureDirectories_of_refused refused idle⟩

variable {ε : Type} {made : Files} {path : String}
  {trouble : String → FileFault → ε}

/-- A parent that was made need not be made again. -/
theorem createParent_again {after : Files}
    (created : files.createParent path trouble = (.ok (), made))
    (keeps : Keeps made after) :
    after.createParent path trouble = (.ok (), after) := by
  unfold createParent at created ⊢
  cases isParent : FilePath.parent? path with
  | none => rfl
  | some directory =>
      rw [isParent] at created
      obtain ⟨ended, rfl⟩ := Prod.mk.inj created
      have again : after.createDirectories directory = (.ok (), after) :=
        ensureDirectories_again (Prod.ext (mapError_eq_ok.mp ended) rfl) keeps
      simp only [again]
      rfl

/-- A parent that could not be made cannot be made the next time. -/
theorem createParent_fails_again {fault : ε}
    (failed : files.createParent path trouble = (.error fault, made)) :
    ∃ other, made.createParent path trouble = (.error other, made) := by
  unfold createParent at failed ⊢
  cases isParent : FilePath.parent? path with
  | none =>
      rw [isParent] at failed
      cases failed
  | some directory =>
      rw [isParent] at failed
      obtain ⟨ended, same⟩ := Prod.mk.inj failed
      obtain ⟨refusal, ended, _⟩ := mapError_eq_error.mp ended
      obtain ⟨_, other, again⟩ :=
        ensureAncestors_fails_again _ (Prod.ext ended same)
      have refused : made.createDirectories directory = (.error other, made) :=
        again
      refine ⟨trouble directory other, ?_⟩
      simp only [refused]
      rfl

end Files

end OperatorConsole
