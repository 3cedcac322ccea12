import Mathlib.Data.List.Induction
import OperatorConsole.Terminal.Screen

/-!
# The line editor

What keys do to a text, told without the input line: characters go to its end
and are taken off there, and Enter hands it in.  What is handed in are the
characters that were typed, each once and on the line it was typed on, but for
those that were taken off.  The input line does the same key by key.
-/

namespace OperatorConsole.Terminal

/-- What a key that goes down does to a text. -/
inductive Stroke where
  | types (c : Char)
  | erases
  | enters
deriving DecidableEq, Repr

def Stroke.char? : Stroke → Option Char
  | .types c => some c
  | .erases | .enters => none

def KeyCode.stroke? (code : KeyCode) (control : Bool) : Option Stroke :=
  match code with
  | .char c => if control then none else some (.types c)
  | .backspace => some .erases
  | .enter => some .enters
  | _ => none

/-- Letting go of a key is no stroke. -/
def Key.stroke? (key : Key) : Option Stroke :=
  if key.kind = .release then none else key.code.stroke? key.control

def Event.stroke? : Event → Option Stroke
  | .key pressed => pressed.stroke?
  | .other => none

/-- The key is Ctrl-C or Ctrl-D and goes down. -/
def Key.Interrupts (key : Key) : Prop :=
  key.kind ≠ .release ∧ key.control = true ∧
    (key.code = .char 'c' ∨ key.code = .char 'd')

instance (key : Key) : Decidable key.Interrupts :=
  inferInstanceAs (Decidable (_ ∧ _ ∧ _))

structure Editor where
  /-- The lines that were handed in, oldest first. -/
  lines : List String
  text : List Char
deriving DecidableEq, Repr

namespace Editor

def blank : Editor :=
  ⟨[], []⟩

/-- An empty text is no line. -/
def handedIn (text : List Char) : List String :=
  if text = [] then [] else [String.ofList text]

def after (editor : Editor) : Stroke → Editor
  | .types c => { editor with text := editor.text ++ [c] }
  | .erases => { editor with text := editor.text.dropLast }
  | .enters => ⟨editor.lines ++ handedIn editor.text, []⟩

def ofStrokes (strokes : List Stroke) : Editor :=
  strokes.foldl after blank

def afterEvent (editor : Editor) (event : Event) : Editor :=
  event.stroke?.elim editor editor.after

def ofEvents (events : List Event) : Editor :=
  ofStrokes (events.filterMap Event.stroke?)

@[simp] theorem ofStrokes_append_singleton (strokes : List Stroke)
    (stroke : Stroke) :
    ofStrokes (strokes ++ [stroke]) = (ofStrokes strokes).after stroke := by
  rw [ofStrokes, List.foldl_append]
  rfl

theorem ofEvents_append_singleton (events : List Event) (event : Event) :
    ofEvents (events ++ [event]) = (ofEvents events).afterEvent event := by
  rw [ofEvents, List.filterMap_append, afterEvent]
  cases told : event.stroke? with
  | none => simp [told, ofEvents]
  | some stroke => simp [told, ofEvents]

/-! ## What is handed in -/

theorem toList_ne_nil_of_handedIn {text : List Char} {line : String}
    (member : line ∈ handedIn text) : line ≠ "" := by
  unfold handedIn at member
  split at member
  · exact absurd member List.not_mem_nil
  · next notEmpty =>
      rw [List.mem_singleton.mp member]
      rwa [Ne, String.ofList_eq_empty_iff]

theorem lines_ofStrokes_ne_empty (strokes : List Stroke) :
    ∀ line ∈ (ofStrokes strokes).lines, line ≠ "" := by
  induction strokes using List.reverseRecOn with
  | nil => exact fun _ member => absurd member List.not_mem_nil
  | append_singleton strokes stroke induction =>
      intro line member
      rw [ofStrokes_append_singleton] at member
      cases stroke with
      | types | erases => exact induction line member
      | enters =>
          rcases List.mem_append.mp member with old | new
          · exact induction line old
          · exact toList_ne_nil_of_handedIn new

/-- The characters of all lines and of the text behind them. -/
def characters (editor : Editor) : List Char :=
  (editor.lines.map String.toList).flatten ++ editor.text

theorem characters_types (editor : Editor) (c : Char) :
    (editor.after (.types c)).characters = editor.characters ++ [c] := by
  simp [characters, after]

theorem characters_erases (editor : Editor) :
    (editor.after .erases).characters.Sublist editor.characters :=
  (List.dropLast_sublist _).append_left _

/-- Handing a text in neither loses nor doubles any of it. -/
theorem characters_enters (editor : Editor) :
    (editor.after .enters).characters = editor.characters := by
  unfold characters after handedIn
  by_cases empty : editor.text = []
  · simp [empty]
  · simp [empty]

/-- The characters that were typed, in order. -/
def typed (strokes : List Stroke) : List Char :=
  strokes.filterMap Stroke.char?

theorem typed_append_singleton (strokes : List Stroke) (stroke : Stroke) :
    typed (strokes ++ [stroke]) = typed strokes ++ stroke.char?.toList := by
  rw [typed, List.filterMap_append]
  cases stroke <;> rfl

/-- Nothing is there that was not typed, and nothing twice or out of order. -/
theorem characters_sublist (strokes : List Stroke) :
    (ofStrokes strokes).characters.Sublist (typed strokes) := by
  induction strokes using List.reverseRecOn with
  | nil => exact .slnil
  | append_singleton strokes stroke induction =>
      rw [ofStrokes_append_singleton, typed_append_singleton]
      cases stroke with
      | types c =>
          rw [characters_types]
          exact induction.append_right [c]
      | erases =>
          rw [Stroke.char?, Option.toList_none, List.append_nil]
          exact (characters_erases _).trans induction
      | enters =>
          rw [characters_enters, Stroke.char?, Option.toList_none,
            List.append_nil]
          exact induction

/-- What was typed is there if nothing was taken off. -/
theorem characters_eq {strokes : List Stroke} (kept : .erases ∉ strokes) :
    (ofStrokes strokes).characters = typed strokes := by
  induction strokes using List.reverseRecOn with
  | nil => rfl
  | append_singleton strokes stroke induction =>
      rw [List.mem_append, not_or] at kept
      rw [ofStrokes_append_singleton, typed_append_singleton,
        ← induction kept.1]
      cases stroke with
      | types c => exact characters_types _ c
      | erases => exact absurd List.mem_cons_self kept.2
      | enters =>
          rw [characters_enters, Stroke.char?, Option.toList_none,
            List.append_nil]

/-! ## Lines one by one -/

/-- Lines that were handed in before make no difference. -/
theorem foldl_after (strokes : List Stroke) : ∀ editor : Editor,
    strokes.foldl after editor =
      ⟨editor.lines ++ (strokes.foldl after ⟨[], editor.text⟩).lines,
        (strokes.foldl after ⟨[], editor.text⟩).text⟩ := by
  induction strokes with
  | nil => simp
  | cons stroke strokes induction =>
      intro editor
      rw [List.foldl_cons, List.foldl_cons, induction,
        induction (after ⟨[], editor.text⟩ stroke)]
      cases stroke with
      | types | erases => rfl
      | enters => simp [after]

/-- An Enter ends a line: what stands before it and what comes after it have
nothing to do with each other. -/
theorem ofStrokes_enters (before later : List Stroke) :
    ofStrokes (before ++ .enters :: later) =
      ⟨(ofStrokes before).lines ++ handedIn (ofStrokes before).text ++
        (ofStrokes later).lines, (ofStrokes later).text⟩ := by
  rw [ofStrokes, List.foldl_append, List.foldl_cons, foldl_after]
  rfl

end Editor

/-! ## The input line -/

/-- The line that is handed in, if one is. -/
def InputAction.line? : InputAction → Option String
  | .submit line => some line
  | .cancelPending | .quit | .edited | .ignored => none

namespace InputLine

variable (input : InputLine)

@[simp] theorem toList_push (c : Char) :
    (input.push c).text.toList = input.text.toList ++ [c] :=
  String.toList_push c

@[simp] theorem toList_pop :
    input.pop.text.toList = input.text.toList.dropLast :=
  String.toList_ofList

theorem isEmpty_text : input.text.isEmpty = true ↔ input.text.toList = [] := by
  rw [String.isEmpty_iff, ← String.toList_eq_nil_iff]

theorem press_enter (control : Bool) (lines : List String) :
    Editor.after ⟨lines, input.text.toList⟩ .enters =
      ⟨lines ++ (input.press .enter control).1.line?.toList,
        (input.press .enter control).2.text.toList⟩ := by
  unfold Editor.after Editor.handedIn press
  dsimp only
  by_cases blank : input.text.toList = []
  · rw [if_pos blank, if_pos (input.isEmpty_text.mpr blank), blank]
    rfl
  · rw [if_neg blank, if_neg (mt input.isEmpty_text.mp blank),
      String.ofList_toList]
    rfl

theorem press_backspace (control : Bool) (lines : List String) :
    Editor.after ⟨lines, input.text.toList⟩ .erases =
      ⟨lines ++ (input.press .backspace control).1.line?.toList,
        (input.press .backspace control).2.text.toList⟩ := by
  unfold Editor.after press
  dsimp only
  by_cases blank : input.text.toList = []
  · rw [if_pos (input.isEmpty_text.mpr blank), blank]
    simp [InputAction.line?]
  · rw [if_neg (mt input.isEmpty_text.mp blank)]
    simp [InputAction.line?]

/-- A key that goes down does its stroke. -/
theorem press_editor (code : KeyCode) (control : Bool) (lines : List String) :
    (code.stroke? control).elim ⟨lines, input.text.toList⟩
        (Editor.after ⟨lines, input.text.toList⟩) =
      ⟨lines ++ (input.press code control).1.line?.toList,
        (input.press code control).2.text.toList⟩ := by
  cases code with
  | char c =>
      unfold press KeyCode.stroke?
      cases control with
      | true =>
          dsimp only
          rw [if_pos rfl, if_pos rfl]
          split <;> simp [InputAction.line?]
      | false => simp [Editor.after, InputAction.line?]
  | enter => exact input.press_enter control lines
  | backspace => exact input.press_backspace control lines
  | _ =>
      unfold press KeyCode.stroke?
      simp [InputAction.line?]

/-- A key does to the input line what it does to an editor with the same
text. -/
theorem take_editor (key : Key) (lines : List String) :
    Editor.afterEvent ⟨lines, input.text.toList⟩ (.key key) =
      ⟨lines ++ (input.take key).1.line?.toList,
        (input.take key).2.text.toList⟩ := by
  rw [Editor.afterEvent, Event.stroke?, Key.stroke?, take]
  cases kind : key.kind with
  | release => simp [InputAction.line?]
  | press | again => exact input.press_editor key.code key.control lines

end InputLine

end OperatorConsole.Terminal
