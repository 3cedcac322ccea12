import OperatorConsole.Markup
import OperatorConsole.Text.Blank
import OperatorConsole.Text.Lowercase
import OperatorConsole.Text.Quoted

/-!
# Transcripts

The transcript keeps one block per answered line.  Its markup and its terminal
lines show the newest block first.  In `replace` mode it keeps the newest block
only.
-/

namespace OperatorConsole

inductive RenderMode where
  /-- Keep every block, newest on top. -/
  | append
  /-- Show only the latest block. -/
  | replace
deriving DecidableEq, Repr, Inhabited

namespace RenderMode

def name : RenderMode → String
  | .append => "append"
  | .replace => "replace"

/-- Read a mode's name, in any case and with blanks around it.  The error is
the name as it was compared. -/
def ofText (text : String) : Except String RenderMode :=
  let word := Text.lowercase (Text.trim text)
  if word == "append" then .ok .append
  else if word == "replace" then .ok .replace
  else .error word

/-- The message for a word that names no mode. -/
def unknownMessage (word : String) : String :=
  "unknown render mode " ++ Text.quote word ++
    " (expected append or replace)"

end RenderMode

/-- What the transcript shows for one line. -/
structure Block where
  label : String
  text : String
  isError : Bool
deriving DecidableEq, Repr

def Block.markup (block : Block) : String :=
  "# " ++ block.label ++ "<br>" ++ block.text ++ "<br><br>"

/-- A terminal line; those of an error block are marked. -/
structure ShownLine where
  text : String
  isError : Bool
deriving DecidableEq, Repr

def Block.lines (block : Block) : List ShownLine :=
  (Markup.lines block.markup).map fun text => ⟨text, block.isError⟩

structure Transcript where
  mode : RenderMode
  /-- The blocks, newest first. -/
  blocks : List Block
deriving DecidableEq, Repr

namespace Transcript

def empty (mode : RenderMode) : Transcript :=
  ⟨mode, []⟩

def push (transcript : Transcript) (block : Block) : Transcript :=
  match transcript.mode with
  | .append => { transcript with blocks := block :: transcript.blocks }
  | .replace => { transcript with blocks := [block] }

/-- Add a block for an answer. -/
def render (transcript : Transcript) (label text : String) : Transcript :=
  transcript.push ⟨label, text, false⟩

/-- Add a block for a failure. -/
def renderError (transcript : Transcript) (label message : String) :
    Transcript :=
  transcript.push ⟨label, "error: " ++ message, true⟩

def markup (transcript : Transcript) : String :=
  String.join (transcript.blocks.map Block.markup)

def lines (transcript : Transcript) : List ShownLine :=
  transcript.blocks.flatMap Block.lines

end Transcript

end OperatorConsole
