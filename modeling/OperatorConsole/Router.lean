import OperatorConsole.CommandLine
import OperatorConsole.CommandTable

/-!
# Routing

What a submitted line asks for.  The router looks at the table and the line
only; carrying an effect out is the console's work.
-/

namespace OperatorConsole

/-- What a submitted line asks for. -/
inductive Effect where
  | localRender (markup : String)
  /-- Leave the console for a path on the front-end. -/
  | navigate (target : String)
  | remoteCall (call : Remote.Call)
  /-- Forget every cookie, then leave for `redirect`. -/
  | clearSession (redirect : String)
deriving DecidableEq, Repr

namespace CommandTable

/-- The answer to a help line whose words have no topic.  It quotes the words
as they were typed. -/
def noHelpText (words : List String) : String :=
  "no help available for \"" ++ String.intercalate " " words ++
    "\", type help for the list of commands"

/-- The effect of a line whose verb asks for help. -/
def helpEffect (table : CommandTable) (line : CommandLine) : Effect :=
  match line.subVerb? with
  | none => .localRender table.summary
  | some sub =>
      match table.topic? sub line.qualifier? with
      | some (.text markup) => .localRender markup
      | some (.navigate target) => .navigate target
      | none => .localRender (noHelpText line.arguments)

/-- The effect of a line that is not blank. -/
def lineEffect (table : CommandTable) (line : CommandLine) : Effect :=
  match table.route? line.verb with
  | some .help => table.helpEffect line
  | some .localizedHelp => .localRender table.localized
  | some (.remote .act) => .remoteCall (.act line.raw)
  | some (.remote resource) => .remoteCall (.named resource)
  | some (.navigate target) => .navigate target
  | some (.clearSession redirect) => .clearSession redirect
  | none => .remoteCall (.act line.raw)

/-- The effect of a submitted line; a blank one has none. -/
def effect? (table : CommandTable) (line : String) : Option Effect :=
  (CommandLine.ofLine? line).map table.lineEffect

end CommandTable

end OperatorConsole
