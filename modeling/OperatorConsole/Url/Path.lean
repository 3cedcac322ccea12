import OperatorConsole.Url.Basic

/-!
# Paths

The segments of a path are resolved from left to right: `.` stands for nothing,
`..` for the removal of the segment before it, and both may have their dots
percent-encoded.  A drive letter, as in `C:`, is never removed.

Tabs and line ends inside a text are gaps: they count for nothing, but for one
behind the drive letter of a file path, which ends its segment.
-/

namespace OperatorConsole.Url

def isGap (c : Char) : Bool :=
  c == '\t' || c == '\n' || c == '\r'

/-- The characters of a text that count. -/
def visible (cs : List Char) : List Char :=
  cs.filter (!isGap ·)

/-- The two parts of a text around the place where the path ends. -/
def spanPath (cs : List Char) : List Char × List Char :=
  cs.span fun c => c != '?' && c != '#'

def SchemeKind.isSlash (kind : SchemeKind) (c : Char) : Bool :=
  c == '/' || (kind.backslashes && c == '\\')

/-- The text with each `%2e` read as a dot. -/
def readDots : List Char → List Char
  | '%' :: '2' :: 'e' :: rest | '%' :: '2' :: 'E' :: rest =>
      '.' :: readDots rest
  | c :: rest => c :: readDots rest
  | [] => []

def isCurrent (segment : List Char) : Bool :=
  readDots segment == ['.']

def isParent (segment : List Char) : Bool :=
  readDots segment == ['.', '.']

/-- A letter before a colon or a bar. -/
def isDriveLetter : List Char → Bool
  | [letter, mark] => letter.isAlpha && (mark == ':' || mark == '|')
  | _ => false

def isNormalDriveLetter (segment : List Char) : Bool :=
  isDriveLetter segment && segment.getLast? == some ':'

/-- The drive letter that a gap cuts off from the rest of its segment, and that
rest. -/
def cutDrive? (segment : List Char) : Option (List Char × List Char) :=
  match segment.dropWhile isGap with
  | letter :: more =>
      match more.dropWhile isGap with
      | ':' :: next :: rest =>
          if letter.isAlpha && isGap next && !(visible rest).isEmpty then
            some ([letter, ':'], visible rest)
          else none
      | _ => none
  | [] => none

/-- Remove the last segment, given last segment first. -/
def shorten : List String → List String
  | [] => []
  | last :: before =>
      if isDriveLetter last.toList then last :: before else before

/-- A path as far as it is resolved: its segments, last one first, and whether
the first of them has been read as a drive letter. -/
structure Resolved where
  segments : List String
  opensDrive : Bool
deriving DecidableEq, Repr

def Resolved.start (segments : List String) : Resolved :=
  ⟨segments, false⟩

/-- Add a segment that is no dot segment. -/
def Resolved.push (kind : SchemeKind) (state : Resolved)
    (segment : List Char) : Resolved :=
  match kind, state.segments, segment with
  | .file, [], [letter, mark] =>
      if isDriveLetter [letter, mark] then
        ⟨[String.ofList [letter, ':']], true⟩
      else ⟨[encodeText keepPath segment], state.opensDrive⟩
  | _, before, _ =>
      ⟨encodeText keepPath segment :: before, state.opensDrive⟩

/-- A segment of which a drive letter is cut off. -/
def Resolved.cut? (kind : SchemeKind) (state : Resolved)
    (segment : List Char) : Option Resolved :=
  match kind, state.segments with
  | .file, [] =>
      (cutDrive? segment).map fun (drive, rest) =>
        ⟨[encodeText keepPath rest, String.ofList drive], state.opensDrive⟩
  | _, _ => none

/-- Resolve segments one after another.  A path that ends in a dot segment ends
in an empty one. -/
def resolveAfter (kind : SchemeKind) :
    Resolved → List (List Char) → Resolved
  | state, [] => state
  | state, segment :: rest =>
      match state.cut? kind segment with
      | some next => resolveAfter kind next rest
      | none =>
          let text := visible segment
          let next :=
            if isParent text then
              { state with segments := shorten state.segments }
            else if isCurrent text then state
            else state.push kind text
          if rest.isEmpty && (isParent text || isCurrent text) then
            { next with segments := "" :: next.segments }
          else resolveAfter kind next rest

/-- In a file path empty segments at the front are left out. -/
def SchemeKind.trimFront (kind : SchemeKind) (names : List String) :
    List String :=
  match kind with
  | .file =>
      let kept := names.dropWhile (·.isEmpty)
      if kept.isEmpty then [""] else kept
  | _ => names

def pathSegments (kind : SchemeKind) (path : List Char) : List (List Char) :=
  path.splitOnP kind.isSlash

/-- The segments of a path that goes on from `done`. -/
def resolve (kind : SchemeKind) (done : List String) (path : List Char) :
    List String :=
  kind.trimFront
    (resolveAfter kind (.start done.reverse)
      (pathSegments kind path)).segments.reverse

/-- The path without its last segment. -/
def withoutLast (names : List String) : List String :=
  names.dropLast

/-- The segments of a relative path in the directory of a file.  A drive letter
at the end of the file's own path stays; behind other segments it has no slash
of its own, and the first segment is written next to it. -/
def resolveBesideFile (names : List String) (path : List Char) :
    List String :=
  match names.reverse with
  | last :: before =>
      if !isNormalDriveLetter last.toList then
        resolve .file (withoutLast names) path
      else
        match before, pathSegments .file path with
        | [], _ => resolve .file names path
        | _, [] => names
        | _, first :: more =>
            if isParent (visible first) && more.isEmpty then names
            else if isParent (visible first) || isCurrent (visible first) then
              resolve .file names path
            else resolve .file before.reverse (last.toList ++ path)
  | [] => resolve .file [] path

/-- The segments of a relative path beside a path of a given kind. -/
def resolveBeside (kind : SchemeKind) (names : List String)
    (path : List Char) : List String :=
  match kind with
  | .file => resolveBesideFile names path
  | _ => resolve kind (withoutLast names) path

end OperatorConsole.Url
