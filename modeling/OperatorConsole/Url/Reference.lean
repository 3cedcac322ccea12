import OperatorConsole.Url.Authority

/-!
# References

A text names a URL on its own or relative to a base.  Controls and spaces around
it are dropped, and gaps inside it count for nothing.  What it leaves out from
the left is taken from the base.
-/

namespace OperatorConsole.Url

/-- A text without the controls and spaces around it. -/
def trimmed (text : String) : List Char :=
  let isOuter := fun (c : Char) => c.toNat ≤ 0x20
  ((text.toList.dropWhile isOuter).reverse.dropWhile isOuter).reverse

/-- The first character of a text that counts, and what follows it. -/
def next? (cs : List Char) : Option (Char × List Char) :=
  match cs.dropWhile isGap with
  | [] => none
  | c :: rest => some (c, rest)

def isSchemeChar (c : Char) : Bool :=
  c.isAlphanum || c == '+' || c == '-' || c == '.'

/-- The scheme at the front of a text, in small letters, and what follows its
colon. -/
def splitScheme? (cs : List Char) : Option (String × List Char) :=
  match cs.span fun c => isGap c || isSchemeChar c with
  | (text, ':' :: rest) =>
      match visible text with
      | first :: more =>
          if first.isAlpha then
            some (String.ofList ((first :: more).map Char.toLower), rest)
          else none
      | [] => none
  | _ => none

/-- The parts of a text from its question mark or number sign on. -/
def finish (url : Url) (cs : List Char) : Url :=
  let (query, fragment) := (visible cs).span (· != '#')
  { url with
    query :=
      match query with
      | '?' :: query => some (encodeText url.keepsInQuery query)
      | _ => none
    fragment :=
      match fragment with
      | '#' :: fragment => some (encodeText keepFragment fragment)
      | _ => none }

/-- A URL whose path goes on from `done` with the path at the front of a
text. -/
def withPath (scheme : String) (authority : Option Authority)
    (done : List String) (cs : List Char) : Url :=
  let (path, rest) := spanPath cs
  finish ⟨scheme, authority,
    .segments (resolve (.ofScheme scheme) done path), none, none⟩ rest

/-- One slash at the front stands before the first segment and not in it. -/
def dropSlash (kind : SchemeKind) (cs : List Char) : List Char :=
  match next? cs with
  | some (c, rest) => if kind.isSlash c then rest else cs
  | none => cs

/-- A text that starts with an authority. -/
def ofAuthority (scheme : String) (cs : List Char) : Except Fault Url := do
  let (authority, rest) ← Authority.read scheme cs
  let kind := SchemeKind.ofScheme scheme
  if kind = .general ∧ (visible (spanPath rest).1).isEmpty then
    return finish ⟨scheme, some authority, .segments [], none, none⟩ rest
  else return withPath scheme (some authority) [] (dropSlash kind rest)

def isAnySlash (c : Char) : Bool :=
  SchemeKind.special.isSlash c

/-- The slashes of both kinds at the front of a text, and what follows them. -/
def spanSlashes (cs : List Char) : List Char × List Char :=
  let (slashes, rest) := cs.span fun c => isGap c || isAnySlash c
  (visible slashes, rest)

/-- What follows two plain slashes at the front of a text. -/
def afterTwo? (cs : List Char) : Option (List Char) :=
  match next? cs with
  | some ('/', rest) =>
      match next? rest with
      | some ('/', rest) => some rest
      | _ => none
  | _ => none

/-- A text that stands for a path from the base's directory, its root, or
another authority. -/
def relative (base : Url) (cs : List Char) : Except Fault Url :=
  match next? cs with
  | none => .ok base.withoutFragment
  | some ('?', _) =>
      .ok (finish ⟨base.scheme, base.authority, base.path, none, none⟩ cs)
  | some ('#', _) =>
      .ok { finish base cs with query := base.query }
  | some (c, rest) =>
      if isAnySlash c then
        let (slashes, after) := spanSlashes cs
        if slashes.length < 2 then
          .ok (withPath base.scheme base.authority [] rest)
        else ofAuthority base.scheme ((afterTwo? cs).getD after)
      else
        let names :=
          match base.path with
          | .segments names => names
          | .flat _ => []
        let (path, rest) := spanPath cs
        .ok (finish ⟨base.scheme, base.authority,
          .segments (resolveBeside base.kind names path), none, none⟩ rest)

/-- The segment at the front of a text is a drive letter. -/
def startsWithDrive (cs : List Char) : Bool :=
  isDriveLetter (visible (cs.takeWhile (!Authority.ends .file ·)))

/-- A path on no host that starts at the root. -/
def rootFile (cs : List Char) : Url :=
  withPath "file" (some .empty) [] cs

/-- A path at the front of a text resolves to one below a drive letter. -/
def opensDrive (cs : List Char) : Bool :=
  (resolveAfter .file (.start [])
    (pathSegments .file (spanPath cs).1)).opensDrive

/-- A text after the two slashes that announce a host.  Below a drive letter
there is no host, and where there is none, the slash behind it stands in the
path. -/
def ofFileHost (cs : List Char) : Except Fault Url := do
  let (text, rest) := cs.span (!Authority.ends .file ·)
  if isDriveLetter (visible text) then return rootFile cs
  match ← Host.ofFile (visible text) with
  | none => return rootFile rest
  | some host =>
      let path := dropSlash .file rest
      let host := if opensDrive path then none else some host
      return withPath "file" (some { Authority.empty with host := host }) []
        path

/-- What the root of a file path keeps of the base: its drive letter, else its
host. -/
def fileRoot (base : Option Url) : Authority × List String :=
  match base with
  | none => (.empty, [])
  | some base =>
      match base.path with
      | .segments (first :: _) =>
          if isNormalDriveLetter first.toList then (.empty, [first])
          else ({ Authority.empty with host := base.host? }, [])
      | _ => ({ Authority.empty with host := base.host? }, [])

/-- A text that names a file. -/
def ofFileText (base : Option Url) (cs : List Char) : Except Fault Url :=
  match next? cs with
  | some (first, rest) =>
      if isAnySlash first then
        match next? rest with
        | some (second, after) =>
            if isAnySlash second then ofFileHost after
            else if startsWithDrive rest then .ok (rootFile rest)
            else
              let (authority, done) := fileRoot base
              .ok (withPath "file" (some authority) done rest)
        | none =>
            let (authority, done) := fileRoot base
            .ok (withPath "file" (some authority) done rest)
      else
        match base with
        | some base =>
            if startsWithDrive cs then .ok (rootFile cs) else relative base cs
        | none => .ok (rootFile cs)
  | none =>
      match base with
      | some base => relative base cs
      | none => .ok (rootFile cs)

/-- A text of which a scheme has been read. -/
def ofSchemeText (base : Option Url) (scheme : String) (cs : List Char) :
    Except Fault Url :=
  let base := base.filter (·.scheme == scheme)
  match SchemeKind.ofScheme scheme with
  | .file => ofFileText base cs
  | .special =>
      let (slashes, rest) := spanSlashes cs
      match base with
      | some base =>
          if slashes.length < 2 then relative base cs
          else ofAuthority scheme rest
      | none => ofAuthority scheme rest
  | .general =>
      match afterTwo? cs, next? cs with
      | some rest, _ => ofAuthority scheme rest
      | none, some ('/', rest) => .ok (withPath scheme none [] rest)
      | none, _ =>
          let (path, rest) := spanPath cs
          .ok (finish ⟨scheme, none,
            .flat (encodeText keepPrintable (visible path)), none, none⟩ rest)

/-- Read a text relative to a base, if there is one. -/
def read (base : Option Url) (text : String) : Except Fault Url :=
  let cs := trimmed text
  match splitScheme? cs with
  | some (scheme, rest) => ofSchemeText base scheme rest
  | none =>
      match base with
      | none => .error .relativeWithoutBase
      | some base =>
          if (next? cs).map (·.1) = some '#' then
            .ok { finish base cs with query := base.query }
          else if base.isFlat then .error .relativeToFlat
          else if base.kind = .file then ofFileText (some base) cs
          else relative base cs

/-- Read a URL that stands on its own. -/
def ofText (text : String) : Except Fault Url :=
  read none text

/-- Read a text relative to a URL. -/
def join (base : Url) (text : String) : Except Fault Url :=
  read (some base) text

end OperatorConsole.Url
