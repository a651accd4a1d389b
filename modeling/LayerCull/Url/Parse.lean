import LayerCull.Text.Cut
import LayerCull.Url.Basic
import LayerCull.Url.Segments

/-!
This module contains the reading of URLs. `Url.parse` takes what a user may have typed and gives back
the URL in its normal form, or says why there is none.
-/

namespace LayerCull.Url

/-- Drops blanks and controls around the text, and line breaks and tabs everywhere. -/
def clean (text : List Char) : List Char :=
  let trimmed := (text.dropWhile isEdge).reverse.dropWhile isEdge |>.reverse
  trimmed.filter fun c => !(c == '\t' || c == '\n' || c == '\r')
where
  isEdge (c : Char) : Bool :=
    c.toNat ≤ 0x20

def splitScheme? (text : List Char) : Option (List Char × List Char) :=
  match Text.cut ':' text with
  | (scheme, some rest) =>
    if scheme.head?.any Char.isAlpha && scheme.all belongs then
      some (scheme.map Char.toLower, rest)
    else
      none
  | (_, none) => none
where
  belongs (c : Char) : Bool :=
    c.isAlphanum || c == '+' || c == '-' || c == '.'

/-- Whether the character ends the authority and separates segments. -/
def Kind.separates (kind : Kind) (c : Char) : Bool :=
  c == '/' || (kind != .other && c == '\\')

def User.ofText (text : List Char) : User :=
  let (name, password) := Text.cut ':' text
  ⟨Percent.encode Percent.inUserinfo name,
    Percent.encode Percent.inUserinfo (password.getD [])⟩

/-- Cuts a text at the first colon that does not stand between brackets. -/
def cutPort (text : List Char) : List Char × Option (List Char) :=
  go false text
where
  go (bracketed : Bool) : List Char → List Char × Option (List Char)
    | [] => ([], none)
    | c :: rest =>
      if c == ':' && !bracketed then
        ([], some rest)
      else
        let (host, port) := go ((bracketed || c == '[') && c != ']') rest
        (c :: host, port)

/-- Reads the digits of a port; what follows them begins the path. -/
def readPort (kind : Kind) (scheme text : List Char) : Except Fault (Option Nat × List Char) :=
  let (digits, rest) := text.span Char.isDigit
  let port := Text.Digits.number 10 digits
  if 65535 < port ∨ ¬(rest.isEmpty ∨ kind = .other ∧ rest.head? = some '\\') then
    .error .invalidPort
  else if digits.isEmpty ∨ defaultPort? scheme = some port then
    .ok (none, rest)
  else
    .ok (some port, rest)

def readHost (kind : Kind) (text : List Char) : Except Fault Host :=
  if kind = .other then Host.parseOpaque text
  else if text.isEmpty then .error .emptyHost
  else Host.parse text

structure Authority where
  user : User
  host : Host
  port : Option Nat
  /-- What the port left over. -/
  rest : List Char

/-- Reads user, host and port. `followed` says that the authority is not the end of the URL. -/
def readAuthority (kind : Kind) (scheme text : List Char) (followed : Bool) :
    Except Fault Authority := do
  let (written, text) := (Text.cutLast? '@' text).getD ([], text)
  let user := User.ofText written
  let lonelyMark := written.isEmpty && text.isEmpty && followed && marked
  if lonelyMark then
    .error .emptyHost
  let (hostText, portText) := cutPort text
  let host ← readHost kind hostText
  if host = .name [] ∧ (portText.isSome ∨ !user.isEmpty) then
    .error .emptyHost
  let (port, rest) ← match portText with
    | some digits => readPort kind scheme digits
    | none => .ok (none, [])
  return ⟨user, host, port, rest⟩
where
  marked : Bool := text.contains '@'

/-- Reads the path after an authority. -/
def readPath (kind : Kind) (text : List Char) : Path :=
  match kind, text with
  | .other, [] => .segments []
  | _, [] => .segments [[]]
  | _, c :: rest =>
    if kind.separates c then
      .segments (Segments.ofText kind.separates rest)
    else
      .segments (Segments.ofText kind.separates (c :: rest))

/-- A URL without query and fragment. -/
abbrev Hierarchy := Except Fault Url

def readServer (kind : Kind) (scheme text : List Char) (followed : Bool) : Hierarchy := do
  let (authority, path) := text.span fun c => !kind.separates c
  let a ← readAuthority kind scheme authority (followed || !path.isEmpty)
  return {
    scheme, user := a.user, host := some a.host, port := a.port
    path := readPath kind (a.rest ++ path) }

/-- The segments of a file's path. A drive comes first, whatever stands before it. -/
def fileSegments (text : List Char) : List (List Char) :=
  let segments := Segments.split Kind.file.separates text |>.map (Percent.encode Percent.inPath)
  dropEmpty (Segments.follow [] (withDrive segments))
where
  withDrive : List (List Char) → List (List Char)
    | [letter, mark] :: rest =>
      if Segments.isDrive [letter, mark] then [letter, ':'] :: rest else [letter, mark] :: rest
    | (letter :: ':' :: c :: more) :: rest =>
      if letter.isAlpha then [letter, ':'] :: (c :: more) :: rest
      else (letter :: ':' :: c :: more) :: rest
    | segments => segments
  dropEmpty : List (List Char) → List (List Char)
    | [] :: segment :: rest => dropEmpty (segment :: rest)
    | segments => segments

/-- Drops one separator at the front. -/
def dropSeparator : List Char → List Char
  | c :: rest => if Kind.file.separates c then rest else c :: rest
  | [] => []

def readLocal (scheme text : List Char) : Hierarchy :=
  match text with
  | a :: b :: rest =>
    if Kind.file.separates a && Kind.file.separates b then withHost rest else withoutHost text
  | _ => withoutHost text
where
  withoutHost (text : List Char) : Hierarchy :=
    .ok { scheme, path := .segments (fileSegments (dropSeparator text)) }
  withHost (text : List Char) : Hierarchy := do
    let (hostText, path) := text.span fun c => !Kind.file.separates c
    if hostText.isEmpty || Segments.isDrive hostText then
      withoutHost text
    else
      let host ← Host.parse hostText
      let segments := fileSegments (dropSeparator path)
      let local_ := host == .name "localhost".toList || segments.head?.any Segments.isDrive
      return { scheme, host := if local_ then none else some host, path := .segments segments }

def readHierarchy (scheme text : List Char) (followed : Bool) : Hierarchy :=
  match kindOf scheme with
  | .server => readServer .server scheme (text.dropWhile Kind.server.separates) followed
  | .file => readLocal scheme text
  | .other =>
    match text with
    | '/' :: '/' :: rest => readServer .other scheme rest followed
    | '/' :: _ => .ok { scheme, path := readPath .other text }
    | _ => .ok { scheme, path := .opaqueText (Percent.encode Percent.control text) }

def parse (text : List Char) : Except Fault Url := do
  let some (scheme, rest) := splitScheme? (clean text) | .error .relative
  let (rest, fragment) := Text.cut '#' rest
  let (rest, query) := Text.cut '?' rest
  let url ← readHierarchy scheme rest (query.isSome || fragment.isSome)
  let inQuery := if kindOf scheme = .other then Percent.inQuery else Percent.inSpecialQuery
  return { url with
    query := query.map (Percent.encode inQuery)
    fragment := fragment.map (Percent.encode Percent.inFragment) }

end LayerCull.Url
