import Provision.Url.Basic

/-!
# Reading a URL

`Url.parse` reads any text: blanks and controls at its ends do not count, nor do tabs and
line ends inside it, and each part is brought into its escaped form. It fails exactly for
the reasons listed in `Url.Fault`.
-/

namespace Provision.Url

variable [DomainNames]

/-- A tab or a line end, which no part of a URL keeps. -/
def isIgnored (c : Char) : Bool :=
  c == '\t' || c == '\n' || c == '\r'

/-- The text without the characters that no part keeps. -/
def visible (s : List Char) : List Char :=
  s.filter (!isIgnored ·)

/-- The text without controls and spaces at its ends. -/
def trim (s : List Char) : List Char :=
  let isOuter := fun c : Char => c.toNat ≤ 0x20
  ((s.dropWhile isOuter).reverse.dropWhile isOuter).reverse

def startsQuery (c : Char) : Bool :=
  c == '?' || c == '#'

/-- A character that ends the authority and starts the path. -/
def isSlash (kind : SchemeKind) (c : Char) : Bool :=
  c == '/' || (kind.isSpecial && c == '\\')

/-! ### Query and fragment -/

/-- The query and the fragment of what follows the path. -/
def tailOf (kind : SchemeKind) (s : List Char) : Option (List Char) × Option (List Char) :=
  let escaped := if kind.isSpecial then Percent.specialQuery else Percent.query
  let query := s.takeWhile (· != '#')
  let fragment := (s.dropWhile (· != '#')).drop 1
  (if s.head? = some '?' then some (Percent.encode escaped (query.drop 1)) else none,
    if s.contains '#' then some (Percent.encode Percent.fragment fragment) else none)

/-- The URL of a path text and what follows it. -/
def assemble (scheme : List Char) (authority : Option Authority) (path : Path)
    (rest : List Char) : Url :=
  let tail := tailOf (Scheme.kind scheme) rest
  { scheme, authority, path, query := tail.1, fragment := tail.2 }

/-! ### Authority -/

/-- The text before the last of a character, if there is one, and the text after it. -/
def cutLast (mark : Char) (s : List Char) : Option (List Char) × List Char :=
  if s.contains mark then
    let after := (s.reverse.takeWhile (· != mark)).reverse
    (some (s.take (s.length - after.length - 1)), after)
  else (none, s)

/-- The credentials of a text. A colon with nothing after it gives no password. -/
def credentials (s : List Char) : List Char × Option (List Char) :=
  let encode := Percent.encode Percent.userinfo
  let password := (s.dropWhile (· != ':')).drop 1
  (encode (s.takeWhile (· != ':')), if password.isEmpty then none else some (encode password))

/-- The host in front of a text: it ends at the first colon outside brackets. -/
def hostText (bracketed : Bool) : List Char → List Char
  | [] => []
  | c :: rest =>
    if c == ':' && !bracketed then []
    else c :: hostText (if c == '[' then true else if c == ']' then false else bracketed) rest

/-- The port in front of a text, if it has digits, and what follows it. -/
def portOf (s : List Char) : Except Fault (Option Nat × List Char) :=
  let digits := s.takeWhile Char.isDigit
  let rest := s.dropWhile Char.isDigit
  let port := Digits.read? 10 digits
  if port.any (· ≥ 65536) then .error .invalidPort
  else
    match rest with
    | [] => .ok (port, [])
    | c :: _ =>
      if c == '/' || c == '\\' || startsQuery c then .ok (port, rest) else .error .invalidPort

/-- The host and the port of a text, and what follows them. -/
def hostAndPort (scheme s : List Char) :
    Except Fault (Option Host × Option Nat × List Char) := do
  let kind := Scheme.kind scheme
  let name := hostText false s
  let rest := s.drop name.length
  if name.isEmpty ∧ (kind.isSpecial ∨ rest ≠ []) then
    throw .emptyHost
  let host ← if kind.isSpecial then Host.ofDomain name else Host.ofPlain name
  let host := if name.isEmpty then none else some host
  match rest with
  | ':' :: afterColon =>
    let (port, rest) ← portOf afterColon
    return (host, port.filter (some · ≠ Scheme.defaultPort? scheme), rest)
  | _ => return (host, none, rest)

/-- The authority in front of a text, and what follows it. -/
def authorityOf (scheme s : List Char) : Except Fault (Authority × List Char) := do
  let ends := fun c : Char => isSlash (Scheme.kind scheme) c || startsQuery c
  let own := s.takeWhile (!ends ·)
  let rest := s.dropWhile (!ends ·)
  let (userinfo, place) := cutLast '@' own
  if userinfo = some [] ∧ place = [] ∧ rest ≠ [] then
    throw .emptyHost
  let (username, password) := credentials (userinfo.getD [])
  let (host, port, after) ← hostAndPort scheme place
  if host = none ∧ (username ≠ [] ∨ password ≠ none) then
    throw .emptyHost
  return ({ username, password, host, port }, after ++ rest)

/-! ### Path -/

/-- The path in front of a text and what follows it, after an authority. In a special
scheme the path has at least one segment. -/
def pathOf (kind : SchemeKind) (s : List Char) : Path × List Char :=
  let own := s.takeWhile (!startsQuery ·)
  let rest := s.dropWhile (!startsQuery ·)
  match own with
  | [] => (.rooted (if kind.isSpecial then [[]] else []), rest)
  | c :: afterSlash =>
    (.rooted (Path.ofText kind (if isSlash kind c then afterSlash else own)), rest)

/-- The URL of a scheme that is not for files and of two slashes before the text. -/
def withAuthority (scheme s : List Char) : Except Fault Url := do
  let (authority, rest) ← authorityOf scheme s
  let (path, rest) := pathOf (Scheme.kind scheme) rest
  return assemble scheme (some authority) path rest

/-- The URL of a scheme that is not special and of a text without two slashes. -/
def withoutAuthority (scheme s : List Char) : Url :=
  let own := s.takeWhile (!startsQuery ·)
  let rest := s.dropWhile (!startsQuery ·)
  match own with
  | '/' :: afterSlash =>
    assemble scheme none (.rooted (Path.ofText .other afterSlash)) rest
  | _ => assemble scheme none (.plain (Percent.encode Percent.controls own)) rest

/-! ### Files -/

/-- A text whose first characters that count are a drive, with an ignored character right
after them. -/
def isCutDrive (s : List Char) : Bool :=
  let fromLetter := s.dropWhile isIgnored
  let fromMark := (fromLetter.drop 1).dropWhile isIgnored
  Path.isPlainDrive (fromLetter.take 1 ++ fromMark.take 1)
    && (fromMark.drop 1).head?.any isIgnored

/-- A part of a file path between two slashes, whose tabs and line ends are not yet
removed, as one or two segments. The first part of a path is split after a drive if an
ignored character stands there and more follows. -/
def filePart (isFirst : Bool) (part : List Char) : List (List Char) :=
  let whole := Percent.encode Percent.path (visible part)
  let rest := whole.drop 2
  if isFirst && isCutDrive part && !rest.isEmpty then [whole.take 2, rest] else [whole]

/-- The segments, last one first, after a part of a file path that a slash follows. -/
def enterFile (walked : List (List Char)) (part : List Char) : List (List Char) :=
  match filePart walked.isEmpty part with
  | [segment] =>
    if walked.isEmpty && Path.isDrive segment then [Path.plainDrive segment]
    else Path.enter walked segment
  | segments => segments.reverse ++ walked

/-- The segments, last one first, after the part that ends a file path. -/
def arriveFile (walked : List (List Char)) (part : List Char) : List (List Char) :=
  match filePart walked.isEmpty part with
  | [segment] =>
    if walked.isEmpty && Path.isDrive segment then [Path.plainDrive segment]
    else Path.arrive walked segment
  | segments => segments.reverse ++ walked

/-- The part is the drive of its path. -/
def namesDrive (walked : List (List Char)) (part : List Char) : Bool :=
  walked.isEmpty &&
    match filePart true part with
    | [segment] => Path.isDrive segment
    | _ => false

/-- The segments, last one first, of the parts of a file path, and whether one of them was
read as the drive of the path. -/
def walkFile (walked : List (List Char)) : List (List Char) → List (List Char) × Bool
  | [] => (walked, false)
  | [part] => (arriveFile walked part, namesDrive walked part)
  | part :: rest =>
    let result := walkFile (enterFile walked part) rest
    (result.1, namesDrive walked part || result.2)

/-- The segments without the empty ones in front, or a single empty one. -/
def withoutLeadingEmpty (segments : List (List Char)) : List (List Char) :=
  match segments.dropWhile List.isEmpty with
  | [] => [[]]
  | segments => segments

/-- The path of a file text and what follows it, and whether the path names a drive. -/
def filePathOf (s : List Char) : Path × List Char × Bool :=
  let own := s.takeWhile (!startsQuery ·)
  let rest := s.dropWhile (!startsQuery ·)
  let (walked, hasDrive) := walkFile [] (Segments.split (isSlash .file) own)
  (.rooted (withoutLeadingEmpty walked.reverse), visible rest, hasDrive)

def assembleFile (host : Option Host) (s : List Char) : Url :=
  let (path, rest, hasDrive) := filePathOf s
  let host := if hasDrive then none else host
  assemble "file".toList (some { username := [], password := none, host, port := none }) path rest

/-- The text without its first slash, if the first character that counts is one. -/
def afterSlash? (s : List Char) : Option (List Char) :=
  match s.dropWhile isIgnored with
  | c :: rest => if isSlash .file c then some rest else none
  | [] => none

/-- The URL of a file and of two slashes before the text. A host `localhost` is none, and
a drive in the place of the host belongs to the path. -/
def withFileHost (s : List Char) : Except Fault Url := do
  let ends := fun c : Char => isSlash .file c || startsQuery c
  let name := visible (s.takeWhile (!ends ·))
  let rest := s.dropWhile (!ends ·)
  if Path.isDrive name then
    return assembleFile none s
  else if name.isEmpty then
    return assembleFile none rest
  else
    match ← Host.ofDomain name with
    | .name text =>
      if text = "localhost".toList then return assembleFile none rest
      else return assembleFile (some (.name text)) ((afterSlash? rest).getD rest)
    | host => return assembleFile (some host) ((afterSlash? rest).getD rest)

/-- The URL of a file. -/
def ofFile (s : List Char) : Except Fault Url :=
  match afterSlash? s with
  | none => .ok (assembleFile none s)
  | some rest =>
    match afterSlash? rest with
    | none => .ok (assembleFile none rest)
    | some rest => withFileHost rest

/-! ### Any URL -/

/-- The URL written by a text. -/
def parse (s : List Char) : Except Fault Url :=
  let s := trim s
  match Scheme.read? (visible s) with
  | none => .error .relative
  | some (scheme, rest) =>
    match Scheme.kind scheme with
    | .file => ofFile ((s.dropWhile (· != ':')).drop 1)
    | .special => withAuthority scheme (rest.dropWhile (isSlash .special))
    | .other =>
      match rest with
      | '/' :: '/' :: afterSlashes => withAuthority scheme afterSlashes
      | _ => .ok (withoutAuthority scheme rest)

end Provision.Url
