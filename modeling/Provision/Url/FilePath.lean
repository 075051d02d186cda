import Provision.Url.Parser

/-!
# File URLs

The URL of an absolute path has a segment for each of its names, and gives the path back
from its segments. A path that ends in the name of a drive gets a slash at its end.
-/

namespace Provision.Url

/-- The names in an absolute path, as segments of a URL. -/
def fileSegments (names : List (List Char)) : List (List Char) :=
  if names.isEmpty then [[]] else names.map (Percent.encode Percent.segment)

/-- The URL of an absolute path. -/
def ofFilePath? (path : List Char) : Option Url :=
  match path with
  | '/' :: rest =>
    let names := (Segments.split (· == '/') rest).filter fun name =>
      !name.isEmpty && name != ['.']
    some
      { scheme := "file".toList
        authority := some { username := [], password := none, host := none, port := none }
        path := .rooted (fileSegments names)
        query := none
        fragment := none }
  | _ => none

/-- The text ends in the name of a drive and has more before it. -/
def endsInDrive (path : List Char) : Bool :=
  match path.reverse with
  | mark :: letter :: _ :: _ => letter.isAlpha && (mark == ':' || mark == '|')
  | _ => false

/-- The absolute path of a URL without a host. -/
def filePath? (url : Url) : Option (List Char) :=
  match url.host, url.path with
  | none, .rooted segments =>
    let path := Utf8.decodeLossy
      (segments.flatMap fun segment =>
        Utf8.encode ['/'] ++ Percent.decodeBytes Percent.pair? (Utf8.encode segment))
    some (if endsInDrive path then path ++ ['/'] else path)
  | _, _ => none

end Provision.Url
