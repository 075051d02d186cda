/-!
# Schemes

A scheme is a letter followed by letters, digits, `+`, `-` and `.`; it is kept in lower
case. Six schemes are special: their hosts are domain names, and a backslash in them
counts as a slash.
-/

namespace Provision.Url

/-- What the rules of a URL depend on. -/
inductive SchemeKind where
  | file
  | special
  | other
deriving DecidableEq, Repr

/-- The scheme treats backslashes as slashes and hosts as domain names. -/
def SchemeKind.isSpecial (kind : SchemeKind) : Bool :=
  kind != .other

namespace Scheme

def kind (scheme : List Char) : SchemeKind :=
  if scheme = "file".toList then .file
  else if ["http", "https", "ws", "wss", "ftp"].any (·.toList == scheme) then .special
  else .other

/-- The port that a scheme has when none is given. -/
def defaultPort? (scheme : List Char) : Option Nat :=
  if scheme = "http".toList ∨ scheme = "ws".toList then some 80
  else if scheme = "https".toList ∨ scheme = "wss".toList then some 443
  else if scheme = "ftp".toList then some 21
  else none

def isPart (c : Char) : Bool :=
  c.isAlphanum || c == '+' || c == '-' || c == '.'

/-- The scheme in front of a text, and what follows its colon. -/
def read? (s : List Char) : Option (List Char × List Char) :=
  match s with
  | [] => none
  | c :: _ =>
    if c.isAlpha then
      match s.dropWhile isPart with
      | ':' :: rest => some ((s.takeWhile isPart).map Char.toLower, rest)
      | _ => none
    else none

end Scheme

end Provision.Url
