import EventRelay.Text.Digits
import EventRelay.Url.Host
import EventRelay.Url.Path

/-!
# Reading URLs

A text is read as a URL from the left: the scheme, the user with a password, the host, the port, the
path and the query. Blanks and control characters around it do not count, and neither do tabs and
line breaks within it. With the schemes of the Internet a backslash counts as a slash, the path
begins with a slash, and there must be a host; only a file does not need one.

`Url.read?` gives the URL of a text, or the first reason why it is none.
-/

namespace EventRelay.Url

open Text

def internetSchemes : List String := ["http", "https", "ws", "wss", "ftp", "file"]

/-- The text without blanks and control characters around it, and without tabs and line breaks. -/
def stripped (cs : List Char) : List Char :=
  let front := cs.dropWhile (· ≤ ' ')
  let inner := (front.reverse.dropWhile (· ≤ ' ')).reverse
  inner.filter fun c => !(c = '\t' || c = '\n' || c = '\r')

def isSchemeChar (c : Char) : Bool := c.isAlphanum || c == '+' || c == '-' || c == '.'

def cutScheme? (cs : List Char) : Option (List Char × List Char) :=
  match cs.span isSchemeChar with
  | (c :: scheme, ':' :: rest) =>
    if c.isAlpha then some ((c :: scheme).map Char.toLower, rest) else none
  | _ => none

/-- A slash, or what counts as one. -/
def isSlash (internet : Bool) (c : Char) : Bool := c == '/' || (internet && c == '\\')

/-- The end of what stands before the query. -/
def endsPath (c : Char) : Bool := c == '?' || c == '#'

def query? : List Char → Option (List Char)
  | '?' :: rest => some (rest.takeWhile (· != '#'))
  | _ => none

/-! ## The authority -/

/-- A user and a password, and the text behind the last at sign of the authority. -/
structure UserInfo where
  username : List Char
  password : Option (List Char)
  rest : List Char

/-- The user in an authority. Nothing before the at sign is no user, but then a host has to
follow it. -/
def userInfo? (internet : Bool) (cs : List Char) : Except Fault UserInfo :=
  let (authority, behind) := cs.span fun c => !(isSlash internet c || endsPath c)
  if authority.contains '@' then
    let host := (authority.reverse.takeWhile (· != '@')).reverse
    let info := authority.take (authority.length - host.length - 1)
    if info.isEmpty && host.isEmpty && !behind.isEmpty then .error .emptyHost
    else
      let password := (info.dropWhile (· != ':')).drop 1
      .ok
        { username := info.takeWhile (· != ':')
          password := if password.isEmpty then none else some password
          rest := host ++ behind }
  else .ok ⟨[], none, cs⟩

/-- The text of a host and the text behind it. A colon within brackets belongs to the host. -/
def cutHost (internet : Bool) : Bool → List Char → List Char × List Char
  | _, [] => ([], [])
  | inBrackets, c :: rest =>
    if isSlash internet c || endsPath c || (c = ':' && !inBrackets) then ([], c :: rest)
    else
      let (host, behind) :=
        cutHost internet (if c = '[' then true else if c = ']' then false else inBrackets) rest
      (c :: host, behind)

def port? (cs : List Char) : Except Fault (Option Nat × List Char) :=
  let (digits, behind) := cs.span isDigit
  if digitsValue digits < 65536
      && (behind.head?.map fun c => isSlash true c || endsPath c).getD true then
    .ok (natural? digits, behind)
  else .error .invalidPort

def host? (internet : Bool) (host behind : List Char) : Except Fault (Option Host) := do
  let host ←
    if !internet then namedHost? host
    else if host.isEmpty then .error .emptyHost
    else (internetHost? host).map some
  if host.isNone && behind.head? = some ':' then .error .emptyHost else .ok host

/-- The path that a text begins with. With a scheme of the Internet, and where anything but the
query follows the authority, it is not empty. -/
def pathBehind (internet : Bool) (cs : List Char) : List Char :=
  let path := cs.takeWhile (!endsPath ·)
  if path.isEmpty && !internet then []
  else
    pathOf (isSlash internet)
      (if (path.head?.map (isSlash internet)).getD false then path.drop 1 else path)

/-- The URL with a scheme and an authority. A user needs a host. -/
def withAuthority? (internet : Bool) (scheme cs : List Char) : Except Fault Url := do
  let user ← userInfo? internet cs
  let (hostText, behind) := cutHost internet false user.rest
  let host ← host? internet hostText behind
  let (port, behind) ← match behind with
    | ':' :: rest => port? rest
    | _ => .ok (none, behind)
  if host.isNone && (!user.username.isEmpty || user.password.isSome) then .error .emptyHost
  else
    .ok
      { scheme
        username := user.username
        password := user.password
        host
        port
        path := pathBehind internet behind
        query := query? (behind.dropWhile (!endsPath ·)) }

/-! ## Files, and paths alone -/

/-- The host of a file behind two slashes. The letter of a drive is none, and `localhost` is none
either. -/
def fileHost? (cs : List Char) : Except Fault (Option Host × List Char) :=
  let (host, behind) := cs.span fun c => !(isSlash true c || endsPath c)
  if isDrive host then .ok (none, cs)
  else if host.isEmpty then .ok (none, behind)
  else
    (internetHost? host).map fun host =>
      (if host = .domain "localhost".toList then none else some host, behind)

def ofFile? (scheme cs : List Char) : Except Fault Url := do
  let (host, behind) ←
    if (cs.take 2).length = 2 && (cs.take 2).all (isSlash true) then fileHost? (cs.drop 2)
    else .ok (none, cs)
  .ok
    { scheme
      host
      path := pathBehind true behind
      query := query? (behind.dropWhile (!endsPath ·)) }

/-- The URL with a scheme and a path alone. A path that does not begin with a slash is kept as it is
written. -/
def ofPath (scheme cs : List Char) : Url where
  scheme
  path := if cs.head? = some '/' then pathBehind false cs else cs.takeWhile (!endsPath ·)
  query := query? (cs.dropWhile (!endsPath ·))

def read? (s : String) : Except Fault Url :=
  match cutScheme? (stripped s.toList) with
  | none => .error .withoutScheme
  | some (scheme, rest) =>
    if scheme = "file".toList then ofFile? scheme rest
    else if internetSchemes.contains (String.ofList scheme) then
      withAuthority? true scheme (rest.dropWhile (isSlash true))
    else if rest.take 2 = ['/', '/'] then withAuthority? false scheme (rest.drop 2)
    else .ok (ofPath scheme rest)

end EventRelay.Url
