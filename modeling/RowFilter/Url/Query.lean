import RowFilter.Url.Domain

/-! The query of an absolute URL, which is refused if it has no scheme or a malformed host or port.
-/

namespace RowFilter.Url

inductive SchemeKind
  | file | web | other
deriving DecidableEq, Repr

def schemeKind (scheme : List Char) : SchemeKind :=
  let s := String.ofList (scheme.map Char.toLower)
  if s == "file" then .file
  else if ["http", "https", "ws", "wss", "ftp"].contains s then .web
  else .other

def clean (cs : List Char) : List Char :=
  let isEdge (c : Char) : Bool := c ≤ ' '
  (((cs.dropWhile isEdge).reverse.dropWhile isEdge).reverse).filter fun c =>
    c != '\t' && c != '\n' && c != '\r'

def splitScheme? : List Char → Option (List Char × List Char)
  | [] => none
  | c :: cs =>
    let isSchemeChar (d : Char) : Bool := d.isAlphanum || d == '+' || d == '-' || d == '.'
    match cs.dropWhile isSchemeChar with
    | ':' :: rest => if c.isAlpha then some (c :: cs.takeWhile isSchemeChar, rest) else none
    | _ => none

def isSlash (kind : SchemeKind) (c : Char) : Bool :=
  c == '/' || (c == '\\' && kind != .other)

def endsAuthority (kind : SchemeKind) (c : Char) : Bool :=
  isSlash kind c || c == '?' || c == '#'

def splitUser (cs : List Char) : Option (List Char) × List Char :=
  let (tail, front) := cs.reverse.span (· != '@')
  match front with
  | [] => (none, cs)
  | _ :: user => (some user.reverse, tail.reverse)

def splitHost (inside : Bool) : List Char → List Char × List Char
  | [] => ([], [])
  | c :: cs =>
    if c = ':' ∧ !inside then ([], c :: cs)
    else
      let (host, rest) := splitHost (c == '[' || (inside && c != ']')) cs
      (c :: host, rest)

def bracketed (host : List Char) : Except UrlError Unit :=
  match host.getLast? with
  | some ']' => if isIpv6 (host.drop 1).dropLast then .ok () else .error .invalidIpv6
  | _ => .error .invalidIpv6

def opaqueHost (host : List Char) : Except UrlError Unit :=
  if host.any fun c => c == '\x00' || "\t\n\r #/:<>?@[\\]^|".toList.contains c then
    .error .invalidHostCharacter
  else .ok ()

def checkHost (kind : SchemeKind) (host : List Char) : Except UrlError Unit :=
  match kind, host with
  | _, '[' :: _ => bracketed host
  | .other, _ => opaqueHost host
  | _, _ => domain host

def checkPort : List Char → Except UrlError Unit
  | ':' :: cs =>
    let digits := cs.takeWhile Char.isDigit
    match cs.dropWhile Char.isDigit with
    | [] => if Number.ofDigits digits < 65536 then .ok () else .error .invalidPort
    | '\\' :: _ => if Number.ofDigits digits < 65536 then .ok () else .error .invalidPort
    | _ => .error .invalidPort
  | _ => .ok ()

def checkAuthority (kind : SchemeKind) (authority rest : List Char) : Except UrlError Unit :=
  let (user?, hostPort) := splitUser authority
  let (host, port) := splitHost false hostPort
  if user? = some [] ∧ hostPort = [] ∧ rest ≠ [] then .error .emptyHost
  else if host.isEmpty && (kind == .web || !port.isEmpty) then .error .emptyHost
  else
    match checkHost kind host with
    | .error e => .error e
    | .ok () =>
      match checkPort port with
      | .error e => .error e
      | .ok () =>
        if host.isEmpty && user?.any fun u => u != [] && u != [':'] then .error .emptyHost
        else .ok ()

def isDriveLetter : List Char → Bool
  | [c, d] => c.isAlpha && (d == ':' || d == '|')
  | _ => false

def checkFileHost (host : List Char) : Except UrlError Unit :=
  if host.isEmpty || isDriveLetter host then .ok () else checkHost .file host

def checkRest (kind : SchemeKind) (cs : List Char) : Except UrlError Unit :=
  let slashes := cs.takeWhile (isSlash kind)
  let behind := match kind with
    | .web => cs.dropWhile (isSlash kind)
    | _ => cs.drop 2
  let authority := behind.takeWhile (!endsAuthority kind ·)
  let rest := behind.dropWhile (!endsAuthority kind ·)
  match kind with
  | .web => checkAuthority kind authority rest
  | .file => if 2 ≤ slashes.length then checkFileHost authority else .ok ()
  | .other => if 2 ≤ slashes.length then checkAuthority kind authority rest else .ok ()

def query (url : List Char) : Except UrlError (List Char) :=
  match splitScheme? (clean url) with
  | none => .error .noScheme
  | some (scheme, rest) =>
    match checkRest (schemeKind scheme) rest with
    | .error e => .error e
    | .ok () => .ok (((rest.takeWhile (· != '#')).dropWhile (· != '?')).drop 1)

end RowFilter.Url
