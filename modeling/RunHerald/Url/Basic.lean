import RunHerald.Url.Host

/-!
# Addresses

`Url.parse` reads an absolute address by the rules that browsers share: controls and spaces at the
ends and tabs and line breaks anywhere do not count, a backslash is a slash where the scheme has
fixed rules, and dots in the path are resolved. A user and password may stand before the host.

Of an address whose scheme has no fixed rules only the part with the host is kept, since nothing can
be sent there.
-/

set_option autoImplicit false

namespace RunHerald

/-- A user before a host, and perhaps a password; both with their escapes. -/
structure UserInfo where
  name : String
  password : Option String
  deriving DecidableEq, Repr

/-- A user and password as they are written before a host. -/
def UserInfo.text (user : UserInfo) : String :=
  match user.password with
  | none => user.name ++ "@"
  | some password => user.name ++ ":" ++ password ++ "@"

/-- An address. -/
structure Url where
  scheme : String
  user : Option UserInfo
  host : Option Host
  port : Option Nat
  path : List String
  query : Option String
  fragment : Option String
  deriving DecidableEq, Repr

namespace Url

/-- A digit of a percent escape. -/
def escapeDigit (n : Nat) : Char := (Nat.digitChar n).toUpper

/-- A character by the escapes of its bytes. -/
def escape (c : Char) : List Char :=
  (utf8Bytes (String.singleton c)).flatMap fun b =>
    ['%', escapeDigit (b.toNat / 16), escapeDigit (b.toNat % 16)]

/-- A text in which some ASCII characters, and all others, are escaped. -/
def escaped (special : List Char) (cs : List Char) : String :=
  String.ofList (cs.flatMap fun c =>
    if c.toNat < 0x20 || 0x7F ≤ c.toNat || c ∈ special then escape c else [c])

/-- What is escaped in a fragment. -/
def fragmentSet : List Char := [' ', '"', '<', '>', '\u0060']

/-- What is escaped in a path. -/
def pathSet : List Char := fragmentSet ++ ['#', '?', '\x7b', '\x7d']

/-- What is escaped in a user and a password. -/
def userSet : List Char := pathSet ++ ['/', ':', ';', '=', '@', '[', '\\', ']', '^', '|']

/-- What is escaped in a query. -/
def querySet : List Char := [' ', '"', '#', '<', '>', '\'']

/-- The kinds of schemes. -/
inductive Rules where
  | web
  | file
  | none
  deriving DecidableEq

/-- The rules of a scheme. -/
def rulesOf (scheme : String) : Rules :=
  if scheme ∈ ["http", "https", "ws", "wss", "ftp"] then .web
  else if scheme = "file" then .file
  else .none

/-- The port of a scheme, which is not written. -/
def defaultPort (scheme : String) : Option Nat :=
  if scheme = "http" ∨ scheme = "ws" then some 80
  else if scheme = "https" ∨ scheme = "wss" then some 443
  else if scheme = "ftp" then some 21
  else none

/-- Drops controls and spaces from both ends, and tabs and line breaks everywhere. -/
def clean (s : String) : List Char :=
  let edge (c : Char) : Bool := c.toNat ≤ 0x20
  let inner := ((s.toList.dropWhile edge).reverse.dropWhile edge).reverse
  inner.filter fun c => c ≠ '\t' ∧ c ≠ '\n' ∧ c ≠ '\r'

/-- Whether a character may stand in a scheme after its first letter. -/
def isSchemeChar (c : Char) : Bool := c.isAlphanum || c = '+' || c = '-' || c = '.'

/-- The scheme at the front of a text, in small letters, and what follows its colon. -/
def cutScheme (cs : List Char) : Option (String × List Char) :=
  let (scheme, rest) := cs.span isSchemeChar
  match scheme, rest with
  | c :: _, ':' :: rest =>
    if c.isAlpha then some (String.ofList (scheme.map Char.toLower), rest) else none
  | _, _ => none

/-- Whether a character ends the part with the host. -/
def endsAuthority (web : Bool) (c : Char) : Bool :=
  c = '/' || c = '?' || c = '#' || (web && c = '\\')

/-- A user and a password with a colon between. A password of no characters is none, and there is no
user without a name or a password. -/
def userOf (cs : List Char) : Option UserInfo :=
  let (name, rest) := cs.span (· ≠ ':')
  let password := if rest.length ≤ 1 then none else some (escaped userSet (rest.drop 1))
  if name = [] ∧ password = none then none else some ⟨escaped userSet name, password⟩

/-- Reads a user and password, which end with the last at sign before the end of the part. -/
def readUser (web : Bool) (cs : List Char) : Except UrlError (Option UserInfo × List Char) :=
  let (authority, after) := cs.span fun c => !endsAuthority web c
  let tail := (authority.reverse.takeWhile (· ≠ '@')).reverse
  if tail.length = authority.length then .ok (none, cs)
  else
    let user := authority.take (authority.length - tail.length - 1)
    if user = [] ∧ tail = [] ∧ after ≠ [] then .error .emptyHost else .ok (userOf user, tail ++ after)

/-- Cuts off the host: up to a colon outside brackets or the end of the part. -/
def cutHost (web : Bool) (inside : Bool) : List Char → List Char × List Char
  | [] => ([], [])
  | c :: cs =>
    if (c = ':' && !inside) || endsAuthority web c then ([], c :: cs)
    else
      let inside := if c = '[' then true else if c = ']' then false else inside
      let (host, rest) := cutHost web inside cs
      (c :: host, rest)

/-- The port of some digits, if it has to be written. -/
def portToWrite (scheme : String) (digits : List Char) : Option Nat :=
  if digits = [] ∨ some (numeralValue digits) = defaultPort scheme then none
  else some (numeralValue digits)

/-- Reads a port after its colon. -/
def readPort (scheme : String) (cs : List Char) : Except UrlError (Option Nat × List Char) :=
  let (digits, rest) := cs.span Char.isDigit
  if 65535 < numeralValue digits then .error .invalidPort
  else
    match rest with
    | [] => .ok (portToWrite scheme digits, rest)
    | c :: _ =>
      if c ∈ ['/', '\\', '?', '#'] then .ok (portToWrite scheme digits, rest)
      else .error .invalidPort

/-- Whether a segment of a path stands for the place itself. -/
def isSingleDot (cs : List Char) : Bool := cs.map Char.toLower ∈ [".".toList, "%2e".toList]

/-- Whether a segment of a path stands for the place above. -/
def isDoubleDot (cs : List Char) : Bool :=
  cs.map Char.toLower ∈ ["..".toList, ".%2e".toList, "%2e.".toList, "%2e%2e".toList]

/-- Whether a text is the name of a drive. -/
def isDrive : List Char → Bool
  | [c, d] => c.isAlpha && (d = ':' || d = '|')
  | _ => false

/-- The place above some segments of a path, the latest first. There is none above a drive. -/
def retreat : List String → List String
  | [] => []
  | last :: done => if isDrive last.toList then last :: done else done

/-- Resolves the segments of a path, after some that are resolved, the latest first. -/
def resolve (done : List String) : List (List Char) → List String
  | [] => done.reverse
  | [last] =>
    if isDoubleDot last then ("" :: retreat done).reverse
    else if isSingleDot last then ("" :: done).reverse
    else (escaped pathSet last :: done).reverse
  | seg :: rest =>
    if isDoubleDot seg then resolve (retreat done) rest
    else if isSingleDot seg then resolve done rest
    else resolve (escaped pathSet seg :: done) rest

/-- Reads path, query and fragment. -/
def readTail (scheme : String) (user : Option UserInfo) (host : Option Host) (port : Option Nat)
    (cs : List Char) : Url :=
  let (path, rest) := cs.span fun c => c ≠ '?' && c ≠ '#'
  let path := path.map fun c => if c = '\\' then '/' else c
  let path := if path.head? = some '/' then path.drop 1 else path
  let (query, rest) :=
    match rest with
    | '?' :: rest =>
      let (q, rest) := rest.span (· ≠ '#')
      (some (escaped querySet q), rest)
    | rest => (none, rest)
  let fragment :=
    match rest with
    | '#' :: rest => some (escaped fragmentSet rest)
    | _ => none
  ⟨scheme, user, host, port, resolve [] (path.splitOn '/'), query, fragment⟩

/-- Reads the part with the host, and the rest. -/
def readAuthority (scheme : String) (web : Bool) (cs : List Char) : Except UrlError Url := do
  let (user, cs) ← readUser web cs
  let (name, cs) := cutHost web false cs
  if web && name.isEmpty then throw .emptyHost
  let host ← if web then Host.read name else Host.readOpaque name
  if name.isEmpty && cs.head? = some ':' then throw .emptyHost
  let (port, cs) ←
    match cs with
    | ':' :: cs => readPort scheme cs
    | cs => pure (none, cs)
  if name.isEmpty && user.isSome then throw .emptyHost
  if web then return readTail scheme user (some host) port cs
  return ⟨scheme, user, if name.isEmpty then none else some host, port, [], none, none⟩

/-- Reads the address of a file. Only its host can be wrong. -/
def readFile (cs : List Char) : Except UrlError Url := do
  let slash (c : Char) : Bool := c = '/' || c = '\\'
  match cs with
  | a :: b :: rest =>
    if slash a && slash b then
      let name := rest.takeWhile fun c => !endsAuthority true c
      if name.isEmpty || isDrive name then return ⟨"file", none, none, none, [], none, none⟩
      let host ← Host.read name
      return ⟨"file", none, some host, none, [], none, none⟩
    else return ⟨"file", none, none, none, [], none, none⟩
  | _ => return ⟨"file", none, none, none, [], none, none⟩

/-- Reads an absolute address. -/
def parse (s : String) : Except UrlError Url :=
  match cutScheme (clean s) with
  | none => .error .relativeWithoutBase
  | some (scheme, cs) =>
    match rulesOf scheme with
    | .web => readAuthority scheme true (cs.dropWhile fun c => c = '/' || c = '\\')
    | .file => readFile cs
    | .none =>
      match cs with
      | '/' :: '/' :: cs => readAuthority scheme false cs
      | _ => .ok ⟨scheme, none, none, none, [], none, none⟩

/-- An address as it is written. -/
def text (u : Url) : String :=
  let user := match u.user with
    | none => ""
    | some user => user.text
  let authority := match u.host with
    | none => ""
    | some h => "//" ++ user ++ h.text
  let port := match u.port with
    | none => ""
    | some n => ":" ++ toString n
  let path := String.join (u.path.map ("/" ++ ·))
  let query := match u.query with
    | none => ""
    | some q => "?" ++ q
  let fragment := match u.fragment with
    | none => ""
    | some f => "#" ++ f
  u.scheme ++ ":" ++ authority ++ port ++ path ++ query ++ fragment

end Url

end RunHerald
