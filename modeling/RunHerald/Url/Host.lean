import RunHerald.Text.Numeral
import RunHerald.Text.Utf8
import RunHerald.Json.Token
import RunHerald.Url.Domain.Basic

/-!
# Hosts of addresses

A host is a domain, an IPv4 address or, in brackets, an IPv6 address. Percent escapes in a domain
are decoded, then it is brought to its usual form in ASCII; a text that is no domain is refused. A
domain whose last label is a number must be an IPv4 address.

Schemes without a fixed set of rules take any host without the separators of addresses as it is.
-/

set_option autoImplicit false

namespace RunHerald

/-- Why a text is no address. -/
inductive UrlError where
  | emptyHost
  | invalidDomain
  | invalidPort
  | invalidIpv4
  | invalidIpv6
  | invalidDomainCharacter
  | relativeWithoutBase
  deriving DecidableEq, Repr

/-- The wording of an error. -/
def UrlError.message : UrlError → String
  | .emptyHost => "empty host"
  | .invalidDomain => "invalid international domain name"
  | .invalidPort => "invalid port number"
  | .invalidIpv4 => "invalid IPv4 address"
  | .invalidIpv6 => "invalid IPv6 address"
  | .invalidDomainCharacter => "invalid domain character"
  | .relativeWithoutBase => "relative URL without a base"

/-- Where a request goes. -/
inductive Host where
  | domain (name : String)
  | ipv4 (n : Nat)
  | ipv6 (pieces : List Nat)
  deriving DecidableEq, Repr

namespace Host

/-- The parts of a text between its dots. -/
def cutAtDots (cs : List Char) : List (List Char) := cs.splitOn '.'

/-- The value of digits in a base of at most sixteen. -/
def inBase (base : Nat) (cs : List Char) : Option Nat :=
  cs.foldl (fun n c => do
    let d ← Token.hexValue? c
    if d < base then return (← n) * base + d else none) (some 0)

/-- A part of an IPv4 address: decimal, octal after `0`, hexadecimal after `0x`. -/
def ipv4Part : List Char → Option Nat
  | [] => none
  | '0' :: 'x' :: cs => inBase 16 cs
  | '0' :: 'X' :: cs => inBase 16 cs
  | '0' :: c :: cs => inBase 8 (c :: cs)
  | cs => inBase 10 cs

/-- Whether the last label is a number, an empty label at the end left aside. -/
def endsInNumber (cs : List Char) : Bool :=
  let labels := (cutAtDots cs).reverse
  let last :=
    match labels with
    | [] :: l :: _ => some l
    | [] :: _ => none
    | l :: _ => some l
    | [] => none
  match last with
  | none => false
  | some l => (l ≠ [] && l.all Char.isDigit) || (ipv4Part l).isSome

/-- The address of up to four parts; the last part takes all the bytes that are left. -/
def ipv4OfParts (parts : List Nat) : Option Nat :=
  match parts.reverse with
  | [] => none
  | last :: rest =>
    if 4 < parts.length ∨ Nat.pow 256 (5 - parts.length) ≤ last ∨ rest.any (255 < ·) then none
    else some (rest.reverse.zipIdx.foldl (fun n p => n + p.1 * Nat.pow 256 (3 - p.2)) last)

/-- Reads an IPv4 address. -/
def readIpv4 (cs : List Char) : Except UrlError Host :=
  let parts := cutAtDots cs
  let parts := if parts.getLast? = some [] then parts.dropLast else parts
  match parts.mapM ipv4Part with
  | none => .error .invalidIpv4
  | some ns =>
    match ipv4OfParts ns with
    | none => .error .invalidIpv4
    | some n => .ok (.ipv4 n)

/-- The four bytes at the end of an IPv6 address, as two pieces. -/
def dottedPieces (cs : List Char) : Option (List Nat) := do
  let bytes ← (cutAtDots cs).mapM fun part =>
    if part = [] ∨ (part.head? = some '0' ∧ part ≠ ['0']) ∨ 3 < part.length then none
    else do
      let n ← inBase 10 part
      if n ≤ 255 then some n else none
  match bytes with
  | [a, b, c, d] => some [a * 256 + b, c * 256 + d]
  | _ => none

/-- Puts zeros where the double colon was, so that there are eight pieces. One zero stands there
already. -/
def fillGap (pieces : List Nat) : Option Nat → Option (List Nat)
  | none => if pieces.length = 8 then some pieces else none
  | some gap =>
    if pieces.length ≤ 8 then
      some (pieces.take gap ++ List.replicate (8 - pieces.length) 0 ++ pieces.drop gap)
    else none

/-- Reads the pieces of an IPv6 address after some pieces and perhaps a double colon. -/
def ipv6Pieces (pieces : List Nat) (gap : Option Nat) (cs : List Char) : Option (List Nat) :=
  let digits := (cs.take 4).takeWhile fun c => (Token.hexValue? c).isSome
  let piece := (inBase 16 digits).getD 0
  let rest := cs.drop (digits.length + 1)
  if _h : cs = [] then fillGap pieces gap
  else if pieces.length = 8 then none
  else if cs.head? = some ':' then
    if gap.isSome then none else ipv6Pieces (pieces ++ [0]) (some (pieces.length + 1)) rest
  else
    match cs[digits.length]? with
    | none => fillGap (pieces ++ [piece]) gap
    | some c =>
      if c = '.' then
        if digits = [] ∨ 6 < pieces.length then none
        else do
          let tail ← dottedPieces cs
          fillGap (pieces ++ tail) gap
      else if c = ':' ∧ rest ≠ [] then ipv6Pieces (pieces ++ [piece]) gap rest
      else none
termination_by cs.length
decreasing_by
  all_goals
    have := List.length_pos_iff.2 _h
    simp only [List.length_drop]
    omega

/-- Reads an IPv6 address. -/
def readIpv6 (cs : List Char) : Except UrlError Host :=
  let pieces :=
    match cs with
    | ':' :: ':' :: rest => ipv6Pieces [0] (some 1) rest
    | ':' :: _ => none
    | [] => none
    | [_] => none
    | cs => ipv6Pieces [] none cs
  match pieces with
  | some ps => .ok (.ipv6 ps)
  | none => .error .invalidIpv6

/-- The bytes of a text whose percent escapes are decoded. -/
def percentDecode : List Char → List UInt8
  | [] => []
  | '%' :: a :: b :: rest =>
    match Token.hexValue? a, Token.hexValue? b with
    | some x, some y => UInt8.ofNat (x * 16 + y) :: percentDecode rest
    | _, _ => 0x25 :: percentDecode (a :: b :: rest)
  | c :: rest => utf8Bytes (String.singleton c) ++ percentDecode rest

/-- A domain in its usual form. -/
def toDomain (cs : List Char) : Except UrlError (List Char) :=
  match Domain.spelled? (decodeLossy (percentDecode cs)).toList with
  | some name => .ok name
  | none => .error .invalidDomain

/-- Reads what brackets hold. -/
def readBrackets (cs : List Char) : Except UrlError Host :=
  if cs.getLast? = some ']' then readIpv6 (cs.drop 1).dropLast else .error .invalidIpv6

/-- Reads the host of an address whose scheme has fixed rules. -/
def read (cs : List Char) : Except UrlError Host :=
  if cs.head? = some '[' then readBrackets cs
  else do
    let name ← toDomain cs
    if name = [] then throw .emptyHost
    if endsInNumber name then readIpv4 name else return .domain (String.ofList name)

/-- Reads the host of an address with any other scheme. -/
def readOpaque (cs : List Char) : Except UrlError Host :=
  if cs.head? = some '[' then readBrackets cs
  else if cs.any (fun c => c ∈ ['\x00', '\t', '\n', '\r', ' ', '#', '/', ':', '<', '>', '?', '@',
      '[', '\\', ']', '^', '|']) then
    .error .invalidDomainCharacter
  else .ok (.domain (String.ofList cs))

/-- The first longest run of at least two zeros, as its place and length. -/
def zeroRun (pieces : List Nat) : Nat × Nat :=
  (List.range pieces.length).foldl (fun best i =>
    let n := ((pieces.drop i).takeWhile (· = 0)).length
    if 2 ≤ n ∧ best.2 < n then (i, n) else best) (0, 0)

/-- Pieces in hexadecimal, with colons between. -/
def piecesText (pieces : List Nat) : String :=
  ":".intercalate (pieces.map fun p => String.ofList (Nat.toDigits 16 p))

/-- A host as it is written. -/
def text : Host → String
  | .domain name => name
  | .ipv4 n =>
    ".".intercalate ([n / 0x1000000, n / 0x10000 % 256, n / 256 % 256, n % 256].map toString)
  | .ipv6 pieces =>
    let (start, n) := zeroRun pieces
    let body :=
      if n = 0 then piecesText pieces
      else piecesText (pieces.take start) ++ "::" ++ piecesText (pieces.drop (start + n))
    "[" ++ body ++ "]"

end Host

end RunHerald
