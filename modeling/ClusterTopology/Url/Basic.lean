import ClusterTopology.Component
import ClusterTopology.Url.Domain
import ClusterTopology.Url.Ip
/-!
URLs: what a text means as a URL, and the one text that is written for it.

A few schemes are special: they have a host, a default port and a path, and forgive wrong slashes.
Every other scheme has a host only behind two slashes, and takes it almost as it stands.  Credentials
before a host are recognised and left out.

`ofText` takes a text apart from left to right: the scheme, the host with its port, the path, the query and the
fragment.  What pads the text at both ends goes first, and so do the tabs and ends of lines in it.  Each part
is then brought to the form in which it is written: a host through `Url.Domain` or `Url.Ip`, a port that its
scheme has anyway is left out, segments that move about are resolved, and what may not stand in a part
as it is appears behind a percent sign.

The part with host and port is over at the first character for which `endsAuthority` holds, which depends on
the kind of the scheme.  Nothing behind that character has a say in host and port: `Proofs.Url.Below`.
-/

namespace ClusterTopology

/-! ### Parts -/

inductive Url.Host where
  | empty
  | domain (name : String)
  | ipv4 (address : Nat)
  | ipv6 (groups : List Nat)
deriving DecidableEq, Repr

inductive Url.Path where
  | segments (ss : List String)
  /-- A path that does not start with a slash, without anything that it could be relative to. -/
  | rootless (text : String)
deriving DecidableEq, Repr

structure Url where
  scheme : String
  host : Option Url.Host
  /-- A port that is not the default of the scheme. -/
  port : Option UInt16
  path : Url.Path
  query : Option String
  fragment : Option String
deriving DecidableEq, Repr

namespace Url

inductive Invalid where
  | relative
  | emptyHost
  | port
  | ipv4
  | ipv6
  | domain
  /-- A character that may not stand in the host of a scheme that is not special. -/
  | hostCharacter
deriving DecidableEq, Repr

def Invalid.message : Invalid → String
  | relative => "relative URL without a base"
  | emptyHost => "empty host"
  | port => "invalid port number"
  | ipv4 => "invalid IPv4 address"
  | ipv6 => "invalid IPv6 address"
  | domain => "invalid international domain name"
  | hostCharacter => "invalid domain character"

/-! ### Schemes -/

inductive Kind where
  | special
  | file
  | other
deriving DecidableEq, Repr

def defaultPort? (scheme : String) : Option UInt16 :=
  if scheme = "http" ∨ scheme = "ws" then some 80
  else if scheme = "https" ∨ scheme = "wss" then some 443
  else if scheme = "ftp" then some 21
  else none

def kindOf (scheme : String) : Kind :=
  if scheme = "file" then .file
  else if (defaultPort? scheme).isSome then .special
  else .other

/-- The scheme at the start of a text, in lower case, and what follows its colon. -/
def splitScheme? (cs : List Char) : Option (String × List Char) :=
  let isSchemeChar (c : Char) : Bool := c.isAlphanum || c == '+' || c == '-' || c == '.'
  let scheme := cs.takeWhile isSchemeChar
  match cs.drop scheme.length with
  | ':' :: rest =>
    if scheme.head?.any Char.isAlpha then some (String.ofList (scheme.map Char.toLower), rest) else none
  | _ => none

/-! ### Percent signs -/

def percentByte (b : UInt8) : List Char :=
  let digit (n : Nat) : Char := if n < 10 then n.digitChar else n.digitChar.toUpper
  ['%', digit (b.toNat / 16), digit (b.toNat % 16)]

/-- A text with the characters outside ASCII, the controls and the characters of a list escaped. -/
def percentEncode (escaped : List Char) (cs : List Char) : List Char :=
  cs.flatMap fun c =>
    if c.toNat < 0x20 || 0x7F ≤ c.toNat || escaped.contains c then
      (String.singleton c).toUTF8.toList.flatMap percentByte
    else [c]

/-- The bytes of a text in which a percent sign with two hexadecimal digits is one byte. -/
def percentBytes : List Char → List UInt8
  | '%' :: a :: b :: rest =>
    if Ipv6.isHexDigit a && Ipv6.isHexDigit b then
      UInt8.ofNat (16 * Text.Ranges.hexValue a + Text.Ranges.hexValue b) :: percentBytes rest
    else '%'.toNat.toUInt8 :: percentBytes (a :: b :: rest)
  | c :: rest => (String.singleton c).toUTF8.toList ++ percentBytes rest
  | [] => []

def percentDecode? (cs : List Char) : Option String :=
  String.fromUTF8? (percentBytes cs).toByteArray

/-! ### Hosts -/

def bracketed (cs : List Char) : Except Invalid Host :=
  if cs.getLast? = some ']' then
    match Ipv6.ofChars? cs.dropLast with
    | some gs => .ok (.ipv6 gs)
    | none => .error .ipv6
  else .error .ipv6

/-- The host that an ASCII name stands for, if there is one: an address when it ends in a number. -/
def namedHost : Option String → Except Invalid Host
  | none => .error .domain
  | some "" => .error .emptyHost
  | some name =>
    if Ipv4.endsInNumber name then
      match Ipv4.ofName? name with
      | some n => .ok (.ipv4 n)
      | none => .error .ipv4
    else .ok (.domain name)

def specialHost : List Char → Except Invalid Host
  | '[' :: cs => bracketed cs
  | cs => namedHost ((percentDecode? cs).bind Domain.ascii?)

def isForbiddenInHost (c : Char) : Bool :=
  "\x00\t\n\r #/:<>?@[\\]^|".toList.contains c

def otherHost : List Char → Except Invalid Host
  | [] => .ok .empty
  | '[' :: cs => bracketed cs
  | cs =>
    if cs.any isForbiddenInHost then .error .hostCharacter
    else .ok (.domain (String.ofList (percentEncode [] cs)))

/-- Whether a character ends the part of a URL that names host and port. -/
def endsAuthority (kind : Kind) (c : Char) : Bool :=
  c == '/' || c == '?' || c == '#' || (kind != .other && c == '\\')

/-- The part of a text up to a colon outside brackets or the end of host and port. -/
def hostPart (kind : Kind) (inBrackets : Bool) : List Char → List Char
  | [] => []
  | c :: cs =>
    if (c == ':' && !inBrackets) || endsAuthority kind c then []
    else c :: hostPart kind (if c == '[' then true else if c == ']' then false else inBrackets) cs

def skipCredentials (kind : Kind) (cs : List Char) : Except Invalid (Bool × List Char) :=
  let area := cs.takeWhile (!endsAuthority kind ·)
  match HostPort.splitLast? '@' area with
  | none => .ok (false, cs)
  | some (credentials, after) =>
    let rest := after ++ cs.drop area.length
    if credentials = [] ∧ after = [] ∧ rest ≠ [] then .error .emptyHost
    else .ok (decide (credentials ≠ [] ∧ credentials ≠ [':']), rest)

def portPart (cs : List Char) : Except Invalid (Option UInt16 × List Char) :=
  match cs with
  | ':' :: cs =>
    let digits := cs.takeWhile Char.isDigit
    let rest := cs.drop digits.length
    let value := Text.digitsValue digits
    let ends := match rest with
      | [] => true
      | c :: _ => c == '/' || c == '\\' || c == '?' || c == '#'
    if 65535 < value ∨ !ends then .error .port
    else .ok (if digits = [] then none else some (UInt16.ofNat value), rest)
  | cs => .ok (none, cs)

/-- The host and the port at the start of a text, and what follows. -/
def authority (kind : Kind) (cs : List Char) :
    Except Invalid (Host × Option UInt16 × List Char) := do
  let (hasCredentials, cs) ← skipCredentials kind cs
  let name := hostPart kind false cs
  let rest := cs.drop name.length
  if name = [] ∧ (kind ≠ .other ∨ hasCredentials ∨ rest.head? = some ':') then .error .emptyHost
  else
    let host ← if kind = .other then otherHost name else specialHost name
    let (port, rest) ← portPart rest
    return (host, port, rest)

def fileHost (cs : List Char) : Except Invalid (Host × List Char) :=
  let name := cs.takeWhile (!endsAuthority .file ·)
  let isDrive := match name with
    | [a, b] => a.isAlpha && (b == ':' || b == '|')
    | _ => false
  if name = [] || isDrive then .ok (.empty, cs)
  else
    match specialHost name with
    | .error e => .error e
    | .ok (.domain "localhost") => .ok (.empty, cs.drop name.length)
    | .ok host => .ok (host, cs.drop name.length)

/-! ### Paths -/

def isDot (s : List Char) : Bool :=
  [".", "%2e"].contains (String.ofList (s.map Char.toLower))

def isDotDot (s : List Char) : Bool :=
  ["..", ".%2e", "%2e.", "%2e%2e"].contains (String.ofList (s.map Char.toLower))

/-- Segments with those that move about resolved.  `above` has the segments that stay, the last
first. -/
def resolve (above : List (List Char)) : List (List Char) → List (List Char)
  | [] => above.reverse
  | [s] =>
    if isDotDot s then ([] :: above.drop 1).reverse
    else if isDot s then ([] :: above).reverse
    else (s :: above).reverse
  | s :: t :: ss =>
    if isDotDot s then resolve (above.drop 1) (t :: ss)
    else if isDot s then resolve above (t :: ss)
    else resolve (s :: above) (t :: ss)

def escapedInPath : List Char := " \"<>`#?\x7b\x7d".toList

def segments (kind : Kind) (cs : List Char) : Path :=
  let cs := if kind = .other then cs else cs.map fun c => if c == '\\' then '/' else c
  let ss := (cs.splitOn '/').map (percentEncode escapedInPath)
  .segments ((resolve [] ss).map String.ofList)

/-- What a text up to its query or fragment has, and those two. -/
def splitTail (kind : Kind) (cs : List Char) : List Char × Option String × Option String :=
  let path := cs.takeWhile fun c => c != '?' && c != '#'
  let rest := cs.drop path.length
  let query := (rest.drop 1).takeWhile (· != '#')
  let escaped := if kind = .other then " \"#<>" else " \"#<>'"
  match rest with
  | '?' :: _ =>
    let fragment := match rest.drop (query.length + 1) with
      | _ :: f => some (String.ofList (percentEncode " \"<>`".toList f))
      | [] => none
    (path, some (String.ofList (percentEncode escaped.toList query)), fragment)
  | _ :: f => (path, none, some (String.ofList (percentEncode " \"<>`".toList f)))
  | [] => (path, none, none)

def pathAfterHost (kind : Kind) (path : List Char) : Path :=
  match path with
  | [] => if kind = .other then .segments [] else .segments [""]
  | c :: cs =>
    if c == '/' || (kind != .other && c == '\\') then segments kind cs else segments kind (c :: cs)

/-! ### Whole URLs -/

/-- The URL of a scheme and the rest of a text, whose host is known. -/
def assemble (scheme : String) (host : Option Host) (port : Option UInt16) (path : List Char → Path)
    (rest : List Char) : Url :=
  let (p, query, fragment) := splitTail (kindOf scheme) rest
  ⟨scheme, host, port.filter fun p => some p ≠ defaultPort? scheme, path p, query, fragment⟩

def ofText (s : String) : Except Invalid Url := do
  let isPadding (c : Char) : Bool := c.toNat ≤ 0x20
  let cs := ((s.toList.dropWhile isPadding).reverse.dropWhile isPadding).reverse.filter fun c =>
    !(c == '\t' || c == '\n' || c == '\r')
  match splitScheme? cs with
  | none => .error .relative
  | some (scheme, rest) =>
    let kind := kindOf scheme
    let isSlash (c : Char) : Bool := c == '/' || c == '\\'
    match kind, rest with
    | .special, rest => do
      let (host, port, rest) ← authority .special (rest.dropWhile isSlash)
      return assemble scheme (some host) port (pathAfterHost kind) rest
    | .other, '/' :: '/' :: rest => do
      let (host, port, rest) ← authority .other rest
      return assemble scheme (some host) port (pathAfterHost kind) rest
    | .other, '/' :: rest => return assemble scheme none none (segments kind) rest
    | .other, rest =>
      return assemble scheme none none (fun p => .rootless (String.ofList (percentEncode [] p))) rest
    | .file, a :: b :: rest =>
      if isSlash a && isSlash b then do
        let (host, rest) ← fileHost rest
        return assemble scheme (some host) none (pathAfterHost kind) rest
      else return assemble scheme (some .empty) none (pathAfterHost kind) (a :: b :: rest)
    | .file, rest => return assemble scheme (some .empty) none (pathAfterHost kind) rest

/-! ### Writing -/

def Host.text : Host → String
  | .empty => ""
  | .domain name => name
  | .ipv4 n => Ipv4.text n
  | .ipv6 gs => Ipv6.text gs

def Host.urlText : Host → String
  | .ipv6 gs => "[" ++ Ipv6.text gs ++ "]"
  | h => h.text

def Path.text : Path → String
  | .segments ss => String.join (ss.map ("/" ++ ·))
  | .rootless s => s

def text (u : Url) : String :=
  u.scheme ++ ":"
    ++ (match u.host with
        | some h => "//" ++ h.urlText
        | none => "")
    ++ (match u.port with
        | some p => ":" ++ Text.natText p.toNat
        | none => "")
    ++ u.path.text
    ++ (match u.query with
        | some q => "?" ++ q
        | none => "")
    ++ (match u.fragment with
        | some f => "#" ++ f
        | none => "")

/-- The host of a URL and its port, named or the default of the scheme. -/
def hostPort? (s : String) : Option HostPort :=
  match ofText s with
  | .error _ => none
  | .ok u =>
    match u.host, u.port <|> defaultPort? u.scheme with
    | some .empty, _ | none, _ | _, none => none
    | some h, some p => some ⟨h.text, p⟩

end Url

end ClusterTopology
