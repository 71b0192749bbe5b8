import ClusterTopology.Component
import ClusterTopology.Tls.Material
import ClusterTopology.Url.Ip
import ClusterTopology.Conversation
import ClusterTopology.Tidb.Instance
/-!
The client of etcd, as far as the servers of the SQL layer need it.

Building it sends nothing.  It holds a connection until it is closed, and cannot be asked after that.

An endpoint is a URL with the scheme `http` or `https`, or gets one of them in front.  The URL is read by the
strict grammar of request targets: an authority that is not empty, then a path and a query without the
characters that have to be escaped there.  Secure connections need a name that a certificate can have.

`check` goes through the endpoints in their order and gives the first error, with the names of servers
looked at only for secure connections.  `instances` is one call, and reads from the answer those entries
whose key is a text.  The time of day is needed too, since heartbeats tell it and deadlines do not; it is a
function of the clock here.
-/

namespace ClusterTopology.Tidb

/-! ## Endpoints

An endpoint is checked for both kinds of connections before a client is built for it. -/

/-! ### The grammar of targets -/

inductive BadTarget where
  | empty
  | tooLong
  | noAuthority
  | badAuthority
  | badCharacter
deriving DecidableEq, Repr

def BadTarget.message : BadTarget → String
  | empty => "empty string"
  | tooLong => "uri too long"
  | noAuthority => "invalid format"
  | badAuthority => "invalid authority"
  | badCharacter => "invalid uri character"

structure Authority where
  colons : Nat
  opened : Bool
  closed : Bool
  percent : Bool
  /-- The last character was the mark behind the name of a user. -/
  endsWithAt : Bool
deriving DecidableEq, Repr

/-- Whether a character may stand in an authority, apart from those with a meaning of their own. -/
def isAuthorityChar (c : Char) : Bool :=
  c.isAlphanum || "!$&'()*+,-.;=_~".toList.contains c

/-- An authority after one more character.  What stands before the mark of a user or within brackets
does not count towards the colon before a port. -/
def Authority.add (a : Authority) (c : Char) : Except BadTarget Authority :=
  let a' := { a with endsWithAt := false }
  if c = ':' then
    if 8 ≤ a.colons then .error .badAuthority else .ok { a' with colons := a.colons + 1 }
  else if c = '[' then
    if a.percent || a.opened then .error .badAuthority else .ok { a' with opened := true }
  else if c = ']' then
    if !a.opened || a.closed then .error .badAuthority
    else .ok { a' with closed := true, colons := 0, percent := false }
  else if c = '@' then .ok { a with colons := 0, percent := false, endsWithAt := true }
  else if c = '%' then .ok { a' with percent := true }
  else if isAuthorityChar c then .ok a'
  else .error .badCharacter

def Authority.isComplete (a : Authority) : Bool :=
  a.opened == a.closed && a.colons ≤ 1 && !a.endsWithAt && !a.percent

/-- An authority has only characters that may stand there, in places where they may. -/
def checkAuthority (cs : List Char) : Except BadTarget Unit := do
  let a ← cs.foldlM Authority.add ⟨0, false, false, false, false⟩
  if a.isComplete then .ok () else .error .badAuthority

def isPathChar (c : Char) : Bool :=
  let n := c.toNat
  n == 0x21 || (0x24 ≤ n && n ≤ 0x3B) || n == 0x3D || (0x40 ≤ n && n ≤ 0x5F)
    || (0x61 ≤ n && n ≤ 0x7A) || n == 0x7C || 0x7E ≤ n || c == '"' || c == '\x7b' || c == '\x7d'

def isQueryChar (c : Char) : Bool :=
  let n := c.toNat
  n == 0x21 || (0x24 ≤ n && n ≤ 0x3B) || n == 0x3D || 0x3F ≤ n

/-- A path and a query have only characters that may stand there; a fragment may be anything. -/
def checkPath (cs : List Char) : Except BadTarget Unit :=
  let cs := cs.takeWhile (· != '#')
  let path := cs.takeWhile (· != '?')
  if path.all isPathChar && (cs.drop (path.length + 1)).all isQueryChar then .ok ()
  else .error .badCharacter

def readTarget (rest : List Char) : Except BadTarget (List Char) :=
  let authority := rest.takeWhile fun c => !(c == '/' || c == '?' || c == '#')
  if rest = [] then .error .empty
  else do
    checkAuthority authority
    if authority = [] then .error .noAuthority
    else do
      checkPath (rest.drop authority.length)
      return authority

/-- The longest target, in bytes. -/
def longestTarget : Nat := 65534

def targetAuthority (scheme rest : String) : Except BadTarget (List Char) :=
  if longestTarget < (scheme ++ rest).utf8ByteSize then .error .tooLong
  else readTarget rest.toList

/-! ### Names of servers -/

def hostOf (authority : List Char) : List Char :=
  let hostPort := match HostPort.splitLast? '@' authority with
    | some (_, h) => h
    | none => authority
  match hostPort with
  | '[' :: _ => hostPort.takeWhile (· != ']') ++ [']']
  | _ => hostPort.takeWhile (· != ':')

/-- Whether a text is a part of a domain name: letters, digits, underscores and hyphens, at most 63,
without a hyphen at either end. -/
def isNamePart (cs : List Char) : Bool :=
  cs ≠ [] && cs.length ≤ 63 && cs.all (fun c => c.isAlphanum || c == '_' || c == '-')
    && cs.head? != some '-' && cs.getLast? != some '-'

/-- Whether a text is a domain name: parts with dots between them and perhaps one at the end, the last
part not a number, at most 253 characters. -/
def isDomainName (cs : List Char) : Bool :=
  let parts := cs.splitOn '.'
  let parts := if parts.getLast? = some [] then parts.dropLast else parts
  cs.length ≤ 253 && parts ≠ [] && parts.all isNamePart
    && (parts.getLast?).any fun p => !p.all Char.isDigit

def isPlainIpv4 (cs : List Char) : Bool :=
  let parts := cs.splitOn '.'
  parts.length == 4 && parts.all fun p =>
    p.length ≤ 3 && (Text.readDigits? p).any (· < 256) && (p.length == 1 || p.head? != some '0')

def isServerName (host : List Char) : Bool :=
  isDomainName host || isPlainIpv4 host

/-! ### Plain and secure connections -/

def badTransport : TopologyError := .registry "etcd" "transport error"

def BadTarget.error (b : BadTarget) : TopologyError :=
  .config ("Invalid etcd endpoint: " ++ b.message)

def checkPlain (rest : List Char) : Except TopologyError Unit :=
  match targetAuthority "http://" (String.ofList rest) with
  | .error b => .error b.error
  | .ok _ => .ok ()

/-- A target with a secure connection: its host has a name for certificates, and the material, if
there is any, is usable. -/
def checkSecure (tls : Option Tls.Material) (rest : List Char) : Except TopologyError Unit :=
  match targetAuthority "https://" (String.ofList rest) with
  | .error b => .error b.error
  | .ok authority =>
    let usable := match tls with
      | none => true
      | some m => (m.etcdCredentials?).any (·.isUsable)
    if usable && isServerName (hostOf authority) then .ok () else .error badTransport

/-- An endpoint is one that a client can be built for. -/
def checkEndpoint (tls : Option Tls.Material) (url : String) : Except TopologyError Unit :=
  match "http://".toList.isPrefixOf? url.toList, "https://".toList.isPrefixOf? url.toList with
  | some rest, _ =>
    if tls.isSome then
      .error (.config "Invalid etcd client: TLS options are only supported with HTTPS URLs")
    else checkPlain rest
  | none, some rest => checkSecure tls rest
  | none, none => if tls.isSome then checkSecure tls url.toList else checkPlain url.toList

/-! ## The client -/

inductive Reply where
  /-- Keys and values, both as bytes. -/
  | entries (pairs : List (List UInt8 × List UInt8))
  | failed (message : String)
deriving DecidableEq, Repr

abbrev Peer := Instant → Coming Reply

def readableEntries (pairs : List (List UInt8 × List UInt8)) : List Entry :=
  pairs.filterMap fun (key, value) => (Json.utf8Text? key).map fun k => ⟨k, value⟩

def Reply.read : Reply → Except TopologyError (List Entry)
  | entries pairs => .ok (readableEntries pairs)
  | failed message => .error (.registry "etcd" message)

/-- A client, known by whether it has been released. -/
structure Client where
  isReleased : Bool
deriving DecidableEq, Repr

namespace Client

/-! ### Building -/

/-- There are endpoints, and a client can be built for each of them. -/
def check (endpoints : List String) (scheme : String) (tls : Option Tls.Material) :
    Except TopologyError Unit :=
  if endpoints = [] then .error (.config Config.Invalid.noEndpoints.message)
  else endpoints.forM fun e => checkEndpoint tls (endpointUrl scheme e)

def connect (endpoints : List String) (scheme : String) (tls : Option Tls.Material) :
    Logged (Except TopologyError Client) :=
  match check endpoints scheme tls with
  | .error e => ⟨.error e, []⟩
  | .ok () => ⟨.ok ⟨false⟩, [.etcdClientCreated]⟩

def describe : String := "TidbSource \x7b client: \"<etcd_client::Client>\" \x7d"

/-! ### Asking and closing -/

/-- The servers that the entries describe.  How old a heartbeat is shows on the clock when the entries
are there; `unixNanos` is what that clock tells. -/
def instances (c : Client) (peer : Peer) (unixNanos : Instant → Int) (deadline now : Instant) :
    Conversation (List Instance) :=
  if c.isReleased then .refused now (.closed "etcd")
  else
    let found := Conversation.call deadline now .tidbEntries ((peer now).map Reply.read)
    found.mapLogged (Tidb.instances (unixNanos found.time))

def components (c : Client) (peer : Peer) (unixNanos : Instant → Int) (deadline now : Instant) :
    Conversation Snapshot :=
  (c.instances peer unixNanos deadline now).mapLogged fun is => pure (Tidb.components is)

/-- The client released; that is reported once. -/
def close (c : Client) : Logged Client :=
  if c.isReleased then ⟨c, []⟩ else ⟨⟨true⟩, [.etcdClientReleased]⟩

end Client

end ClusterTopology.Tidb
