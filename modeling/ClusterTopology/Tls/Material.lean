import ClusterTopology.Config.Basic
import ClusterTopology.Config.Load
import ClusterTopology.Tls.Pem
/-!
The material for secure connections: the certificates that are trusted, the certificates of this
program, and its private key.

The material is read and looked over once, and then handed to the client of the placement driver and to
that of etcd.  What each of them takes from it is its *credentials*.

Loading stops at the first thing that is wrong.  The files come first, in the order of the three paths, and
then what is in them: a certificate to trust, a certificate to show, and a private key, where nothing in
front of them may be malformed.  Settings without paths come to no material, and incomplete ones to an error.

The two clients are not handed the same thing.  That of the placement driver is given certificate and key as
one text and takes all certificates and the last key in it; that of etcd is given them apart and takes the
certificates of the one and the first key of the other.  `pdCredentials` and `etcdCredentials?` say what each
makes of it, and `Proofs.Tls.Credentials` where they agree.
-/

namespace ClusterTopology.Tls

/-! ### Material -/

structure Material where
  ca : List UInt8
  cert : List UInt8
  key : List UInt8
deriving DecidableEq, Repr

namespace Material

/-- How many certificates a text has; there has to be one. -/
def countCertificates (text : List UInt8) (what : String) : Except TopologyError Nat :=
  match Pem.certificates text with
  | .error f => .error (.config ("Failed to parse " ++ what ++ ": " ++ f.message))
  | .ok [] => .error (.config ("No " ++ what ++ " found"))
  | .ok cs => .ok cs.length

/-- The first private key of a text; there has to be one. -/
def findKey (text : List UInt8) : Except TopologyError Pem.Section :=
  match Pem.privateKey? text with
  | .error f => .error (.config ("Failed to parse private key: " ++ f.message))
  | .ok none => .error (.config "No private key found in key file")
  | .ok (some key) => .ok key

def check (ca cert key : List UInt8) : Except TopologyError (Nat × Nat) := do
  let caCount ← countCertificates ca "CA certificate"
  let certCount ← countCertificates cert "client certificate"
  let _ ← findKey key
  return (caCount, certCount)

def ofPem (ca cert key : List UInt8) : Logged (Except TopologyError Material) :=
  match check ca cert key with
  | .error e => ⟨.error e, []⟩
  | .ok (caCount, certCount) => ⟨.ok ⟨ca, cert, key⟩, [.tlsValidated caCount certCount]⟩

def readFile (files : Files) (path : String) : Except TopologyError (List UInt8) :=
  match files.readBytes path with
  | .ok bytes => .ok bytes
  | .error e => .error (.config ("Failed to read TLS file " ++ path ++ ": " ++ e.message))

def readFiles (files : Files) (ca cert key : String) :
    Except TopologyError (List UInt8 × List UInt8 × List UInt8) := do
  let ca ← readFile files ca
  let cert ← readFile files cert
  let key ← readFile files key
  return (ca, cert, key)

/-- The material that a configuration names: none when it names none. -/
def load (files : Files) (s : Config.Security) : Logged (Except TopologyError (Option Material)) :=
  if s.isTlsEnabled then
    match s.caPath, s.certPath, s.keyPath with
    | some ca, some cert, some key => do
      .report (.tlsLoading ca cert key)
      match readFiles files ca cert key with
      | .error e => return .error e
      | .ok (ca, cert, key) =>
        let r ← ofPem ca cert key
        return r.map some
    | _, _, _ => ⟨.ok none, []⟩
  else
    match s.validate with
    | .error e => ⟨.error (.config e.message), []⟩
    | .ok () => ⟨.ok none, []⟩

/-- The text that shows material and keeps the key to itself. -/
def describe (m : Material) : String :=
  "TlsMaterial \x7b ca_pem: " ++ Text.natText m.ca.length ++ " bytes, cert_pem: "
    ++ Text.natText m.cert.length ++ " bytes, key_pem: \"<redacted>\" \x7d"

end Material

/-! ### Credentials -/

/-- What a client takes from material: the certificates that it trusts, those that it shows, its own
first, and its private key. -/
structure Credentials where
  roots : List (List UInt8)
  chain : List (List UInt8)
  key : Pem.Section
deriving DecidableEq, Repr

/-- Whether bytes are one sequence in the distinguished encoding and nothing more, as certificates and
keys are. -/
def isSequence : List UInt8 → Bool
  | 0x30 :: 0x82 :: h :: l :: body => 1 ≤ h && body.length == h.toNat * 256 + l.toNat
  | 0x30 :: 0x81 :: l :: body => 0x80 ≤ l && body.length == l.toNat
  | 0x30 :: l :: body => l < 0x80 && body.length == l.toNat
  | _ => false

namespace Credentials

/-- A client can be built when what it trusts and its own certificate are certificates and its key is a
key. -/
def isUsable (c : Credentials) : Bool :=
  c.roots.all isSequence && (c.chain.head?).any isSequence && isSequence c.key.bytes

end Credentials

namespace Material

/-- The text with the certificates and the key together, as the client of the placement driver takes
it. -/
def identityText (m : Material) : List UInt8 := m.cert ++ [10] ++ m.key

/-- The certificates and the key of one text, which may hold nothing else: all certificates in their
order, and the last key. -/
def identity? (text : List UInt8) : Option (List (List UInt8) × Pem.Section) :=
  let found := Pem.find text
  let chain := (found.sections.filter (·.kind == .certificate)).map (·.bytes)
  let keys := found.sections.filter (·.kind.isKey)
  if found.fault = none ∧ found.sections.all (fun s => s.kind == .certificate || s.kind.isKey) then
    match chain, keys.getLast? with
    | _ :: _, some key => some (chain, key)
    | _, _ => none
  else none

/-- What the client of the placement driver takes from material. -/
def pdCredentials (m : Material) : Except TopologyError Credentials :=
  match identity? m.identityText with
  | none => .error (.tls "Invalid client identity: builder error")
  | some (chain, key) =>
    match Pem.certificates m.ca with
    | .error _ => .error (.config "Failed to build PD client: builder error")
    | .ok roots => .ok ⟨roots, chain, key⟩

/-- What the client of etcd takes from material: the certificates and the first key of their own
texts. -/
def etcdCredentials? (m : Material) : Option Credentials :=
  match Pem.certificates m.ca, Pem.certificates m.cert, Pem.privateKey? m.key with
  | .ok roots, .ok chain, .ok (some key) => some ⟨roots, chain, key⟩
  | _, _, _ => none

end Material

end ClusterTopology.Tls
