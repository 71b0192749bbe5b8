import ClusterTopology.Conversation
import ClusterTopology.Json.Document
import ClusterTopology.Text.Basic
import ClusterTopology.Pd.Instance
import ClusterTopology.Tls.Material
/-!
The client of the placement driver's own interface.

Building it sends nothing: the endpoint has to make a URL and the material has to be usable.  After that it
asks for the three lists, each call under the deadline that it is given.

Of an answer only the status and the body count.  A list is taken from a whole body with a status of success,
and from nothing else; whatever else comes back is one error.

`Reply.read` tells apart what can be wrong: nothing has come back, the status is none of success, or the
body cannot be decoded, be it that it broke off.  `instances` and `storeInstances` make instances of the
lists, and `components` and `storeComponents` are what the sources of a cluster give.
-/

namespace ClusterTopology.Pd

open ClusterTopology.Data

/-! ## Answers and what they mean -/

/-! ### Status -/

def statusReasons : List (Nat × String) :=
  [(100, "Continue"), (101, "Switching Protocols"), (102, "Processing"), (200, "OK"),
    (201, "Created"), (202, "Accepted"), (203, "Non Authoritative Information"), (204, "No Content"),
    (205, "Reset Content"), (206, "Partial Content"), (207, "Multi-Status"),
    (208, "Already Reported"), (226, "IM Used"), (300, "Multiple Choices"),
    (301, "Moved Permanently"), (302, "Found"), (303, "See Other"), (304, "Not Modified"),
    (305, "Use Proxy"), (307, "Temporary Redirect"), (308, "Permanent Redirect"),
    (400, "Bad Request"), (401, "Unauthorized"), (402, "Payment Required"), (403, "Forbidden"),
    (404, "Not Found"), (405, "Method Not Allowed"), (406, "Not Acceptable"),
    (407, "Proxy Authentication Required"), (408, "Request Timeout"), (409, "Conflict"),
    (410, "Gone"), (411, "Length Required"), (412, "Precondition Failed"),
    (413, "Payload Too Large"), (414, "URI Too Long"), (415, "Unsupported Media Type"),
    (416, "Range Not Satisfiable"), (417, "Expectation Failed"), (418, "I'm a teapot"),
    (421, "Misdirected Request"), (422, "Unprocessable Entity"), (423, "Locked"),
    (424, "Failed Dependency"), (426, "Upgrade Required"), (428, "Precondition Required"),
    (429, "Too Many Requests"), (431, "Request Header Fields Too Large"),
    (451, "Unavailable For Legal Reasons"), (500, "Internal Server Error"),
    (501, "Not Implemented"), (502, "Bad Gateway"), (503, "Service Unavailable"),
    (504, "Gateway Timeout"), (505, "HTTP Version Not Supported"),
    (506, "Variant Also Negotiates"), (507, "Insufficient Storage"), (508, "Loop Detected"),
    (510, "Not Extended"), (511, "Network Authentication Required")]

def statusText (status : Nat) : String :=
  Text.natText status ++ " " ++
    (statusReasons.lookup status).getD "<unknown status code>"

def isSuccess (status : Nat) : Bool := 200 ≤ status && status ≤ 299

/-! ### Replies -/

inductive Body where
  | whole (bytes : List UInt8)
  /-- The connection was lost before all of it had arrived. -/
  | cut (bytes : List UInt8)
deriving DecidableEq, Repr

inductive Reply where
  | answered (status : Nat) (body : Body)
  /-- There was no connection, or it was lost before an answer. -/
  | lost
deriving DecidableEq, Repr

/-- The text of a body as messages show it; a body that was cut shows nothing. -/
def Body.shown : Body → String
  | whole bytes => Text.trimmed (Text.lossyText bytes)
  | cut _ => ""

/-- What the body of an answer with a status of success says. -/
def Body.read {α : Type} (reader : Reader α) : Body → Option α
  | whole bytes => (Json.decode reader bytes).toOption
  | cut _ => none

/-- What a reply to the request for a list at a URL means. -/
def Reply.read {α : Type} (url : String) (l : Listing) (reader : Reader α) :
    Reply → Except TopologyError α
  | lost => .error (.registry "pd" ("error sending request for url (" ++ url ++ ")"))
  | answered status body =>
    if isSuccess status then
      match body.read reader with
      | some a => .ok a
      | none => .error (.decode "pd" ("GET " ++ l.path ++ ": error decoding response body"))
    else
      .error (.registry "pd"
        ("GET " ++ l.path ++ " returned HTTP " ++ statusText status ++ ": " ++ body.shown))

/-! ## The client -/

/-- A client, known by the URL that its requests start with. -/
structure Client where
  baseUrl : String
deriving DecidableEq, Repr

/-- What the lists of the placement driver come back with, for a request at any time. -/
abbrev Peer := Listing → Instant → Coming Reply

namespace Client

/-! ### Building -/

def apiPath : String := "/pd/api/v1"

def accepts : Option Tls.Material → Except TopologyError Unit
  | none => .ok ()
  | some m => do
    let c ← m.pdCredentials
    if c.isUsable then .ok () else .error (.config "Failed to build PD client: builder error")

/-- The client for an endpoint: the endpoint is not blank, its URL is a URL, and the material is
accepted. -/
def check (endpoint scheme : String) (tls : Option Tls.Material) : Except TopologyError Client := do
  if Config.isBlankText endpoint then .error (.config "PD endpoint is empty")
  else
    let baseUrl := endpointUrl scheme endpoint ++ apiPath
    match Url.ofText baseUrl with
    | .error e => .error (.config ("Invalid PD endpoint '" ++ endpoint ++ "': " ++ e.message))
    | .ok _ => do
      accepts tls
      return ⟨baseUrl⟩

def create (endpoint scheme : String) (tls : Option Tls.Material) :
    Logged (Except TopologyError Client) :=
  match check endpoint scheme tls with
  | .error e => ⟨.error e, []⟩
  | .ok c => ⟨.ok c, [.pdClientCreated c.baseUrl]⟩

def describe (c : Client) : String :=
  "PdClient \x7b base_url: " ++ Text.quoted c.baseUrl ++ ", client: \"<reqwest::Client>\" \x7d"

/-! ### Asking -/

/-- The URL of a list, if requests can be sent there. -/
def target (c : Client) (l : Listing) : Except TopologyError String :=
  match Url.ofText (c.baseUrl ++ l.path) with
  | .error _ => .error (.config "Invalid PD client: builder error")
  | .ok u =>
    if u.scheme = "http" ∨ u.scheme = "https" then .ok u.text
    else .error (.config ("Invalid PD client: builder error for url (" ++ u.text ++ ")"))

def get {α : Type} (c : Client) (peer : Peer) (l : Listing) (reader : Reader α)
    (deadline now : Instant) : Conversation α :=
  Conversation.call deadline now (.listing l) <|
    match c.target l with
    | .error e => .now (.error e)
    | .ok url => (peer l now).map (Reply.read url l reader)

def members (c : Client) (peer : Peer) (deadline now : Instant) : Conversation (List Member) :=
  c.get peer .members membersReader deadline now

def health (c : Client) (peer : Peer) (deadline now : Instant) :
    Conversation (List MemberHealth) :=
  c.get peer .health healthReader deadline now

def stores (c : Client) (peer : Peer) (deadline now : Instant) : Conversation (List Store) :=
  c.get peer .stores storesReader deadline now

def instances (c : Client) (peer : Peer) (deadline now : Instant) : Conversation (List Instance) :=
  (c.members peer deadline now).andThen fun members now =>
    (c.health peer deadline now).mapLogged fun health => Pd.instances members health

def storeInstances (c : Client) (peer : Peer) (deadline now : Instant) :
    Conversation StoreInstances :=
  (c.stores peer deadline now).mapLogged Pd.storeInstances

def components (c : Client) (peer : Peer) (deadline now : Instant) : Conversation Snapshot :=
  (c.instances peer deadline now).mapLogged fun is => pure (Pd.components is)

def storeComponents (c : Client) (peer : Peer) (deadline now : Instant) : Conversation Snapshot :=
  (c.storeInstances peer deadline now).mapLogged fun is => pure (Pd.storeComponents is)

end Client

end ClusterTopology.Pd
