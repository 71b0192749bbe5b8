import ClusterTopology.Time
import ClusterTopology.Text.Quoted
/-!
What can go wrong with a topology, and what the library reports about its own work.

An error is a constructor with the parts that its text needs; `TopologyError.message` is the only place where
the text is put together.  Whether a cycle may be tried again and how loud the failure is follow from the
constructor alone.

An event is a constructor with the things it is about; its level, its text and its fields are functions of
it.  Operations do not write events anywhere: they return them in order, beside their result, which is what
`Logged` is for.

Severities and levels are ordered by their ranks.  What the next cycle may mend is of medium severity, as
`isRetryable_iff_severity` says, and the only other error of that severity comes from a client that has been
released.
-/

namespace ClusterTopology

/-! ## Severity -/

/-- How urgent an error is, from the least to the most. -/
inductive Severity where
  | low
  | medium
  | high
  | critical
deriving DecidableEq, Repr

namespace Severity

/-- The place of a severity in the order, counted from one. -/
def rank : Severity → Nat
  | low => 1
  | medium => 2
  | high => 3
  | critical => 4

def text : Severity → String
  | low => "LOW"
  | medium => "MEDIUM"
  | high => "HIGH"
  | critical => "CRITICAL"

def all : List Severity := [low, medium, high, critical]

def ofText? (s : String) : Option Severity :=
  all.find? fun v => v.text == s

theorem ofText?_text (v : Severity) : ofText? v.text = some v := by
  cases v <;> decide

instance : Ord Severity where
  compare a b := compare a.rank b.rank

theorem rank_injective {a b : Severity} (h : a.rank = b.rank) : a = b := by
  cases a <;> cases b <;> simp_all [rank]

end Severity

/-! ## Errors -/

/-- Why a topology could not be found, or the discoverer not be built or run. -/
inductive TopologyError where
  /-- A setting is missing or makes no sense. -/
  | config (message : String)
  /-- A secure connection could not be set up. -/
  | tls (message : String)
  /-- A registry refused or could not be reached. -/
  | registry (registry message : String)
  /-- A registry answered something unreadable. -/
  | decode (registry message : String)
  /-- An operation took until its deadline; the span runs from the start of the operation. -/
  | timeout (elapsed : Duration) (operation : String)
  /-- The client of a registry has been released. -/
  | closed (registry : String)
  /-- A discoverer is started once. -/
  | alreadyStarted
deriving DecidableEq, Repr

namespace TopologyError

def message : TopologyError → String
  | config m => "Configuration error: " ++ m
  | tls m => "TLS error: " ++ m
  | registry r m => "Registry error: " ++ r ++ ": " ++ m
  | decode r m => "Decode error: " ++ r ++ ": " ++ m
  | timeout d op => "Operation timed out after " ++ Duration.render d ++ ": " ++ op
  | closed r => "Registry client closed: " ++ r
  | alreadyStarted => "Topology discoverer already started"

/-- What a registry did or failed to do in time may go better in the next cycle. -/
def isRetryable : TopologyError → Bool
  | registry .. | decode .. | timeout .. => true
  | _ => false

/-- Errors of set-up are critical, a second start is a mistake of the caller, and whatever a
registry or its client reports is of medium weight. -/
def severity : TopologyError → Severity
  | config _ | tls _ => .critical
  | alreadyStarted => .high
  | registry .. | decode .. | timeout .. | closed _ => .medium

/-- What the next cycle may mend is of medium severity; of medium severity and yet beyond mending is
only a released client. -/
theorem isRetryable_iff_severity (e : TopologyError) :
    e.isRetryable = true ↔ e.severity = .medium ∧ ∀ r, e ≠ closed r := by
  cases e <;> simp [isRetryable, severity]

end TopologyError

/-! ## Events -/

inductive Level where
  | debug
  | info
  | warn
  | error
deriving DecidableEq, Repr

def Level.text : Level → String
  | debug => "DEBUG"
  | info => "INFO"
  | warn => "WARN"
  | error => "ERROR"

def Level.rank : Level → Nat
  | debug => 1
  | info => 2
  | warn => 3
  | error => 4

inductive FieldValue where
  | text (s : String)
  | number (n : Nat)
  | flag (b : Bool)
deriving DecidableEq, Repr

def FieldValue.shown : FieldValue → String
  | text s => s
  | number n => Text.natText n
  | flag b => if b then "true" else "false"

inductive Event where
  /-- A configuration text refers to a variable that the environment does not have. -/
  | variableMissing (name : String)
  /-- Of several endpoints the placement driver's own interface uses one. -/
  | firstEndpointOnly (endpoint : String)
  | configRead (path : String)
  | configLoaded (origin : String) (refreshInterval : Nat) (tls : Bool)
  | tlsLoading (caPath certPath keyPath : String)
  | tlsValidated (caCount certCount : Nat)
  | pdClientCreated (baseUrl : String)
  | etcdClientCreated
  | etcdClientReleased
  | discovererCreated (scheme : String) (intervalSecs : Nat)
  | tidbInfoSkipped (address : String) (error : TopologyError)
  | memberWithoutUrl (member : String)
  | memberUrlInvalid (member url : String)
  | storeAddressInvalid (store : Nat) (address : String)
  | storeStatusAddressInvalid (store : Nat) (statusAddress : String)
  | sourceQueried (source : String) (count : Nat)
  | sourceFailed (source : String) (error : TopologyError)
  | sourceCloseFailed (source : String) (error : TopologyError)
  | published (subscribers components : Nat)
  | cyclePanicked (panic : String)
  | firstCycleLoaded
  | firstCycleFailed (error : TopologyError)
  | refreshRequested
  | cycleLoaded
  | cycleFailed (error : TopologyError)
  | loopStopped
  | loopPanicked (panic : String)
  | discovererClosed
deriving DecidableEq, Repr

namespace Event

def level : Event → Level
  | variableMissing _ | tidbInfoSkipped .. | memberWithoutUrl _ | memberUrlInvalid ..
  | storeAddressInvalid .. | storeStatusAddressInvalid .. | sourceCloseFailed .. => .warn
  | firstEndpointOnly _ | configRead _ | configLoaded .. | discovererCreated .. | firstCycleLoaded
  | discovererClosed => .info
  | cyclePanicked _ | firstCycleFailed _ | cycleFailed _ | loopPanicked _ => .error
  | _ => .debug

def message : Event → String
  | variableMissing name => "Environment variable '" ++ name ++ "' not found, using empty string"
  | firstEndpointOnly endpoint =>
    "Only the first PD endpoint (" ++ endpoint ++ ") is used for the PD HTTP API"
  | configRead path => "Configuration loaded from " ++ Text.quoted path
  | configLoaded .. => "Loaded configuration"
  | tlsLoading .. => "Loading client TLS material"
  | tlsValidated .. => "Client TLS material validated"
  | pdClientCreated _ => "PD client created"
  | etcdClientCreated => "etcd client created"
  | etcdClientReleased => "etcd client released"
  | discovererCreated .. => "topology discoverer created"
  | tidbInfoSkipped _ e => "Skipping malformed TiDB topology info: " ++ e.message
  | memberWithoutUrl _ => "PD member has no client url, skipped"
  | memberUrlInvalid .. => "invalid PD client url, skipped"
  | storeAddressInvalid .. => "invalid store address, skipped"
  | storeStatusAddressInvalid .. => "invalid store status address, skipped"
  | sourceQueried .. => "source queried"
  | sourceFailed .. => "source query failed"
  | sourceCloseFailed .. => "failed to close source"
  | published .. => "topology published"
  | cyclePanicked _ => "load topology panicked"
  | firstCycleLoaded => "first load topology"
  | firstCycleFailed _ => "first load topology failed"
  | refreshRequested => "topology refresh requested"
  | cycleLoaded => "load topology success"
  | cycleFailed _ => "load topology failed"
  | loopStopped => "topology control loop stopped"
  | loopPanicked _ => "topology control loop panicked, restarting"
  | discovererClosed => "topology discoverer closed"

def errorFields (e : TopologyError) : List (String × FieldValue) :=
  [("error", .text e.message), ("severity", .text e.severity.text), ("retryable", .flag e.isRetryable)]

def fields : Event → List (String × FieldValue)
  | configLoaded origin interval tls =>
    [("origin", .text origin), ("refresh_interval", .number interval), ("tls", .flag tls)]
  | tlsLoading ca cert key => [("ca_path", .text ca), ("cert_path", .text cert), ("key_path", .text key)]
  | tlsValidated ca cert => [("ca_count", .number ca), ("cert_count", .number cert)]
  | pdClientCreated url => [("base_url", .text url)]
  | discovererCreated scheme secs => [("scheme", .text scheme), ("interval_secs", .number secs)]
  | tidbInfoSkipped address _ => [("address", .text address)]
  | memberWithoutUrl member => [("member", .text member)]
  | memberUrlInvalid member url => [("member", .text member), ("url", .text url)]
  | storeAddressInvalid store address => [("store", .number store), ("address", .text address)]
  | storeStatusAddressInvalid store address =>
    [("store", .number store), ("status_address", .text address)]
  | sourceQueried source count => [("source", .text source), ("count", .number count)]
  | sourceFailed source e | sourceCloseFailed source e =>
    [("source", .text source), ("error", .text e.message)]
  | published subscribers components =>
    [("subscribers", .number subscribers), ("components", .number components)]
  | cyclePanicked text | loopPanicked text => [("panic", .text text)]
  | firstCycleFailed e | cycleFailed e => errorFields e
  | _ => []

def line (e : Event) : String :=
  e.level.text ++ " " ++ e.message ++ String.join (e.fields.map fun (k, v) => " " ++ k ++ "=" ++ v.shown)

end Event

/-! ## Results with events -/

/-- A value together with the events that led to it, the earliest first. -/
structure Logged (α : Type) where
  value : α
  events : List Event
deriving Repr

namespace Logged

instance : Monad Logged where
  pure a := ⟨a, []⟩
  bind x f := ⟨(f x.value).value, x.events ++ (f x.value).events⟩

def report (e : Event) : Logged Unit := ⟨(), [e]⟩

@[simp] theorem value_pure {α : Type} (a : α) : (pure a : Logged α).value = a := rfl

@[simp] theorem value_bind {α β : Type} (x : Logged α) (f : α → Logged β) :
    (x >>= f).value = (f x.value).value := rfl

end Logged

end ClusterTopology
