import ClusterTopology.Data.Reader
import ClusterTopology.Event
/-!
The configuration: what it holds, what it holds when nothing is said, and when it makes sense.

A `Config` has four tables: the endpoints of the placement driver, the paths for secure connections, the
periods, and the logging.  Its reader takes the keys that are there and leaves the others as they are in
`Config.default`; a key with a value of the wrong type is an error.

Sense is checked table by table, and the first complaint is the answer: an `Invalid`, with its message.
`check` is the decision alone, and `validate` also reports when endpoints are left unused.  The
periods are only bounded from below, so one that is longer than the clock can show makes sense.

The paths for secure connections have to be given together.  What counts as given is said once, in
`isGiven`; the check counts the given paths, and the scheme of the URLs asks whether all of them are.
-/

namespace ClusterTopology

open ClusterTopology.Data
open ClusterTopology.Data.Fields (nullable withDefault)

/-! ### What it holds -/

namespace Config

structure Pd where
  /-- `host:port` texts; the first serves the placement driver's own interface, all serve etcd. -/
  endpoints : List String
deriving DecidableEq, Repr

structure Security where
  caPath : Option String
  certPath : Option String
  keyPath : Option String
deriving DecidableEq, Repr

/-- How often the topology is looked up, in seconds. -/
structure Discovery where
  /-- The period of the cycles, and the time each may take. -/
  refreshInterval : UInt64
  /-- The time that building a connection may take. -/
  connectTimeout : UInt64
deriving DecidableEq, Repr

structure Log where
  level : String
deriving DecidableEq, Repr

end Config

structure Config where
  pd : Config.Pd
  security : Config.Security
  discovery : Config.Discovery
  log : Config.Log
deriving DecidableEq, Repr

def Config.default : Config where
  pd := ⟨["127.0.0.1:2379"]⟩
  security := ⟨none, none, none⟩
  discovery := ⟨30, 5⟩
  log := ⟨"info"⟩

namespace Config

/-! ### Reading -/

def Pd.reader (surplus : Fields.Surplus) : Reader Pd :=
  (Pd.mk <$> withDefault "endpoints" (Reader.list Reader.text) []).reader "PdConfig" surplus

def Security.reader (surplus : Fields.Surplus) : Reader Security :=
  (Security.mk <$> nullable "ca_path" Reader.text <*> nullable "cert_path" Reader.text
    <*> nullable "key_path" Reader.text).reader "SecurityConfig" surplus

def Discovery.reader (surplus : Fields.Surplus) : Reader Discovery :=
  (Discovery.mk <$> withDefault "refresh_interval" Reader.uint64 default.discovery.refreshInterval
    <*> withDefault "connect_timeout" Reader.uint64 default.discovery.connectTimeout).reader
    "DiscoveryConfig" surplus

def Log.reader (surplus : Fields.Surplus) : Reader Log :=
  (Log.mk <$> withDefault "level" Reader.text default.log.level).reader "LogConfig" surplus

/-- The reader of a configuration; a section that is not there has its defaults. -/
def reader (surplus : Fields.Surplus) : Reader Config :=
  (Config.mk <$> withDefault "pd" (Pd.reader surplus) default.pd
    <*> withDefault "security" (Security.reader surplus) default.security
    <*> withDefault "discovery" (Discovery.reader surplus) default.discovery
    <*> withDefault "log" (Log.reader surplus) default.log).reader "Config" surplus

/-! ### Secure connections -/

/-- A path counts as given when it is there and not empty. -/
def isGiven (path : Option String) : Bool :=
  match path with
  | some s => s != ""
  | none => false

namespace Security

def paths (s : Security) : List (Option String) := [s.caPath, s.certPath, s.keyPath]

def givenCount (s : Security) : Nat := s.paths.countP isGiven

def isTlsEnabled (s : Security) : Bool := s.paths.all isGiven

/-- The scheme of the URLs of the placement driver and of etcd. -/
def httpScheme (s : Security) : String :=
  if s.isTlsEnabled then "https" else "http"

end Security

/-! ### Sense -/

inductive Invalid where
  | noEndpoints
  | blankEndpoint (index : Nat)
  /-- Some of the paths are given and some are not. -/
  | partialTls
  | zeroRefreshInterval
  | zeroConnectTimeout
  /-- The level, in lower case. -/
  | unknownLevel (level : String)
deriving DecidableEq, Repr

def Invalid.message : Invalid → String
  | noEndpoints => "unexpected empty pd endpoints, please specify at least one pd endpoint"
  | blankEndpoint i => "pd endpoint #" ++ Text.natText i ++ " is empty"
  | partialTls => "security ca_path, cert_path and key_path must be set together"
  | zeroRefreshInterval => "Discovery refresh_interval must be greater than 0"
  | zeroConnectTimeout => "Discovery connect_timeout must be greater than 0"
  | unknownLevel l => "Unknown log level '" ++ l ++ "'"

def isBlankText (s : String) : Bool :=
  s.toList.all Text.isBlank

/-- There is an endpoint, and none is blank; the first blank one is named. -/
def Pd.validate (p : Pd) : Except Invalid Unit :=
  if p.endpoints = [] then .error .noEndpoints
  else
    match p.endpoints.findIdx? isBlankText with
    | some i => .error (.blankEndpoint i)
    | none => .ok ()

/-- The paths are given together or not at all. -/
def Security.validate (s : Security) : Except Invalid Unit :=
  if s.givenCount = 0 ∨ s.givenCount = 3 then .ok () else .error .partialTls

/-- Neither period is zero. -/
def Discovery.validate (d : Discovery) : Except Invalid Unit :=
  if d.refreshInterval = 0 then .error .zeroRefreshInterval
  else if d.connectTimeout = 0 then .error .zeroConnectTimeout
  else .ok ()

def Log.levels : List String := ["trace", "debug", "info", "warn", "error"]

def Log.lowerLevel (l : Log) : String :=
  String.ofList (l.level.toList.map Char.toLower)

/-- The level is one of the five, in whatever case. -/
def Log.validate (l : Log) : Except Invalid Unit :=
  if l.lowerLevel ∈ Log.levels then .ok () else .error (.unknownLevel l.lowerLevel)

/-- The sections make sense, the first complaint in their order counting. -/
def check (c : Config) : Except Invalid Unit := do
  c.pd.validate
  c.security.validate
  c.discovery.validate
  c.log.validate

/-- `check`, and a report when endpoints are left unused. -/
def validate (c : Config) : Logged (Except Invalid Unit) :=
  match c.check, c.pd.endpoints with
  | .ok (), first :: _ :: _ => ⟨.ok (), [.firstEndpointOnly first]⟩
  | r, _ => ⟨r, []⟩

/-! ### Derived settings -/

/-- The filter that lets the log through: the configured level, or everything from `debug` on. -/
def Log.filter (l : Log) (verbose : Bool) : String :=
  "topo_discovery=" ++ (if verbose then "debug" else l.lowerLevel)

def Log.shows (l : Log) (verbose : Bool) (level : Level) : Bool :=
  let least := if verbose || l.lowerLevel == "debug" || l.lowerLevel == "trace" then Level.debug
    else if l.lowerLevel == "warn" then .warn
    else if l.lowerLevel == "error" then .error
    else .info
  least.rank ≤ level.rank

def Discovery.interval (d : Discovery) : Duration := Duration.ofSecs d.refreshInterval.toNat

end Config

end ClusterTopology
