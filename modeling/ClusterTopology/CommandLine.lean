import ClusterTopology.Config.Load
/-!
The command line: what may be said on it, and the configuration that it asks for.

An option with a value takes it from its own word, behind an equals sign or directly, or from the next
word.  A word that starts with a hyphen is never the value of the option before it.

The words are gone through once, from left to right, and `Said` holds what has been said so far.  An option is
taken over when the next one begins or the words end, since only then is it known whether its value has
come.  The path of the file and the flag may be given once, endpoints as often as one likes, and the first
word that cannot be taken is the `Refusal`.  Asking for help counts as a refusal too.

The configuration comes from the file that was named.  Where there is none it is the built-in one.  It has to
make sense before the endpoints of the command line replace its own, and again after that: `load` says both in
the order in which they happen.
-/

namespace ClusterTopology.CommandLine

/-! ### Words -/

structure Arguments where
  /-- The path of the configuration file. -/
  config : String
  /-- Endpoints that replace the configured ones, if there are any. -/
  endpoints : List String
  verbose : Bool
deriving DecidableEq, Repr

def defaultPath : String := "config/config.toml"

inductive Refusal where
  /-- They ask for help instead. -/
  | help
  /-- Something that may be said once is said twice. -/
  | repeated
  /-- An option has no value. -/
  | missingValue
  /-- A flag has a value. -/
  | surplusValue
  | unknown
deriving DecidableEq, Repr

def Refusal.message : Refusal → String
  | help => "usage: [-c | --config PATH] [--pd-endpoints HOST:PORT]... [-v | --verbose] [-h | --help]"
  | repeated => "an argument is given twice"
  | missingValue => "an option lacks its value"
  | surplusValue => "a flag is given a value"
  | unknown => "an argument is not known"

inductive Setting where
  | config
  | endpoints
deriving DecidableEq, Repr

structure Said where
  config : Option String
  endpoints : List String
  verbose : Bool
  /-- The last option, as long as its value has not been taken over, and its value. -/
  waiting : Option (Setting × Option String)
deriving DecidableEq, Repr

namespace Said

def nothing : Said := ⟨none, [], false, none⟩

def take (s : Said) (o : Setting) (v : String) : Except Refusal Said :=
  match o with
  | .config => if s.config.isSome then .error .repeated else .ok { s with config := some v }
  | .endpoints => .ok { s with endpoints := s.endpoints ++ [v] }

/-- The value of the last option taken over, if one waits for that. -/
def settle (s : Said) : Except Refusal Said :=
  match s.waiting with
  | none => .ok s
  | some (_, none) => .error .missingValue
  | some (o, some v) => { s with waiting := none }.take o v

/-- An option, with its value if that is in the same word. -/
def option (s : Said) (o : Setting) (value : Option String) : Except Refusal Said := do
  let s ← s.settle
  match value with
  | some v => s.take o v
  | none => return { s with waiting := some (o, none) }

def flag (s : Said) : Except Refusal Said := do
  let s ← s.settle
  if s.verbose then .error .repeated else return { s with verbose := true }

def help {α : Type} (s : Said) : Except Refusal α := do
  let _ ← s.settle
  .error .help

/-- A word behind two hyphens: a name, and a value if there is an equals sign. -/
def long (s : Said) (name : String) (value : Option String) : Except Refusal Said :=
  if name = "config" then s.option .config value
  else if name = "pd-endpoints" then s.option .endpoints value
  else if name = "verbose" then if value.isSome then .error .surplusValue else s.flag
  else if name = "help" then if value.isSome then .error .surplusValue else s.help
  else .error .unknown

/-- A word behind one hyphen: letters, of which one that takes a value takes the rest of the word. -/
def short (s : Said) : List Char → Except Refusal Said
  | [] => .ok s
  | 'c' :: [] => s.option .config none
  | 'c' :: '=' :: v => s.option .config (some (String.ofList v))
  | 'c' :: v => s.option .config (some (String.ofList v))
  | 'v' :: r => do
    let s ← s.flag
    s.short r
  | 'h' :: _ => s.help
  | _ => .error .unknown

/-- A word that is no option: the value that the last option waits for. -/
def plain (s : Said) (word : String) : Except Refusal Said :=
  match s.waiting with
  | some (o, none) => .ok { s with waiting := some (o, some word) }
  | _ => .error .unknown

def word (s : Said) (w : String) : Except Refusal Said :=
  match w.toList with
  | '-' :: '-' :: cs =>
    let name := cs.takeWhile (· != '=')
    let value := match cs.drop name.length with
      | [] => none
      | _ :: v => some (String.ofList v)
    s.long (String.ofList name) value
  | '-' :: c :: cs => s.short (c :: cs)
  | _ => s.plain w

/-- The words that are left.  Behind two hyphens alone nothing may follow. -/
def words (s : Said) : List String → Except Refusal Said
  | [] => s.settle
  | w :: ws =>
    if w = "--" then if ws = [] then s.settle else .error .unknown
    else do
      let s ← s.word w
      s.words ws

end Said

def parse (words : List String) : Except Refusal Arguments := do
  let s ← Said.nothing.words words
  return ⟨s.config.getD defaultPath, s.endpoints, s.verbose⟩

/-! ### The configuration -/

def builtIn : String := "built-in defaults"

def withEndpoints (c : Config) (endpoints : List String) : Config :=
  if endpoints = [] then c else { c with pd := ⟨endpoints⟩ }

/-- The configuration that arguments ask for, and where it comes from.  It has to make sense before the
endpoints of the command line replace its own, and after. -/
def load (files : Files) (env : Config.Environment) (args : Arguments) :
    Logged (Except Config.LoadError (Config × String)) := do
  let found ←
    if files.hasEntry args.config then do
      let r ← Config.ofFile files env args.config
      pure (r.map fun c => (c, args.config))
    else pure (.ok (Config.default, builtIn))
  match found with
  | .error e => return .error e
  | .ok (c, origin) =>
    let r ← Config.validated (withEndpoints c args.endpoints)
    return r.map fun c => (c, origin)

def loadedEvent (c : Config) (origin : String) : Event :=
  .configLoaded origin c.discovery.refreshInterval.toNat c.security.isTlsEnabled

end ClusterTopology.CommandLine
