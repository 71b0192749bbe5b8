import ClusterTopology.Cluster
import ClusterTopology.CommandLine
/-!
The command line: reads the configuration, builds the clients, and shows what there is to report.

Everything is decided elsewhere.  Here the files and variables that a configuration names are fetched
before it is read, and lines are printed.

A configuration is a function of the files and of the environment, and both are functions of names.  The names
that can matter are known beforehand: `Config.referencedNames` gives the variables, the arguments and the
settings give the files, and anything else counts as absent.

A refusal of the command line and an error of the configuration or of the clients go to the standard error
output and have exit codes of their own; asking for help is no failure.
-/

namespace ClusterTopology.Main

def fetch (path : String) : IO (Except FileError FileEntry) := do
  try
    let bytes ← IO.FS.readBinFile path
    return .ok (.file bytes.toList)
  catch e =>
    match e with
    | .noFileOrDirectory .. => return .error .notFound
    | .inappropriateType _ 21 _ => return .ok .directory
    | .inappropriateType _ 20 _ => return .error .notADirectory
    | e => return .error (.other (toString e))

def fetchAll (paths : List String) : IO Files := do
  let entries ← paths.mapM fun p => return (p, ← fetch p)
  return fun path => (entries.lookup path).getD (.error .notFound)

def fetchVariables (text : String) : IO Config.Environment := do
  let values ← (Config.referencedNames text).mapM fun name => return (name, ← IO.getEnv name)
  return fun name => (values.lookup name).join

def printEvents (c : Config) (verbose : Bool) (events : List Event) : IO Unit :=
  events.forM fun e => do
    if c.log.shows verbose e.level then IO.println e.line

def fail (code : UInt32) (message : String) : IO UInt32 := do
  IO.eprintln message
  return code

/-- A configuration that has been read: its clients are built, and the lists that they would ask for
are shown. -/
def report (args : CommandLine.Arguments) (c : Config) (origin : String) : IO UInt32 := do
  printEvents c args.verbose [CommandLine.loadedEvent c origin]
  let files ← fetchAll (c.security.paths.filterMap id)
  let built := Cluster.build files c
  printEvents c args.verbose built.events
  match built.value with
  | .error e => fail 1 ("Error: " ++ e.message)
  | .ok (_, clients) =>
    for l in [Pd.Listing.members, .health, .stores] do
      match clients.pd.target l with
      | .ok url => IO.println ("GET " ++ url)
      | .error e => IO.println ("Error: " ++ e.message)
    return 0

def run (words : List String) : IO UInt32 := do
  match CommandLine.parse words with
  | .error .help => do
    IO.println CommandLine.Refusal.help.message
    return 0
  | .error r => fail 2 ("error: " ++ r.message)
  | .ok args => do
    let files ← fetchAll [args.config]
    let env ← fetchVariables ((files.readText args.config).toOption.getD "")
    match (CommandLine.load files env args).value with
    | .error e => fail 1 ("Error: " ++ e.message)
    | .ok (c, origin) => report args c origin

end ClusterTopology.Main

def main (words : List String) : IO UInt32 :=
  ClusterTopology.Main.run words
