import Mathlib.Tactic.Common
import ClusterTopology.CommandLine
import ClusterTopology.Text.Basic
/-!
What endpoints on the command line take the place of.

They replace the endpoints of the configuration file, and what comes of it has to make sense.  But the
file has to make sense before that, with its own endpoints: so these are looked at although nothing is
going to use them, and the given ones count only where the replaced ones would have done.

What comes out is therefore the answer of two checks in a row, of the file as it stands and of the file with
other endpoints.  The second repeats most of the first.  `checkBesides` is what is left of the two together:
the file's own endpoints, the given ones, and everything else once.  `Says` states that a file has a
configuration to give, whatever is to be thought of that, so that the statement is about what is checked and
not about how files are read.
-/

namespace ClusterTopology

/-! ### A file that says a configuration -/

theorem Files.hasEntry_of_readText {files : Files} {path text : String}
    (h : files.readText path = .ok text) : files.hasEntry path = true := by
  unfold readText readBytes at h
  split at h
  · cases h
  · cases hentry : files path with
    | ok entry => simp [hasEntry, hentry, Except.toBool]
    | error e => simp [hentry, bind, Except.bind] at h

namespace Config

/-- A file can be read, and its text, with its references resolved, says a configuration, whether that
makes sense or not. -/
def Says (files : Files) (env : Environment) (path : String) (c : Config) : Prop :=
  ∃ text expanded, files.readText path = .ok text ∧
    (expand env text).map Logged.value = some expanded ∧ read expanded = .ok c

/-- Something that is there unless there is a complaint. -/
def judged {α : Type} (r : Except Invalid Unit) (a : α) : Except LoadError α :=
  match r with
  | .ok () => .ok a
  | .error e => .error (.invalid e)

/-- Two checks before a common one come to the same when they have the same to say, or when what the one
has to say is what the common one says where the other is silent. -/
theorem judged_bind_eq_iff {α : Type} {v v' w : Except Invalid Unit} {a : α} :
    judged (do v; w) a = judged (do v'; w) a ↔ v = v' ∨ v = .ok () ∧ v' = w ∨ v' = .ok () ∧ v = w := by
  cases v with
  | ok _ =>
    cases v' with
    | ok _ => simp
    | error e' => cases w <;> simp [judged, bind, Except.bind, eq_comm]
  | error e =>
    cases v' with
    | ok _ => cases w <;> simp [judged, bind, Except.bind]
    | error e' => simp [judged, bind, Except.bind]

theorem value_validate (c : Config) : c.validate.value = c.check := by
  unfold validate
  split
  · next hcheck _ => exact hcheck.symm
  · rfl

theorem value_validated (c : Config) : (validated c).value = judged c.check c := by
  simp only [validated, Logged.value_bind, value_validate]
  cases c.check <;> rfl

theorem value_ofFile {files : Files} {env : Environment} {path : String} {c : Config}
    (h : Says files env path c) : (ofFile files env path).value = judged c.check c := by
  obtain ⟨text, expanded, htext, hexpand, hread⟩ := h
  obtain ⟨r, hr, rfl⟩ := Option.map_eq_some_iff.mp hexpand
  have hofText : (ofText env text).value = judged c.check c := by
    simp only [ofText, hr, Logged.value_bind, hread, value_validated]
  simp only [ofFile, htext, Logged.value_bind, hofText]
  cases c.check <;> rfl

/-- What is checked of a configuration whose endpoints are replaced, when its own have passed: the other
sections, and then the endpoints that have come in. -/
def checkBesides (c : Config) (endpoints : List String) : Except Invalid Unit := do
  c.security.validate
  c.discovery.validate
  c.log.validate
  Pd.validate ⟨endpoints⟩

/-- The checks before and after endpoints are replaced come to one row of checks. -/
theorem check_twice (c : Config) (endpoints : List String) :
    (do c.check; check { c with pd := ⟨endpoints⟩ }) =
      (do c.pd.validate; c.checkBesides endpoints) := by
  unfold check checkBesides
  cases c.pd.validate with
  | error e => rfl
  | ok _ =>
    cases c.security.validate with
    | error e => rfl
    | ok _ =>
      cases c.discovery.validate with
      | error e => rfl
      | ok _ =>
        cases c.log.validate with
        | error e => rfl
        | ok _ => cases Pd.validate ⟨endpoints⟩ <;> rfl

end Config

namespace CommandLine

variable {files files' : Files} {env : Config.Environment} {args : Arguments} {c c' : Config}

/-- What comes of a file that says a configuration, and of endpoints that replace its own. -/
theorem value_load (hgiven : args.endpoints ≠ []) (hconfig : Config.Says files env args.config c) :
    (load files env args).value =
      Config.judged (do c.pd.validate; c.checkBesides args.endpoints)
        ({ c with pd := ⟨args.endpoints⟩ }, args.config) := by
  obtain ⟨text, -, htext, -⟩ := id hconfig
  rw [← Config.check_twice]
  simp only [load, Files.hasEntry_of_readText htext, if_true, Logged.value_bind, Logged.value_pure,
    Config.value_ofFile hconfig]
  cases c.check with
  | error e => rfl
  | ok _ =>
    simp only [Config.judged, Except.map, Logged.value_bind, Config.value_validated, withEndpoints,
      hgiven, if_false]
    cases ({ c with pd := ⟨args.endpoints⟩ } : Config).check <;> rfl

/-- **Given endpoints count where the endpoints that they replace have passed.**  Where the file's own
endpoints pass, what comes of it does not depend on them: it is the configuration with the given ones, or
what is complained about in the rest of it.  Where they do not pass, the complaint about them is all that
there is, whatever has been given.  So two files that differ in their endpoints alone come to the same when
these pass in both or fail in the same way, and else only when the given ones fail just like those of the
file that has been refused. -/
theorem given_endpoints_count_where_replaced_pass (hgiven : args.endpoints ≠ [])
    (hconfig : Config.Says files env args.config c) (hconfig' : Config.Says files' env args.config c')
    (hsame : { c with pd := c'.pd } = c') :
    (c.pd.validate = .ok () → (load files env args).value =
      Config.judged (c.checkBesides args.endpoints)
        ({ c with pd := ⟨args.endpoints⟩ }, args.config)) ∧
    (∀ e, c.pd.validate = .error e → (load files env args).value = .error (.invalid e)) ∧
    ((load files env args).value = (load files' env args).value ↔
      c.pd.validate = c'.pd.validate ∨
      c.pd.validate = .ok () ∧ c'.pd.validate = c.checkBesides args.endpoints ∨
      c'.pd.validate = .ok () ∧ c.pd.validate = c.checkBesides args.endpoints) := by
  have hload := value_load hgiven hconfig
  have hload' : (load files' env args).value =
      Config.judged (do c'.pd.validate; c.checkBesides args.endpoints)
        ({ c with pd := ⟨args.endpoints⟩ }, args.config) := by
    rw [value_load hgiven hconfig', ← hsame]
    rfl
  refine ⟨fun hpass => ?_, fun e hfail => ?_, ?_⟩
  · rw [hload, hpass]
    rfl
  · rw [hload, hfail]
    rfl
  · rw [hload, hload', Config.judged_bind_eq_iff]

def oneFile (text : String) : Files := Files.ofDirectory "etc" [("topo.toml", Text.asciiBytes text)]

def unset : Config.Environment := fun _ => none

/-- What is asked for with an endpoint and the path of that file. -/
def askedFor : Arguments := ⟨"etc/topo.toml", ["10.0.0.5:2379"], false⟩

def withOnly (endpoints : List String) : Config := { Config.default with pd := ⟨endpoints⟩ }

theorem one_endpoint_and_two_come_to_the_same :
    Config.Says (oneFile "[pd]\nendpoints = ['$\x7bTOPO_PD:-b:1\x7d']") unset askedFor.config
        (withOnly ["b:1"]) ∧
      Config.Says (oneFile "pd.endpoints = ['c:1', 'd:1']") unset askedFor.config
        (withOnly ["c:1", "d:1"]) ∧
      (load (oneFile "[pd]\nendpoints = ['$\x7bTOPO_PD:-b:1\x7d']") unset askedFor).value =
        .ok (withOnly ["10.0.0.5:2379"], "etc/topo.toml") ∧
      (load (oneFile "[pd]\nendpoints = ['$\x7bTOPO_PD:-b:1\x7d']") unset askedFor).value =
        (load (oneFile "pd.endpoints = ['c:1', 'd:1']") unset askedFor).value := by
  have hone : Config.Says (oneFile "[pd]\nendpoints = ['$\x7bTOPO_PD:-b:1\x7d']") unset askedFor.config
      (withOnly ["b:1"]) :=
    ⟨_, "[pd]\nendpoints = ['b:1']", rfl, by decide +kernel, by decide +kernel⟩
  have htwo : Config.Says (oneFile "pd.endpoints = ['c:1', 'd:1']") unset askedFor.config
      (withOnly ["c:1", "d:1"]) :=
    ⟨_, "pd.endpoints = ['c:1', 'd:1']", rfl, by decide +kernel, by decide +kernel⟩
  obtain ⟨hpass, -, hiff⟩ :=
    given_endpoints_count_where_replaced_pass (by decide) hone htwo rfl
  exact ⟨hone, htwo, (hpass (by decide +kernel)).trans (by decide +kernel),
    hiff.mpr (.inl (by decide +kernel))⟩

/-- Two files that differ in their endpoints alone, and not in what is given in the place of them. -/
theorem empty_endpoints_refuse_given_ones :
    parse ["--config", "etc/topo.toml", "--pd-endpoints", "10.0.0.5:2379"] = .ok askedFor ∧
      Config.Says (oneFile "[pd]\nendpoints = []") unset askedFor.config (withOnly []) ∧
      Config.Says (oneFile "[pd]\nendpoints = ['b:1']") unset askedFor.config (withOnly ["b:1"]) ∧
      (load (oneFile "[pd]\nendpoints = []") unset askedFor).value = .error (.invalid .noEndpoints) ∧
      (load (oneFile "[pd]\nendpoints = ['b:1']") unset askedFor).value =
        .ok (withOnly ["10.0.0.5:2379"], "etc/topo.toml") := by
  refine ⟨by decide +kernel, ⟨_, "[pd]\nendpoints = []", rfl, ?_, ?_⟩,
    ⟨_, "[pd]\nendpoints = ['b:1']", rfl, ?_, ?_⟩, ?_, ?_⟩
  all_goals decide +kernel

end CommandLine

end ClusterTopology
