import ClusterTopology.Text.Basic
import ClusterTopology.Event
import ClusterTopology.Text.Offset
import ClusterTopology.Config.Basic
import ClusterTopology.Toml.Document
/-!
Configurations from texts and files.

A file is what a file system has at a path, or the reason why it has nothing.  In its text the references to
the environment are resolved first, `${NAME}` and `${NAME:-default}`; then the text is read as TOML, and what
it says has to make sense.  What it does not say is as in the default configuration; tables and keys that mean
nothing here are passed over.

The references are replaced in place, as byte offsets say, and the offsets are those of a text that has just
been changed.  That this comes to one pass over the text as it was is shown in `Proofs.Config.Expansion`.

A `LoadError` tells apart a file that cannot be read, a text that is no TOML, a value of the wrong type, and
a configuration that makes no sense.  `Files` is a function, so a configuration can be loaded from any files
in a proof, and the program only has to fetch those that are asked for.
-/

namespace ClusterTopology

/-! ## Files -/

inductive FileError where
  | notFound
  /-- The path leads through something that is no directory. -/
  | notADirectory
  | isADirectory
  /-- The file is there, but it is no text. -/
  | notText
  /-- The path has a character that no path has. -/
  | badPath
  /-- Anything else, in the words of the system. -/
  | other (words : String)
deriving DecidableEq, Repr

def FileError.message : FileError → String
  | notFound => "No such file or directory (os error 2)"
  | notADirectory => "Not a directory (os error 20)"
  | isADirectory => "Is a directory (os error 21)"
  | notText => "stream did not contain valid UTF-8"
  | badPath => "file name contained an unexpected NUL byte"
  | other words => words

inductive FileEntry where
  | directory
  | file (bytes : List UInt8)
deriving DecidableEq, Repr

/-- A file system: what is at each path, or why nothing is. -/
abbrev Files := String → Except FileError FileEntry

namespace Files

def hasEntry (files : Files) (path : String) : Bool :=
  (files path).toBool

def readBytes (files : Files) (path : String) : Except FileError (List UInt8) :=
  if path.toList.contains '\x00' then .error .badPath
  else
    match files path with
    | .ok (.file bytes) => .ok bytes
    | .ok .directory => .error .isADirectory
    | .error e => .error e

def readText (files : Files) (path : String) : Except FileError String := do
  let bytes ← files.readBytes path
  match String.fromUTF8? bytes.toByteArray with
  | some s => .ok s
  | none => .error .notText

/-- A file system with one directory, named without a slash at its end, that holds files only. -/
def ofDirectory (directory : String) (entries : List (String × List UInt8)) : Files := fun path =>
  let parts (s : String) : List (List Char) := (s.toList.splitOn '/').filter fun p => p ≠ [] ∧ p ≠ ['.']
  let base := parts directory
  if base.isPrefixOf (parts path) then
    match (parts path).drop base.length with
    | [] => .ok .directory
    | name :: more =>
      match entries.find? fun e => e.1.toList == name with
      | none => .error .notFound
      | some (_, bytes) =>
        if more = [] ∧ path.toList.getLast? ≠ some '/' then .ok (.file bytes) else .error .notADirectory
  else .error .notFound

end Files

end ClusterTopology

/-! ## References to the environment

A reference goes from `${` to the next closing brace; where no closing brace follows, the rest of the text
stays as it is.  The references are replaced in the text itself, from left to right.  A cursor stands behind
what is done, so that what has been put in is not looked at again. -/

namespace ClusterTopology.Config

abbrev Environment := String → Option String

/-! ### Expansion -/

/-- What stands for a reference: the value of its variable, or else what follows the first `:-` in it.  A
variable without either is reported and leaves nothing. -/
def resolve? (env : Environment) (reference : List Char) : Option (Logged (List Char)) :=
  match Text.find? [':', '-'] reference with
  | some place => do
    let name ← Text.sliceTo? reference place
    let default ← Text.sliceFrom? reference (place + 2)
    return ⟨((env (String.ofList name)).map String.toList).getD default, []⟩
  | none =>
    match env (String.ofList reference) with
    | some v => some ⟨v.toList, []⟩
    | none => some ⟨[], [.variableMissing (String.ofList reference)]⟩

/-- A text that is being expanded, and the offset up to which it is done. -/
structure Draft where
  text : List Char
  cursor : Nat
deriving DecidableEq, Repr

inductive Turn where
  /-- There is no reference. -/
  | done
  /-- One is replaced. -/
  | replaced (d : Draft) (events : List Event)
deriving DecidableEq, Repr

namespace Draft

/-- How much of a text is not done. -/
def left (d : Draft) : Nat := Text.byteLength d.text - d.cursor

/-- The next reference replaced.  There is nothing where the text is to be cut at an offset that is no place
in it. -/
def turn (env : Environment) (d : Draft) : Option Turn := do
  let ahead ← Text.sliceFrom? d.text d.cursor
  match Text.find? ['$', '\x7b'] ahead with
  | none => return .done
  | some offset => do
    let start := d.cursor + offset
    let opened ← Text.sliceFrom? d.text start
    match Text.find? ['\x7d'] opened with
    | none => return .done
    | some length => do
      let reference ← Text.slice? d.text (start + 2) (start + length)
      let found ← resolve? env reference
      let text ← Text.replaceRange? d.text start (start + length + 1) found.value
      return .replaced ⟨text, start + Text.byteLength found.value⟩ found.events

/-- Whatever is put in, less is left afterwards. -/
theorem left_lt_of_turn {env : Environment} {d d' : Draft} {events : List Event}
    (h : d.turn env = some (.replaced d' events)) : d'.left < d.left := by
  simp only [turn, Option.bind_eq_bind, Option.bind_eq_some_iff, Option.pure_def] at h
  obtain ⟨ahead, -, h⟩ := h
  split at h
  · cases h
  · obtain ⟨opened, -, h⟩ := Option.bind_eq_some_iff.1 h
    split at h
    · cases h
    · simp only [Option.bind_eq_some_iff, Option.some.injEq, Turn.replaced.injEq] at h
      obtain ⟨reference, -, found, -, text, htext, rfl, -⟩ := h
      have := Text.byteLength_of_replaceRange? htext
      simp only [left]
      omega

/-- A draft without any reference behind its cursor, and what was reported on the way there. -/
def run (env : Environment) (d : Draft) : Option (Logged (List Char)) :=
  match h : d.turn env with
  | none => none
  | some .done => some ⟨d.text, []⟩
  | some (.replaced d' events) =>
    have : d'.left < d.left := left_lt_of_turn h
    (d'.run env).map fun r => ⟨r.value, events ++ r.events⟩
termination_by d.left

end Draft

def expand (env : Environment) (text : String) : Option (Logged String) :=
  (Draft.run env ⟨text.toList, 0⟩).map fun r => ⟨String.ofList r.value, r.events⟩

/-! ### Names -/

/-- A piece of a text: a character, or a reference without the braces around it. -/
inductive Piece where
  | plain (c : Char)
  | reference (r : List Char)
deriving DecidableEq, Repr

def pieces : List Char → List Piece
  | [] => []
  | '$' :: '\x7b' :: s =>
    let reference := s.takeWhile (· != '\x7d')
    match h : s.drop reference.length with
    | [] => ('$' :: '\x7b' :: s).map .plain
    | _ :: rest =>
      have : rest.length < s.length := by
        have := congrArg List.length h
        simp only [List.length_drop, List.length_cons] at this
        omega
      .reference reference :: pieces rest
  | c :: r => .plain c :: pieces r
termination_by cs => cs.length
decreasing_by
  · simp only [List.length_cons]
    omega
  · simp

/-- The name and the default of a reference, divided at the first `:-`. -/
def splitDefault : List Char → List Char × Option (List Char)
  | [] => ([], none)
  | ':' :: '-' :: r => ([], some r)
  | c :: r =>
    let (name, default) := splitDefault r
    (c :: name, default)

def referencedNames (text : String) : List String :=
  (pieces text.toList).filterMap fun
    | .plain _ => none
    | .reference r => some (String.ofList (splitDefault r).1)

/-! ## Configurations -/

open ClusterTopology.Data

inductive LoadError where
  /-- The file cannot be read. -/
  | file (e : FileError)
  /-- A reference in it was to be replaced at a place that is none. -/
  | misplaced
  /-- The text is not TOML. -/
  | malformed
  /-- Something in it has the wrong type. -/
  | mismatch (m : Mismatch)
  | invalid (e : Invalid)
deriving DecidableEq, Repr

def LoadError.message : LoadError → String
  | file e => e.message
  | misplaced => "byte index is not a char boundary"
  | malformed => "malformed TOML"
  | mismatch m => m.message
  | invalid e => e.message

/-- The configuration that a TOML text says, whether it makes sense or not. -/
def read (text : String) : Except LoadError Config :=
  match Toml.decodeText text with
  | none => .error .malformed
  | some d =>
    match Config.reader .ignored d with
    | .ok c => .ok c
    | .error (.mismatch m) => .error (.mismatch m)
    | .error (.fault _) => .error .malformed

/-- A configuration that makes sense, or the first complaint about it. -/
def validated (c : Config) : Logged (Except LoadError Config) := do
  match ← c.validate with
  | .ok () => return .ok c
  | .error e => return .error (.invalid e)

def ofText (env : Environment) (text : String) : Logged (Except LoadError Config) :=
  match expand env text with
  | none => pure (.error .misplaced)
  | some expanded => do
    match read (← expanded) with
    | .ok c => validated c
    | .error e => return .error e

def ofFile (files : Files) (env : Environment) (path : String) : Logged (Except LoadError Config) :=
  match files.readText path with
  | .error e => pure (.error (.file e))
  | .ok text => do
    match ← ofText env text with
    | .ok c =>
      Logged.report (.configRead path)
      return .ok c
    | .error e => return .error e

end ClusterTopology.Config
