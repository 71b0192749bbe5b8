import ClusterTopology.Data.Datum
/-!
Typed readers of data.

A reader takes a datum to a value or to the first thing wrong with it in reading order.  Records are
described by `Fields`: an applicative list of named fields, each required or with a default, together
with the function that puts the value together.  One description reads a record by its keys, and a
list by the positions of its items.

A record is read in two steps.  First the data for the fields are found, by `collect` under the keys or by
`assign` in the positions, and each of them is checked where it stands; then `Fields.build` puts the value
together.  A key of a field that comes twice is an error, and so is a field without a default that has not come.
Keys that belong to no field are passed over.

Checking and building are apart because what is wrong is reported in the order of the text, while the value is
built in the order of the fields.  Fields for which the two never disagree are `Sound`, which is the subject of
`Proofs.Data.Readability`.
-/

namespace ClusterTopology.Data

abbrev Reader (α : Type) := Datum → Except ReadError α

namespace Reader

/-! ### Single values -/

def unexpected {α : Type} (expected : String) (d : Datum) : Except ReadError α :=
  match d.found with
  | .ok found => .error (.mismatch (.type found expected))
  | .error f => .error (.fault f)

def text : Reader String
  | .text s => .ok s
  | d => unexpected "a string" d

def bool : Reader Bool
  | .bool b => .ok b
  | d => unexpected "a boolean" d

/-- An integer between `lo` and `hi`, both included. -/
def integer (expected : String) (lo hi : Int) : Reader Int
  | .integer n => if lo ≤ n ∧ n ≤ hi then .ok n else .error (.mismatch (.value n expected))
  | d => unexpected expected d

def uint16 : Reader UInt16 := fun d =>
  (integer "u16" 0 65535 d).map fun n => UInt16.ofNat n.toNat

def uint64 : Reader UInt64 := fun d =>
  (integer "u64" 0 18446744073709551615 d).map fun n => UInt64.ofNat n.toNat

def int64 : Reader Int :=
  integer "i64" (-9223372036854775808) 9223372036854775807

def option {α : Type} (r : Reader α) : Reader (Option α)
  | .null => .ok none
  | d => (r d).map some

def list {α : Type} (r : Reader α) : Reader (List α)
  | .list items ending => do
    let values ← items.mapM r
    match ending with
    | .closed => .ok values
    | .cut _ f => .error (.fault f)
  | d => unexpected "a sequence" d

/-- One of a few named cases: the name itself, or a record with the name as its only key and `null`
under it. -/
def variant {α : Type} (names : List String) (ofName? : String → Option α) : Reader α
  | .text s => known s
  | .record [] .closed => .error (.fault .malformed)
  | .record [] (.cut _ f) => .error (.fault f)
  | .record ((key, value) :: more) ending => do
    let v ← match key with
      | .text s => known s
      | .spoiled f => .error (.fault f)
      | .foreign (.ok found) => .error (.mismatch (.type found "variant identifier"))
      | .foreign (.error f) => .error (.fault f)
    match value with
    | .null =>
      match more, ending with
      | [], .closed => .ok v
      | [], .cut false f => .error (.fault f)
      | _, _ => .error (.fault .malformed)
    | d => unexpected "unit" d
  | .spoiled .nothing f | .spoiled .quote f => .error (.fault f)
  | _ => .error (.fault .malformed)
where
  known (s : String) : Except ReadError α :=
    match ofName? s with
    | some v => .ok v
    | none => .error (.mismatch (.variant s names))

end Reader

/-! ### Records -/

structure Entry where
  name : String
  /-- Whether the field has a default. -/
  mayLack : Bool
  /-- Whether a datum can be the value of the field. -/
  check : Datum → Except ReadError Unit

structure Fields (α : Type) where
  entries : List Entry
  /-- The value from the data under the names of the fields. -/
  build : (String → Option Datum) → Except ReadError α

namespace Fields

def required {α : Type} (name : String) (r : Reader α) : Fields α where
  entries := [⟨name, false, fun d => (r d).map fun _ => ()⟩]
  build := fun get =>
    match get name with
    | some d => r d
    | none => .error (.mismatch (.missing name))

def withDefault {α : Type} (name : String) (r : Reader α) (default : α) : Fields α where
  entries := [⟨name, true, fun d => (r d).map fun _ => ()⟩]
  build := fun get =>
    match get name with
    | some d => r d
    | none => .ok default

/-- A field without which there is no value of it, though a list has to give one. -/
def nullable {α : Type} (name : String) (r : Reader α) : Fields (Option α) where
  entries := [⟨name, false, fun d => (r.option d).map fun _ => ()⟩]
  build := fun get =>
    match get name with
    | some d => r.option d
    | none => .ok none

/-- Two groups of fields, the value of the first applied to that of the second. -/
def apply {α β : Type} (f : Fields (α → β)) (x : Fields α) : Fields β where
  entries := f.entries ++ x.entries
  build := fun get => do
    let g ← f.build get
    let a ← x.build get
    return g a

instance : Functor Fields where
  map f x := ⟨x.entries, fun get => (x.build get).map f⟩

instance : Seq Fields where
  seq f x := apply f (x ())

/-- The members of a record that belong to fields, in reading order.  A field comes at most once,
and what belongs to no field is passed over. -/
def collect (entries : List Entry) :
    List (Key × Datum) → List (String × Datum) → Except ReadError (List (String × Datum))
  | [], found => .ok found
  | (.spoiled f, _) :: _, _ => .error (.fault f)
  | (.foreign _, _) :: _, _ => .error (.fault .malformed)
  | (.text k, d) :: more, found =>
    match entries.find? fun e => e.name == k with
    | none =>
      match d.obstacle with
      | some f => .error (.fault f)
      | none => collect entries more found
    | some e =>
      if (found.lookup k).isSome then .error (.mismatch (.duplicate k))
      else do
        e.check d
        collect entries more ((k, d) :: found)

/-- The items of a list as the fields in their order, `n` of which have been met; `missing` is the
complaint about too few items. -/
def assign (missing : Nat → ReadError) (ending : Ending) :
    List Entry → List Datum → Nat → List (String × Datum) → Except ReadError (List (String × Datum))
  | [], _, _, found => .ok found
  | e :: es, d :: ds, n, found => do
    e.check d
    assign missing ending es ds (n + 1) ((e.name, d) :: found)
  | e :: es, [], n, found =>
    match ending with
    | .cut _ f => .error (.fault f)
    | .closed => if e.mayLack then assign missing ending es [] (n + 1) found else .error (missing n)

/-- Whether a format lets a list have more items than the record it stands for has fields. -/
inductive Surplus where
  | ignored
  | refused
deriving DecidableEq, Repr

/-- How the name of a record with `n` fields continues where a list has too few of them. -/
def countText (n : Nat) : String :=
  " with " ++ Text.natText n ++ (if n = 1 then " element" else " elements")

def reader {α : Type} (typeName : String) (surplus : Surplus) (fields : Fields α) : Reader α
  | .record members ending => do
    let found ← collect fields.entries members []
    match ending with
    | .cut _ f => .error (.fault f)
    | .closed => fields.build (found.lookup ·)
  | .list items ending => do
    let count := fields.entries.length
    let missing n := ReadError.mismatch (.length n ("struct " ++ typeName ++ countText count))
    let found ← assign missing ending fields.entries items 0 []
    let v ← fields.build (found.lookup ·)
    if count < items.length then
      match surplus with
      | .ignored => .ok v
      | .refused => .error (.fault .malformed)
    else
      match ending with
      | .closed => .ok v
      | .cut true _ => .error (.fault .malformed)
      | .cut false f => .error (.fault f)
  | d => Reader.unexpected ("struct " ++ typeName) d

end Fields

end ClusterTopology.Data
