import ClusterTopology.Text.Basic
import ClusterTopology.Json.Token
import ClusterTopology.Data.Reader
/-!
JSON texts: the values that are written, and the data that are read.

What this library writes is a `Value`, and its text has no white space.  What it reads may be any text, and
one that breaks the rules of JSON far behind the place that decides what it means; so reading gives a `Datum`,
whose lists and records say how they end.

The tokens of a text are taken one by one.  What has been opened and not yet closed is a stack of frames, and
what may come next is a `Want`; when the text breaks the rules or ends, the frames are closed as cut.

`decode` is what the clients use: the document of some bytes, a typed reader, and nothing but white space
behind the value.  The reader comes first, so what is wrong with the value is reported before what stands
behind it.
-/

namespace ClusterTopology.Json

/-! ## Values and their texts

The text has no white space.  In a string the quote, the backslash and the controls are escaped,
five of the controls by a letter and the others by their number; everything else stands for itself. -/

inductive Value where
  | null
  | bool (b : Bool)
  | int (n : Int)
  | str (s : String)
  | arr (items : List Value)
  | obj (members : List (String × Value))

/-! ### Strings -/

def escape (c : Char) : List Char :=
  if c = '"' then ['\\', '"']
  else if c = '\\' then ['\\', '\\']
  else if c = '\x08' then ['\\', 'b']
  else if c = '\t' then ['\\', 't']
  else if c = '\n' then ['\\', 'n']
  else if c = '\x0c' then ['\\', 'f']
  else if c = '\r' then ['\\', 'r']
  else if c.toNat < 0x20 then
    ['\\', 'u', '0', '0', (c.toNat / 16).digitChar, (c.toNat % 16).digitChar]
  else [c]

def stringChars (s : String) : List Char :=
  '"' :: s.toList.flatMap escape ++ ['"']

/-! ### Values -/

mutual

def Value.chars : Value → List Char
  | .null => ['n', 'u', 'l', 'l']
  | .bool true => ['t', 'r', 'u', 'e']
  | .bool false => ['f', 'a', 'l', 's', 'e']
  | .int n => (Text.intText n).toList
  | .str s => stringChars s
  | .arr items => '[' :: itemsChars items ++ [']']
  | .obj members => '\x7b' :: membersChars members ++ ['\x7d']

def itemsChars : List Value → List Char
  | [] => []
  | [v] => v.chars
  | v :: w :: vs => v.chars ++ ',' :: itemsChars (w :: vs)

def membersChars : List (String × Value) → List Char
  | [] => []
  | [(k, v)] => stringChars k ++ ':' :: v.chars
  | (k, v) :: m :: ms => stringChars k ++ ':' :: (v.chars ++ ',' :: membersChars (m :: ms))

end

def Value.text (v : Value) : String :=
  String.ofList v.chars

/-! ## The datum that a text stands for -/

open ClusterTopology.Data

/-! ### The state of reading -/

/-- A list or a record that is still open, what it holds so far in reverse order. -/
inductive Frame where
  | list (items : List Datum)
  /-- The key is the one whose value is being read, if there is one. -/
  | record (members : List (Key × Datum)) (key : Option Key)

inductive Want where
  | value
  /-- The first item of a list, or its end. -/
  | firstItem
  /-- The first key of a record, or its end. -/
  | firstKey
  | key
  | colon
  /-- A comma, or the end of the list or record. -/
  | next
deriving DecidableEq, Repr

/-! ### Closing -/

/-- A frame as a cut list or record, with the value that was being read in it. -/
def Frame.cut (f : Fault) (afterComma : Bool) (inner : Option Datum) : Frame → Datum
  | .list items =>
    .list (inner.toList ++ items).reverse (.cut (afterComma && inner.isNone) f)
  | .record members key =>
    let last := key.map fun k => (k, inner.getD (.spoiled .nothing f))
    .record (last.toList ++ members).reverse (.cut (afterComma && last.isNone) f)

def cutAll (f : Fault) (afterComma : Bool) : Option Datum → List Frame → Datum
  | inner, [] => inner.getD (.spoiled .nothing f)
  | inner, frame :: frames => cutAll f false (some (frame.cut f afterComma inner)) frames

/-- A text that breaks the rules where `want` was expected. -/
def broken (f : Fault) (want : Want) (frames : List Frame) : Datum :=
  cutAll f (want == .value || want == .key) none frames

def brokenAtKey (found : Except Fault Found) (want : Want) (frames : List Frame) : Datum :=
  match frames with
  | .record members none :: frames =>
    cutAll .malformed false none (.record members (some (.foreign found)) :: frames)
  | frames => broken .malformed want frames

/-! ### Reading -/

/-- The datum that tokens stand for when `want` may come next within `frames`, and whether tokens are
left over behind it. -/
def read : Want → List Frame → List Token → Datum × Bool
  | want, frames, [] => (broken .incomplete want frames, false)
  | want, frames, .fault f :: _ => (broken f want frames, false)
  | want, frames, token :: rest =>
    -- a finished value goes into the innermost frame, or ends the text
    let finish (d : Datum) (frames : List Frame) : Datum × Bool :=
      match frames with
      | [] => (d, !rest.isEmpty)
      | .list items :: frames => read .next (.list (d :: items) :: frames) rest
      | .record members (some k) :: frames =>
        read .next (.record ((k, d) :: members) none :: frames) rest
      | .record .. :: _ => (broken .malformed want frames, false)
    match want, token, frames with
    | .value, .value d, frames | .firstItem, .value d, frames => finish d frames
    | .value, .openList, frames | .firstItem, .openList, frames =>
      read .firstItem (.list [] :: frames) rest
    | .value, .openRecord, frames | .firstItem, .openRecord, frames =>
      read .firstKey (.record [] none :: frames) rest
    | .firstItem, .closeList, .list items :: frames
    | .next, .closeList, .list items :: frames => finish (.list items.reverse .closed) frames
    | .firstKey, .closeRecord, .record members none :: frames
    | .next, .closeRecord, .record members none :: frames =>
      finish (.record members.reverse .closed) frames
    | .firstKey, .value (.text k), .record members none :: frames
    | .key, .value (.text k), .record members none :: frames =>
      read .colon (.record members (some (.text k)) :: frames) rest
    | .firstKey, .value (.spoiled .quote f), .record members none :: frames
    | .key, .value (.spoiled .quote f), .record members none :: frames =>
      read .colon (.record members (some (.spoiled f)) :: frames) rest
    | .firstKey, .value d, frames | .key, .value d, frames =>
      (brokenAtKey d.found want frames, false)
    | .firstKey, .openList, frames | .key, .openList, frames =>
      (brokenAtKey (.ok .list) want frames, false)
    | .firstKey, .openRecord, frames | .key, .openRecord, frames =>
      (brokenAtKey (.ok .record) want frames, false)
    | .colon, .colon, frames => read .value frames rest
    | .next, .comma, .list items :: frames => read .value (.list items :: frames) rest
    | .next, .comma, .record members none :: frames =>
      read .key (.record members none :: frames) rest
    | want, _, frames => (broken .malformed want frames, false)

/-- A text as a datum, and whether more follows it. -/
structure Document where
  root : Datum
  trailing : Bool

def Document.ofBytes (bs : List UInt8) : Document :=
  let (root, trailing) := read .value [] (tokens bs)
  ⟨root, trailing⟩

/-- The value that a text stands for, by a typed reader.  Nothing may follow it. -/
def decode {α : Type} (reader : Reader α) (bs : List UInt8) : Except ReadError α := do
  let doc := Document.ofBytes bs
  let v ← reader doc.root
  if doc.trailing then .error (.fault .malformed) else return v

def decodeText {α : Type} (reader : Reader α) (s : String) : Except ReadError α :=
  decode reader s.toUTF8.toList

end ClusterTopology.Json
