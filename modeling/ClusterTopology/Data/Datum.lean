import ClusterTopology.Text.Basic
import ClusterTopology.Text.Quoted
/-!
Data as a text gave it: values, lists of them and records, up to where the text could be followed.

A text may be faulty far behind the place that decides what it means, and the first of its faults in
reading order is the one to report.  So the reading of a text does not fail as a whole: it gives a
tree whose lists and records say how they end, and a value that can be passed over but not be looked
at stands in it as `spoiled`.  A typed reader walks the tree in reading order and meets its own
mismatches and the faults of the text in their order.

Data of this one kind are what both formats give, JSON and TOML, so that one set of readers serves for both.
`Fault` is what can be wrong with a text and `Mismatch` what can be wrong with well-formed data; `ReadError` is
either, with the message that is shown for it.  A mismatch says what was found and what was expected, and
`Found` is a value as far as such a message shows it.
-/

namespace ClusterTopology.Data

/-! ### Faults of a text -/

/-- How a text breaks the rules of its format. -/
inductive Fault where
  /-- The text ends too early. -/
  | incomplete
  /-- The text goes on in a way that the format does not allow. -/
  | malformed
deriving DecidableEq, Repr

inductive Ending where
  /-- By its closing bracket. -/
  | closed
  /-- By a fault; `afterComma` tells whether a comma has been read since the last item. -/
  | cut (afterComma : Bool) (fault : Fault)
deriving DecidableEq, Repr

/-! ### Values -/

inductive Start where
  /-- With nothing that could start a value. -/
  | nothing
  /-- With a quote. -/
  | quote
  /-- With the start of a number or a word. -/
  | other
deriving DecidableEq, Repr

/-- A value as a message shows it: a list and a record without what is in them. -/
inductive Found where
  | null
  | bool (b : Bool)
  | integer (n : Int)
  | real (text : String)
  | text (s : String)
  | list
  | record
deriving DecidableEq, Repr

inductive Key where
  | text (s : String)
  /-- A text that cannot be read. -/
  | spoiled (fault : Fault)
  /-- A value of another kind, at which a record is cut; it may be unreadable itself. -/
  | foreign (found : Except Fault Found)

/-- A value, as far as the text gives one. -/
inductive Datum where
  | null
  | bool (b : Bool)
  | integer (n : Int)
  /-- A number with a fraction or an exponent, or too large for an integer; only its text matters. -/
  | real (text : String)
  | text (s : String)
  | list (items : List Datum) (ending : Ending)
  /-- The members in the order of the text. -/
  | record (members : List (Key × Datum)) (ending : Ending)
  /-- A value that only a reader without interest in it can pass. -/
  | spoiled (start : Start) (fault : Fault)

namespace Datum

/-- The fault met in passing over a value: a cut list or record cannot be passed. -/
def obstacle : Datum → Option Fault
  | list _ (.cut _ f) | record _ (.cut _ f) => some f
  | _ => none

def found : Datum → Except Fault Found
  | null => .ok .null
  | bool b => .ok (.bool b)
  | integer n => .ok (.integer n)
  | real t => .ok (.real t)
  | text s => .ok (.text s)
  | list .. => .ok .list
  | record .. => .ok .record
  | spoiled _ f => .error f

end Datum

/-! ### Mismatches -/

/-- Why well-formed data is not a value of the expected type. -/
inductive Mismatch where
  | type (found : Found) (expected : String)
  | value (n : Int) (expected : String)
  | length (n : Nat) (expected : String)
  | missing (field : String)
  | duplicate (field : String)
  | variant (name : String) (known : List String)
deriving DecidableEq, Repr

namespace Found

def message : Found → String
  | null => "null"
  | bool b => "boolean `" ++ (if b then "true" else "false") ++ "`"
  | integer n => "integer `" ++ Text.intText n ++ "`"
  | real t => "floating point `" ++ t ++ "`"
  | text s => "string " ++ Text.quoted s
  | list => "sequence"
  | record => "map"

end Found

def marked (name : String) : String :=
  "`" ++ name ++ "`"

def Mismatch.message : Mismatch → String
  | .type found expected => "invalid type: " ++ found.message ++ ", expected " ++ expected
  | .value n expected => "invalid value: integer " ++ marked (Text.intText n) ++ ", expected " ++ expected
  | .length n expected => "invalid length " ++ Text.natText n ++ ", expected " ++ expected
  | .missing field => "missing field " ++ marked field
  | .duplicate field => "duplicate field " ++ marked field
  | .variant name known =>
    "unknown variant " ++ marked name ++ ", expected " ++
      match known.map marked with
      | [one] => one
      | [one, two] => one ++ " or " ++ two
      | names => "one of " ++ String.intercalate ", " names

inductive ReadError where
  | fault (f : Fault)
  | mismatch (m : Mismatch)
deriving DecidableEq, Repr

def ReadError.message : ReadError → String
  | .fault .incomplete => "unexpected end of data"
  | .fault .malformed => "malformed data"
  | .mismatch m => m.message

end ClusterTopology.Data
