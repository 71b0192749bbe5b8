import ClusterTopology.Text.Quoted
import ClusterTopology.Text.Basic
/-!
Armoured sections: data in Base64 between a line that begins a section and a line that ends it.

A text is read line by line.  Lines outside sections do not count.  A section may begin while another is
open: the first one is then forgotten, but what stood in it counts as data of the second.  Sections of a kind
that is not known are passed over, whatever stands in them.  Reading goes on until the first fault.

A fault in the Base64 of a section is one of these, and which of several is reported depends on the order in
which the symbols are looked at; so the reader takes them in blocks, as the rule for that is stated.

`find` gives all sections of a text up to its first fault, and the two questions that are asked of a text
are answered from that: its certificates, and its first private key.  A fault matters for the first question
always, and for the second only in front of the key.
-/

/-! ## Base64 as it stands in armoured sections

White space is passed over, the last group may be padded or not, and bits that no byte needs may be
anything.  The symbols are taken in blocks of eight.  Whether a block holds padding is looked at only
when the next symbol comes or the text ends, so a foreign byte soon after misplaced padding is what
gets reported. -/

namespace ClusterTopology.Base64

/-! ### Symbols -/

/-- A symbol of an encoded text: six bits, or padding. -/
inductive Symbol where
  | bits (n : Nat)
  | padding
deriving DecidableEq, Repr

/-- What a byte is in an encoded text; nothing when it does not belong there. -/
inductive Reading where
  | symbol (s : Symbol)
  | blank
  | foreign
deriving DecidableEq, Repr

/-- The alphabet is `A`–`Z`, `a`–`z`, `0`–`9`, `+` and `/`; padding is `=`. -/
def readByte (b : UInt8) : Reading :=
  let n := b.toNat
  if 65 ≤ n && n ≤ 90 then .symbol (.bits (n - 65))
  else if 97 ≤ n && n ≤ 122 then .symbol (.bits (n - 71))
  else if 48 ≤ n && n ≤ 57 then .symbol (.bits (n + 4))
  else if n == 43 then .symbol (.bits 62)
  else if n == 47 then .symbol (.bits 63)
  else if n == 61 then .symbol .padding
  else if (9 ≤ n && n ≤ 13) || n == 32 then .blank
  else .foreign

/-- The symbols up to the first foreign byte, and that byte. -/
def symbols : List UInt8 → List Symbol × Option UInt8
  | [] => ([], none)
  | b :: bs =>
    match readByte b with
    | .symbol s => (s :: (symbols bs).1, (symbols bs).2)
    | .blank => symbols bs
    | .foreign => ([], some b)

/-! ### Decoding -/

inductive Fault where
  /-- A byte that does not belong there. -/
  | foreign (byte : UInt8)
  /-- Padding before the last group. -/
  | earlyPadding
  /-- The last group is not a group. -/
  | badEnd
deriving DecidableEq, Repr

def Fault.message : Fault → String
  | foreign b => "InvalidCharacter(" ++ toString b.toNat ++ ")"
  | earlyPadding => "PrematurePadding"
  | badEnd => "InvalidTrailingPadding"

def threeBytes (a b c d : Nat) : List UInt8 :=
  let n := ((a * 64 + b) * 64 + c) * 64 + d
  [UInt8.ofNat (n / 65536), UInt8.ofNat (n / 256), UInt8.ofNat n]

/-- The bytes of the last group, which may be shorter than four symbols. -/
def lastGroup : List Symbol → Except Fault (List UInt8)
  | [] => .ok []
  | [.bits a, .bits b, .bits c, .bits d] => .ok (threeBytes a b c d)
  | [.bits a, .bits b, .bits c, .padding] | [.bits a, .bits b, .bits c] =>
    .ok ((threeBytes a b c 0).take 2)
  | [.bits a, .bits b, .padding, .padding] | [.bits a, .bits b] => .ok ((threeBytes a b 0 0).take 1)
  | _ => .error .badEnd

def fullGroup : Symbol → Symbol → Symbol → Symbol → Except Fault (List UInt8)
  | .bits a, .bits b, .bits c, .bits d => .ok (threeBytes a b c d)
  | _, _, _, _ => .error .earlyPadding

def lastBlock : List Symbol → Except Fault (List UInt8)
  | a :: b :: c :: d :: e :: rest => do
    let first ← fullGroup a b c d
    let last ← lastGroup (e :: rest)
    return first ++ last
  | group => lastGroup group

/-- The bytes of symbols, which are followed by the end or by a foreign byte. -/
def decodeSymbols (foreign : Option UInt8) : List Symbol → Except Fault (List UInt8)
  | a :: b :: c :: d :: e :: f :: g :: h :: next :: rest => do
    let first ← fullGroup a b c d
    let second ← fullGroup e f g h
    let bytes ← decodeSymbols foreign (next :: rest)
    return first ++ second ++ bytes
  | block =>
    match foreign with
    | some b => .error (.foreign b)
    | none => lastBlock block

def decode (text : List UInt8) : Except Fault (List UInt8) :=
  decodeSymbols (symbols text).2 (symbols text).1

end ClusterTopology.Base64

/-! ## Sections -/

namespace ClusterTopology.Pem

/-! ### Kinds -/

inductive Kind where
  | certificate
  | publicKey
  | rsaKey
  | privateKey
  | ecKey
  | revocationList
  | request
  | echConfigs
deriving DecidableEq, Repr

namespace Kind

def all : List Kind :=
  [certificate, publicKey, rsaKey, privateKey, ecKey, revocationList, request, echConfigs]

def label : Kind → String
  | certificate => "CERTIFICATE"
  | publicKey => "PUBLIC KEY"
  | rsaKey => "RSA PRIVATE KEY"
  | privateKey => "PRIVATE KEY"
  | ecKey => "EC PRIVATE KEY"
  | revocationList => "X509 CRL"
  | request => "CERTIFICATE REQUEST"
  | echConfigs => "ECHCONFIG"

def ofLabel? (l : List UInt8) : Option Kind :=
  all.find? fun k => Text.asciiBytes k.label == l

def isKey : Kind → Bool
  | rsaKey | privateKey | ecKey => true
  | _ => false

end Kind

structure Section where
  kind : Kind
  bytes : List UInt8
deriving DecidableEq, Repr

/-! ### Faults -/

inductive Fault where
  /-- A line begins a section but does not end as it should. -/
  | badBegin (line : List UInt8)
  /-- The text ends within a section. -/
  | noEnd (label : List UInt8)
  | data (fault : Base64.Fault)
deriving DecidableEq, Repr

def Fault.message : Fault → String
  | badBegin line => "illegal section start: " ++ Text.quoted (Text.lossyText line)
  | noEnd label => "section end " ++ Text.quoted (Text.lossyText label) ++ " missing"
  | data f => f.message

/-! ### Lines -/

def isLineEnd (b : UInt8) : Bool := b == 10 || b == 13

/-- The lines of a text that has a byte in front of others, whose lines are known. -/
def consLine (b : UInt8) (ls : List (List UInt8)) : List (List UInt8) :=
  if isLineEnd b then [b] :: ls
  else
    match ls with
    | [] => [[b]]
    | l :: ls => (b :: l) :: ls

/-- The lines of a text, each with the byte that ends it. -/
def lines (text : List UInt8) : List (List UInt8) :=
  text.foldr consLine []

theorem flatten_consLine (b : UInt8) (ls : List (List UInt8)) :
    (consLine b ls).flatten = b :: ls.flatten := by
  unfold consLine
  split
  · rfl
  · cases ls with
    | nil => rfl
    | cons l ls => rfl

def beginMark : List UInt8 := Text.asciiBytes "-----BEGIN "

def endMark : List UInt8 := Text.asciiBytes "-----END "

def dashes : List UInt8 := Text.asciiBytes "-----"

/-- The label of a line that begins a section, from what follows the mark: the line ends with five
hyphens, between and behind which blanks do not count. -/
def labelOf? (rest : List UInt8) : Option (List UInt8) :=
  let isTail (b : UInt8) : Bool := b == 45 || b == 32 || isLineEnd b
  let tail := (rest.reverse.takeWhile isTail).reverse
  if tail.count 45 = 5 then
    some (rest.take (rest.length - tail.length) ++ tail.takeWhile (· != 45))
  else none

def endsSection (label line : List UInt8) : Bool :=
  (endMark ++ label ++ dashes).isPrefixOf line

/-! ### Reading -/

structure Open where
  label : List UInt8
  /-- The lines that count as its data, in reverse order. -/
  data : List (List UInt8)
deriving DecidableEq, Repr

structure Found where
  sections : List Section
  fault : Option Fault
deriving DecidableEq, Repr

def read : Option Open → List (List UInt8) → Found
  | none, [] => ⟨[], none⟩
  | some o, [] => ⟨[], some (.noEnd o.label)⟩
  | o, line :: rest =>
    if beginMark.isPrefixOf line then
      match labelOf? (line.drop beginMark.length) with
      | none => ⟨[], some (.badBegin line)⟩
      | some label => read (some ⟨label, (o.map (·.data)).getD []⟩) rest
    else
      match o with
      | none => read none rest
      | some o =>
        if endsSection o.label line then
          match Kind.ofLabel? o.label with
          | none => read none rest
          | some kind =>
            match Base64.decode o.data.reverse.flatten with
            | .error f => ⟨[], some (.data f)⟩
            | .ok bytes =>
              let found := read none rest
              { found with sections := ⟨kind, bytes⟩ :: found.sections }
        else read (some { o with data := line :: o.data }) rest

def find (text : List UInt8) : Found :=
  read none (lines text)

/-- The certificates of a text; one fault anywhere spoils them all. -/
def certificates (text : List UInt8) : Except Fault (List (List UInt8)) :=
  let found := find text
  match found.fault with
  | some f => .error f
  | none => .ok ((found.sections.filter (·.kind == .certificate)).map (·.bytes))

/-- The first private key of a text; what follows it does not count. -/
def privateKey? (text : List UInt8) : Except Fault (Option Section) :=
  let found := find text
  match found.sections.find? (·.kind.isKey), found.fault with
  | some key, _ => .ok (some key)
  | none, some f => .error f
  | none, none => .ok none

end ClusterTopology.Pem
