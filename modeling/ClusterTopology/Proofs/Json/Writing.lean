import Mathlib.Tactic.Common
import ClusterTopology.Json.Document
import ClusterTopology.Proofs.Json.Numbers
/-!
A value that has been written is read back.

The text of a value is read within whatever is open around it, and with any text behind it that does not go on
with a number.  Reading comes to the datum of the value, puts it into the innermost open list or record, and
goes on behind it.

`Value.datum` says what should come back.  The proof follows the shape of a value, with the items of a list
and the members of a record as the other two cases of one mutual induction: `read_written`, `read_items` and
`read_members`.  Its statement has to speak of any frames around the value and of any tokens behind it,
since the parts of a value are read in the middle of a text.  `Takes` says that the innermost frame waits
for a value, and `put` is what becomes of the frames when it has come.

What is used of tokens is one equation for each bracket, mark and word, and one for strings and integers
each.
-/

namespace ClusterTopology.Json

open ClusterTopology.Data

/-! ### The datum of a value -/

mutual

def Value.datum : Value → Datum
  | .null => .null
  | .bool b => .bool b
  | .int n => (intNumeral n).datum
  | .str s => .text s
  | .arr items => .list (itemsData items) .closed
  | .obj members => .record (membersData members) .closed

def itemsData : List Value → List Datum
  | [] => []
  | v :: vs => v.datum :: itemsData vs

def membersData : List (String × Value) → List (Key × Datum)
  | [] => []
  | (k, v) :: ms => (.text k, v.datum) :: membersData ms

end

theorem itemsData_eq_map (vs : List Value) : itemsData vs = vs.map Value.datum := by
  induction vs with
  | nil => rfl
  | cons v vs ih => rw [itemsData, ih, List.map_cons]

theorem membersData_eq_map (ms : List (String × Value)) :
    membersData ms = ms.map fun m => (.text m.1, m.2.datum) := by
  induction ms with
  | nil => rfl
  | cons m ms ih => rw [membersData, ih, List.map_cons]

theorem Numeral.obstacle_datum (n : Numeral) : n.datum.obstacle = none := by
  rw [Numeral.datum]
  cases n.realText?
  all_goals
    dsimp only
    repeat' split
    all_goals rfl

/-- A written value can be passed over. -/
theorem Value.obstacle_datum (v : Value) : v.datum.obstacle = none := by
  cases v with
  | int n => exact Numeral.obstacle_datum (intNumeral n)
  | null | bool _ | str _ | arr _ | obj _ => rfl

/-! ### Tokens -/

variable {rest : List UInt8}

theorem tokens_mark {b : UInt8} {t : Token} (hspace : isSpace b = false)
    (hlead : ∀ r, lead b r = ([t], r)) (rest : List UInt8) : tokens (b :: rest) = t :: tokens rest := by
  rw [tokens_cons hspace, hlead]
  rfl

theorem tokens_openList (rest : List UInt8) : tokens (byte '[' :: rest) = .openList :: tokens rest :=
  tokens_mark rfl (fun _ => rfl) rest

theorem tokens_closeList (rest : List UInt8) : tokens (byte ']' :: rest) = .closeList :: tokens rest :=
  tokens_mark rfl (fun _ => rfl) rest

theorem tokens_openRecord (rest : List UInt8) :
    tokens (byte '\x7b' :: rest) = .openRecord :: tokens rest :=
  tokens_mark rfl (fun _ => rfl) rest

theorem tokens_closeRecord (rest : List UInt8) :
    tokens (byte '\x7d' :: rest) = .closeRecord :: tokens rest :=
  tokens_mark rfl (fun _ => rfl) rest

theorem tokens_comma (rest : List UInt8) : tokens (byte ',' :: rest) = .comma :: tokens rest :=
  tokens_mark rfl (fun _ => rfl) rest

theorem tokens_colon (rest : List UInt8) : tokens (byte ':' :: rest) = .colon :: tokens rest :=
  tokens_mark rfl (fun _ => rfl) rest

theorem tokens_null (rest : List UInt8) :
    tokens (utf8 ['n', 'u', 'l', 'l'] ++ rest) = .value .null :: tokens rest := by
  have hlead : lead (byte 'n') (utf8 ['u', 'l', 'l'] ++ rest) = ([.value .null], rest) := rfl
  have hcons := tokens_cons (b := byte 'n') rfl (utf8 ['u', 'l', 'l'] ++ rest)
  rwa [hlead] at hcons

theorem tokens_true (rest : List UInt8) :
    tokens (utf8 ['t', 'r', 'u', 'e'] ++ rest) = .value (.bool true) :: tokens rest := by
  have hlead : lead (byte 't') (utf8 ['r', 'u', 'e'] ++ rest) = ([.value (.bool true)], rest) := rfl
  have hcons := tokens_cons (b := byte 't') rfl (utf8 ['r', 'u', 'e'] ++ rest)
  rwa [hlead] at hcons

theorem tokens_false (rest : List UInt8) :
    tokens (utf8 ['f', 'a', 'l', 's', 'e'] ++ rest) = .value (.bool false) :: tokens rest := by
  have hlead : lead (byte 'f') (utf8 ['a', 'l', 's', 'e'] ++ rest) = ([.value (.bool false)], rest) := rfl
  have hcons := tokens_cons (b := byte 'f') rfl (utf8 ['a', 'l', 's', 'e'] ++ rest)
  rwa [hlead] at hcons

theorem lead_quote {r : List UInt8} (h : (scanString r).fault = none) :
    lead (byte '"') r = ([.value (scanString r).datum], (scanString r).rest) := by
  unfold lead
  simp only [h]
  rfl

theorem tokens_string (s : String) (rest : List UInt8) :
    tokens (utf8 (stringChars s) ++ rest) = .value (.text s) :: tokens rest := by
  obtain ⟨scan, hscan, hfault, hrest, hdatum⟩ := scanString_escaped s rest
  have hbytes : utf8 (stringChars s) ++ rest =
      byte '"' :: (utf8 (s.toList.flatMap escape) ++ byte '"' :: rest) := by
    have hquote : String.utf8EncodeChar '"' = [byte '"'] := rfl
    have hend : utf8 ['"'] = [byte '"'] := rfl
    rw [stringChars, List.cons_append, utf8_cons, utf8_append, hquote, hend, List.append_assoc,
      List.append_assoc]
    rfl
  rw [hbytes, tokens_cons rfl, lead_quote (hscan ▸ hfault), hscan, hrest, hdatum]
  rfl

theorem lead_of_numeral {b : UInt8} (h : b = byte '-' ∨ isDigit b = true) (r : List UInt8) :
    lead b r = faulty .other ((numeral? (b :: r)).map fun (n, r) => (n.datum, r)) := by
  have hne {c : Char} (hminus : byte c ≠ byte '-') (hdigit : isDigit (byte c) = false) : b ≠ byte c := by
    rintro rfl
    rcases h with hsame | hsome
    · exact hminus hsame
    · cases hdigit.symm.trans hsome
  rw [lead]
  rw [if_neg (hne (by decide) rfl), if_neg (hne (by decide) rfl), if_neg (hne (by decide) rfl),
    if_neg (hne (by decide) rfl), if_neg (hne (by decide) rfl), if_neg (hne (by decide) rfl),
    if_neg (hne (by decide) rfl), if_neg (hne (by decide) rfl), if_neg (hne (by decide) rfl),
    if_neg (hne (by decide) rfl), if_pos h]

theorem isSpace_of_isDigit {b : UInt8} (h : isDigit b = true) : isSpace b = false := by
  have hne {c : UInt8} (hc : isDigit c = false) : b ≠ c := by
    rintro rfl
    cases h.symm.trans hc
  simp [isSpace, hne (c := 0x20) rfl, hne (c := 0x0A) rfl, hne (c := 0x0D) rfl, hne (c := 0x09) rfl]

theorem tokens_int (n : Int) (hrest : Stops rest) :
    tokens (utf8 (Text.intText n).toList ++ rest) = .value (intNumeral n).datum :: tokens rest := by
  have hread := numeral?_intText n hrest
  obtain ⟨b, r, hcons, hb⟩ := exists_cons_intText n
  have hspace : isSpace b = false := by
    rcases hb with rfl | hb
    · rfl
    · exact isSpace_of_isDigit hb
  rw [hcons, List.cons_append] at hread ⊢
  rw [tokens_cons hspace, lead_of_numeral hb, hread]
  rfl

/-! ### Reading -/

/-- A finished value goes into the innermost open list or record, or ends the text. -/
def put (d : Datum) : List Frame → List Token → Datum × Bool
  | [], ts => (d, !ts.isEmpty)
  | .list items :: frames, ts => read .next (.list (d :: items) :: frames) ts
  | .record members (some k) :: frames, ts => read .next (.record ((k, d) :: members) none :: frames) ts
  | .record members none :: frames, _ => (broken .malformed .next (.record members none :: frames), false)

/-- A value may come next: the innermost record, if it is one, has a key for it. -/
def Takes : List Frame → Prop
  | .record _ none :: _ => False
  | _ => True

variable {frames : List Frame} {want : Want} {d : Datum} {acc : List Datum}
  {members : List (Key × Datum)} {k : String} {ts : List Token}

theorem takes_list (acc : List Datum) (frames : List Frame) : Takes (.list acc :: frames) := trivial

theorem takes_value (members : List (Key × Datum)) (k : Key) (frames : List Frame) :
    Takes (.record members (some k) :: frames) := trivial

theorem read_value (h : Takes frames) (hwant : want = .value ∨ want = .firstItem) :
    read want frames (.value d :: ts) = put d frames ts := by
  rcases hwant with rfl | rfl <;> rcases frames with _ | ⟨⟨items⟩ | ⟨members, _ | k⟩, frames⟩
  all_goals first | rfl | exact h.elim

theorem read_openList (hwant : want = .value ∨ want = .firstItem) :
    read want frames (.openList :: ts) = read .firstItem (.list [] :: frames) ts := by
  rcases hwant with rfl | rfl <;> rfl

theorem read_openRecord (hwant : want = .value ∨ want = .firstItem) :
    read want frames (.openRecord :: ts) = read .firstKey (.record [] none :: frames) ts := by
  rcases hwant with rfl | rfl <;> rfl

theorem read_closeList (hwant : want = .next ∨ want = .firstItem) :
    read want (.list acc :: frames) (.closeList :: ts) = put (.list acc.reverse .closed) frames ts := by
  rcases hwant with rfl | rfl <;> rcases frames with _ | ⟨⟨items⟩ | ⟨members, _ | k⟩, frames⟩ <;> rfl

theorem read_closeRecord (hwant : want = .next ∨ want = .firstKey) :
    read want (.record members none :: frames) (.closeRecord :: ts) =
      put (.record members.reverse .closed) frames ts := by
  rcases hwant with rfl | rfl <;> rcases frames with _ | ⟨⟨items⟩ | ⟨members, _ | k⟩, frames⟩ <;> rfl

theorem read_comma_list :
    read .next (.list acc :: frames) (.comma :: ts) = read .value (.list acc :: frames) ts := rfl

theorem read_comma_record :
    read .next (.record members none :: frames) (.comma :: ts) =
      read .key (.record members none :: frames) ts := rfl

theorem read_key (hwant : want = .key ∨ want = .firstKey) :
    read want (.record members none :: frames) (.value (.text k) :: .colon :: ts) =
      read .value (.record members (some (.text k)) :: frames) ts := by
  rcases hwant with rfl | rfl <;> rfl

theorem stops_mark {b : UInt8} (h : b = byte ',' ∨ b = byte ']' ∨ b = byte '\x7d') (rest : List UInt8) :
    Stops (b :: rest) := by
  rcases h with rfl | rfl | rfl <;> exact stops_cons (by decide) rest

theorem utf8_cons_ascii {c : Char} (h : c.toNat < 128) (cs : List Char) :
    utf8 (c :: cs) = byte c :: utf8 cs := by
  rw [utf8_cons, utf8EncodeChar_of_lt h, List.singleton_append]

theorem utf8_close_list (rest : List UInt8) : utf8 [']'] ++ rest = byte ']' :: rest := rfl

theorem utf8_close_record (rest : List UInt8) : utf8 ['\x7d'] ++ rest = byte '\x7d' :: rest := rfl

mutual

/-- **A value that has been written is read back.** -/
theorem read_written (v : Value) {frames : List Frame} {want : Want} {rest : List UInt8} (h : Takes frames)
    (hwant : want = .value ∨ want = .firstItem) (hrest : Stops rest) :
    read want frames (tokens (utf8 v.chars ++ rest)) = put v.datum frames (tokens rest) := by
  match v with
  | .null => rw [Value.chars, tokens_null, read_value h hwant, Value.datum]
  | .bool true => rw [Value.chars, tokens_true, read_value h hwant, Value.datum]
  | .bool false => rw [Value.chars, tokens_false, read_value h hwant, Value.datum]
  | .int n => rw [Value.chars, tokens_int n hrest, read_value h hwant, Value.datum]
  | .str s => rw [Value.chars, tokens_string, read_value h hwant, Value.datum]
  | .arr items =>
    rw [Value.chars, List.cons_append, utf8_cons_ascii (by decide), utf8_append, List.cons_append,
      List.append_assoc, utf8_close_list, tokens_openList, read_openList hwant,
      read_items items (.inl rfl), Value.datum]
    rfl
  | .obj members =>
    rw [Value.chars, List.cons_append, utf8_cons_ascii (by decide), utf8_append, List.cons_append,
      List.append_assoc, utf8_close_record, tokens_openRecord, read_openRecord hwant,
      read_members members (.inl rfl), Value.datum]
    rfl

/-- Items are read up to the end of their list. -/
theorem read_items (items : List Value) {frames : List Frame} {want : Want} {acc : List Datum}
    {rest : List UInt8} (hwant : want = .firstItem ∨ want = .value ∧ items ≠ []) :
    read want (.list acc :: frames) (tokens (utf8 (itemsChars items) ++ byte ']' :: rest)) =
      put (.list (acc.reverse ++ itemsData items) .closed) frames (tokens rest) := by
  match items with
  | [] =>
    have hfirst : want = .firstItem := hwant.resolve_right fun h => h.2 rfl
    have hnil : utf8 (itemsChars []) = [] := by rw [itemsChars]; rfl
    rw [hnil, List.nil_append, tokens_closeList, read_closeList (.inr hfirst), itemsData,
      List.append_nil]
  | [v] =>
    have hvalue : want = .value ∨ want = .firstItem := hwant.symm.imp_left And.left
    rw [itemsChars, read_written v (takes_list acc frames) hvalue (stops_mark (.inr (.inl rfl)) rest), put,
      tokens_closeList, read_closeList (.inl rfl), itemsData, itemsData, List.reverse_cons]
  | v :: w :: vs =>
    have hvalue : want = .value ∨ want = .firstItem := hwant.symm.imp_left And.left
    rw [itemsChars, utf8_append, utf8_cons_ascii (by decide), List.append_assoc, List.cons_append,
      read_written v (takes_list acc frames) hvalue (stops_mark (.inl rfl) _), put, tokens_comma,
      read_comma_list,
      read_items (w :: vs) (.inr ⟨rfl, List.cons_ne_nil w vs⟩), List.reverse_cons, List.append_assoc,
      List.singleton_append]
    rfl

/-- Members are read up to the end of their record. -/
theorem read_members (members : List (String × Value)) {frames : List Frame} {want : Want}
    {acc : List (Key × Datum)} {rest : List UInt8}
    (hwant : want = .firstKey ∨ want = .key ∧ members ≠ []) :
    read want (.record acc none :: frames)
        (tokens (utf8 (membersChars members) ++ byte '\x7d' :: rest)) =
      put (.record (acc.reverse ++ membersData members) .closed) frames (tokens rest) := by
  match members with
  | [] =>
    have hfirst : want = .firstKey := hwant.resolve_right fun h => h.2 rfl
    have hnil : utf8 (membersChars []) = [] := by rw [membersChars]; rfl
    rw [hnil, List.nil_append, tokens_closeRecord, read_closeRecord (.inr hfirst), membersData,
      List.append_nil]
  | [(k, v)] =>
    have hkey : want = .key ∨ want = .firstKey := hwant.symm.imp_left And.left
    rw [membersChars, utf8_append, utf8_cons_ascii (by decide), List.append_assoc, List.cons_append,
      tokens_string, tokens_colon, read_key hkey,
      read_written v (takes_value acc (.text k) frames) (.inl rfl) (stops_mark (.inr (.inr rfl)) rest), put,
      tokens_closeRecord, read_closeRecord (.inl rfl), membersData, membersData, List.reverse_cons]
  | (k, v) :: m :: ms =>
    have hkey : want = .key ∨ want = .firstKey := hwant.symm.imp_left And.left
    rw [membersChars, utf8_append, utf8_cons_ascii (by decide), utf8_append, utf8_cons_ascii (by decide),
      List.append_assoc, List.cons_append, List.append_assoc, List.cons_append, tokens_string, tokens_colon,
      read_key hkey, read_written v (takes_value acc (.text k) frames) (.inl rfl) (stops_mark (.inl rfl) _),
      put, tokens_comma, read_comma_record, read_members (m :: ms) (.inr ⟨rfl, List.cons_ne_nil m ms⟩),
      List.reverse_cons, List.append_assoc, List.singleton_append]
    rfl

end

/-! ### Whole texts -/

/-- A text stands for what its document is read as, when nothing follows that. -/
theorem decode_eq_ok_iff {α : Type} {reader : Reader α} {bytes : List UInt8} {v : α} :
    decode reader bytes = .ok v ↔
      reader (Document.ofBytes bytes).root = .ok v ∧ (Document.ofBytes bytes).trailing = false := by
  rw [decode, bind_eq_ok_iff]
  constructor
  · rintro ⟨v', hread, hrest⟩
    split at hrest
    · cases hrest
    · next htrailing =>
      cases hrest
      exact ⟨hread, Bool.eq_false_of_not_eq_true htrailing⟩
  · rintro ⟨hread, htrailing⟩
    refine ⟨v, hread, ?_⟩
    rw [htrailing]
    rfl

/-- **The document of a text that has been written is the value.** -/
theorem ofBytes_text (v : Value) : Document.ofBytes v.text.toUTF8.toList = ⟨v.datum, false⟩ := by
  have hread : read .value [] (tokens (utf8 v.chars ++ [])) = put v.datum [] (tokens []) :=
    read_written v trivial (.inl rfl) stops_nil
  rw [List.append_nil, tokens_nil] at hread
  rw [toList_toUTF8, Value.text, String.toList_ofList, Document.ofBytes, hread]
  rfl

theorem decodeText_text {α : Type} (reader : Reader α) (v : Value) :
    decodeText reader v.text = reader v.datum := by
  rw [decodeText, decode, ofBytes_text]
  simp

end ClusterTopology.Json
