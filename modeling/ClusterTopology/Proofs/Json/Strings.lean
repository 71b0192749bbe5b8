import Mathlib.Tactic.Common
import ClusterTopology.Json.Document
import ClusterTopology.Proofs.Json.Tokens
import ClusterTopology.Proofs.Text.Basic
/-!
A string that has been written is read back.

Every character is written as itself or as an escape.  Either way it is scanned as one or more pieces, and the
pieces are put together as the bytes that encode the character.

`ScansAs` is that relation between the bytes that are written and the bytes that come back, whatever follows
them.  It holds of nothing and of one text behind the other, so a string is settled character by character:
`Written` lists the forms that a character can have on the page, and there is one case for each.

The first part is about UTF-8 itself, as far as it is used elsewhere: `utf8` gives the bytes of a list of
characters, a text of ASCII is its own bytes, and `utf8Text?` reads back exactly what has been written.
-/

namespace ClusterTopology.Json

open ClusterTopology.Data

/-! ### Bytes of characters -/

def utf8 (cs : List Char) : List UInt8 := cs.flatMap String.utf8EncodeChar

theorem utf8_append (cs ds : List Char) : utf8 (cs ++ ds) = utf8 cs ++ utf8 ds :=
  List.flatMap_append

theorem utf8_cons (c : Char) (cs : List Char) : utf8 (c :: cs) = String.utf8EncodeChar c ++ utf8 cs :=
  List.flatMap_cons

theorem toList_loop (bs : ByteArray) (i : Nat) (acc : List UInt8) :
    ByteArray.toList.loop bs i acc = acc.reverse ++ bs.data.toList.drop i := by
  fun_induction ByteArray.toList.loop bs i acc with
  | case1 i acc h ih =>
    have hlt : i < bs.data.toList.length := by simpa using h
    have hget : bs.get! i = bs.data.toList[i] := by simp [ByteArray.get!, h]
    rw [ih, List.drop_eq_getElem_cons hlt, List.reverse_cons, List.append_assoc, hget]
    rfl
  | case2 i acc h =>
    have hle : bs.data.toList.length ≤ i := by simpa using h
    rw [List.drop_eq_nil_of_le hle, List.append_nil]

/-- The bytes of a text are those of its characters. -/
theorem toList_toUTF8 (s : String) : s.toUTF8.toList = utf8 s.toList := by
  rw [ByteArray.toList, toList_loop, List.reverse_nil, List.nil_append, List.drop_zero]
  exact Text.utf8Bytes_eq s

theorem utf8Text?_utf8 (s : String) : utf8Text? (utf8 s.toList) = some s := by
  have hbytes : (⟨(utf8 s.toList).toArray⟩ : ByteArray) = s.toByteArray := by
    rw [utf8, ← Text.utf8Bytes_eq]
    rfl
  rw [utf8Text?, String.fromUTF8?, hbytes, dif_pos s.isValidUTF8]
  rfl

/-- Bytes are a text exactly when they encode its characters. -/
theorem utf8Text?_eq_some_iff {bs : List UInt8} {s : String} :
    utf8Text? bs = some s ↔ bs = utf8 s.toList := by
  constructor
  · intro htext
    rw [utf8Text?, String.fromUTF8?] at htext
    split at htext
    · next hvalid =>
      cases htext
      rw [utf8, ← Text.utf8Bytes_eq]
      rfl
    · cases htext
  · rintro rfl
    exact utf8Text?_utf8 s

theorem utf8EncodeChar_of_lt {c : Char} (h : c.toNat < 128) : String.utf8EncodeChar c = [byte c] := by
  have hle : c.val.toNat ≤ 127 := Nat.le_of_lt_succ h
  rw [String.utf8EncodeChar]
  exact if_pos hle

theorem utf8_of_lt {cs : List Char} (h : ∀ c ∈ cs, c.toNat < 128) : utf8 cs = cs.map byte := by
  induction cs with
  | nil => rfl
  | cons c cs ih =>
    rw [utf8_cons, utf8EncodeChar_of_lt (h c List.mem_cons_self),
      ih fun d hd => h d (List.mem_cons_of_mem c hd)]
    rfl

/-- Characters beyond ASCII are encoded without ASCII bytes. -/
theorem le_of_mem_utf8EncodeChar {c : Char} (h : 128 ≤ c.toNat) {b : UInt8}
    (hb : b ∈ String.utf8EncodeChar c) : 128 ≤ b.toNat := by
  have hle : ¬ c.val.toNat ≤ 127 := Nat.not_le_of_lt h
  have hlt : c.val.toNat < 1114112 := by
    have hvalid := c.valid
    simp only [UInt32.isValidChar, Nat.isValidChar] at hvalid
    omega
  unfold String.utf8EncodeChar at hb
  simp only [if_neg hle] at hb
  split at hb
  · simp only [List.mem_cons, List.not_mem_nil, or_false] at hb
    rcases hb with rfl | rfl <;> rw [UInt8.toNat_ofNat'] <;> omega
  · split at hb
    · simp only [List.mem_cons, List.not_mem_nil, or_false] at hb
      rcases hb with rfl | rfl | rfl <;> rw [UInt8.toNat_ofNat'] <;> omega
    · simp only [List.mem_cons, List.not_mem_nil, or_false] at hb
      rcases hb with rfl | rfl | rfl | rfl <;> rw [UInt8.toNat_ofNat'] <;> omega

/-! ### Scanning -/

section Steps

variable {b e x a c d : UInt8} {r : List UInt8} {u : Nat}

theorem scanString_quote (r : List UInt8) : scanString (byte '"' :: r) = ⟨[], none, r⟩ := by
  rw [scanString.eq_def]
  exact if_pos rfl

theorem scanString_letter (he : e ≠ byte 'u') (hx : escaped? e = some x) (r : List UInt8) :
    scanString (byte '\\' :: e :: r) = (scanString r).cons (.byte x) := by
  rw [scanString.eq_def]
  simp only [if_neg he, hx]
  exact if_neg (by decide)

theorem scanString_unit (hu : hexUnit? a b c d = some u) (r : List UInt8) :
    scanString (byte '\\' :: byte 'u' :: a :: b :: c :: d :: r) = (scanString r).cons (.unit u) := by
  rw [scanString.eq_def]
  simp only [if_pos, hu]
  exact if_neg (by decide)

theorem scanString_plain (hquote : b ≠ byte '"') (hback : b ≠ byte '\\') (hb : 32 ≤ b.toNat)
    (r : List UInt8) : scanString (b :: r) = (scanString r).cons (.byte b) := by
  have hcontrol : ¬ b < 0x20 := UInt8.not_lt.mpr hb
  rw [scanString.eq_def]
  simp only [if_neg hquote, if_neg hback, if_neg hcontrol]

theorem assemble_unit (hlow : isLow u = false) (hhigh : isHigh u = false) (fault : Option Fault)
    (more : List Piece) :
    assemble fault (.unit u :: more) = (assemble fault more).map (charBytes u ++ ·) := by
  rw [assemble.eq_def]
  simp only [hlow, hhigh, Bool.false_eq_true, if_false]

end Steps

/-- Bytes are scanned as pieces, whatever follows them, and the pieces stand for other bytes. -/
def ScansAs (written read : List UInt8) : Prop :=
  ∃ ps : List Piece, (∀ rest, scanString (written ++ rest) = ps.foldr Scan.cons (scanString rest)) ∧
    ∀ fault more, assemble fault (ps ++ more) = (assemble fault more).map (read ++ ·)

theorem ScansAs.nil : ScansAs [] [] := by
  refine ⟨[], fun _ => rfl, fun fault more => ?_⟩
  rw [List.nil_append]
  cases assemble fault more <;> rfl

theorem ScansAs.append {w r w' r' : List UInt8} (h : ScansAs w r) (h' : ScansAs w' r') :
    ScansAs (w ++ w') (r ++ r') := by
  obtain ⟨ps, hscan, hread⟩ := h
  obtain ⟨ps', hscan', hread'⟩ := h'
  refine ⟨ps ++ ps', ?_, ?_⟩
  · intro rest
    rw [List.append_assoc, hscan, hscan', List.foldr_append]
  · intro fault more
    rw [List.append_assoc, hread, hread']
    cases assemble fault more with
    | error f => rfl
    | ok bs => simp only [Except.map, List.append_assoc]

theorem ScansAs.of_byte {w : List UInt8} {x : UInt8}
    (h : ∀ rest, scanString (w ++ rest) = (scanString rest).cons (.byte x)) : ScansAs w [x] :=
  ⟨[.byte x], h, fun _ _ => rfl⟩

theorem ScansAs.plain {bs : List UInt8} (h : ∀ b ∈ bs, b ≠ byte '"' ∧ b ≠ byte '\\' ∧ 32 ≤ b.toNat) :
    ScansAs bs bs := by
  induction bs with
  | nil => exact .nil
  | cons b bs ih =>
    obtain ⟨hquote, hback, hb⟩ := h b List.mem_cons_self
    have hfirst : ScansAs [b] [b] := .of_byte (scanString_plain hquote hback hb)
    exact hfirst.append (ih fun c hc => h c (List.mem_cons_of_mem b hc))

/-- A character is written as itself, as a backslash and a letter, or as its number. -/
inductive Written : Char → List Char → Prop where
  | plain {c : Char} (hquote : c ≠ '"') (hback : c ≠ '\\') (h : 32 ≤ c.toNat) : Written c [c]
  | letter {c l : Char} (hc : c.toNat < 128) (hl : l.toNat < 128) (hu : byte l ≠ byte 'u')
      (h : escaped? (byte l) = some (byte c)) : Written c ['\\', l]
  | number {c : Char} (h : c.toNat < 32) :
      Written c ['\\', 'u', '0', '0', (c.toNat / 16).digitChar, (c.toNat % 16).digitChar]

theorem written_escape (c : Char) : Written c (escape c) := by
  unfold escape
  iterate 7
    split
    · next h =>
      subst h
      exact .letter (by decide) (by decide) (by decide) (by decide)
  split
  · next h => exact .number h
  · next hquote hback _ _ _ _ _ h => exact .plain hquote hback (Nat.le_of_not_lt h)

/-- **What is written for a character is scanned as the bytes of that character.** -/
theorem scansAs_of_written {c : Char} {cs : List Char} (h : Written c cs) :
    ScansAs (utf8 cs) (String.utf8EncodeChar c) := by
  cases h with
  | plain hquote hback h =>
    have hself : utf8 [c] = String.utf8EncodeChar c := List.flatMap_singleton ..
    rw [hself]
    apply ScansAs.plain
    intro b hb
    by_cases hc : c.toNat < 128
    · rw [utf8EncodeChar_of_lt hc, List.mem_singleton] at hb
      have hbyte : b.toNat = c.toNat := by
        rw [hb, byte, UInt8.toNat_ofNat_of_lt' (Nat.lt_trans hc (by decide))]
      have hne {d : Char} (hd : (byte d).toNat = d.toNat) (hcd : c ≠ d) : b ≠ byte d := by
        rintro rfl
        exact hcd (Char.toNat_inj.mp (hbyte.symm.trans hd))
      exact ⟨hne rfl hquote, hne rfl hback, hbyte ▸ h⟩
    · have hge := le_of_mem_utf8EncodeChar (Nat.le_of_not_lt hc) hb
      have hne {x : UInt8} (hx : x.toNat < 128) : b ≠ x := by
        rintro rfl
        omega
      exact ⟨hne (by decide), hne (by decide), by omega⟩
  | @letter l hc hl hu h =>
    have hbytes : utf8 ['\\', l] = [byte '\\', byte l] :=
      utf8_of_lt (by simpa using hl)
    rw [hbytes, utf8EncodeChar_of_lt hc]
    exact .of_byte (scanString_letter hu h)
  | number h =>
    have hunit : ∀ n < 32, hexUnit? (byte '0') (byte '0') (byte (n / 16).digitChar)
        (byte (n % 16).digitChar) = some n := by decide
    have hdigit : ∀ n < 16, n.digitChar.toNat < 128 := by decide
    have hnumber : ∀ n < 32, isLow n = false ∧ isHigh n = false := by decide
    obtain ⟨hlow, hhigh⟩ := hnumber c.toNat h
    have hhead := hdigit (c.toNat / 16) (by omega)
    have hlast := hdigit (c.toNat % 16) (by omega)
    rw [utf8_of_lt (by simp [hhead, hlast])]
    refine ⟨[.unit c.toNat], scanString_unit (hunit c.toNat h), ?_⟩
    intro fault more
    rw [List.singleton_append, assemble_unit hlow hhigh, charBytes, Char.ofNat_toNat]

/-! ### Whole strings -/

theorem scansAs_escaped (cs : List Char) : ScansAs (utf8 (cs.flatMap escape)) (utf8 cs) := by
  induction cs with
  | nil => exact .nil
  | cons c cs ih =>
    rw [List.flatMap_cons, utf8_append, utf8_cons]
    exact (scansAs_of_written (written_escape c)).append ih

theorem scan_foldr_cons (ps : List Piece) (s : Scan) :
    ps.foldr Scan.cons s = ⟨ps ++ s.pieces, s.fault, s.rest⟩ := by
  induction ps with
  | nil => rfl
  | cons p ps ih => rw [List.foldr_cons, ih, Scan.cons, List.cons_append]

/-- **A string that has been written is read back**, and the text behind it is left. -/
theorem scanString_escaped (s : String) (rest : List UInt8) :
    ∃ scan, scanString (utf8 (s.toList.flatMap escape) ++ byte '"' :: rest) = scan ∧ scan.fault = none ∧
      scan.rest = rest ∧ scan.datum = .text s := by
  obtain ⟨ps, hscan, hread⟩ := scansAs_escaped s.toList
  have hpieces : assemble none ps = .ok (utf8 s.toList) := by
    have hall := hread none []
    rwa [List.append_nil, assemble, Except.map, List.append_nil] at hall
  refine ⟨_, hscan _, ?_⟩
  rw [scan_foldr_cons, scanString_quote, List.append_nil]
  refine ⟨rfl, rfl, ?_⟩
  rw [Scan.datum, hpieces]
  simp only [utf8Text?_utf8]

end ClusterTopology.Json
