import Mathlib.Tactic.Common
import ClusterTopology.Component
import ClusterTopology.Proofs.Text.Basic
/-!
Which texts are addresses, and which hosts come back from the text that is written for them.

Four things happen to a text on its way to a host and a port: white space around it goes, it is divided
at its last colon, brackets go from both ends of what stands before that, and what stands behind has to
be a port.  `Spells` says all of it at once, of a text and an address.  A host comes back when nothing of
it goes on that way.

The two halves of the module are about reading and about writing.  `Spells` is read off the definitions step
by step, with one lemma for what becomes of brackets.  For the way back, `IsBare` says that a host is not
empty and neither begins nor ends with a bracket that would be taken away, and `StartsBlank` that white
space would be taken from its front; the port behind it protects the other end, because digits are never
trimmed.
-/

namespace ClusterTopology.HostPort

/-- A text spells an address: inside its white space it is `b:q`, where `q` has no colon and denotes the
port, and `b` is the host without brackets that open at its start and close at its end; there is a
host. -/
def Spells (s : String) (a : HostPort) : Prop :=
  ∃ b q, Text.Strips Text.isBlank Text.isBlank s.toList (b ++ ':' :: q) ∧ ':' ∉ q ∧
    Text.IsNumeral q a.port.toNat ∧ Text.Strips (· == '[') (· == ']') b a.host.toList ∧ a.host ≠ ""

theorem bareHost_eq_iff {b h : List Char} :
    bareHost b = h ↔ Text.Strips (· == '[') (· == ']') b h :=
  Text.rdropWhile_dropWhile_eq_iff

/-- **An address text is read as what it spells.** -/
theorem ofText?_eq_some_iff {s : String} {a : HostPort} : ofText? s = some a ↔ Spells s a := by
  unfold ofText? ofChars?
  simp only [Option.bind_eq_bind, Option.bind_eq_some_iff, Prod.exists, splitLast?_eq_some_iff,
    Text.trim_eq_iff, Text.readUInt16?_eq_some_iff, Option.ite_none_left_eq_some, Option.some.injEq]
  constructor
  · rintro ⟨b, q, ⟨htrim, hq⟩, port, hport, hsome, rfl⟩
    refine ⟨b, q, htrim, hq, hport, ?_, ?_⟩
    · rw [String.toList_ofList]
      exact bareHost_eq_iff.mp rfl
    · simpa using hsome
  · rintro ⟨b, q, htrim, hq, hport, hhost, hsome⟩
    rw [← bareHost_eq_iff] at hhost
    refine ⟨b, q, ⟨htrim, hq⟩, a.port, hport, ?_, ?_⟩
    · simpa [hhost] using hsome
    · rw [hhost, String.ofList_toList]

theorem ofText?_eq_none_iff {s : String} : ofText? s = none ↔ ∀ a, ¬ Spells s a := by
  simp only [← ofText?_eq_some_iff, Option.eq_none_iff_forall_ne_some, ne_eq]

/-! ### Hosts with a port behind them -/

theorem not_isBlank_of_isDigit {c : Char} (hc : c.isDigit = true) : Text.isBlank c = false := by
  have hrange : 48 ≤ c.toNat ∧ c.toNat ≤ 57 := by simpa [Char.isDigit_iff_toNat] using hc
  simp only [Text.isBlank, Bool.or_eq_false_iff, Bool.and_eq_false_iff, decide_eq_false_iff_not,
    beq_eq_false_iff_ne]
  omega

/-- Of a text with a port at its end only white space at its start goes. -/
theorem trim_port (b : List Char) (n : Nat) :
    Text.trim (b ++ ':' :: (Text.natText n).toList) =
      b.dropWhile Text.isBlank ++ ':' :: (Text.natText n).toList := by
  rw [Text.trim_eq_iff]
  refine ⟨⟨b.takeWhile Text.isBlank, [], ?_, fun c => List.mem_takeWhile_imp, by simp⟩, ?_, ?_⟩
  · rw [List.append_nil, ← List.append_assoc, List.takeWhile_append_dropWhile]
  · intro c hc
    have hhead := List.head?_dropWhile_not Text.isBlank b
    cases hleft : b.dropWhile Text.isBlank with
    | nil =>
      obtain rfl : ':' = c := by simpa [hleft] using hc
      rfl
    | cons d rest =>
      obtain rfl : d = c := by simpa [hleft] using hc
      simpa [hleft] using hhead
  · intro c hc
    obtain ⟨init, d, hdigits⟩ := List.eq_nil_or_concat (Text.natText n).toList |>.resolve_left
      (Text.natText_ne_nil n)
    have hconcat : b.dropWhile Text.isBlank ++ ':' :: (init ++ [d]) =
        b.dropWhile Text.isBlank ++ ':' :: init ++ [d] := by simp
    rw [hdigits, List.concat_eq_append, hconcat, List.getLast?_concat, Option.some.injEq] at hc
    subst hc
    exact not_isBlank_of_isDigit (Text.isDigit_of_mem_natText (n := n) (by simp [hdigits]))

/-- Before a port stands a host, without white space at its start and the brackets around it. -/
theorem spells_port_iff {b : List Char} {a : HostPort} :
    Spells (String.ofList (b ++ ':' :: (Text.natText a.port.toNat).toList)) a ↔
      Text.Strips (· == '[') (· == ']') (b.dropWhile Text.isBlank) a.host.toList ∧ a.host ≠ "" := by
  have hcolon : ':' ∉ (Text.natText a.port.toNat).toList := by
    intro hmem
    cases Text.isDigit_of_mem_natText hmem
  unfold Spells
  rw [String.toList_ofList]
  constructor
  · rintro ⟨b', q, htrim, hq, -, hhost, hsome⟩
    rw [← Text.trim_eq_iff, trim_port] at htrim
    have hsplit := splitLast?_eq_some_iff.mpr ⟨htrim, hq⟩
    rw [splitLast?_eq_some_iff.mpr ⟨rfl, hcolon⟩] at hsplit
    cases hsplit
    exact ⟨hhost, hsome⟩
  · rintro ⟨hhost, hsome⟩
    exact ⟨b.dropWhile Text.isBlank, (Text.natText a.port.toNat).toList,
      Text.trim_eq_iff.mp (trim_port b a.port.toNat), hcolon, Text.isNumeral_natText _, hhost, hsome⟩

/-- A host that brackets may be put around: there is one, and it neither begins with a bracket that opens
nor ends with one that closes. -/
structure IsBare (host : String) : Prop where
  nonempty : host ≠ ""
  first : host.toList.head? ≠ some '['
  last : host.toList.getLast? ≠ some ']'

def StartsBlank (s : String) : Prop := ∃ c, s.toList.head? = some c ∧ Text.isBlank c = true

theorem isBare_iff {host : String} : IsBare host ↔
    Text.Strips (· == '[') (· == ']') host.toList host.toList ∧ host ≠ "" := by
  rw [Text.strips_self_iff]
  constructor
  · rintro ⟨hsome, hfirst, hlast⟩
    refine ⟨⟨?_, ?_⟩, hsome⟩
    · intro c hc
      rw [beq_eq_false_iff_ne]
      rintro rfl
      exact hfirst hc
    · intro c hc
      rw [beq_eq_false_iff_ne]
      rintro rfl
      exact hlast hc
  · rintro ⟨⟨hfirst, hlast⟩, hsome⟩
    refine ⟨hsome, ?_, ?_⟩
    · intro hc
      cases hfirst _ hc
    · intro hc
      cases hlast _ hc

/-- A host comes back from the text that is written for it when nothing of it is taken for white space or
for a bracket around it. -/
theorem ofText?_text_iff {a : HostPort} :
    ofText? a.text = some a ↔ IsBare a.host ∧ ¬ StartsBlank a.host := by
  have htext : a.text = String.ofList (a.host.toList ++ ':' :: (Text.natText a.port.toNat).toList) := by
    rw [← String.toList_inj]
    simp [text]
  rw [htext, ofText?_eq_some_iff, spells_port_iff, isBare_iff]
  constructor
  · rintro ⟨hhost, hsome⟩
    have hsame := hhost.eq_of_suffix (List.dropWhile_suffix Text.isBlank)
    rw [hsame] at hhost
    refine ⟨⟨hhost, hsome⟩, ?_⟩
    rintro ⟨c, hc, hblank⟩
    have hhead := List.head?_dropWhile_not Text.isBlank a.host.toList
    rw [hsame, hc] at hhead
    simp [hblank] at hhead
  · rintro ⟨⟨hhost, hsome⟩, hstart⟩
    refine ⟨?_, hsome⟩
    cases hcs : a.host.toList with
    | nil => simpa [hcs] using hhost
    | cons c rest =>
      have hc : ¬ Text.isBlank c = true := fun hblank => hstart ⟨c, by rw [hcs]; rfl, hblank⟩
      rw [List.dropWhile_cons_of_neg hc, ← hcs]
      exact hhost

/-- The text of an address with brackets around its host. -/
def bracketedText (a : HostPort) : String :=
  "[" ++ a.host ++ "]:" ++ Text.natText a.port.toNat

/-- Between brackets a host may begin with white space. -/
theorem ofText?_bracketedText_iff {a : HostPort} :
    ofText? a.bracketedText = some a ↔ IsBare a.host := by
  have htext : a.bracketedText =
      String.ofList (('[' :: a.host.toList ++ [']']) ++ ':' :: (Text.natText a.port.toNat).toList) := by
    rw [← String.toList_inj]
    simp [bracketedText]
  have hstart : ('[' :: a.host.toList ++ [']']).dropWhile Text.isBlank = '[' :: a.host.toList ++ [']'] :=
    List.dropWhile_cons_of_neg (by decide)
  rw [htext, ofText?_eq_some_iff, spells_port_iff, isBare_iff, hstart]
  refine and_congr_left fun _ => ?_
  rw [← bareHost_eq_iff, ← bareHost_eq_iff]
  have hsame : bareHost ('[' :: a.host.toList ++ [']']) = bareHost a.host.toList :=
    bareHost_eq_iff.mpr ((bareHost_eq_iff.mp rfl).surround rfl rfl)
  rw [hsame]

/-- **Which texts are addresses, and which hosts come back.**  A text is read as an address exactly when it
spells it, and as nothing when it spells none.  The address at which a component serves or reports its
status is read as its host and port exactly when the host is not empty, begins with neither white space
nor a bracket that opens, and does not end with a bracket that closes; with brackets around the host, it
may begin with white space. -/
theorem addresses_are_what_is_spelt :
    (∀ s a, ofText? s = some a ↔ Spells s a) ∧
    (∀ s, ofText? s = none ↔ ∀ a, ¬ Spells s a) ∧
    (∀ c : Component,
      (ofText? c.address = some ⟨c.ip, c.port⟩ ↔ IsBare c.ip ∧ ¬ StartsBlank c.ip) ∧
      (ofText? c.statusAddress = some ⟨c.ip, c.statusPort⟩ ↔ IsBare c.ip ∧ ¬ StartsBlank c.ip)) ∧
    ∀ a : HostPort, ofText? a.bracketedText = some a ↔ IsBare a.host :=
  ⟨fun _ _ => ofText?_eq_some_iff, fun _ => ofText?_eq_none_iff,
    fun _ => ⟨ofText?_text_iff, ofText?_text_iff⟩, fun _ => ofText?_bracketedText_iff⟩

end ClusterTopology.HostPort
