import Mathlib.Tactic.Common
import ClusterTopology.Url.Basic
/-!
Names of small letters stand for themselves.

A name goes through the tables of all characters before it is a host.  Nothing in these tables begins
before the end of ASCII, so a name of small letters comes out as it went in.

Which tables these are shows from the statements: those of composed characters, of combining classes, of
marks, and of what is written from right to left.  They are computed once, item by item.  A lookup of a
smaller code point then gives nothing, whichever way the search by halves turns, and the stages of the
reading follow one by one: the composed form, the mapping, the joiners, the labels and the direction.  The
last part is about hosts, where a name of small letters cannot be taken for a number either.
-/

namespace ClusterTopology

/-! ### Tables that begin behind a character -/

namespace Text

variable {lines : List String} {n : Nat}

theorem RangeMap.forall_mem_ofListings {p : MapItem → Prop} [DecidablePred p]
    (h : (lines.all fun s => (s.toList.splitOn ' ').all fun cs => decide (p (ofItem cs))) = true) :
    ∀ i ∈ ofListings lines, p i := by
  intro i hi
  simp only [ofListings, List.mem_toArray, List.mem_flatMap, List.mem_map] at hi
  obtain ⟨line, hline, cs, hcs, rfl⟩ := hi
  simp only [List.all_eq_true, decide_eq_true_eq] at h
  exact h line hline cs hcs

theorem Ranges.forall_mem_ofListings {p : Nat × Nat → Prop} [DecidablePred p]
    (h : (lines.all fun s => (s.toList.splitOn ' ').all fun cs => decide (p (ofItem cs))) = true) :
    ∀ i ∈ ofListings lines, p i := by
  intro i hi
  simp only [ofListings, List.mem_toArray, List.mem_flatMap, List.mem_map] at hi
  obtain ⟨line, hline, cs, hcs, rfl⟩ := hi
  simp only [List.all_eq_true, decide_eq_true_eq] at h
  exact h line hline cs hcs

theorem RangeMap.find?_eq_none {m : RangeMap} (h : ∀ i ∈ m, n < i.first) : m.find? n = none := by
  have hsearch (fuel lo hi : Nat) : m.search n fuel lo hi = none := by
    induction fuel generalizing lo hi with
    | zero => rfl
    | succ fuel ih =>
      rw [search]
      dsimp only
      split
      · split
        · rfl
        · next i hi => rw [if_pos (h i (Array.mem_of_getElem? hi)), ih]
      · rfl
  simp only [find?, hsearch, Option.bind_eq_bind, Option.bind_none]

theorem Ranges.has_eq_false {rs : Ranges} {c : Char} (h : ∀ r ∈ rs, c.toNat < r.1) :
    rs.has c = false := by
  have hsearch (fuel lo hi : Nat) : rs.search c.toNat fuel lo hi = false := by
    induction fuel generalizing lo hi with
    | zero => rfl
    | succ fuel ih =>
      rw [search]
      dsimp only
      split
      · split
        · rfl
        · next a b hr =>
          have hlt : c.toNat < a := h (a, b) (Array.mem_of_getElem? hr)
          rw [if_pos hlt, ih]
      · rfl
  exact hsearch _ _ _

end Text

namespace Url

namespace Domain

open ClusterTopology.Text

/-- What characters are composed of, and the classes of marks, begin behind ASCII. -/
theorem ascii_before_maps : ∀ m ∈ [composites, combiningClasses], ∀ i ∈ m, 0x80 ≤ i.first := by
  intro m hm
  simp only [List.mem_cons, List.not_mem_nil, or_false] at hm
  -- the listings are read once as texts and then as lists of characters, which is what can be computed
  rcases hm with rfl | rfl
  all_goals
    refine RangeMap.forall_mem_ofListings ?_
    simp only [List.all_cons, List.all_nil]
    repeat rw [String.toList_ofList]
    decide +kernel

/-- The marks, and what is written from right to left, begin behind ASCII. -/
theorem ascii_before_sets : ∀ rs ∈ [marks, rightToLeft, arabicDigits], ∀ r ∈ rs, 0x80 ≤ r.1 := by
  intro rs hrs
  simp only [List.mem_cons, List.not_mem_nil, or_false] at hrs
  rcases hrs with rfl | rfl | rfl
  all_goals
    refine Ranges.forall_mem_ofListings ?_
    simp only [List.all_cons, List.all_nil]
    repeat rw [String.toList_ofList]
    decide +kernel

/-! ### The composed form -/

theorem find?_of_ascii {m : RangeMap} (hm : m ∈ [composites, combiningClasses]) {n : Nat}
    (hn : n < 0x80) : m.find? n = none :=
  RangeMap.find?_eq_none fun i hi => Nat.lt_of_lt_of_le hn (ascii_before_maps m hm i hi)

theorem has_of_ascii {rs : Ranges} (hrs : rs ∈ [marks, rightToLeft, arabicDigits]) {c : Char}
    (hc : c.toNat < 0x80) : rs.has c = false :=
  Ranges.has_eq_false fun r hr => Nat.lt_of_lt_of_le hc (ascii_before_sets rs hrs r hr)

theorem decomposeBy_of_none {parts? : Nat → Option (List Nat)} {n : Nat} (fuel : Nat)
    (hn : n < hangulBase) (hnone : parts? n = none) : decomposeBy parts? fuel n = [n] := by
  cases fuel with
  | zero => rfl
  | succ fuel =>
    have hparts : hangulParts? n = none := by
      rw [hangulParts?]
      exact if_neg fun h => absurd hn (Nat.not_lt.mpr h.1)
    rw [decomposeBy, hparts, hnone]

theorem decompose_of_ascii (fuel : Nat) {n : Nat} (hn : n < 0x80) : decompose fuel n = [n] := by
  have hm : composites ∈ [composites, combiningClasses] := List.mem_cons_self
  have hbefore : n < hangulBase := by simp only [hangulBase]; omega
  exact decomposeBy_of_none fuel hbefore (find?_of_ascii hm hn)

theorem combiningClass_of_ascii {n : Nat} (hn : n < 0x80) : combiningClass n = 0 := by
  have hm : combiningClasses ∈ [composites, combiningClasses] :=
    List.mem_cons_of_mem _ List.mem_cons_self
  exact congrArg classOf (find?_of_ascii hm hn)

theorem orderMarks_of_ascii {ns : List Nat} (hns : ∀ n ∈ ns, n < 0x80) : orderMarks ns = ns := by
  have hfold (before : List Nat) :
      ns.foldl (fun before n => insertMark n before) before = ns.reverse ++ before := by
    induction ns generalizing before with
    | nil => rfl
    | cons n ns ih =>
      have hinsert : insertMark n before = n :: before := by
        cases before with
        | nil => rfl
        | cons m ms => simp [insertMark, combiningClass_of_ascii (hns n (by simp))]
      rw [List.foldl_cons, hinsert, ih fun m hm => hns m (List.mem_cons_of_mem n hm)]
      simp
  rw [orderMarks, hfold, List.append_nil, List.reverse_reverse]

theorem composePair?_of_ascii {a b : Nat} (ha : a < 0x80) (hb : b < 0x80) : composePair? a b = none := by
  have hlead : ¬ leadBase ≤ a := by simp only [leadBase]; omega
  have hsyllable : ¬ hangulBase ≤ a := by simp only [hangulBase]; omega
  have hlow : b < 0x300 := by omega
  simp [composePair?, hlead, hsyllable, hlow]

theorem compose_of_ascii {ns : List Nat} (hns : ∀ n ∈ ns, n < 0x80) : compose ns = ns := by
  -- every character is a letter by itself, done when the next one comes
  have hfold (done : List Nat) {a : Nat} (ha : a < 0x80) {ns : List Nat} (hns : ∀ n ∈ ns, n < 0x80) :
      let s := ns.foldl Composing.add ⟨done, some a, []⟩
      s.marks ++ s.letter.toList ++ s.done = ns.reverse ++ a :: done := by
    induction ns generalizing done a with
    | nil => rfl
    | cons n ns ih =>
      have hn := hns n (by simp)
      have hadd : Composing.add ⟨done, some a, []⟩ n = ⟨a :: done, some n, []⟩ := by
        simp [Composing.add, combiningClass_of_ascii hn, composePair?_of_ascii ha hn]
      rw [List.foldl_cons, hadd, List.reverse_cons, List.append_assoc]
      exact ih (a :: done) hn fun m hm => hns m (List.mem_cons_of_mem n hm)
  cases ns with
  | nil => rfl
  | cons n ns =>
    have hn := hns n (by simp)
    have hadd : Composing.add ⟨[], none, []⟩ n = ⟨[], some n, []⟩ := by
      simp [Composing.add, combiningClass_of_ascii hn]
    have hrest := hfold [] hn fun m hm => hns m (List.mem_cons_of_mem n hm)
    rw [compose, List.foldl_cons, hadd]
    simp only [hrest]
    simp

theorem normal_of_ascii {cs : List Char} (hcs : ∀ c ∈ cs, c.toNat < 0x80) : normal cs = cs := by
  have hns : ∀ n ∈ cs.map Char.toNat, n < 0x80 := by simpa using hcs
  have happart : (cs.flatMap fun c => decompose 4 c.toNat) = cs.map Char.toNat := by
    induction cs with
    | nil => rfl
    | cons c cs ih =>
      have hrest := ih (fun d hd => hcs d (List.mem_cons_of_mem c hd))
        fun n hn => hns n (List.mem_cons_of_mem _ hn)
      rw [List.flatMap_cons, decompose_of_ascii 4 (hcs c (by simp)), hrest]
      rfl
  rw [normal, happart, orderMarks_of_ascii hns, compose_of_ascii hns, List.map_map]
  simp [Function.comp_def]

/-! ### Small letters -/

theorem toNat_of_isLower {c : Char} (h : c.isLower = true) : 97 ≤ c.toNat ∧ c.toNat ≤ 122 := by
  unfold Char.isLower at h
  simpa [UInt32.le_iff_toNat_le] using h

theorem mapChar?_of_isLower {c : Char} (h : c.isLower = true) : mapChar? c = some [c] := by
  have hrange := toNat_of_isLower h
  have hlower : c.toLower = c := by
    have hcapital : ¬ (c.val ≥ 'A'.val ∧ c.val ≤ 'Z'.val) := by
      simp only [ge_iff_le, UInt32.le_iff_toNat_le, not_and]
      intro _ hz
      change c.toNat ≤ 90 at hz
      omega
    unfold Char.toLower
    exact dif_neg hcapital
  unfold mapChar?
  rw [if_pos (by omega), hlower]

variable {cs : List Char}

theorem mapped?_of_isLower (h : ∀ c ∈ cs, c.isLower = true) : mapped? cs = some cs := by
  have hchars : cs.mapM mapChar? = some (cs.map fun c => [c]) := by
    induction cs with
    | nil => rfl
    | cons c cs ih =>
      have hrest := ih fun d hd => h d (List.mem_cons_of_mem c hd)
      rw [List.mapM_cons, mapChar?_of_isLower (h c List.mem_cons_self), hrest]
      rfl
  have hascii : ∀ c ∈ cs, c.toNat < 0x80 := by
    intro c hc
    have hrange := toNat_of_isLower (h c hc)
    omega
  have hflat : (cs.map fun c => [c]).flatten = cs := by
    rw [← List.flatMap_def, List.flatMap_singleton']
  rw [mapped?, hchars, Option.map_some, hflat, normal_of_ascii hascii]

/-- Nothing else is a small letter, so a text of small letters does not have it. -/
theorem not_mem_of_isLower (h : ∀ c ∈ cs, c.isLower = true) {d : Char} (hd : d.isLower = false) :
    d ∉ cs := by
  intro hmem
  rw [h d hmem] at hd
  cases hd

theorem isForbidden_of_isLower {c : Char} (h : c.isLower = true) : isForbidden c = false := by
  have hrange := toNat_of_isLower h
  have hothers : ('\x7f' :: "%#/:<>?@[\\]^|".toList).all (fun d => !d.isLower) = true := by decide
  have hnone : c ∉ '\x7f' :: "%#/:<>?@[\\]^|".toList := by
    intro hmem
    have hother := List.all_eq_true.mp hothers c hmem
    rw [h] at hother
    cases hother
  rw [List.mem_cons, not_or] at hnone
  have hcontains : "%#/:<>?@[\\]^|".toList.contains c = false :=
    Bool.eq_false_iff.mpr fun hmem => hnone.2 (List.contains_iff_mem.mp hmem)
  have hspace : ¬ c.toNat ≤ 0x20 := by omega
  rw [isForbidden, hcontains, beq_eq_false_iff_ne.mpr hnone.1, decide_eq_false hspace]
  rfl

theorem joinersFit_of_isLower (h : ∀ c ∈ cs, c.isLower = true) (before : List Char) :
    joinersFit before cs = true := by
  induction cs generalizing before with
  | nil => rfl
  | cons c cs ih =>
    have hjoiner : c ≠ joiner := by
      rintro rfl
      exact absurd (h joiner List.mem_cons_self) (by decide)
    have hnonJoiner : c ≠ nonJoiner := by
      rintro rfl
      exact absurd (h nonJoiner List.mem_cons_self) (by decide)
    have hrest := ih (fun d hd => h d (List.mem_cons_of_mem c hd)) (c :: before)
    unfold joinersFit
    simp only [if_neg hjoiner, if_neg hnonJoiner, hrest, Bool.and_self]

theorem label?_of_isLower (h : ∀ c ∈ cs, c.isLower = true) : label? cs = some cs := by
  have hmark : ¬ punycodeMark.isPrefixOf cs = true := by
    intro hprefix
    have hdash : '-' ∈ cs := (List.isPrefixOf_iff_prefix.mp hprefix).subset (by decide)
    exact not_mem_of_isLower h (by decide) hdash
  unfold label?
  rw [if_neg hmark]

theorem isLabel_of_isLower (h : ∀ c ∈ cs, c.isLower = true) : isLabel cs = true := by
  have hmarks : marks ∈ [marks, rightToLeft, arabicDigits] := List.mem_cons_self
  have hforbidden : cs.any isForbidden = false := by
    rw [List.any_eq_false]
    intro c hc
    rw [isForbidden_of_isLower (h c hc)]
    exact Bool.false_ne_true
  have hhead : cs.head?.any marks.has = false := by
    cases cs with
    | nil => rfl
    | cons c cs =>
      have hrange := toNat_of_isLower (h c List.mem_cons_self)
      rw [List.head?_cons, Option.any_some]
      exact has_of_ascii hmarks (by omega)
  unfold isLabel
  rw [hforbidden, hhead, joinersFit_of_isLower h]
  rfl

theorem isRightToLeft_of_isLower (h : ∀ c ∈ cs, c.isLower = true) : isRightToLeft cs = false := by
  have hletters : rightToLeft ∈ [marks, rightToLeft, arabicDigits] :=
    List.mem_cons_of_mem _ List.mem_cons_self
  have hdigits : arabicDigits ∈ [marks, rightToLeft, arabicDigits] :=
    List.mem_cons_of_mem _ (List.mem_cons_of_mem _ List.mem_cons_self)
  unfold isRightToLeft
  rw [List.any_eq_false]
  intro c hc
  have hrange := toNat_of_isLower (h c hc)
  have hascii : c.toNat < 0x80 := by omega
  rw [has_of_ascii hletters hascii, has_of_ascii hdigits hascii]
  exact Bool.false_ne_true

/-- **A name of small letters is its own ASCII name.** -/
theorem ascii?_of_isLower (h : ∀ c ∈ cs, c.isLower = true) :
    ascii? (String.ofList cs) = some (String.ofList cs) := by
  have hlabels : (cs.splitOn '.').mapM label? = some [cs] := by
    rw [List.splitOn_eq_singleton (not_mem_of_isLower h (by decide)), List.mapM_cons,
      label?_of_isLower h]
    rfl
  have hascii : asciiLabel cs = cs := by
    unfold asciiLabel
    refine if_pos (List.all_eq_true.mpr fun c hc => ?_)
    have hrange := toNat_of_isLower (h c hc)
    rw [decide_eq_true_eq]
    omega
  unfold ascii?
  rw [String.toList_ofList, mapped?_of_isLower h]
  simp only [Option.bind_eq_bind, Option.bind_some, hlabels, List.all_cons, List.all_nil,
    List.any_cons, List.any_nil, isLabel_of_isLower h, isRightToLeft_of_isLower h, List.map_cons,
    List.map_nil, hascii, Bool.or_false, Bool.not_false, Bool.true_or, Bool.and_true, if_true]
  simp [List.intercalate]

end Domain

/-! ### Hosts -/

/-- A name of small letters is no number. -/
theorem endsInNumber_of_isLower {c : Char} {cs : List Char} (h : ∀ d ∈ c :: cs, d.isLower = true) :
    Ipv4.endsInNumber (String.ofList (c :: cs)) = false := by
  have hc := h c List.mem_cons_self
  have hdigit : c.isDigit = false := by
    have hrange := Domain.toNat_of_isLower hc
    simp only [Char.isDigit, ge_iff_le, UInt32.le_iff_toNat_le, Bool.and_eq_false_iff,
      decide_eq_false_iff_not]
    right
    change ¬ c.toNat ≤ 57
    omega
  have hparts : Ipv4.parts (c :: cs) = [c :: cs] := by
    rw [Ipv4.parts, List.splitOn_eq_singleton (Domain.not_mem_of_isLower h (by decide))]
    rfl
  have hpart : Ipv4.part? (c :: cs) = none := by
    have hzero : c ≠ '0' := by
      rintro rfl
      cases hc
    have hvalue : ¬ Text.Ranges.hexValue c < 10 := by
      rw [Text.Ranges.hexValue, if_neg (by simp [hdigit])]
      omega
    have hnumeral : Ipv4.numeral? 10 (c :: cs) = none := by simp [Ipv4.numeral?, hvalue]
    unfold Ipv4.part?
    split
    · next heq => cases heq
    · next heq => exact absurd (List.cons.inj heq).1 hzero
    · next heq => exact absurd (List.cons.inj heq).1 hzero
    · next heq => exact absurd (List.cons.inj heq).1 hzero
    · exact hnumeral
  rw [Ipv4.endsInNumber, String.toList_ofList, hparts]
  simp [hdigit, hpart]

/-- A name of small letters is the host that it stands for. -/
theorem specialHost_of_isLower {c : Char} {cs : List Char} (h : ∀ d ∈ c :: cs, d.isLower = true)
    (hdecoded : percentDecode? (c :: cs) = some (String.ofList (c :: cs))) :
    specialHost (c :: cs) = .ok (.domain (String.ofList (c :: cs))) := by
  have hbracket : c ≠ '[' := by
    rintro rfl
    exact absurd (h '[' List.mem_cons_self) (by decide)
  have hname : specialHost (c :: cs) = namedHost ((percentDecode? (c :: cs)).bind Domain.ascii?) := by
    unfold specialHost
    split
    · next heq => exact absurd (List.cons.inj heq).1 hbracket
    · rfl
  rw [hname, hdecoded, Option.bind_some, Domain.ascii?_of_isLower h]
  unfold namedHost
  split
  · next heq => cases heq
  · next heq =>
    have hempty : c :: cs = [] := by simpa using Option.some.inj heq
    cases hempty
  · next name _ heq =>
    obtain rfl := Option.some.inj heq
    rw [endsInNumber_of_isLower h]
    rfl

end Url

end ClusterTopology
