import Mathlib.Tactic.Common
import ClusterTopology.Tls.Pem
/-!
What a text of armoured sections is.

Its lines are read in groups: a line outside sections, or the lines from one that begins a section to the
one that ends it.  Reading stops at the first group that is malformed, and a text may stop in the middle of
a section.  `Reads` has one rule for each of these, and every text is read in exactly one way.  A text behind
another one that can be read to its end is read as if it stood alone.

Lines are of five sorts, `Begins`, `BeginsBadly`, `Ends`, `Holds` and lines outside, and `Opened` is a
section that has begun and not yet ended.  For two texts with the end of a line between them, the lines are
those of the first, whose last one is thereby ended, and then those of the second.  `Reads.close` says that
ending the last line changes nothing, and `Reads.append` that what can be read to its end leaves no trace
behind it.
-/

namespace ClusterTopology.Pem

/-! ### Lines -/

def Begins (line label : List UInt8) : Prop :=
  beginMark <+: line ∧ labelOf? (line.drop beginMark.length) = some label

/-- A line begins a section, but it does not end as such a line should. -/
def BeginsBadly (line : List UInt8) : Prop :=
  beginMark <+: line ∧ labelOf? (line.drop beginMark.length) = none

def Ends (label line : List UInt8) : Prop :=
  ¬ beginMark <+: line ∧ endMark ++ label ++ dashes <+: line

/-- A line is one of the data of a section with a label. -/
def Holds (label line : List UInt8) : Prop :=
  ¬ beginMark <+: line ∧ ¬ endMark ++ label ++ dashes <+: line

/-- Lines of a section that has not ended, with its label and what counts as its data.  When another
section begins within it, it goes on under the label of that one. -/
inductive Opened : List (List UInt8) → List UInt8 → List (List UInt8) → Prop where
  | fresh {line label : List UInt8} (h : Begins line label) : Opened [line] label []
  | again {ls data : List (List UInt8)} {label line next : List UInt8} (hopen : Opened ls label data)
      (h : Begins line next) : Opened (ls ++ [line]) next data
  | data {ls data : List (List UInt8)} {label line : List UInt8} (hopen : Opened ls label data)
      (h : Holds label line) : Opened (ls ++ [line]) label (data ++ [line])

/-! ### Texts -/

/-- Lines with the sections in them, up to the first fault. -/
inductive Reads : List (List UInt8) → List Section → Option Fault → Prop where
  | done : Reads [] [] none
  | outside {line : List UInt8} {rest : List (List UInt8)} {ss : List Section} {fault : Option Fault}
      (h : ¬ beginMark <+: line) (hrest : Reads rest ss fault) : Reads (line :: rest) ss fault
  | known {ls data rest : List (List UInt8)} {label line bytes : List UInt8} {kind : Kind}
      {ss : List Section} {fault : Option Fault} (hopen : Opened ls label data) (h : Ends label line)
      (hkind : Kind.ofLabel? label = some kind) (hbytes : Base64.decode data.flatten = .ok bytes)
      (hrest : Reads rest ss fault) : Reads (ls ++ line :: rest) (⟨kind, bytes⟩ :: ss) fault
  | unknown {ls data rest : List (List UInt8)} {label line : List UInt8} {ss : List Section}
      {fault : Option Fault} (hopen : Opened ls label data) (h : Ends label line)
      (hkind : Kind.ofLabel? label = none) (hrest : Reads rest ss fault) :
      Reads (ls ++ line :: rest) ss fault
  | badData {ls data rest : List (List UInt8)} {label line : List UInt8} {kind : Kind}
      {fault : Base64.Fault} (hopen : Opened ls label data) (h : Ends label line)
      (hkind : Kind.ofLabel? label = some kind) (hbytes : Base64.decode data.flatten = .error fault) :
      Reads (ls ++ line :: rest) [] (some (.data fault))
  | badBegin {line : List UInt8} {rest : List (List UInt8)} (h : BeginsBadly line) :
      Reads (line :: rest) [] (some (.badBegin line))
  | badAgain {ls data rest : List (List UInt8)} {label line : List UInt8} (hopen : Opened ls label data)
      (h : BeginsBadly line) : Reads (ls ++ line :: rest) [] (some (.badBegin line))
  | noEnd {ls data : List (List UInt8)} {label : List UInt8} (hopen : Opened ls label data) :
      Reads ls [] (some (.noEnd label))

/-! ### Reading line by line -/

variable {o : Option Open} {line label : List UInt8} {rest ls data : List (List UInt8)}

theorem read_of_begins (h : Begins line label) :
    read o (line :: rest) = read (some ⟨label, (o.map (·.data)).getD []⟩) rest := by
  cases o <;> rw [read, if_pos (List.isPrefixOf_iff_prefix.mpr h.1), h.2]

theorem read_of_beginsBadly (h : BeginsBadly line) :
    read o (line :: rest) = ⟨[], some (.badBegin line)⟩ := by
  cases o <;> rw [read, if_pos (List.isPrefixOf_iff_prefix.mpr h.1), h.2]

theorem read_of_outside (h : ¬ beginMark <+: line) : read none (line :: rest) = read none rest := by
  rw [read, if_neg (mt List.isPrefixOf_iff_prefix.mp h)]

theorem read_of_holds (h : Holds label line) :
    read (some ⟨label, data⟩) (line :: rest) = read (some ⟨label, line :: data⟩) rest := by
  rw [read, if_neg (mt List.isPrefixOf_iff_prefix.mp h.1)]
  exact if_neg (mt List.isPrefixOf_iff_prefix.mp h.2)

/-- What the end of a section comes to. -/
theorem read_of_ends (h : Ends label line) :
    read (some ⟨label, data⟩) (line :: rest) =
      match Kind.ofLabel? label with
      | none => read none rest
      | some kind =>
        match Base64.decode data.reverse.flatten with
        | .error f => ⟨[], some (.data f)⟩
        | .ok bytes => { read none rest with sections := ⟨kind, bytes⟩ :: (read none rest).sections } := by
  rw [read, if_neg (mt List.isPrefixOf_iff_prefix.mp h.1)]
  exact if_pos (List.isPrefixOf_iff_prefix.mpr h.2)

/-- The lines of a section that has not ended leave it open. -/
theorem read_of_opened (h : Opened ls label data) (rest : List (List UInt8)) :
    read none (ls ++ rest) = read (some ⟨label, data.reverse⟩) rest := by
  induction h generalizing rest with
  | fresh h => exact read_of_begins h
  | again _ h ih => rw [List.append_assoc, ih, List.singleton_append, read_of_begins h, Option.map_some,
      Option.getD_some]
  | data _ h ih => rw [List.append_assoc, ih, List.singleton_append, read_of_holds h, List.reverse_concat]

/-! ### All ways of reading -/

theorem read_of_reads {ss : List Section} {fault : Option Fault} (h : Reads ls ss fault) :
    read none ls = ⟨ss, fault⟩ := by
  induction h with
  | done => rfl
  | outside h _ ih => rw [read_of_outside h, ih]
  | known hopen h hkind hbytes _ ih =>
    rw [read_of_opened hopen, read_of_ends h, hkind, List.reverse_reverse, hbytes, ih]
  | unknown hopen h hkind _ ih => rw [read_of_opened hopen, read_of_ends h, hkind, ih]
  | badData hopen h hkind hbytes =>
    rw [read_of_opened hopen, read_of_ends h, hkind, List.reverse_reverse, hbytes]
  | badBegin h => exact read_of_beginsBadly h
  | badAgain hopen h => rw [read_of_opened hopen, read_of_beginsBadly h]
  | noEnd hopen =>
    have hread := read_of_opened hopen []
    rwa [List.append_nil] at hread

theorem begins_or_badly (h : beginMark <+: line) : (∃ label, Begins line label) ∨ BeginsBadly line := by
  cases hlabel : labelOf? (line.drop beginMark.length) with
  | none => exact .inr ⟨h, hlabel⟩
  | some label => exact .inl ⟨label, h, hlabel⟩

/-- All lines can be read, and they can be read on within any section. -/
theorem exists_reads (rest : List (List UInt8)) :
    (∃ ss fault, Reads rest ss fault) ∧
      ∀ ls label data, Opened ls label data → ∃ ss fault, Reads (ls ++ rest) ss fault := by
  induction rest with
  | nil =>
    refine ⟨⟨_, _, .done⟩, ?_⟩
    intro ls label data hopen
    rw [List.append_nil]
    exact ⟨_, _, .noEnd hopen⟩
  | cons line rest ih =>
    obtain ⟨⟨ss, fault, hrest⟩, hwithin⟩ := ih
    by_cases hmark : beginMark <+: line
    · rcases begins_or_badly hmark with ⟨next, hbegins⟩ | hbadly
      · refine ⟨hwithin [line] next [] (.fresh hbegins), ?_⟩
        intro ls label data hopen
        rw [List.append_cons]
        exact hwithin _ _ _ (.again hopen hbegins)
      · exact ⟨⟨_, _, .badBegin hbadly⟩, fun ls label data hopen => ⟨_, _, .badAgain hopen hbadly⟩⟩
    · refine ⟨⟨ss, fault, .outside hmark hrest⟩, ?_⟩
      intro ls label data hopen
      by_cases hends : endMark ++ label ++ dashes <+: line
      · cases hkind : Kind.ofLabel? label with
        | none => exact ⟨_, _, .unknown hopen ⟨hmark, hends⟩ hkind hrest⟩
        | some kind =>
          cases hbytes : Base64.decode data.flatten with
          | ok bytes => exact ⟨_, _, .known hopen ⟨hmark, hends⟩ hkind hbytes hrest⟩
          | error f => exact ⟨_, _, .badData hopen ⟨hmark, hends⟩ hkind hbytes⟩
      · rw [List.append_cons]
        exact hwithin _ _ _ (.data hopen ⟨hmark, hends⟩)

/-- **What is found in a text is what its lines say.** -/
theorem find_eq_iff {text : List UInt8} {ss : List Section} {fault : Option Fault} :
    find text = ⟨ss, fault⟩ ↔ Reads (lines text) ss fault := by
  constructor
  · intro hfind
    obtain ⟨ss', fault', hreads⟩ := (exists_reads (lines text)).1
    cases hfind.symm.trans (read_of_reads hreads)
    exact hreads
  · exact read_of_reads

/-! ### Texts one behind the other -/

theorem lines_cons (b : UInt8) (text : List UInt8) : lines (b :: text) = consLine b (lines text) := rfl

theorem consLine_append {b : UInt8} {more : List (List UInt8)} (hsome : ls ≠ []) :
    consLine b (ls ++ more) = consLine b ls ++ more := by
  obtain ⟨l, ls, rfl⟩ := List.exists_cons_of_ne_nil hsome
  unfold consLine
  split <;> rfl

theorem consLine_ne_nil (b : UInt8) (ls : List (List UInt8)) : consLine b ls ≠ [] := by
  intro hnil
  have hbytes := flatten_consLine b ls
  rw [hnil] at hbytes
  cases hbytes

/-- What stands behind the end of a line has lines of its own. -/
theorem lines_append_lineEnd {e : UInt8} (he : isLineEnd e = true) (text more : List UInt8) :
    lines (text ++ e :: more) = lines (text ++ [e]) ++ lines more := by
  induction text with
  | nil =>
    have hcons (ls : List (List UInt8)) : consLine e ls = [e] :: ls := if_pos he
    rw [List.nil_append, List.nil_append, lines_cons, lines_cons, hcons, hcons]
    rfl
  | cons b text ih =>
    have hsome : lines (text ++ [e]) ≠ [] := by
      obtain ⟨c, cs, hcons⟩ := List.exists_cons_of_ne_nil (List.concat_ne_nil e text)
      rw [hcons, lines_cons]
      exact consLine_ne_nil c (lines cs)
    rw [List.cons_append, lines_cons, ih, consLine_append hsome, List.cons_append, lines_cons]

/-- The end of a line behind a text is a line of its own, or it belongs to the last line. -/
theorem lines_concat_lineEnd {e : UInt8} (he : isLineEnd e = true) (text : List UInt8) :
    lines (text ++ [e]) = lines text ++ [[e]] ∨
      ∃ init last, lines text = init ++ [last] ∧ lines (text ++ [e]) = init ++ [last ++ [e]] := by
  induction text with
  | nil => exact .inl (if_pos he)
  | cons b text ih =>
    rw [List.cons_append, lines_cons, lines_cons]
    by_cases hb : isLineEnd b = true
    · have hcons (ls : List (List UInt8)) : consLine b ls = [b] :: ls := if_pos hb
      rw [hcons, hcons]
      rcases ih with hown | ⟨init, last, htext, hlast⟩
      · exact .inl (by rw [hown, List.cons_append])
      · exact .inr ⟨[b] :: init, last, by rw [htext, List.cons_append], by rw [hlast, List.cons_append]⟩
    · rcases ih with hown | ⟨init, last, htext, hlast⟩
      · rw [hown]
        cases htext : lines text with
        | nil => exact .inr ⟨[], [b], if_neg hb, if_neg hb⟩
        | cons l ls => exact .inl (consLine_append (List.cons_ne_nil l ls))
      · rw [htext, hlast]
        cases init with
        | nil => exact .inr ⟨[], b :: last, if_neg hb, if_neg hb⟩
        | cons l init =>
          refine .inr ⟨consLine b (l :: init), last, ?_, ?_⟩ <;> exact consLine_append (List.cons_ne_nil l init)

theorem not_isLineEnd_of_mem_beginMark {b : UInt8} (h : b ∈ beginMark) : isLineEnd b = false := by
  have hall : ∀ b ∈ beginMark, isLineEnd b = false := by decide +kernel
  exact hall b h

theorem prefix_concat_lineEnd {e : UInt8} (he : isLineEnd e = true) :
    beginMark <+: line ++ [e] ↔ beginMark <+: line := by
  rw [List.prefix_concat_iff]
  refine or_iff_right ?_
  intro hmark
  have hnone := not_isLineEnd_of_mem_beginMark (b := e) (by simp [hmark])
  rw [he] at hnone
  cases hnone

theorem Ends.concat {e : UInt8} (he : isLineEnd e = true) (h : Ends label line) :
    Ends label (line ++ [e]) :=
  ⟨mt (prefix_concat_lineEnd he).mp h.1, h.2.trans (List.prefix_append line [e])⟩

/-- A list that ends in `line`, taken apart at one of its lines: that is the last one, or `line` is the last one
of those behind it. -/
theorem concat_eq_append_cons {init : List (List UInt8)} {last : List UInt8} (ls : List (List UInt8))
    (h : init ++ [line] = ls ++ last :: rest) :
    (rest = [] ∧ ls = init ∧ last = line) ∨ ∃ more, rest = more ++ [line] ∧ init = ls ++ last :: more := by
  rcases List.eq_nil_or_concat rest with rfl | ⟨more, final, rfl⟩
  · obtain ⟨rfl, hlast⟩ := List.append_inj' h rfl
    exact .inl ⟨rfl, rfl, (List.singleton_inj.mp hlast).symm⟩
  · rw [List.concat_eq_append, ← List.cons_append, ← List.append_assoc] at h
    obtain ⟨rfl, hfinal⟩ := List.append_inj' h rfl
    rw [List.singleton_inj.mp hfinal]
    exact .inr ⟨more, List.concat_eq_append, rfl⟩

/-- Lines that are read to the end are read alike when the last one is ended. -/
theorem Reads.close {ss : List Section} {init : List (List UInt8)} {e : UInt8} (he : isLineEnd e = true)
    (h : Reads (init ++ [line]) ss none) : Reads (init ++ [line ++ [e]]) ss none := by
  generalize hls : init ++ [line] = ls at h
  generalize hclean : (none : Option Fault) = fault at h
  induction h generalizing init with
  | done => exact absurd hls (List.concat_ne_nil _ _)
  | outside hline hrest ih =>
    subst hclean
    rcases concat_eq_append_cons [] hls with ⟨rfl, rfl, rfl⟩ | ⟨more, rfl, rfl⟩
    · exact .outside (mt (prefix_concat_lineEnd he).mp hline) hrest
    · exact .outside hline (ih rfl rfl)
  | known hopen hends hkind hbytes hrest ih =>
    subst hclean
    rcases concat_eq_append_cons _ hls with ⟨rfl, rfl, rfl⟩ | ⟨more, rfl, rfl⟩
    · exact .known hopen (hends.concat he) hkind hbytes hrest
    · rw [List.append_assoc, List.cons_append]
      exact .known hopen hends hkind hbytes (ih rfl rfl)
  | unknown hopen hends hkind hrest ih =>
    subst hclean
    rcases concat_eq_append_cons _ hls with ⟨rfl, rfl, rfl⟩ | ⟨more, rfl, rfl⟩
    · exact .unknown hopen (hends.concat he) hkind hrest
    · rw [List.append_assoc, List.cons_append]
      exact .unknown hopen hends hkind (ih rfl rfl)
  | badData | badBegin | badAgain | noEnd => cases hclean

/-- Lines behind others that are read to the end are read as if they stood alone. -/
theorem Reads.append {more : List (List UInt8)} {ss ts : List Section} {fault : Option Fault}
    (h : Reads ls ss none) (hmore : Reads more ts fault) : Reads (ls ++ more) (ss ++ ts) fault := by
  generalize hnone : (none : Option Fault) = clean at h
  induction h with
  | done => exact hmore
  | outside hline _ ih => exact .outside hline (ih hnone)
  | known hopen hends hkind hbytes _ ih =>
    rw [List.append_assoc, List.cons_append]
    exact .known hopen hends hkind hbytes (ih hnone)
  | unknown hopen hends hkind _ ih =>
    rw [List.append_assoc, List.cons_append]
    exact .unknown hopen hends hkind (ih hnone)
  | badData | badBegin | badAgain | noEnd => cases hnone

/-- **A text behind another one is read as if it stood alone,** when the first one can be read to its end and
a line ends between them. -/
theorem Reads.join {text more : List UInt8} {ss ts : List Section} {fault : Option Fault} {e : UInt8}
    (he : isLineEnd e = true) (h : Reads (lines text) ss none) (hmore : Reads (lines more) ts fault) :
    Reads (lines (text ++ e :: more)) (ss ++ ts) fault := by
  rw [lines_append_lineEnd he]
  refine Reads.append ?_ hmore
  rcases lines_concat_lineEnd he text with hown | ⟨init, last, htext, hlast⟩
  · have houtside : ¬ beginMark <+: [e] := by
      rw [← List.nil_append [e], prefix_concat_lineEnd he, List.prefix_nil]
      decide +kernel
    rw [hown, ← List.append_nil ss]
    exact h.append (.outside houtside .done)
  · rw [hlast]
    rw [htext] at h
    exact h.close he

end ClusterTopology.Pem
