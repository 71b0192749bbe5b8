import Mathlib.Data.List.DropRight
import Mathlib.Data.List.Infix
import Mathlib.Tactic.Common
import ClusterTopology.Url.Basic
/-!
URLs below a URL.

What a URL with a host says about scheme, host and port is over at the first slash behind them.  A text that
has come that far and is a URL therefore stays one, with the same scheme, whatever path is written
behind it.

Everything rests on one observation about `takeWhile` and `dropWhile`: where some character stops the
reading, what is written behind the text cannot change it.  `Stops` says that such a character stands
somewhere, and it is passed on from stage to stage, over the credentials, the host and the port, until
`authority_append` says it of all three.

`IsPath` is what a path has to be for that: it begins with a slash and holds none of the characters that a
text loses before it is read.  The module ends with `ofText_below`, for texts whose scheme is special.
-/

namespace ClusterTopology.Url

/-! ### Reading up to a character that stops -/

theorem takeWhile_append_of_stop {p : Char → Bool} {cs : List Char} (h : ∃ c ∈ cs, p c = false)
    (more : List Char) : (cs ++ more).takeWhile p = cs.takeWhile p := by
  induction cs with
  | nil => simp at h
  | cons c cs ih =>
    cases hc : p c with
    | false => simp [hc]
    | true =>
      have hrest : ∃ d ∈ cs, p d = false := by simpa [hc] using h
      simp [hc, ih hrest]

theorem dropWhile_append_of_stop {p : Char → Bool} {cs : List Char} (h : ∃ c ∈ cs, p c = false)
    (more : List Char) : (cs ++ more).dropWhile p = cs.dropWhile p ++ more := by
  induction cs with
  | nil => simp at h
  | cons c cs ih =>
    cases hc : p c with
    | false => simp [hc]
    | true =>
      have hrest : ∃ d ∈ cs, p d = false := by simpa [hc] using h
      simp [hc, ih hrest]

/-- The first character that stops is left, with what follows it. -/
theorem drop_takeWhile_of_stop {p : Char → Bool} {cs : List Char} (h : ∃ c ∈ cs, p c = false) :
    ∃ c rest, cs.drop (cs.takeWhile p).length = c :: rest ∧ p c = false := by
  induction cs with
  | nil => simp at h
  | cons c cs ih =>
    cases hc : p c with
    | false => exact ⟨c, cs, by simp [hc], hc⟩
    | true =>
      have hrest : ∃ d ∈ cs, p d = false := by simpa [hc] using h
      obtain ⟨d, rest, hdrop, hd⟩ := ih hrest
      exact ⟨d, rest, by simp [hc, hdrop], hd⟩

theorem drop_append_of_drop_eq_cons {cs more rest : List Char} {n : Nat} {c : Char}
    (h : cs.drop n = c :: rest) : (cs ++ more).drop n = cs.drop n ++ more := by
  refine List.drop_append_of_le_length ?_
  by_contra hlong
  rw [List.drop_eq_nil_of_le (Nat.le_of_not_le hlong)] at h
  cases h

/-- What is dropped from the front does not reach a character that stops. -/
theorem suffix_dropWhile {p : Char → Bool} {c : Char} (hc : p c = false) (before after : List Char) :
    c :: after <:+ (before ++ c :: after).dropWhile p := by
  induction before with
  | nil => simp [hc]
  | cons d before ih =>
    cases hd : p d with
    | false =>
      simp only [List.cons_append, List.dropWhile_cons, hd, Bool.false_eq_true, if_false]
      exact (List.suffix_append before (c :: after)).trans (List.suffix_cons d _)
    | true => simpa [hd] using ih

/-! ### Host and port -/

/-- Host and port are over within a text. -/
def Stops (kind : Kind) (cs : List Char) : Prop := ∃ c ∈ cs, endsAuthority kind c = true

variable {kind : Kind}

theorem Stops.of_cons {c : Char} {cs : List Char} (h : Stops kind (c :: cs))
    (hc : endsAuthority kind c = false) : Stops kind cs := by
  obtain ⟨d, hd, hends⟩ := h
  rcases List.mem_cons.mp hd with rfl | hd
  · simp [hc] at hends
  · exact ⟨d, hd, hends⟩

theorem Stops.not_all {cs : List Char} (h : Stops kind cs) :
    ∃ c ∈ cs, (!endsAuthority kind c) = false := by
  obtain ⟨c, hc, hends⟩ := h
  exact ⟨c, hc, by simp [hends]⟩

theorem hostPart_append {cs : List Char} (h : Stops kind cs) (inBrackets : Bool)
    (more : List Char) : hostPart kind inBrackets (cs ++ more) = hostPart kind inBrackets cs := by
  induction cs generalizing inBrackets with
  | nil =>
    obtain ⟨c, hc, -⟩ := h
    cases hc
  | cons c cs ih =>
    rw [List.cons_append, hostPart, hostPart]
    by_cases hover : ((c == ':' && !inBrackets) || endsAuthority kind c) = true
    · rw [if_pos hover, if_pos hover]
    · rw [if_neg hover, if_neg hover]
      simp only [Bool.or_eq_true, not_or, Bool.not_eq_true] at hover
      rw [ih (h.of_cons hover.2)]

/-- Behind the host the text is not over: host and port stop there. -/
theorem Stops.drop_hostPart {cs : List Char} (h : Stops kind cs) (inBrackets : Bool) :
    Stops kind (cs.drop (hostPart kind inBrackets cs).length) := by
  induction cs generalizing inBrackets with
  | nil => exact h
  | cons c cs ih =>
    rw [hostPart]
    by_cases hover : ((c == ':' && !inBrackets) || endsAuthority kind c) = true
    · rw [if_pos hover]
      exact h
    · rw [if_neg hover]
      simp only [Bool.or_eq_true, not_or, Bool.not_eq_true] at hover
      exact ih (h.of_cons hover.2) _

theorem Stops.ne_nil {cs : List Char} (h : Stops kind cs) : cs ≠ [] := by
  rintro rfl
  obtain ⟨c, hc, -⟩ := h
  cases hc

/-- What stands behind credentials is not over either. -/
theorem Stops.of_skipCredentials {cs rest : List Char} {hasCredentials : Bool} (h : Stops kind cs)
    (hskip : skipCredentials kind cs = .ok (hasCredentials, rest)) : Stops kind rest := by
  obtain ⟨c, behind, hdrop, hc⟩ := drop_takeWhile_of_stop h.not_all
  have hends : endsAuthority kind c = true := by simpa using hc
  unfold skipCredentials at hskip
  simp only [hdrop] at hskip
  split at hskip
  · cases hskip
    exact h
  · split at hskip
    · cases hskip
    · cases hskip
      exact ⟨c, by simp, hends⟩

/-- Credentials are over before the text is. -/
theorem skipCredentials_append {cs : List Char} (h : Stops kind cs) (more : List Char) :
    skipCredentials kind (cs ++ more) =
      (skipCredentials kind cs).map fun (hasCredentials, rest) => (hasCredentials, rest ++ more) := by
  obtain ⟨c, behind, hdrop, -⟩ := drop_takeWhile_of_stop h.not_all
  unfold skipCredentials
  simp only [takeWhile_append_of_stop h.not_all, drop_append_of_drop_eq_cons hdrop, hdrop]
  cases HostPort.splitLast? '@' (cs.takeWhile (!endsAuthority kind ·)) with
  | none => rfl
  | some parts =>
    obtain ⟨credentials, after⟩ := parts
    by_cases hnone : credentials = [] ∧ after = []
    · simp [hnone, Except.map]
    · simp [hnone, Except.map]

/-- A port is over before the text is. -/
theorem portPart_append {cs : List Char} (h : Stops kind cs) (more : List Char) :
    portPart (cs ++ more) = (portPart cs).map fun (port, rest) => (port, rest ++ more) := by
  obtain ⟨c, cs, rfl⟩ := List.exists_cons_of_ne_nil h.ne_nil
  by_cases hcolon : c = ':'
  · subst hcolon
    have hstops : Stops kind cs := h.of_cons (by cases kind <;> rfl)
    have hdigits : ∃ c ∈ cs, c.isDigit = false := by
      obtain ⟨c, hc, hends⟩ := hstops
      refine ⟨c, hc, ?_⟩
      simp only [endsAuthority, Bool.or_eq_true, beq_iff_eq, Bool.and_eq_true] at hends
      rcases hends with ((rfl | rfl) | rfl) | ⟨-, rfl⟩ <;> rfl
    obtain ⟨d, behind, hdrop, -⟩ := drop_takeWhile_of_stop hdigits
    unfold portPart
    simp only [List.cons_append, takeWhile_append_of_stop hdigits, drop_append_of_drop_eq_cons hdrop,
      hdrop]
    split <;> rfl
  · unfold portPart
    split
    · next heq => simp_all
    · split
      · next heq => simp_all
      · rfl

theorem authority_append {cs : List Char} (h : Stops .special cs) (more : List Char) :
    authority .special (cs ++ more) =
      (authority .special cs).map fun (host, port, rest) => (host, port, rest ++ more) := by
  unfold authority
  rw [skipCredentials_append h]
  cases hskip : skipCredentials .special cs with
  | error e => rfl
  | ok skipped =>
    obtain ⟨hasCredentials, behind⟩ := skipped
    have hstops := h.of_skipCredentials hskip
    have hstops' := hstops.drop_hostPart false
    obtain ⟨d, after, hdrop⟩ := List.exists_cons_of_ne_nil hstops'.ne_nil
    -- what ends the host is still there, so that the check of an empty host sees the same
    have hhead : (behind.drop (hostPart .special false behind).length ++ more).head? =
        (behind.drop (hostPart .special false behind).length).head? := by
      simp [hdrop]
    simp only [Except.map, bind, Except.bind, hostPart_append hstops,
      drop_append_of_drop_eq_cons hdrop, hhead]
    split
    · rfl
    · simp only [reduceCtorEq, if_false]
      cases specialHost (hostPart .special false behind) with
      | error e => rfl
      | ok host =>
        rw [portPart_append hstops']
        cases portPart (behind.drop (hostPart .special false behind).length) <;> rfl

/-! ### Whole URLs -/

/-- The rest of a text stands behind the colon that its scheme ends with. -/
theorem suffix_of_splitScheme? {cs rest : List Char} {scheme : String}
    (h : splitScheme? cs = some (scheme, rest)) : ':' :: rest <:+ cs := by
  simp only [splitScheme?] at h
  split at h
  · next behind hdrop =>
    split at h
    · simp only [Option.some.injEq, Prod.mk.injEq] at h
      obtain ⟨-, rfl⟩ := h
      exact hdrop ▸ List.drop_suffix _ _
    · cases h
  · cases h

/-- A scheme is over at the first colon. -/
theorem splitScheme?_append {cs : List Char} (hcolon : ':' ∈ cs) (more : List Char) :
    splitScheme? (cs ++ more) =
      (splitScheme? cs).map fun (scheme, rest) => (scheme, rest ++ more) := by
  have hstop : ∃ c ∈ cs, (c.isAlphanum || c == '+' || c == '-' || c == '.') = false :=
    ⟨':', hcolon, rfl⟩
  obtain ⟨c, behind, hdrop, -⟩ := drop_takeWhile_of_stop hstop
  simp only [splitScheme?, takeWhile_append_of_stop hstop, drop_append_of_drop_eq_cons hdrop]
  rw [hdrop, List.cons_append]
  by_cases hc : c = ':'
  · subst hc
    simp only []
    split <;> rfl
  · split
    · next heq => exact absurd (List.cons.inj heq).1 hc
    · split
      · next heq => exact absurd (List.cons.inj heq).1 hc
      · rfl

/-- What counts of a text that is to be a URL. -/
def countedChars (cs : List Char) : List Char :=
  let isPadding (c : Char) : Bool := c.toNat ≤ 0x20
  ((cs.dropWhile isPadding).reverse.dropWhile isPadding).reverse.filter fun c =>
    !(c == '\t' || c == '\n' || c == '\r')

/-- The scheme of a URL is the one that its text starts with. -/
theorem splitScheme?_of_ofText {s : String} {u : Url} (h : ofText s = .ok u) :
    ∃ rest, splitScheme? (countedChars s.toList) = some (u.scheme, rest) := by
  cases hscheme : splitScheme? (countedChars s.toList) with
  | none =>
    unfold countedChars at hscheme
    simp only [ofText, hscheme] at h
    cases h
  | some split =>
    obtain ⟨scheme, rest⟩ := split
    suffices hsame : scheme = u.scheme from ⟨rest, by rw [hsame]⟩
    have hassembled {url : Url} (hurl : url.scheme = scheme)
        (h : (pure url : Except Invalid Url) = .ok u) : scheme = u.scheme := by
      cases h
      exact hurl.symm
    have hbound {α : Type} {x : Except Invalid α} {f : α → Url} (hf : ∀ a, (f a).scheme = scheme)
        (h : (x >>= fun a => pure (f a)) = .ok u) : scheme = u.scheme := by
      cases x with
      | error e => cases h
      | ok a => exact hassembled (hf a) h
    unfold countedChars at hscheme
    simp only [ofText, hscheme] at h
    split at h
    · exact hbound (fun _ => rfl) h
    · exact hbound (fun _ => rfl) h
    · exact hassembled rfl h
    · exact hassembled rfl h
    · split at h
      · exact hbound (fun _ => rfl) h
      · exact hassembled rfl h
    · exact hassembled rfl h

/-- The URL of a text with a special scheme, by its host and port. -/
theorem ofText_of_special {s scheme : String} {rest : List Char}
    (hscheme : splitScheme? (countedChars s.toList) = some (scheme, rest))
    (hkind : kindOf scheme = .special) :
    ofText s = (authority .special (rest.dropWhile fun c => c == '/' || c == '\\')).map
      fun (host, port, rest) => assemble scheme (some host) port (pathAfterHost .special) rest := by
  unfold countedChars at hscheme
  simp only [ofText, hscheme, hkind]
  cases authority .special (rest.dropWhile fun c => c == '/' || c == '\\') <;> rfl

/-- A path as programs write it: it begins with a slash, and all of it counts. -/
structure IsPath (cs : List Char) : Prop where
  first : cs.head? = some '/'
  last : ∃ c, cs.getLast? = some c ∧ ¬ c.toNat ≤ 0x20
  counted : ∀ c ∈ cs, c ≠ '\t' ∧ c ≠ '\n' ∧ c ≠ '\r'

theorem IsPath.append {cs more : List Char} (h : IsPath cs) (hmore : IsPath more) :
    IsPath (cs ++ more) := by
  obtain ⟨c, hlast, hc⟩ := hmore.last
  refine ⟨?_, ⟨c, ?_, hc⟩, ?_⟩
  · rw [List.head?_append, h.first]
    rfl
  · rw [List.getLast?_append, hlast]
    rfl
  · intro x hx
    rcases List.mem_append.mp hx with hx | hx
    · exact h.counted x hx
    · exact hmore.counted x hx

/-- What counts of a text with a path behind it. -/
def countedBefore (before : List Char) : List Char :=
  (before.dropWhile fun c => c.toNat ≤ 0x20).filter fun c => !(c == '\t' || c == '\n' || c == '\r')

/-- Of a text that ends in a path all of the path counts, and before it the same as with another path. -/
theorem countedChars_append (before : List Char) {path : List Char} (hpath : IsPath path) :
    countedChars (before ++ path) = countedBefore before ++ path := by
  obtain ⟨hfirst, ⟨d, hlast, hd⟩, hcounted⟩ := hpath
  have hfront : (before ++ path).dropWhile (fun c => c.toNat ≤ 0x20) =
      (before.dropWhile fun c => c.toNat ≤ 0x20) ++ path := by
    induction before with
    | nil =>
      obtain ⟨rest, rfl⟩ := List.head?_eq_some_iff.mp hfirst
      rfl
    | cons c before ih =>
      by_cases hc : c.toNat ≤ 0x20
      · simpa [hc] using ih
      · simp [hc]
  -- the last character of the path counts, so nothing is cut off at the end
  obtain ⟨init, rfl⟩ := List.getLast?_eq_some_iff.mp hlast
  have hend (l : List Char) : (l ++ (init ++ [d])).rdropWhile (fun c => c.toNat ≤ 0x20) =
      l ++ (init ++ [d]) := by
    rw [← List.append_assoc]
    exact List.rdropWhile_concat_neg _ _ _ (by simpa using hd)
  have hkept : (init ++ [d]).filter (fun c => !(c == '\t' || c == '\n' || c == '\r')) =
      init ++ [d] := by
    refine List.filter_eq_self.mpr ?_
    intro c hc
    simpa [and_assoc] using hcounted c hc
  simp only [countedChars, countedBefore]
  rw [hfront, ← List.rdropWhile, hend, List.filter_append, hkept]

/-- **Below a URL there are URLs.**  A text with a special scheme that is a URL, and whose path has two
segments at least, is one with any path behind it, and has the same scheme. -/
theorem ofText_below {before path more : List Char} {u : Url} {c : Char} {first rest : List Char}
    (hpath : IsPath path) (hcolon : ':' ∉ path) (htwo : path = first ++ c :: rest)
    (hc : (c == '/' || c == '\\') = false) (hslash : '/' ∈ rest) (hmore : IsPath more)
    (hbase : ofText (String.ofList (before ++ path)) = .ok u) (hkind : kindOf u.scheme = .special) :
    ∃ u', ofText (String.ofList (before ++ path ++ more)) = .ok u' ∧ u'.scheme = u.scheme := by
  obtain ⟨behind, hscheme⟩ := splitScheme?_of_ofText hbase
  have hbase' := hbase
  rw [ofText_of_special hscheme hkind] at hbase'
  rw [String.toList_ofList, countedChars_append before hpath] at hscheme
  -- the scheme ends before the path, so the path is still there behind it
  have hbehind : path <:+ behind := by
    have hsuffix := suffix_of_splitScheme? hscheme
    have hpath := List.suffix_append (countedBefore before) path
    rcases List.suffix_or_suffix_of_suffix hsuffix hpath with hin | hin
    · exact absurd (hin.subset List.mem_cons_self) hcolon
    · rcases List.suffix_cons_iff.mp hin with heq | hin
      · rw [heq] at hcolon
        exact absurd List.mem_cons_self hcolon
      · exact hin
  have hstops : Stops .special (behind.dropWhile fun c => c == '/' || c == '\\') := by
    obtain ⟨front, rfl⟩ := hbehind
    have hleft := suffix_dropWhile (p := fun c => c == '/' || c == '\\') hc (front ++ first) rest
    rw [List.append_assoc, ← htwo] at hleft
    exact ⟨'/', hleft.subset (List.mem_cons_of_mem _ hslash), rfl⟩
  have hnonslash : ∃ d ∈ behind, (d == '/' || d == '\\') = false :=
    ⟨c, hbehind.subset (by simp [htwo]), hc⟩
  have hscheme' : splitScheme? (countedChars (String.ofList (before ++ path ++ more)).toList) =
      some (u.scheme, behind ++ more) := by
    have hmem : ':' ∈ countedBefore before ++ path :=
      (suffix_of_splitScheme? hscheme).subset List.mem_cons_self
    rw [String.toList_ofList, List.append_assoc, countedChars_append before (hpath.append hmore),
      ← List.append_assoc, splitScheme?_append hmem, hscheme]
    rfl
  rw [ofText_of_special hscheme' hkind, dropWhile_append_of_stop hnonslash]
  cases hauthority : authority .special (behind.dropWhile fun c => c == '/' || c == '\\') with
  | error e =>
    rw [hauthority] at hbase'
    cases hbase'
  | ok r =>
    obtain ⟨host, port, tail⟩ := r
    rw [authority_append hstops, hauthority]
    exact ⟨_, rfl, rfl⟩

end ClusterTopology.Url
