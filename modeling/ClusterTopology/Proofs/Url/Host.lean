import Mathlib.Data.List.TakeWhile
import ClusterTopology.Proofs.Url.Below
/-!
Where the host of a URL stands when a path has been written behind a text.

A special scheme forgives slashes: behind its colon any number of them goes by before the host is read.
When nothing but slashes stands between the colon and the path, the slash of the path goes by as well,
and the first segment of the path becomes the host.  When anything else stands there, host and port are
over before the path begins.

So the two cases are told apart by what stands behind the colon.  `IsOwn` is a character that is neither a
slash nor one that a text loses before it is read; with such a character `host_of_own` keeps the host, and
without one `host_of_not_own` takes it from the path.  Both speak of any scheme that is special and of any
path, and leave it to the caller to know what the first segment would be as a host.
-/

namespace ClusterTopology.Url

/-- What stands behind the first colon. -/
def behindColon (cs : List Char) : List Char := (cs.dropWhile (· != ':')).drop 1

theorem behindColon_append {cs more : List Char} (hcolon : ':' ∉ cs) :
    behindColon (cs ++ ':' :: more) = more := by
  have hall : ∀ c ∈ cs, (c != ':') = true := by
    intro c hc
    rw [bne_iff_ne]
    rintro rfl
    exact hcolon hc
  rw [behindColon, List.dropWhile_append_of_pos hall]
  rfl

theorem behindColon_filter {p : Char → Bool} (hp : p ':' = true) (cs : List Char) :
    behindColon (cs.filter p) = (behindColon cs).filter p := by
  unfold behindColon
  induction cs with
  | nil => rfl
  | cons c cs ih =>
    by_cases hc : c = ':'
    · subst hc
      simp [hp]
    · by_cases hkept : p c = true
      · simpa [hkept, hc] using ih
      · simpa [hkept, hc] using ih

theorem behindColon_dropWhile {p : Char → Bool} (hp : p ':' = false) (cs : List Char) :
    behindColon (cs.dropWhile p) = behindColon cs := by
  induction cs with
  | nil => rfl
  | cons c cs ih =>
    by_cases hc : p c = true
    · have hne : c ≠ ':' := by
        rintro rfl
        simp [hp] at hc
      simpa [behindColon, hc, hne] using ih
    · rw [List.dropWhile_cons_of_neg hc]

/-- A scheme has no colon, so the rest is what stands behind the first. -/
theorem behindColon_of_splitScheme? {cs rest : List Char} {scheme : String}
    (h : splitScheme? cs = some (scheme, rest)) : behindColon cs = rest := by
  simp only [splitScheme?] at h
  split at h
  · next behind hdrop =>
    split at h
    · simp only [Option.some.injEq, Prod.mk.injEq] at h
      obtain ⟨-, rfl⟩ := h
      rw [← List.take_append_drop (List.length _) cs, hdrop]
      refine behindColon_append ?_
      rw [← List.prefix_iff_eq_take.mp (List.takeWhile_prefix _)]
      intro hcolon
      cases List.mem_takeWhile_imp hcolon
    · cases h
  · cases h

theorem behindColon_countedBefore (before : List Char) :
    behindColon (countedBefore before) =
      (behindColon before).filter fun c => !(c == '\t' || c == '\n' || c == '\r') := by
  rw [countedBefore, behindColon_filter rfl, behindColon_dropWhile rfl]

variable {before path : List Char} {u : Url}

/-- The scheme of a URL is over before a path without colons begins. -/
theorem splitScheme?_countedBefore (hpath : IsPath path) (hcolon : ':' ∉ path)
    (hbase : ofText (String.ofList (before ++ path)) = .ok u) :
    ':' ∈ countedBefore before ∧
      splitScheme? (countedBefore before) =
        some (u.scheme, behindColon (countedBefore before)) := by
  obtain ⟨rest, hscheme⟩ := splitScheme?_of_ofText hbase
  rw [String.toList_ofList, countedChars_append before hpath] at hscheme
  have hmem : ':' ∈ countedBefore before := by
    have hmem := (suffix_of_splitScheme? hscheme).subset List.mem_cons_self
    exact (List.mem_append.mp hmem).resolve_right hcolon
  refine ⟨hmem, ?_⟩
  rw [splitScheme?_append hmem, Option.map_eq_some_iff] at hscheme
  obtain ⟨⟨scheme, behind⟩, hscheme, heq⟩ := hscheme
  cases heq
  rw [behindColon_of_splitScheme? hscheme]
  exact hscheme

/-- Host and port at the start of a text that has no credentials and names a host. -/
theorem authority_of_named {cs name rest : List Char} {port : Option UInt16}
    (hcredentials : skipCredentials .special cs = .ok (false, cs))
    (hname : hostPart .special false cs = name) (hne : name ≠ [])
    (hport : portPart (cs.drop name.length) = .ok (port, rest)) :
    authority .special cs = (specialHost name).map fun host => (host, port, rest) := by
  simp only [authority, hcredentials, bind, Except.bind, hname, hne, false_and, if_false, hport,
    reduceCtorEq]
  cases specialHost name <;> rfl

/-- The URL of a text with a path behind it, by host and port: they are read behind the colon and any
number of slashes. -/
theorem ofText_path {scheme : String} (hpath : IsPath path) (hmem : ':' ∈ countedBefore before)
    (hscheme : splitScheme? (countedBefore before) =
      some (scheme, behindColon (countedBefore before))) (hkind : kindOf scheme = .special) :
    ofText (String.ofList (before ++ path)) =
      (authority .special
        ((behindColon (countedBefore before) ++ path).dropWhile fun c => c == '/' || c == '\\')).map
      fun (host, port, rest) => assemble scheme (some host) port (pathAfterHost .special) rest := by
  refine ofText_of_special ?_ hkind
  rw [String.toList_ofList, countedChars_append before hpath, splitScheme?_append hmem, hscheme]
  rfl

/-- A character behind the colon of a scheme is one of the host or of what follows it: it is no slash and
it counts. -/
def IsOwn (c : Char) : Prop := c ∉ ['/', '\\', '\t', '\n', '\r']

instance : DecidablePred IsOwn := fun c => inferInstanceAs (Decidable (c ∉ _))

theorem exists_own_iff :
    (∃ c ∈ behindColon before, IsOwn c) ↔
      ∃ c ∈ behindColon (countedBefore before), (c == '/' || c == '\\') = false := by
  rw [behindColon_countedBefore]
  simp only [List.mem_filter, IsOwn, List.mem_cons, List.not_mem_nil, or_false, not_or,
    Bool.or_eq_false_iff, beq_eq_false_iff_ne, Bool.not_eq_true']
  constructor
  · rintro ⟨c, hc, hslash, hback, ht, hn, hr⟩
    exact ⟨c, ⟨hc, ⟨ht, hn⟩, hr⟩, hslash, hback⟩
  · rintro ⟨c, ⟨hc, ⟨ht, hn⟩, hr⟩, hslash, hback⟩
    exact ⟨c, hc, hslash, hback, ht, hn, hr⟩

/-- **A text with something of its own behind the colon has its own host**, whatever path is written
behind it. -/
theorem host_of_own {more : List Char} (hpath : IsPath path) (hcolon : ':' ∉ path)
    (hbase : ofText (String.ofList (before ++ path)) = .ok u) (hkind : kindOf u.scheme = .special)
    (hown : ∃ c ∈ behindColon before, IsOwn c) (hmore : IsPath more) :
    ∃ u', ofText (String.ofList (before ++ more)) = .ok u' ∧ u'.scheme = u.scheme ∧
      u'.host = u.host ∧ u'.port = u.port := by
  obtain ⟨hmem, hscheme⟩ := splitScheme?_countedBefore hpath hcolon hbase
  have hnonslash := exists_own_iff.mp hown
  generalize hbehind : behindColon (countedBefore before) = behind at hscheme hnonslash
  -- every path begins with a slash, and host and port are over there
  have hread (path : List Char) (hpath : IsPath path) :
      ∃ rest, ofText (String.ofList (before ++ path)) =
        (authority .special ((behind.dropWhile fun c => c == '/' || c == '\\') ++ ['/'])).map
          fun (host, port, last) =>
            assemble u.scheme (some host) port (pathAfterHost .special) (last ++ rest) := by
    obtain ⟨rest, rfl⟩ := List.head?_eq_some_iff.mp hpath.first
    refine ⟨rest, ?_⟩
    rw [ofText_path hpath hmem (hbehind ▸ hscheme) hkind, hbehind, dropWhile_append_of_stop hnonslash,
      ← List.singleton_append, ← List.append_assoc, authority_append ⟨'/', by simp, rfl⟩]
    cases authority .special ((behind.dropWhile fun c => c == '/' || c == '\\') ++ ['/']) <;> rfl
  obtain ⟨rest, hrest⟩ := hread path hpath
  obtain ⟨rest', hrest'⟩ := hread more hmore
  rw [hrest] at hbase
  rw [hrest']
  cases hauthority : authority .special ((behind.dropWhile fun c => c == '/' || c == '\\') ++ ['/']) with
  | error e =>
    rw [hauthority] at hbase
    cases hbase
  | ok r =>
    obtain ⟨host, port, last⟩ := r
    rw [hauthority] at hbase
    have hu : assemble u.scheme (some host) port (pathAfterHost .special) (last ++ rest) = u :=
      Except.ok.inj hbase
    refine ⟨assemble u.scheme (some host) port (pathAfterHost .special) (last ++ rest'), rfl, rfl, ?_, ?_⟩
    · calc some host = (assemble u.scheme (some host) port _ (last ++ rest)).host := rfl
        _ = u.host := congrArg Url.host hu
    · calc (assemble u.scheme (some host) port _ (last ++ rest')).port
          = (assemble u.scheme (some host) port _ (last ++ rest)).port := rfl
        _ = u.port := congrArg Url.port hu

/-- **A text with nothing of its own behind the colon takes its host from the path.** -/
theorem host_of_not_own (hpath : IsPath path) (hcolon : ':' ∉ path)
    (hbase : ofText (String.ofList (before ++ path)) = .ok u) (hkind : kindOf u.scheme = .special)
    (hnone : ¬ ∃ c ∈ behindColon before, IsOwn c) :
    ∃ host port rest, authority .special (path.dropWhile fun c => c == '/' || c == '\\') =
      .ok (host, port, rest) ∧ u.host = some host := by
  obtain ⟨hmem, hscheme⟩ := splitScheme?_countedBefore hpath hcolon hbase
  have hslashes : ∀ c ∈ behindColon (countedBefore before), (c == '/' || c == '\\') = true := by
    intro c hc
    by_contra hslash
    exact hnone (exists_own_iff.mpr ⟨c, hc, Bool.eq_false_iff.mpr hslash⟩)
  rw [ofText_path hpath hmem hscheme hkind, List.dropWhile_append_of_pos hslashes] at hbase
  cases hauthority : authority .special (path.dropWhile fun c => c == '/' || c == '\\') with
  | error e =>
    rw [hauthority] at hbase
    cases hbase
  | ok r =>
    obtain ⟨host, port, rest⟩ := r
    rw [hauthority] at hbase
    have hu : assemble u.scheme (some host) port (pathAfterHost .special) rest = u :=
      Except.ok.inj hbase
    exact ⟨host, port, rest, rfl, (congrArg Url.host hu).symm⟩

end ClusterTopology.Url
