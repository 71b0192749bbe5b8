import ClusterTopology.Text.Basic
/-!
Components of a cluster: their addresses, their roles, and snapshots of all of them.

An address is a host and a port.  It is read from a text by its last colon, so that a host may have colons
and brackets of its own, and it is written as `host:port` again.  A component has a role, a host, and two
ports, one to serve at and one to report its status at; a snapshot lists components in the order in which
the sources have found them.

The order of the roles is the order in which the sources are asked, and `Role.rank` says it as a number.  The
endpoints of a configuration are not addresses: they may be URLs, and `endpointUrl` makes a URL of what is not
one, without a look at what is left when the slashes at its end are gone.
-/

namespace ClusterTopology

/-! ## Addresses

An address is read from its end, because a host may hold colons of its own: the port is what follows
the last colon, the host is what precedes it, without the brackets that surround an IPv6 host. -/

structure HostPort where
  host : String
  port : UInt16
deriving DecidableEq, Repr

namespace HostPort

/-! ### Reading -/

/-- What stands before and after the last `sep`. -/
def splitLast? (sep : Char) : List Char → Option (List Char × List Char)
  | [] => none
  | c :: r =>
    match splitLast? sep r with
    | some (b, q) => some (c :: b, q)
    | none => if c = sep then some ([], r) else none

/-- The parts are what the text consists of, and the second holds no separator. -/
theorem splitLast?_eq_some_iff {sep : Char} {s b q : List Char} :
    splitLast? sep s = some (b, q) ↔ s = b ++ sep :: q ∧ sep ∉ q := by
  induction s generalizing b q with
  | nil => simp [splitLast?]
  | cons c r ih =>
    rw [splitLast?]
    split
    next b' q' h =>
      obtain ⟨hr, hq⟩ := ih.1 h
      constructor
      · rintro ⟨⟩
        exact ⟨by simp [hr], hq⟩
      · rintro ⟨hs, hn⟩
        cases b with
        | nil =>
          simp only [List.nil_append, List.cons.injEq] at hs
          exact absurd (by simp [← hs.2, hr]) hn
        | cons d b =>
          simp only [List.cons_append, List.cons.injEq] at hs
          have := ih.2 ⟨hs.2, hn⟩
          rw [h] at this
          simp only [Option.some.injEq, Prod.mk.injEq] at this
          simp [hs.1, this]
    next h =>
      have hnone : ∀ b q, ¬ (r = b ++ sep :: q ∧ sep ∉ q) := fun b q hb => by
        simpa [h] using (ih (b := b) (q := q)).2 hb
      constructor
      · intro hs
        split at hs
        next hc =>
          cases hs
          refine ⟨by simp [hc], fun hm => ?_⟩
          obtain ⟨b', q', hsplit, hq⟩ := exists_last_split hm
          exact hnone b' q' ⟨hsplit, hq⟩
        next => cases hs
      · rintro ⟨hs, hn⟩
        cases b with
        | nil =>
          simp only [List.nil_append, List.cons.injEq] at hs
          simp [hs.1, hs.2]
        | cons d b =>
          simp only [List.cons_append, List.cons.injEq] at hs
          exact absurd ⟨hs.2, hn⟩ (hnone b q)
where
  exists_last_split {sep : Char} {r : List Char} (h : sep ∈ r) :
      ∃ b q, r = b ++ sep :: q ∧ sep ∉ q := by
    induction r with
    | nil => cases h
    | cons c r ih =>
      by_cases hr : sep ∈ r
      · obtain ⟨b, q, hb, hq⟩ := ih hr
        exact ⟨c :: b, q, by simp [hb], hq⟩
      · rcases List.mem_cons.1 h with rfl | h
        · exact ⟨[], r, rfl, hr⟩
        · exact absurd h hr

/-- A host text without the opening brackets at its start and the closing ones at its end. -/
def bareHost (cs : List Char) : List Char :=
  ((cs.dropWhile (· == '[')).reverse.dropWhile (· == ']')).reverse

/-- An address text: a host that is not empty without its brackets, the last colon, a port. -/
def ofChars? (s : List Char) : Option HostPort := do
  let (b, q) ← splitLast? ':' (Text.trim s)
  let port ← Text.readUInt16? q
  let host := bareHost b
  if host = [] then none else some ⟨String.ofList host, port⟩

def ofText? (s : String) : Option HostPort :=
  ofChars? s.toList

/-! ### Writing -/

def text (a : HostPort) : String :=
  a.host ++ ":" ++ Text.natText a.port.toNat

end HostPort

/-! ### Endpoints -/

/-- Whether `pat` occurs in `s` as a run of neighbouring characters. -/
def Text.contains (pat : List Char) : List Char → Bool
  | [] => pat.isEmpty
  | c :: r => pat.isPrefixOf (c :: r) || Text.contains pat r

/-- The URL of an endpoint text: surrounding white space and then the slashes at the end go, and an
endpoint that names no scheme gets the given one. -/
def endpointUrl (scheme endpoint : String) : String :=
  let bare := ((Text.trim endpoint.toList).reverse.dropWhile (· == '/')).reverse
  if Text.contains "://".toList bare then String.ofList bare
  else scheme ++ "://" ++ String.ofList bare

/-! ## Roles -/

/-- The role of a component, in the order in which a topology lists the roles. -/
inductive Role where
  /-- The SQL layer. -/
  | tidb
  /-- The placement driver. -/
  | pd
  /-- A row store. -/
  | tikv
  /-- A column store. -/
  | tiflash
deriving DecidableEq, Repr

namespace Role

def text : Role → String
  | tidb => "tidb"
  | pd => "pd"
  | tikv => "tikv"
  | tiflash => "tiflash"

def all : List Role := [tidb, pd, tikv, tiflash]

def ofText? (s : String) : Option Role :=
  all.find? fun r => r.text == s

theorem ofText?_text (r : Role) : ofText? r.text = some r := by
  cases r <;> decide

def rank : Role → Nat
  | tidb => 0
  | pd => 1
  | tikv => 2
  | tiflash => 3

end Role

/-! ## Components -/

/-- A healthy member of the cluster: where it serves and where it reports its status. -/
structure Component where
  role : Role
  ip : String
  port : UInt16
  statusPort : UInt16
deriving DecidableEq, Repr

namespace Component

def address (c : Component) : String :=
  HostPort.text ⟨c.ip, c.port⟩

def statusAddress (c : Component) : String :=
  HostPort.text ⟨c.ip, c.statusPort⟩

/-- The text of a component: `tidb(10.0.0.1:4000, status 10080)`. -/
def display (c : Component) : String :=
  c.role.text ++ "(" ++ c.address ++ ", status " ++ Text.natText c.statusPort.toNat ++ ")"

end Component

/-- The components of a cluster as one cycle found them. -/
abbrev Snapshot := List Component

end ClusterTopology
