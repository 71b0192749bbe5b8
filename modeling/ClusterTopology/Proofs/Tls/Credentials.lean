import Mathlib.Tactic.Common
import ClusterTopology.Pd.Client
import ClusterTopology.Tidb.Client
import ClusterTopology.Proofs.Address.Endpoint
import ClusterTopology.Proofs.Data.Records
import ClusterTopology.Proofs.Text.Basic
import ClusterTopology.Proofs.Tls.Settings
/-!
What the two clients show of themselves.

Both are handed the same three texts.  The client of etcd takes the certificates of one text and the first
key of another; the client of the placement driver takes both texts as one, with all certificates and the
last key in it.  So what they show is the same as long as the text of the key holds nothing but its key, and
the two differ in what else stands there: each certificate in it is shown to the placement driver alone,
and of several keys etcd is shown the first and the placement driver the last.

`chainOf`, `FirstKey` and `LastKey` say of a list of sections what either client takes from it, and
`IsIdentity` what such a list has to be for the client of the placement driver.  The text that this client
reads is two texts with the end of a line between them, so its sections are those of both, by `Reads.join`.
Material that is accepted has sections of both sorts; that the clients could be built with it gives the
credentials themselves, and comparing them is then a matter of lists.
-/

namespace ClusterTopology

open ClusterTopology.Pem

namespace Tls

/-! ### What sections hold -/

/-- The certificates among sections, in their order. -/
def chainOf (ss : List Section) : List (List UInt8) :=
  (ss.filter (·.kind == .certificate)).map (·.bytes)

def FirstKey (ss : List Section) (key : Section) : Prop :=
  ∃ before after, ss = before ++ key :: after ∧ key.kind.isKey = true ∧
    ∀ s ∈ before, s.kind.isKey = false

def LastKey (ss : List Section) (key : Section) : Prop :=
  ∃ before after, ss = before ++ key :: after ∧ key.kind.isKey = true ∧
    ∀ s ∈ after, s.kind.isKey = false

/-- Sections are certificates and private keys, and nothing else. -/
def IsIdentity (ss : List Section) : Prop :=
  ∀ s ∈ ss, s.kind = .certificate ∨ s.kind.isKey = true

variable {roots certs keys ss : List Section} {fault : Option Fault} {key found : Section}

theorem chainOf_append (ss ts : List Section) : chainOf (ss ++ ts) = chainOf ss ++ chainOf ts := by
  rw [chainOf, List.filter_append, List.map_append]
  rfl

theorem chainOf_eq_nil_iff : chainOf ss = [] ↔ ∀ s ∈ ss, s.kind ≠ .certificate := by
  rw [← not_iff_not, ← Ne, chainOf, Material.certificates_ne_nil_iff]
  push Not
  rfl

theorem find?_isKey_eq_some_iff : ss.find? (·.kind.isKey) = some key ↔ FirstKey ss key := by
  rw [List.find?_eq_some_iff_append]
  simp only [Bool.not_eq_true', FirstKey]
  constructor
  · rintro ⟨hkey, before, after, hparts, hbefore⟩
    exact ⟨before, after, hparts, hkey, hbefore⟩
  · rintro ⟨before, after, hparts, hkey, hbefore⟩
    exact ⟨hkey, before, after, hparts, hbefore⟩

theorem getLast?_isKey_eq_some_iff : (ss.filter (·.kind.isKey)).getLast? = some key ↔ LastKey ss key := by
  rw [List.getLast?_filter, find?_isKey_eq_some_iff]
  -- what is last is first the other way round
  constructor
  · rintro ⟨before, after, hparts, hkey, hbefore⟩
    refine ⟨after.reverse, before.reverse, ?_, hkey, fun s hs => hbefore s (List.mem_reverse.mp hs)⟩
    rw [← List.reverse_reverse ss, hparts]
    simp
  · rintro ⟨before, after, rfl, hkey, hafter⟩
    exact ⟨after.reverse, before.reverse, by simp, hkey, fun s hs => hafter s (List.mem_reverse.mp hs)⟩

theorem FirstKey.unique (h : FirstKey ss key) (hfound : FirstKey ss found) : key = found := by
  rw [← find?_isKey_eq_some_iff] at h hfound
  exact Option.some.inj (h.symm.trans hfound)

theorem LastKey.unique (h : LastKey ss key) (hfound : LastKey ss found) : key = found := by
  rw [← getLast?_isKey_eq_some_iff] at h hfound
  exact Option.some.inj (h.symm.trans hfound)

/-- Where there is a key, the keys in front of it do not matter for which one is last. -/
theorem lastKey_append_iff (hsome : ∃ s ∈ keys, s.kind.isKey = true) :
    LastKey (certs ++ keys) key ↔ LastKey keys key := by
  have hne : keys.filter (·.kind.isKey) ≠ [] := by
    simpa [List.filter_eq_nil_iff] using hsome
  rw [← getLast?_isKey_eq_some_iff, ← getLast?_isKey_eq_some_iff, List.filter_append, List.getLast?_append,
    List.getLast?_eq_some_getLast hne, Option.some_or]

/-! ### What each client is handed -/

namespace Material

variable {m : Material} {c : Credentials} {text : List UInt8} {chain : List (List UInt8)}

theorem identity?_eq_some_iff (h : Reads (lines text) ss fault) :
    identity? text = some (chain, key) ↔
      fault = none ∧ IsIdentity ss ∧ chainOf ss ≠ [] ∧ chain = chainOf ss ∧ LastKey ss key := by
  have hall : (ss.all fun s => s.kind == .certificate || s.kind.isKey) = true ↔ IsIdentity ss := by
    simp [IsIdentity]
  have hchain : (ss.filter (·.kind == .certificate)).map (·.bytes) = chainOf ss := rfl
  rw [identity?, find_eq_iff.mpr h]
  simp only [← hall, hchain, ← getLast?_isKey_eq_some_iff]
  by_cases hshape : fault = none ∧ (ss.all fun s => s.kind == .certificate || s.kind.isKey) = true
  · rw [if_pos hshape]
    obtain ⟨hclean, hidentity⟩ := hshape
    cases hfirst : chainOf ss with
    | nil => simp
    | cons first rest =>
      cases hlast : (ss.filter (·.kind.isKey)).getLast? with
      | none => simp
      | some last => simp [hclean, hidentity, eq_comm]
  · rw [if_neg hshape]
    simp only [reduceCtorEq, false_iff]
    rintro ⟨hclean, hidentity, -⟩
    exact hshape ⟨hclean, hidentity⟩

/-- **What the client of the placement driver is handed.** -/
theorem pdCredentials_eq_ok_iff (hca : Reads (lines m.ca) roots none) (hcert : Reads (lines m.cert) certs none)
    (hchain : ∃ s ∈ certs, s.kind = .certificate) (hkey : Reads (lines m.key) keys fault)
    (hsome : ∃ s ∈ keys, s.kind.isKey = true) :
    m.pdCredentials = .ok c ↔ fault = none ∧ IsIdentity (certs ++ keys) ∧ c.roots = chainOf roots ∧
      c.chain = chainOf certs ++ chainOf keys ∧ LastKey keys c.key := by
  have htext : m.identityText = m.cert ++ 10 :: m.key := by
    rw [identityText, List.append_assoc, List.singleton_append]
  have hread : Reads (lines m.identityText) (certs ++ keys) fault := by
    rw [htext]
    exact hcert.join rfl hkey
  have hne : chainOf (certs ++ keys) ≠ [] := by
    rw [Ne, chainOf_eq_nil_iff]
    push Not
    obtain ⟨s, hs, hcertificate⟩ := hchain
    exact ⟨s, List.mem_append_left _ hs, hcertificate⟩
  have hroots : Pem.certificates m.ca = .ok (chainOf roots) := by
    rw [Pem.certificates, find_eq_iff.mpr hca]
    rfl
  rw [← lastKey_append_iff hsome, ← chainOf_append]
  unfold pdCredentials
  cases hidentity : identity? m.identityText with
  | none =>
    simp only [reduceCtorEq, false_iff]
    rintro ⟨hclean, hall, -, -, hlast⟩
    rw [(identity?_eq_some_iff hread).mpr ⟨hclean, hall, hne, rfl, hlast⟩] at hidentity
    cases hidentity
  | some handed =>
    obtain ⟨chain, key⟩ := handed
    obtain ⟨hclean, hall, -, rfl, hlast⟩ := (identity?_eq_some_iff hread).mp hidentity
    simp only [hroots, Except.ok.injEq]
    constructor
    · rintro rfl
      exact ⟨hclean, hall, rfl, rfl, hlast⟩
    · rintro ⟨-, -, hroots, hchain, hkey⟩
      rw [← hroots, ← hchain, hlast.unique hkey]

/-- **What the client of etcd is handed.** -/
theorem etcdCredentials?_eq_some_iff (hca : Reads (lines m.ca) roots none)
    (hcert : Reads (lines m.cert) certs none) (hkey : Reads (lines m.key) keys fault) :
    m.etcdCredentials? = some c ↔
      c.roots = chainOf roots ∧ c.chain = chainOf certs ∧ FirstKey keys c.key := by
  have hroots : Pem.certificates m.ca = .ok (chainOf roots) := by
    rw [Pem.certificates, find_eq_iff.mpr hca]
    rfl
  have hchain : Pem.certificates m.cert = .ok (chainOf certs) := by
    rw [Pem.certificates, find_eq_iff.mpr hcert]
    rfl
  rw [etcdCredentials?, hroots, hchain, privateKey?, find_eq_iff.mpr hkey]
  simp only [← find?_isKey_eq_some_iff]
  cases hfound : keys.find? (·.kind.isKey) with
  | some key =>
    simp only [Option.some.injEq]
    constructor
    · rintro rfl
      exact ⟨rfl, rfl, rfl⟩
    · rintro ⟨hroots, hchain, rfl⟩
      rw [← hroots, ← hchain]
  | none => cases fault <;> simp

theorem findKey_of_firstKey (h : Reads (lines text) ss fault) (hfirst : FirstKey ss key) :
    findKey text = .ok key := by
  obtain ⟨before, after, rfl, hkey, hbefore⟩ := hfirst
  exact unlocks_iff.mp (.unlocked h hkey hbefore)

/-- Material is accepted when its texts hold what they should; only the beginning of the last one counts. -/
theorem value_ofPem_eq_ok_iff {ca cert key : List UInt8} : (ofPem ca cert key).value = .ok m ↔
    m = ⟨ca, cert, key⟩ ∧ HasCertificates ca ∧ HasCertificates cert ∧ HasKey key := by
  constructor
  · intro h
    rw [value_ofPem] at h
    cases hcheck : check ca cert key with
    | error e =>
      rw [hcheck] at h
      cases h
    | ok counts =>
      rw [hcheck] at h
      cases h
      rw [check] at hcheck
      obtain ⟨caCount, hca, hcheck⟩ := Data.bind_eq_ok_iff.mp hcheck
      obtain ⟨certCount, hcert, hcheck⟩ := Data.bind_eq_ok_iff.mp hcheck
      obtain ⟨found, hkey, -⟩ := Data.bind_eq_ok_iff.mp hcheck
      exact ⟨rfl, hasCertificates_iff.mpr ⟨_, certifies_iff.mpr hca⟩,
        hasCertificates_iff.mpr ⟨_, certifies_iff.mpr hcert⟩, hasKey_iff.mpr ⟨found, unlocks_iff.mpr hkey⟩⟩
  · rintro ⟨rfl, hca, hcert, hkey⟩
    obtain ⟨found, hkey⟩ := hasKey_iff.mp hkey
    rw [value_ofPem_of_unlocks hca hcert hkey]
    rfl

end Material

end Tls

/-! ### Clients with material -/

theorem Pd.Client.exists_credentials_of_check {endpoint scheme : String} {m : Tls.Material} {client : Client}
    (h : check endpoint scheme (some m) = .ok client) :
    ∃ c, m.pdCredentials = .ok c ∧ c.isUsable = true := by
  unfold check at h
  split at h
  · cases h
  · simp only at h
    split at h
    · cases h
    · obtain ⟨_, haccepts, -⟩ := Data.bind_eq_ok_iff.mp h
      obtain ⟨c, hc, hbuilt⟩ := Data.bind_eq_ok_iff.mp haccepts
      by_cases husable : c.isUsable = true
      · exact ⟨c, hc, husable⟩
      · rw [if_neg husable] at hbuilt
        cases hbuilt

namespace Tidb

theorem exists_credentials_of_checkSecure {m : Tls.Material} {rest : List Char}
    (h : checkSecure (some m) rest = .ok ()) : ∃ c, m.etcdCredentials? = some c ∧ c.isUsable = true := by
  simp only [checkSecure] at h
  split at h
  · cases h
  · next authority _ =>
    by_cases husable : (m.etcdCredentials?.any (·.isUsable) && isServerName (hostOf authority)) = true
    · simpa [Option.any_eq_true] using (Bool.and_eq_true_iff.mp husable).1
    · rw [if_neg husable] at h
      cases h

theorem exists_credentials_of_checkEndpoint {m : Tls.Material} {url : String}
    (h : checkEndpoint (some m) url = .ok ()) : ∃ c, m.etcdCredentials? = some c ∧ c.isUsable = true := by
  unfold checkEndpoint at h
  cases hplain : "http://".toList.isPrefixOf? url.toList with
  | some rest =>
    -- there is material, so an endpoint for plain connections is refused
    simp only [hplain, Option.isSome_some, if_true, reduceCtorEq] at h
  | none =>
    cases hsecure : "https://".toList.isPrefixOf? url.toList with
    | some rest =>
      simp only [hplain, hsecure] at h
      exact exists_credentials_of_checkSecure h
    | none =>
      simp only [hplain, hsecure, Option.isSome_some, if_true] at h
      exact exists_credentials_of_checkSecure h

theorem Client.exists_credentials_of_check {endpoints : List String} {scheme : String} {m : Tls.Material}
    (h : check endpoints scheme (some m) = .ok ()) :
    ∃ c, m.etcdCredentials? = some c ∧ c.isUsable = true := by
  unfold check at h
  split at h
  · cases h
  · next hsome =>
    obtain ⟨first, rest, rfl⟩ := List.exists_cons_of_ne_nil hsome
    obtain ⟨_, hfirst, -⟩ := Data.bind_eq_ok_iff.mp h
    exact exists_credentials_of_checkEndpoint hfirst

end Tidb

namespace Tls

/-- **Where the two clients authenticate alike.**  Both clients that are built with the same material trust the
same certificates.  Each shows the certificates of their own text, and the one of the placement driver shows
those in the text of the key behind them; the one of etcd has the first key of that text, which is the one
that was found when the material was looked over, and the one of the placement driver has the last.  So the
two show the same chain exactly when there is no certificate in the text of the key, and have the same key
exactly when the first one there is the last one. -/
theorem clients_authenticate_alike_where_key_stands_alone {ca cert key : List UInt8} {m : Material}
    {endpoint scheme etcdScheme : String} {endpoints : List String} {client : Pd.Client}
    (hm : (Material.ofPem ca cert key).value = .ok m)
    (hpd : Pd.Client.check endpoint scheme (some m) = .ok client)
    (hetcd : Tidb.Client.check endpoints etcdScheme (some m) = .ok ()) :
    ∃ certs keys pd etcd,
      Reads (lines cert) certs none ∧ Reads (lines key) keys none ∧ IsIdentity (certs ++ keys) ∧
      m.pdCredentials = .ok pd ∧ pd.isUsable = true ∧
      m.etcdCredentials? = some etcd ∧ etcd.isUsable = true ∧
      pd.roots = etcd.roots ∧ Material.findKey key = .ok etcd.key ∧
      etcd.chain = chainOf certs ∧ pd.chain = chainOf certs ++ chainOf keys ∧
      FirstKey keys etcd.key ∧ LastKey keys pd.key ∧
      (pd.chain = etcd.chain ↔ ∀ s ∈ keys, s.kind ≠ .certificate) ∧
      (pd.key = etcd.key ↔ ∃ found, FirstKey keys found ∧ LastKey keys found) := by
  obtain ⟨rfl, ⟨roots, hroots, -⟩, ⟨certs, hcerts, hchain⟩, keys, fault, hkeys, hsome⟩ :=
    Material.value_ofPem_eq_ok_iff.mp hm
  obtain ⟨pd, hpd, hpdUsable⟩ := Pd.Client.exists_credentials_of_check hpd
  obtain ⟨etcd, hetcd, hetcdUsable⟩ := Tidb.Client.exists_credentials_of_check hetcd
  obtain ⟨rfl, hidentity, hpdRoots, hpdChain, hlast⟩ :=
    (Material.pdCredentials_eq_ok_iff hroots hcerts hchain hkeys hsome).mp hpd
  obtain ⟨hetcdRoots, hetcdChain, hfirst⟩ :=
    (Material.etcdCredentials?_eq_some_iff hroots hcerts hkeys).mp hetcd
  refine ⟨certs, keys, pd, etcd, hcerts, hkeys, hidentity, hpd, hpdUsable, hetcd, hetcdUsable,
    hpdRoots.trans hetcdRoots.symm, Material.findKey_of_firstKey hkeys hfirst, hetcdChain, hpdChain, hfirst,
    hlast, ?_, ?_⟩
  · rw [hpdChain, hetcdChain, List.append_right_eq_self, chainOf_eq_nil_iff]
  · constructor
    · intro hsame
      exact ⟨etcd.key, hfirst, hsame ▸ hlast⟩
    · rintro ⟨found, hfoundFirst, hfoundLast⟩
      exact (hlast.unique hfoundLast).trans (hfoundFirst.unique hfirst)

/-! ### Material of one's own -/

/-- A section as a text, from its label and the lines of its data. -/
def armoured (label : String) (rows : List String) : List UInt8 :=
  Text.utf8Bytes ("-----BEGIN " ++ label ++ "-----\n") ++
    rows.flatMap (fun row => Text.utf8Bytes row ++ [10]) ++ Text.utf8Bytes ("-----END " ++ label ++ "-----")

/-- A certificate that is signed with its own key. -/
def ownCertificate : List UInt8 := armoured "CERTIFICATE"
  ["MIIBbzCCARWgAwIBAgIUWjD//KsNxW5rc2/gjrjeUcz5Kd4wCgYIKoZIzj0EAwIw",
    "DDEKMAgGA1UEAwwBdDAgFw0yNjExMTkyMTE3NTZaGA8yMTI2MTAyNjIxMTc1Nlow",
    "DDEKMAgGA1UEAwwBdDBZMBMGByqGSM49AgEGCCqGSM49AwEHA0IABAq2cX2jW2KW",
    "KzMexOsPh2w6cd6vB6PkHw9Com9dvwfZb59nNW1va+GQswAg9xxdBRsNCBitQ/t6",
    "iDkjzhDXLPGjUzBRMB0GA1UdDgQWBBTJHlAM5821NvjK4S/5x4NPGCQ9LjAfBgNV",
    "HSMEGDAWgBTJHlAM5821NvjK4S/5x4NPGCQ9LjAPBgNVHRMBAf8EBTADAQH/MAoG",
    "CCqGSM49BAMCA0gAMEUCICNyYrbvBXl5VPcTANO4NbNrJH7PhPZo7R2TaDzaAznB",
    "AiEA+fh0C90+Vv8GyspHE7JtfiAPFrNZ8Qlr2F0FNYC5Hfw="]

/-- The key of that certificate. -/
def ownKey : List UInt8 := armoured "PRIVATE KEY"
  ["MIGHAgEAMBMGByqGSM49AgEGCCqGSM49AwEHBG0wawIBAQQgfltGqnt1seF1vHLb",
    "gyNKZa6a76UhHwBAnHVyCuW1fIWhRANCAAQKtnF9o1tiliszHsTrD4dsOnHerwej",
    "5B8PQqJvXb8H2W+fZzVtb2vhkLMAIPccXQUbDQgYrUP7eog5I84Q1yzx"]

/-- The key in the older form, which is for keys of its kind alone. -/
def olderKey : List UInt8 := armoured "EC PRIVATE KEY"
  ["MHcCAQEEIH5bRqp7dbHhdbxy24MjSmWumu+lIR8AQJx1cgrltXyFoAoGCCqGSM49",
    "AwEHoUQDQgAECrZxfaNbYpYrMx7E6w+HbDpx3q8Ho+QfD0Kib12/B9lvn2c1bW9r",
    "4ZCzACD3HF0FGw0IGK1D+3qIOSPOENcs8Q=="]

/-- A key in both forms, and the certificate behind it. -/
def bundledKey : List UInt8 := olderKey ++ 10 :: (ownKey ++ 10 :: ownCertificate)

/-- The material of a key, with the certificate for what is trusted and for what is shown. -/
def ownMaterial (key : List UInt8) : Material := ⟨ownCertificate, ownCertificate, key⟩

theorem exists_reads_of_shape {text : List UInt8} {kind : Kind}
    (h : (find text).sections.map (fun s => (s.kind, isSequence s.bytes)) = [(kind, true)] ∧
      (find text).fault = none) :
    ∃ bytes, Reads (lines text) [⟨kind, bytes⟩] none ∧ isSequence bytes = true := by
  obtain ⟨hshape, hclean⟩ := h
  obtain ⟨⟨_, bytes⟩, hsection, hpair⟩ := List.map_eq_singleton_iff.mp hshape
  obtain ⟨rfl, husable⟩ := Prod.mk.inj hpair
  refine ⟨bytes, find_eq_iff.mp ?_, husable⟩
  rw [← hsection, ← hclean]

theorem exists_reads_ownCertificate :
    ∃ bytes, Reads (lines ownCertificate) [⟨.certificate, bytes⟩] none ∧ isSequence bytes = true :=
  exists_reads_of_shape (by decide +kernel)

theorem exists_reads_ownKey :
    ∃ bytes, Reads (lines ownKey) [⟨.privateKey, bytes⟩] none ∧ isSequence bytes = true :=
  exists_reads_of_shape (by decide +kernel)

theorem exists_reads_olderKey :
    ∃ bytes, Reads (lines olderKey) [⟨.ecKey, bytes⟩] none ∧ isSequence bytes = true :=
  exists_reads_of_shape (by decide +kernel)

/-- At `pd:2379` there is a client of the placement driver for all material that can be taken. -/
theorem pdClient_of_accepts {tls : Option Material} (h : Pd.Client.accepts tls = .ok ()) :
    Pd.Client.check "pd:2379" "https" tls = .ok ⟨"https://pd:2379/pd/api/v1"⟩ := by
  have hscheme : Url.splitScheme? (Url.countedBefore "https://pd:2379".toList) =
      some ("https", Url.behindColon (Url.countedBefore "https://pd:2379".toList)) := by decide +kernel
  have hbehind : (Url.behindColon (Url.countedBefore "https://pd:2379".toList) ++
      Pd.Client.apiPath.toList).dropWhile (fun c => c == '/' || c == '\\') =
        "pd:2379/pd/api/v1".toList := by decide +kernel
  have hread : Url.authority .special "pd:2379/pd/api/v1".toList =
      (Url.specialHost "pd".toList).map fun host => (host, some 2379, "/pd/api/v1".toList) :=
    Url.authority_of_named rfl (by decide) (by decide) rfl
  have hurl : Url.ofText (String.ofList ("https://pd:2379".toList ++ Pd.Client.apiPath.toList)) =
      .ok (Url.assemble "https" (some (.domain "pd")) (some 2379) (Url.pathAfterHost .special)
        "/pd/api/v1".toList) := by
    rw [Url.ofText_path Pd.Client.isPath_apiPath (by decide +kernel) hscheme (by decide), hbehind, hread,
      Pd.Client.specialHost_pd]
    rfl
  have hbase : String.ofList ("https://pd:2379".toList ++ Pd.Client.apiPath.toList) =
      endpointUrl "https" "pd:2379" ++ Pd.Client.apiPath := by decide +kernel
  have htext : endpointUrl "https" "pd:2379" ++ Pd.Client.apiPath = "https://pd:2379/pd/api/v1" := by
    decide +kernel
  rw [hbase] at hurl
  rw [Pd.Client.check_of_ofText (by decide +kernel) hurl h, htext]

/-- At `pd:2379` there is a client of etcd for all material that can be used. -/
theorem etcdClient_of_credentials {m : Material} {c : Credentials} (h : m.etcdCredentials? = some c)
    (husable : c.isUsable = true) : Tidb.Client.check ["pd:2379"] "https" (some m) = .ok () := by
  have hurl : endpointUrl "https" "pd:2379" = "https://pd:2379" := by decide +kernel
  have hplain : "http://".toList.isPrefixOf? "https://pd:2379".toList = none := by decide +kernel
  have hsecure : "https://".toList.isPrefixOf? "https://pd:2379".toList =
      some "pd:2379".toList := by decide +kernel
  have htarget : Tidb.targetAuthority "https://" (String.ofList "pd:2379".toList) =
      .ok "pd:2379".toList := by decide +kernel
  have hname : Tidb.isServerName (Tidb.hostOf "pd:2379".toList) = true := by decide +kernel
  have hendpoint : Tidb.checkEndpoint (some m) (endpointUrl "https" "pd:2379") = .ok () := by
    rw [hurl, Tidb.checkEndpoint]
    simp only [hplain, hsecure, Tidb.checkSecure, htarget, h, Option.any_some, husable, hname,
      Bool.and_self, if_true]
  rw [Tidb.Client.check, if_neg (List.cons_ne_nil _ _)]
  change (Tidb.checkEndpoint (some m) (endpointUrl "https" "pd:2379") >>= fun _ => pure ()) = _
  rw [hendpoint]
  rfl

theorem exists_clients_of_ownMaterial {key : List UInt8} {keys : List Section} {first last : Section}
    (hkeys : Reads (lines key) keys none) (hidentity : IsIdentity keys) (hfirst : FirstKey keys first)
    (hlast : LastKey keys last) (hfirstUsable : isSequence first.bytes = true)
    (hlastUsable : isSequence last.bytes = true) :
    (Material.ofPem ownCertificate ownCertificate key).value = .ok (ownMaterial key) ∧
      Pd.Client.check "pd:2379" "https" (some (ownMaterial key)) = .ok ⟨"https://pd:2379/pd/api/v1"⟩ ∧
      Tidb.Client.check ["pd:2379"] "https" (some (ownMaterial key)) = .ok () ∧
      ∃ own, (ownMaterial key).pdCredentials = .ok ⟨[own], own :: chainOf keys, last⟩ ∧
        (ownMaterial key).etcdCredentials? = some ⟨[own], [own], first⟩ := by
  obtain ⟨own, hown, hownUsable⟩ := exists_reads_ownCertificate
  have hcertificate : ∃ s ∈ [(⟨.certificate, own⟩ : Section)], s.kind = .certificate :=
    ⟨_, List.mem_singleton_self _, rfl⟩
  have hsome : ∃ s ∈ keys, s.kind.isKey = true := by
    obtain ⟨before, after, rfl, hkey, -⟩ := hfirst
    exact ⟨first, by simp, hkey⟩
  have hall : IsIdentity (⟨.certificate, own⟩ :: keys) := by
    intro s hs
    rcases List.mem_cons.mp hs with rfl | hs
    · exact .inl rfl
    · exact hidentity s hs
  have hpd : (ownMaterial key).pdCredentials = .ok ⟨[own], own :: chainOf keys, last⟩ :=
    (Material.pdCredentials_eq_ok_iff hown hown hcertificate hkeys hsome).mpr ⟨rfl, hall, rfl, rfl, hlast⟩
  have hetcd : (ownMaterial key).etcdCredentials? = some ⟨[own], [own], first⟩ :=
    (Material.etcdCredentials?_eq_some_iff hown hown hkeys).mpr ⟨rfl, rfl, hfirst⟩
  have haccepts : Pd.Client.accepts (some (ownMaterial key)) = .ok () := by
    rw [Pd.Client.accepts, hpd]
    exact if_pos (by simp [Credentials.isUsable, hownUsable, hlastUsable])
  refine ⟨?_, pdClient_of_accepts haccepts, etcdClient_of_credentials hetcd ?_, own, hpd, hetcd⟩
  · exact Material.value_ofPem_eq_ok_iff.mpr
      ⟨rfl, ⟨_, hown, hcertificate⟩, ⟨_, hown, hcertificate⟩, keys, none, hkeys, hsome⟩
  · simp [Credentials.isUsable, hownUsable, hfirstUsable]

/-- With a key alone the two clients show the same. -/
theorem ownKey_is_shown_alike :
    (Material.ofPem ownCertificate ownCertificate ownKey).value = .ok (ownMaterial ownKey) ∧
      Pd.Client.check "pd:2379" "https" (some (ownMaterial ownKey)) = .ok ⟨"https://pd:2379/pd/api/v1"⟩ ∧
      Tidb.Client.check ["pd:2379"] "https" (some (ownMaterial ownKey)) = .ok () ∧
      ∃ pd etcd, (ownMaterial ownKey).pdCredentials = .ok pd ∧
        (ownMaterial ownKey).etcdCredentials? = some etcd ∧ pd.chain = etcd.chain ∧ pd.key = etcd.key := by
  obtain ⟨bytes, hkey, husable⟩ := exists_reads_ownKey
  have hidentity : IsIdentity [⟨.privateKey, bytes⟩] := by
    intro s hs
    rw [List.mem_singleton.mp hs]
    exact .inr rfl
  have hfirst : FirstKey [⟨.privateKey, bytes⟩] ⟨.privateKey, bytes⟩ :=
    ⟨[], [], rfl, rfl, List.forall_mem_nil _⟩
  have hlast : LastKey [⟨.privateKey, bytes⟩] ⟨.privateKey, bytes⟩ :=
    ⟨[], [], rfl, rfl, List.forall_mem_nil _⟩
  obtain ⟨hm, hpd, hetcd, -⟩ :=
    exists_clients_of_ownMaterial hkey hidentity hfirst hlast husable husable
  obtain ⟨certs, keys, pd, etcd, -, hkeys, -, hpdHanded, -, hetcdHanded, -, -, -, -, -, -, -, hchain, hsame⟩ :=
    clients_authenticate_alike_where_key_stands_alone hm hpd hetcd
  obtain rfl : keys = [⟨.privateKey, bytes⟩] := by
    cases (find_eq_iff.mpr hkeys).symm.trans (find_eq_iff.mpr hkey)
    rfl
  refine ⟨hm, hpd, hetcd, pd, etcd, hpdHanded, hetcdHanded, hchain.mpr ?_, hsame.mpr ⟨_, hfirst, hlast⟩⟩
  intro s hs
  rw [List.mem_singleton.mp hs]
  exact Kind.noConfusion

/-- A key in two forms with a certificate behind it is accepted, and both clients are built with it; but they
show different chains, and the one of the placement driver has another key than the one that was found. -/
theorem bundledKey_is_shown_differently :
    (Material.ofPem ownCertificate ownCertificate bundledKey).value = .ok (ownMaterial bundledKey) ∧
      Pd.Client.check "pd:2379" "https" (some (ownMaterial bundledKey)) =
        .ok ⟨"https://pd:2379/pd/api/v1"⟩ ∧
      Tidb.Client.check ["pd:2379"] "https" (some (ownMaterial bundledKey)) = .ok () ∧
      ∃ pd etcd, (ownMaterial bundledKey).pdCredentials = .ok pd ∧
        (ownMaterial bundledKey).etcdCredentials? = some etcd ∧ pd.chain ≠ etcd.chain ∧
        Material.findKey bundledKey = .ok etcd.key ∧ pd.key ≠ etcd.key := by
  obtain ⟨own, hown, -⟩ := exists_reads_ownCertificate
  obtain ⟨packed, hpacked, hpackedUsable⟩ := exists_reads_ownKey
  obtain ⟨older, holder, holderUsable⟩ := exists_reads_olderKey
  have hkeys : Reads (lines bundledKey)
      [⟨.ecKey, older⟩, ⟨.privateKey, packed⟩, ⟨.certificate, own⟩] none :=
    holder.join rfl (hpacked.join rfl hown)
  have hidentity : IsIdentity [⟨.ecKey, older⟩, ⟨.privateKey, packed⟩, ⟨.certificate, own⟩] := by
    simp [IsIdentity, Kind.isKey]
  have hfirst : FirstKey [⟨.ecKey, older⟩, ⟨.privateKey, packed⟩, ⟨.certificate, own⟩] ⟨.ecKey, older⟩ :=
    ⟨[], [_, _], rfl, rfl, List.forall_mem_nil _⟩
  have hlast : LastKey [⟨.ecKey, older⟩, ⟨.privateKey, packed⟩, ⟨.certificate, own⟩] ⟨.privateKey, packed⟩ :=
    ⟨[_], [_], rfl, rfl, List.forall_mem_singleton.mpr rfl⟩
  obtain ⟨hm, hpd, hetcd, bytes, hpdHanded, hetcdHanded⟩ :=
    exists_clients_of_ownMaterial hkeys hidentity hfirst hlast holderUsable hpackedUsable
  exact ⟨hm, hpd, hetcd, _, _, hpdHanded, hetcdHanded, by simp [chainOf],
    Material.findKey_of_firstKey hkeys hfirst, by simp⟩

end Tls

end ClusterTopology
