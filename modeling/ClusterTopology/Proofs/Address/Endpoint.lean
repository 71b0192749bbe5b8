import ClusterTopology.Proofs.Cluster.Answers
import ClusterTopology.Proofs.Text.Basic
import ClusterTopology.Proofs.Url.Host
import ClusterTopology.Proofs.Url.PlainNames
/-!
The host that an accepted endpoint stands for.

An endpoint is accepted when something besides white space is in it.  The slashes at its end go only
afterwards, when its URL is made, and then nothing may be left: the URL of `/` is `http://`, and what is
contacted for the path behind it is a host called `pd`.

`NamesHost` says of a text that something stands behind its scheme and the two slashes before the next
slash, question mark or number sign.  Slashes at the end have no part in that, so it holds of the URL
exactly when it holds of the endpoint, or when the endpoint has no scheme and itself begins with something
that can be of a host.  What is contacted is found with `host_of_own` and `host_of_not_own` for the URL and
the path `/pd/api/v1` behind it.
-/

namespace ClusterTopology

theorem Text.contains_eq_true_iff {pat s : List Char} : Text.contains pat s = true ↔ pat <:+: s := by
  induction s with
  | nil => simp [Text.contains]
  | cons c s ih => simp [Text.contains, List.infix_cons_iff, ih]

/-! ### Texts that name a host -/

namespace Url

/-- What ends the text behind the two slashes of a URL. -/
def areaEnds : List Char := ['/', '?', '#']

/-- A text names a host when a scheme, a colon and two slashes are at its start, and something stands
behind them before the next slash, question mark or number sign. -/
def NamesHost (cs : List Char) : Prop :=
  ∃ scheme behind, cs = scheme ++ "://".toList ++ behind ∧
    scheme ≠ [] ∧ ':' ∉ scheme ∧ '/' ∉ scheme ∧ behind.takeWhile (· ∉ areaEnds) ≠ []

theorem takeWhile_area_ne_nil_iff {cs : List Char} :
    cs.takeWhile (· ∉ areaEnds) ≠ [] ↔ ∃ c, cs.head? = some c ∧ c ∉ areaEnds := by
  cases cs with
  | nil => simp
  | cons c cs => by_cases hc : c ∈ areaEnds <;> simp [hc]

theorem not_slash_of_not_areaEnd {c : Char} (h : c ∉ areaEnds) : (c == '/') = false := by
  rw [beq_eq_false_iff_ne]
  rintro rfl
  exact h (by decide)

/-- A start that can be one of a host is not lost with the slashes at the end. -/
theorem head?_rdropWhile_slash_iff {cs : List Char} {c : Char} (h : c ∉ areaEnds) :
    (cs.rdropWhile (· == '/')).head? = some c ↔ cs.head? = some c :=
  Text.head?_rdropWhile_iff (p := (· == '/')) (not_slash_of_not_areaEnd h)

/-- Behind a scheme that is one, a host is named by the text that begins with it. -/
theorem namesHost_append_iff {scheme behind : List Char} (hne : scheme ≠ []) (hcolon : ':' ∉ scheme)
    (hslash : '/' ∉ scheme) : NamesHost (scheme ++ "://".toList ++ behind) ↔
      ∃ c, behind.head? = some c ∧ c ∉ areaEnds := by
  rw [← takeWhile_area_ne_nil_iff]
  constructor
  · rintro ⟨scheme', behind', heq, -, hcolon', -, harea⟩
    have hbehind := congrArg behindColon heq
    rw [List.append_assoc, List.append_assoc] at hbehind
    have hsplit : '/' :: '/' :: behind = '/' :: '/' :: behind' := by
      calc '/' :: '/' :: behind = behindColon (scheme ++ ("://".toList ++ behind)) :=
            (behindColon_append hcolon).symm
        _ = behindColon (scheme' ++ ("://".toList ++ behind')) := hbehind
        _ = '/' :: '/' :: behind' := behindColon_append hcolon'
    cases hsplit
    exact harea
  · intro harea
    exact ⟨scheme, behind, rfl, hne, hcolon, hslash, harea⟩

/-- Slashes at the end make no difference. -/
theorem namesHost_rdropWhile_iff {cs : List Char} :
    NamesHost (cs.rdropWhile (· == '/')) ↔ NamesHost cs := by
  constructor
  · rintro ⟨scheme, behind, heq, hne, hcolon, hslash, harea⟩
    obtain ⟨c, hhead, hc⟩ := takeWhile_area_ne_nil_iff.mp harea
    rw [← List.rdropWhile_append_rtakeWhile (p := (· == '/')) (l := cs), heq, List.append_assoc,
      namesHost_append_iff hne hcolon hslash]
    exact ⟨c, by rw [List.head?_append, hhead]; rfl, hc⟩
  · rintro ⟨scheme, behind, rfl, hne, hcolon, hslash, harea⟩
    obtain ⟨c, hhead, hc⟩ := takeWhile_area_ne_nil_iff.mp harea
    have hstays : ∃ d ∈ behind, (d == '/') = false :=
      ⟨c, List.mem_of_mem_head? hhead, not_slash_of_not_areaEnd hc⟩
    rw [Text.rdropWhile_append_of_exists _ hstays, namesHost_append_iff hne hcolon hslash]
    exact ⟨c, (head?_rdropWhile_slash_iff hc).mpr hhead, hc⟩

end Url

/-! ### The URL of an endpoint -/

/-- An endpoint without white space at its ends and without the slashes that are then at its end. -/
def bareEndpoint (endpoint : String) : List Char :=
  (Text.trim endpoint.toList).rdropWhile (· == '/')

theorem toList_endpointUrl_of_scheme {scheme endpoint : String}
    (h : "://".toList <:+: bareEndpoint endpoint) :
    (endpointUrl scheme endpoint).toList = bareEndpoint endpoint := by
  have hcontains : Text.contains "://".toList (bareEndpoint endpoint) = true :=
    Text.contains_eq_true_iff.mpr h
  rw [endpointUrl, ← List.rdropWhile, ← bareEndpoint, if_pos hcontains, String.toList_ofList]

theorem toList_endpointUrl_of_no_scheme {scheme endpoint : String}
    (h : ¬ "://".toList <:+: bareEndpoint endpoint) :
    (endpointUrl scheme endpoint).toList = scheme.toList ++ "://".toList ++ bareEndpoint endpoint := by
  have hcontains : ¬ Text.contains "://".toList (bareEndpoint endpoint) = true :=
    fun hcontains => h (Text.contains_eq_true_iff.mp hcontains)
  rw [endpointUrl, ← List.rdropWhile, ← bareEndpoint, if_neg hcontains, String.toList_append, String.toList_append]
  exact congrArg (scheme.toList ++ "://".toList ++ ·) String.toList_ofList

/-- **When the URL of an endpoint names a host**: the endpoint names one itself, or it has no scheme
and begins like a host. -/
theorem namesHost_endpointUrl_iff {scheme endpoint : String} (hscheme : scheme = "http" ∨ scheme = "https")
    (hgiven : Text.trim endpoint.toList ≠ []) :
    Url.NamesHost (endpointUrl scheme endpoint).toList ↔
      Url.NamesHost (Text.trim endpoint.toList) ∨
        ¬ "://".toList <:+: bareEndpoint endpoint ∧
          ∀ c, (Text.trim endpoint.toList).head? = some c → c ∉ Url.areaEnds := by
  by_cases hinside : "://".toList <:+: bareEndpoint endpoint
  · have hsame : Url.NamesHost (bareEndpoint endpoint) ↔ Url.NamesHost (Text.trim endpoint.toList) :=
      Url.namesHost_rdropWhile_iff
    rw [toList_endpointUrl_of_scheme hinside, hsame]
    simp only [hinside, not_true_eq_false, false_and, or_false]
  · have hown : ¬ Url.NamesHost (Text.trim endpoint.toList) := by
      rw [← Url.namesHost_rdropWhile_iff]
      rintro ⟨scheme', behind, heq, -⟩
      exact hinside ⟨scheme', behind, heq.symm⟩
    have hhost : Url.NamesHost (scheme.toList ++ "://".toList ++ bareEndpoint endpoint) ↔
        ∃ c, (bareEndpoint endpoint).head? = some c ∧ c ∉ Url.areaEnds := by
      rcases hscheme with rfl | rfl <;>
        exact Url.namesHost_append_iff (by decide) (by decide) (by decide)
    rw [toList_endpointUrl_of_no_scheme hinside, hhost]
    simp only [hown, hinside, not_false_eq_true, true_and, false_or]
    obtain ⟨c, more, htrim⟩ := List.exists_cons_of_ne_nil hgiven
    constructor
    · rintro ⟨d, hhead, hd⟩ c hc
      have hstarts := (Url.head?_rdropWhile_slash_iff hd).mp hhead
      rw [hc] at hstarts
      cases hstarts
      exact hd
    · intro hfirst
      have hc := hfirst c (by rw [htrim]; rfl)
      refine ⟨c, (Url.head?_rdropWhile_slash_iff hc).mpr ?_, hc⟩
      rw [htrim]
      rfl

theorem Config.isBlankText_iff {s : String} : Config.isBlankText s = true ↔ Text.trim s.toList = [] := by
  rw [Text.trim_eq_nil_iff, Config.isBlankText, List.all_eq_true]

/-- No endpoint that is accepted is blank. -/
theorem Config.Pd.trim_ne_nil_of_validate {p : Config.Pd} (h : p.validate = .ok ()) {endpoint : String}
    (hmem : endpoint ∈ p.endpoints) : Text.trim endpoint.toList ≠ [] := by
  unfold Config.Pd.validate at h
  split at h
  · cases h
  · split at h
    · cases h
    · next hnone =>
      intro hblank
      have hgiven := List.findIdx?_eq_none_iff.mp hnone endpoint hmem
      rw [Config.isBlankText_iff.mpr hblank] at hgiven
      cases hgiven

/-! ### The host that is contacted -/

namespace Pd.Client

theorem specialHost_pd : Url.specialHost "pd".toList = .ok (.domain "pd") :=
  Url.specialHost_of_isLower (List.all_eq_true.mp (by decide)) (by decide +kernel)

/-- The host that the path of the interface is read as when no other is there. -/
theorem authority_apiPath :
    Url.authority .special (apiPath.toList.dropWhile fun c => c == '/' || c == '\\') =
      .ok (.domain "pd", none, "/api/v1".toList) := by
  have hbare : (apiPath.toList.dropWhile fun c => c == '/' || c == '\\') = "pd/api/v1".toList := by
    decide
  have hread : Url.authority .special "pd/api/v1".toList =
      (Url.specialHost "pd".toList).map fun host => (host, none, "/api/v1".toList) :=
    Url.authority_of_named rfl (by decide) (by decide) rfl
  rw [hbare, hread, specialHost_pd]
  rfl

theorem check_of_ofText {endpoint scheme : String} {tls : Option Tls.Material} {u : Url}
    (hgiven : Config.isBlankText endpoint = false)
    (hurl : Url.ofText (endpointUrl scheme endpoint ++ apiPath) = .ok u)
    (haccepts : accepts tls = .ok ()) :
    check endpoint scheme tls = .ok ⟨endpointUrl scheme endpoint ++ apiPath⟩ := by
  unfold check
  rw [if_neg (by simp [hgiven])]
  simp only [hurl, haccepts]
  rfl

/-- The URL of a client is one. -/
theorem exists_ofText_of_check {endpoint scheme : String} {tls : Option Tls.Material} {c : Client}
    (h : check endpoint scheme tls = .ok c) : ∃ u, Url.ofText c.baseUrl = .ok u := by
  have htext := baseUrl_of_check h
  unfold check at h
  split at h
  · cases h
  · simp only at h
    split at h
    · cases h
    · next u hu => exact ⟨u, htext ▸ hu⟩

end Pd.Client

/-- **Main result.** The URL of an accepted endpoint names a host when the endpoint names one itself, or
has no scheme and begins like a host; and in no other case.  The client for it takes `pd`, the first
segment of its own path, for the host just when nothing but slashes, backslashes, tabs and line ends
stands behind the scheme of that URL; otherwise host and port are the same whatever path is behind it. -/
theorem accepted_endpoints_name_hosts_where {p : Config.Pd} (haccepted : p.validate = .ok ())
    {endpoint : String} (hmem : endpoint ∈ p.endpoints) {scheme : String}
    (hscheme : scheme = "http" ∨ scheme = "https") :
    (Url.NamesHost (endpointUrl scheme endpoint).toList ↔
        Url.NamesHost (Text.trim endpoint.toList) ∨
          ¬ "://".toList <:+: bareEndpoint endpoint ∧
            ∀ c, (Text.trim endpoint.toList).head? = some c → c ∉ Url.areaEnds) ∧
      ∀ tls c, Pd.Client.check endpoint scheme tls = .ok c →
        c.baseUrl = endpointUrl scheme endpoint ++ Pd.Client.apiPath ∧
        ∃ u, Url.ofText c.baseUrl = .ok u ∧ (Url.kindOf u.scheme = .special →
          ((∃ c ∈ Url.behindColon (endpointUrl scheme endpoint).toList, Url.IsOwn c) →
            ∀ path, Url.IsPath path.toList →
              ∃ u', Url.ofText (endpointUrl scheme endpoint ++ path) = .ok u' ∧
                u'.scheme = u.scheme ∧ u'.host = u.host ∧ u'.port = u.port) ∧
          ((¬ ∃ c ∈ Url.behindColon (endpointUrl scheme endpoint).toList, Url.IsOwn c) →
            u.host = some (.domain "pd"))) := by
  refine ⟨namesHost_endpointUrl_iff hscheme (Config.Pd.trim_ne_nil_of_validate haccepted hmem), ?_⟩
  intro tls c hbuilt
  have htext := Pd.Client.baseUrl_of_check hbuilt
  obtain ⟨u, hu⟩ := Pd.Client.exists_ofText_of_check hbuilt
  refine ⟨htext, u, hu, fun hkind => ?_⟩
  have hbase : Url.ofText (String.ofList
      ((endpointUrl scheme endpoint).toList ++ Pd.Client.apiPath.toList)) = .ok u := by
    rw [← String.toList_append, String.ofList_toList, ← htext]
    exact hu
  constructor
  · intro hown path hpath
    obtain ⟨u', hu', hsame⟩ :=
      Url.host_of_own Pd.Client.isPath_apiPath (by decide) hbase hkind hown hpath
    rw [← String.toList_append, String.ofList_toList] at hu'
    exact ⟨u', hu', hsame⟩
  · intro hnone
    obtain ⟨host, port, rest, hauthority, hhost⟩ :=
      Url.host_of_not_own Pd.Client.isPath_apiPath (by decide) hbase hkind hnone
    rw [Pd.Client.authority_apiPath] at hauthority
    cases hauthority
    exact hhost

/-- An address with white space and slashes around it names its own host, and every list is asked for
there. -/
theorem endpoint_in_slashes_names_its_host :
    Config.Pd.validate ⟨[" [::1]:2379// "]⟩ = .ok () ∧
      Url.NamesHost (endpointUrl "http" " [::1]:2379// ").toList ∧
      ∃ u, Url.ofText "http://[::1]:2379/pd/api/v1" = .ok u ∧
        u.host = some (.ipv6 [0, 0, 0, 0, 0, 0, 0, 1]) ∧
        ∀ path, Url.IsPath path.toList →
          ∃ u', Url.ofText (endpointUrl "http" " [::1]:2379// " ++ path) = .ok u' ∧
            u'.scheme = u.scheme ∧ u'.host = u.host ∧ u'.port = u.port := by
  have haccepted : Config.Pd.validate ⟨[" [::1]:2379// "]⟩ = .ok () := by decide +kernel
  have hbuilt : Pd.Client.check " [::1]:2379// " "http" none = .ok ⟨"http://[::1]:2379/pd/api/v1"⟩ := by
    decide +kernel
  obtain ⟨hnames, hhost⟩ := accepted_endpoints_name_hosts_where haccepted (List.mem_singleton_self _)
    (Or.inl (rfl : "http" = "http"))
  obtain ⟨-, u, hu, hsame⟩ := hhost none _ hbuilt
  have hread : u.scheme = "http" ∧ u.host = some (.ipv6 [0, 0, 0, 0, 0, 0, 0, 1]) := by
    have hurl : (Url.ofText "http://[::1]:2379/pd/api/v1").map (fun u => (u.scheme, u.host)) =
        .ok ("http", some (.ipv6 [0, 0, 0, 0, 0, 0, 0, 1])) := by decide +kernel
    rw [hu] at hurl
    simpa [Except.map] using hurl
  have hfirst : ∀ c, (Text.trim " [::1]:2379// ".toList).head? = some c → c ∉ Url.areaEnds := by
    intro c hc
    have hbracket : (Text.trim " [::1]:2379// ".toList).head? = some '[' := by decide +kernel
    obtain rfl := Option.some.inj (hbracket.symm.trans hc)
    decide
  refine ⟨haccepted, hnames.mpr (.inr ⟨by decide +kernel, hfirst⟩), u, hu, hread.2, ?_⟩
  refine (hsame ?_).1 ?_
  · rw [hread.1]
    decide
  · exact ⟨'[', by decide +kernel, by decide⟩

/-- A slash is accepted, and its URL names no host; the client for it is built, and `pd` is the host that
it asks. -/
theorem accepted_slash_names_no_host :
    Config.Pd.validate ⟨["/"]⟩ = .ok () ∧ ¬ Url.NamesHost (endpointUrl "http" "/").toList ∧
      Pd.Client.check "/" "http" none = .ok ⟨endpointUrl "http" "/" ++ Pd.Client.apiPath⟩ ∧
      ∃ u, Url.ofText (endpointUrl "http" "/" ++ Pd.Client.apiPath) = .ok u ∧
        u.host = some (.domain "pd") := by
  have htext : (endpointUrl "http" "/").toList = "http".toList ++ "://".toList ++ [] := by
    decide +kernel
  have hurl : Url.ofText (String.ofList ("http://".toList ++ Pd.Client.apiPath.toList)) =
      .ok (Url.assemble "http" (some (.domain "pd")) none (Url.pathAfterHost .special)
        "/api/v1".toList) := by
    have hslashes : (Url.behindColon (Url.countedBefore "http://".toList) ++
        Pd.Client.apiPath.toList).dropWhile (fun c => c == '/' || c == '\\') =
          Pd.Client.apiPath.toList.dropWhile fun c => c == '/' || c == '\\' := by decide +kernel
    have hscheme : Url.splitScheme? (Url.countedBefore "http://".toList) =
        some ("http", Url.behindColon (Url.countedBefore "http://".toList)) := by decide +kernel
    rw [Url.ofText_path Pd.Client.isPath_apiPath (by decide +kernel) hscheme (by decide), hslashes,
      Pd.Client.authority_apiPath]
    rfl
  have hbase : String.ofList ("http://".toList ++ Pd.Client.apiPath.toList) =
      endpointUrl "http" "/" ++ Pd.Client.apiPath := by decide +kernel
  rw [hbase] at hurl
  refine ⟨by decide +kernel, ?_, Pd.Client.check_of_ofText (by decide +kernel) hurl rfl, _, hurl, rfl⟩
  rw [htext, Url.namesHost_append_iff (by decide) (by decide) (by decide)]
  simp

end ClusterTopology
