import Telemetry.Probe
import Telemetry.Proofs.Metric.Rows
import Telemetry.Proofs.Settings.Resolution
import Telemetry.Proofs.Web.Address
import Telemetry.Proofs.Web.Ownership

/-! # What a probe reaches

The usual address of a probe is put together from the settings of a server. It leads to the health
endpoint of that server wherever the host is four numbers or a name that is fit for an address, and
for a server that listens on all groups. Any other host of eight groups is written without brackets,
so that the probe has no address at all.
-/
namespace Telemetry.Probe
open Telemetry.Web

/-- A host of four numbers, of labels or of eight groups. -/
def IsHostText (host : List Char) : Prop :=
  isDottedTail host = true ∨ IsName host ∨ isGroupAddress host = true

/-- A host that the usual address names. -/
def Named (host : String) : Prop :=
  host = "::" ∨ (IsName host.toList ∧ IsFit (host.toList.map Char.toLower))

instance (host : String) : Decidable (Named host) := inferInstanceAs (Decidable (_ ∨ _))

section Hosts

variable {c : Char} {cs port : List Char} {host : String}

theorem IsHostText.nonempty (h : IsHostText cs) : cs ≠ [] := by
  rcases h with h | h | h
  · exact (isName_of_dotted h).nonempty
  · exact h.nonempty
  · exact List.ne_nil_of_mem (chars_of_isGroupAddress h).1

theorem IsHostText.chars (h : IsHostText cs) : ∀ c ∈ cs, isNameChar c = true ∨ c = ':' := by
  intro c hc
  rcases h with h | h | h
  · exact .inl ((isName_of_dotted h).chars c hc)
  · exact .inl (h.chars c hc)
  · exact isNameChar_or_of_isGroupChar ((chars_of_isGroupAddress h).2 c hc)

/-- The characters of such a host stand in an authority as they are. -/
theorem isAuthorityChar_of_host (h : isNameChar c = true ∨ c = ':') :
    Url.isAuthorityChar c = true ∧ c ≠ '@' ∧ c ≠ '[' := by
  rcases h with h | rfl
  · exact Text.forall_of_ascii (p := fun c => isNameChar c = true →
      Url.isAuthorityChar c = true ∧ c ≠ '@' ∧ c ≠ '[')
      (by decide +kernel) (ascii_of_isNameChar h) h
  · decide

theorem named_of_dotted (h : isDottedTail host.toList = true) : Named host :=
  .inr ⟨isName_of_dotted h, isFit_of_dotted h⟩

theorem not_named_of_groups (h : isGroupAddress host.toList = true) (hne : host ≠ "::") :
    ¬ Named host := by
  rintro (heq | ⟨hname, -⟩)
  · exact hne heq
  · exact absurd (hname.chars ':' (chars_of_isGroupAddress h).1) (by decide)

theorem reachableHost_cases (host : String) :
    (host = "0.0.0.0" ∨ host = "::") ∧ reachableHost host = "127.0.0.1" ∨
      (host ≠ "0.0.0.0" ∧ host ≠ "::") ∧ reachableHost host = host := by
  unfold reachableHost
  split
  · rename_i hany
    exact .inl ⟨hany, rfl⟩
  · rename_i hany
    exact .inr ⟨not_or.mp hany, rfl⟩

/-- The host in an address is a host of the same kinds. -/
theorem isHostText_reachableHost (h : IsHostText host.toList) :
    IsHostText (reachableHost host).toList := by
  rcases reachableHost_cases host with ⟨-, heq⟩ | ⟨-, heq⟩
  · rw [heq]
    exact .inl (by decide)
  · rwa [heq]

/-- A host is named if the host in the address is a name that is fit. -/
theorem named_iff (host : String) : Named host ↔
    IsName (reachableHost host).toList ∧ IsFit ((reachableHost host).toList.map Char.toLower) := by
  rcases reachableHost_cases host with ⟨hany, heq⟩ | ⟨⟨-, hne⟩, heq⟩
  · have hloop : isDottedTail "127.0.0.1".toList = true := by decide
    rw [heq]
    refine iff_of_true ?_ ⟨isName_of_dotted hloop, isFit_of_dotted hloop⟩
    rcases hany with rfl | rfl
    · exact named_of_dotted (by decide)
    · exact .inl rfl
  · rw [heq]
    exact ⟨fun hnamed => hnamed.resolve_left hne, .inr⟩

variable (hport : Url.isPort port = true)
include hport

/-- A host and a port stand in an address as they are. -/
theorem chars_of_host_port (h : IsHostText cs) :
    ∀ c ∈ cs ++ ':' :: port, Url.isAuthorityChar c = true ∧ c ≠ '@' := by
  have hhost : ∀ c ∈ cs, Url.isAuthorityChar c = true ∧ c ≠ '@' := fun c hc =>
    (isAuthorityChar_of_host (h.chars c hc)).imp_right And.left
  have hdigits : ∀ c ∈ port, Url.isAuthorityChar c = true ∧ c ≠ '@' := by
    intro c hc
    have hname : isNameChar c = true := by
      simp [isNameChar, Char.isAlphanum, Url.isDigit_of_isPort hport c hc]
    exact (isAuthorityChar_of_host (.inl hname)).imp_right And.left
  exact List.forall_mem_append.mpr ⟨hhost, List.forall_mem_cons.mpr ⟨by decide, hdigits⟩⟩

/-- A host with a port is an authority exactly if the host is a name that is fit. -/
theorem isAuthority_iff (h : IsHostText cs) : Url.isAuthority .special (cs ++ ':' :: port) = true ↔
    IsName cs ∧ IsFit (cs.map Char.toLower) := by
  have hat : '@' ∉ cs ++ ':' :: port := fun hat => (chars_of_host_port hport h '@' hat).2 rfl
  by_cases hname : IsName cs
  · rw [Url.isAuthority_of_plain hname.nonempty (fun c hc => plain_of_isNameChar (hname.chars c hc))
      hat, hport, Bool.and_true, hname.isDomain_iff, and_iff_right hname]
  · -- What is no name has colons, so it is cut off at the first one.
    have hgroups := (h.resolve_left (mt isName_of_dotted hname)).resolve_left hname
    obtain ⟨hcolon, hchars⟩ := chars_of_isGroupAddress hgroups
    have hbracket : '[' ∉ cs := fun hmem =>
      (isAuthorityChar_of_host (isNameChar_or_of_isGroupChar (hchars '[' hmem))).2.2 rfl
    exact iff_of_false (by simp [Url.isAuthority_of_colon hcolon hbracket hat]) fun h => hname h.1

end Hosts

section Addresses

/-- The port of resolved settings is a port of an address. -/
theorem isPort_of_resolved (raw : Datum) :
    Url.isPort (Settings.Server.resolve raw).port.toText.toList = true := by
  have hbounded := (Settings.Server.bounded_resolve raw).port
  obtain ⟨n, hn, hport⟩ := hbounded.exists_ofNat rfl (by decide : 65535 ≤ Number.exactLimit)
    (congrArg some (Number.literal_eq 65535))
  have hlimit : (65535 : Nat) < Number.exactLimit := by decide
  rw [hport, Metric.toText_ofNat (by omega), Metric.toList_toString_nat, Url.isPort,
    Number.digitsValue_toDigits, Bool.and_eq_true, List.all_eq_true]
  exact ⟨fun _ => Number.isDigit_of_mem, decide_eq_true (show n < 65536 by omega)⟩

/-- The health endpoint answers every request for its path. -/
theorem answers_health {s : EndpointSettings} {target : String}
    (h : s.healthPath = some (targetPath (some target))) (m : Monitor) (now : Number)
    (headers : Headers) : Answers s m now headers target .health := by
  have howner := (owner?_eq_health_iff (m := m) (by decide : Endpoint.isRead "GET" = true)).mpr h
  rw [Answers, handle_eq, howner]
  exact ⟨_, rfl, rfl⟩

end Addresses

section Usual

variable {s : Settings.Server} (hpath : s.healthPath = Settings.defaultHealthPath)

/-- The host and the port under which a server is reached. -/
def reached (s : Settings.Server) : List Char :=
  (reachableHost s.host).toList ++ ':' :: s.port.toText.toList

theorem toList_urlText {path : String} {rest : List Char} (hpath : path.toList = '/' :: rest)
    (host port : String) : (urlText host port path).toList =
      Url.address ((reachableHost host).toList ++ ':' :: port.toList) rest := by
  have hcolon : ":".toList = [':'] := rfl
  unfold urlText Url.address
  generalize reachableHost host = name
  simp only [String.toList_append, hcolon, hpath, List.append_assoc, List.cons_append,
    List.nil_append]

include hpath in
theorem toList_healthUrl :
    (healthUrl s).toList = Url.address (reached s) "api/health".toList := by
  have hdefault : s.healthPath.toList = '/' :: "api/health".toList := by
    rw [hpath]
    decide
  exact toList_urlText hdefault s.host s.port.toText

theorem reached_ne_nil (s : Settings.Server) : reached s ≠ [] := by
  simp [reached]

theorem kept_of_health : ∀ c ∈ "api/health".toList, Url.isKept c = true :=
  List.all_eq_true.mp (by decide)

variable (hhost : IsHostText s.host.toList) (hport : Url.isPort s.port.toText.toList = true)
include hhost hport

theorem chars_of_reached : ∀ c ∈ reached s, Url.isAuthorityChar c = true ∧ c ≠ '@' :=
  chars_of_host_port hport (isHostText_reachableHost hhost)

theorem isAuthority_reached : Url.isAuthority .special (reached s) = true ↔ Named s.host :=
  (isAuthority_iff hport (isHostText_reachableHost hhost)).trans (named_iff s.host).symm

include hpath

theorem isAbsolute_healthUrl : Url.isAbsolute (healthUrl s).toList = true ↔ Named s.host := by
  rw [toList_healthUrl hpath, Url.isAbsolute_address
    (fun c hc => (chars_of_reached hhost hport c hc).1) (reached_ne_nil s) kept_of_health]
  exact isAuthority_reached hhost hport

/-- The path of the usual address is that of the health endpoint, if it is an address. -/
theorem path?_healthUrl : Url.path? (healthUrl s).toList =
    if Named s.host then some s.healthPath.toList else none := by
  have hresolved : Url.resolvePath .special "api/health".toList = s.healthPath.toList := by
    rw [hpath]
    decide
  rw [toList_healthUrl hpath, Url.path?_address
    (fun c hc => (chars_of_reached hhost hport c hc).1) (reached_ne_nil s) kept_of_health,
    hresolved]
  exact if_congr (isAuthority_reached hhost hport) rfl rfl

theorem hasCredentials_healthUrl : Url.hasCredentials (healthUrl s).toList = false := by
  have hchars := chars_of_reached hhost hport
  rw [toList_healthUrl hpath]
  exact Url.hasCredentials_address (fun c hc => (hchars c hc).1) (reached_ne_nil s) kept_of_health
    fun hat => (hchars '@' hat).2 rfl

/-- The usual address names the host and the port of the settings. -/
theorem scheme?_healthUrl (hnamed : Named s.host) :
    ∃ rest, Url.scheme? (Url.strip (healthUrl s).toList) = some ("http".toList, rest) ∧
      Url.splitPort false (Url.authority "http".toList rest) =
        ((reachableHost s.host).toList, some s.port.toText.toList) := by
  have hchars := fun c hc => (chars_of_reached hhost hport c hc).1
  rw [toList_healthUrl hpath]
  refine ⟨_, Url.scheme?_address hchars kept_of_health, ?_⟩
  rw [Url.authority_http hchars (reached_ne_nil s)]
  exact Url.splitPort_append
    (fun c hc => plain_of_isNameChar (((named_iff _).mp hnamed).1.chars c hc)) _

end Usual

section Runs

variable {argv : List String} {usual : String} {fetch : String → Except Failure Fetched}
variable (herrors : (Arguments.parse argv).errors = [])
variable (hhelp : (Arguments.parse argv).help = false) (hurl : (Arguments.parse argv).url = none)
include herrors hhelp hurl

/-- A probe that is given no address reports what it fetched from the usual one. -/
theorem run_usual : run argv usual fetch =
    report (Arguments.parse argv).pretty usual (fetch usual) := by
  simp [run, herrors, hhelp, hurl]

theorem fetched_run_usual : (run argv usual fetch).fetched = some usual := by
  rw [run_usual herrors hhelp hurl]
  cases fetch usual <;> rfl

theorem code_run_usual {failure : Failure} (h : fetch usual = .error failure) :
    (run argv usual fetch).code = 1 := by
  rw [run_usual herrors hhelp hurl, h]
  rfl

end Runs

/-- The usual address of a probe is an address exactly if it names the host, as it does for four
numbers, for every name that is fit, and for all groups. It then leads to the health endpoint of the
server with these settings, under the host and the port of the settings. Otherwise it stands for the
root, and a fetch that fails without an address makes the probe fail. -/
theorem usual_address_reaches (raw : Datum) (routes : List Route) (m : Monitor) (now : Number)
    (headers : Headers) :
    let s := Settings.Server.resolve raw
    let url := healthUrl s
    s.healthPath = Settings.defaultHealthPath → IsHostText s.host.toList →
    (Url.isAbsolute url.toList = true ↔ Named s.host) ∧
    (isDottedTail s.host.toList = true → Named s.host) ∧
    (IsName s.host.toList → IsLettered (s.host.toList.map Char.toLower) → Named s.host) ∧
    (isGroupAddress s.host.toList = true → (Named s.host ↔ s.host = "::")) ∧
    (Named s.host →
      targetPath (some url) = s.healthPath ∧
      Url.hasCredentials url.toList = false ∧
      (∃ rest, Url.scheme? (Url.strip url.toList) = some ("http".toList, rest) ∧
        Url.splitPort false (Url.authority "http".toList rest) =
          ((reachableHost s.host).toList, some s.port.toText.toList)) ∧
      Answers (Server.ofSettings s routes).endpoints m now headers (targetPath (some url))
        .health) ∧
    (¬ Named s.host → targetPath (some url) = "/" ∧ Url.path? url.toList = none) ∧
    ∀ argv fetch, (Arguments.parse argv).errors = [] → (Arguments.parse argv).help = false →
      (Arguments.parse argv).url = none →
      (run argv url fetch).fetched = some url ∧
      (¬ Named s.host → (∀ text, Url.isAbsolute text.toList = false →
        ∃ failure, fetch text = .error failure) → (run argv url fetch).code = 1) := by
  intro s url hpath hhost
  have hport : Url.isPort s.port.toText.toList = true := isPort_of_resolved raw
  have habsolute : Url.isAbsolute url.toList = true ↔ Named s.host :=
    isAbsolute_healthUrl hpath hhost hport
  have hresolved := path?_healthUrl hpath hhost hport
  refine ⟨habsolute, named_of_dotted, fun hname hlettered => .inr ⟨hname, hlettered.isFit⟩,
    fun hgroups => ⟨fun hnamed => ?_, .inl⟩, fun hnamed => ?_, fun hunnamed => ?_,
    fun argv fetch herrors hhelp hurl => ⟨fetched_run_usual herrors hhelp hurl,
      fun hunnamed hfetch => ?_⟩⟩
  · by_contra hne
    exact not_named_of_groups hgroups hne hnamed
  · have htarget : targetPath (some url) = s.healthPath := by
      rw [if_pos hnamed] at hresolved
      rw [targetPath, Option.getD_some, hresolved]
      exact String.ofList_toList
    have hsame : targetPath (some s.healthPath) = s.healthPath := by
      rw [hpath]
      decide
    rw [htarget]
    exact ⟨rfl, hasCredentials_healthUrl hpath hhost hport,
      scheme?_healthUrl hpath hhost hport hnamed, answers_health (congrArg some hsame.symm) ..⟩
  · rw [if_neg hunnamed] at hresolved
    exact ⟨by rw [targetPath, Option.getD_some, hresolved], hresolved⟩
  · obtain ⟨failure, hfailure⟩ := hfetch url (Bool.eq_false_iff.mpr (mt habsolute.mp hunnamed))
    exact code_run_usual herrors hhelp hurl hfailure

/-- A name with a capital. -/
theorem usual_address_reaches_of_name :
    let s := Settings.Server.resolve
      (.record [("host", .text "Vendorcat.internal"), ("port", .number 8080)])
    let m := Monitor.start (Settings.Observability.resolve .absent) 0
    let url := "http://Vendorcat.internal:8080/api/health"
    (s.healthPath = Settings.defaultHealthPath ∧ IsHostText s.host.toList) ∧ healthUrl s = url ∧
      targetPath (some url) = "/api/health" ∧
      Answers (Server.ofSettings s []).endpoints m 0 [] (targetPath (some url)) .health ∧
      (run [] url fetchAlone).fetched = some url := by
  intro s m url
  have hpath : s.healthPath = Settings.defaultHealthPath := by decide +kernel
  have hname : IsName s.host.toList := by decide +kernel
  have hurl : healthUrl s = url := by decide +kernel
  have hnamed : Named s.host := by decide +kernel
  obtain ⟨-, -, -, -, hreached, -, hrun⟩ :=
    usual_address_reaches (.record [("host", .text "Vendorcat.internal"), ("port", .number 8080)])
      [] m 0 [] hpath (.inr (.inl hname))
  obtain ⟨htarget, -, -, hanswers⟩ := hreached hnamed
  obtain ⟨hfetched, -⟩ := hrun [] fetchAlone rfl rfl rfl
  rw [hurl] at htarget hanswers hfetched
  exact ⟨⟨hpath, .inr (.inl hname)⟩, hurl, htarget.trans hpath, hanswers, hfetched⟩

/-- The host of the machine itself in eight groups has no usual address: without brackets the first
colon ends the host, which is then empty. -/
theorem loopback_groups_unreached :
    let s := Settings.Server.resolve (.record [("host", .text "::1")])
    let url := "http://::1:8000/api/health"
    (s.healthPath = Settings.defaultHealthPath ∧ isGroupAddress s.host.toList = true) ∧
      healthUrl s = url ∧ Url.isAbsolute url.toList = false ∧ targetPath (some url) = "/" ∧
      targetPath (some url) ≠ s.healthPath ∧
      targetPath (some "http://[::1]:8000/api/health") = s.healthPath ∧
      (run [] url fetchAlone).code = 1 ∧
      (run [] url fetchAlone).stderr = "Health endpoint unreachable (" ++ url ++
        "): Failed to parse URL from " ++ url ++ "\n" := by
  decide +kernel

end Telemetry.Probe
