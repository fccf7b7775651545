import VpnPanel.MuxMap
import VpnPanel.MuxRoutes
import VpnPanel.Lib.NginxConf

/-!
# VpnPanel.StreamConf

The stream file that `sync_reality_shared_443` writes, as nginx reads it, and
what is left of it when the call fails.

The strings of the documents go into the file as they are, stripped only.
`intact_iff`: the file is the frame with one entry for each route exactly when
the names and backends the documents claim are host names and addresses, and
no two of the names are the same to nginx.  `failedSync` says what a failed
call has done.
-/

namespace VpnPanel

open PyStr (asciiLower)
open NginxConf (Event PlainWord isPlain)

/-! ## host names and addresses -/

def isHostChar (c : Char) : Bool := c.isAlphanum || c = '-' || c = '_' || c = '.'

/-- A host name or an IPv4 address. -/
def IsHost (s : String) : Prop := s ≠ "" ∧ ∀ c ∈ s.toList, isHostChar c = true

/-- A host name as the key of a map; `include` there is a directive. -/
def IsHostname (s : String) : Prop := IsHost s ∧ s ≠ "include"

/-- An IPv6 address in brackets. -/
def IsBracketed (s : String) : Prop :=
  ∃ inner, s = "[" ++ inner ++ "]" ∧ ∀ c ∈ inner.toList, (isHostChar c || c = ':') = true

/-- `host:port`. -/
def IsHostPort (s : String) : Prop :=
  ∃ host port, s = host ++ ":" ++ port ∧ (IsHost host ∨ IsBracketed host) ∧ port ≠ "" ∧
    ∀ c ∈ port.toList, c.isDigit = true

theorem isPlain_of_isHostChar {c : Char} (h : isHostChar c = true) : isPlain c = true := by
  have hne (d : Char) (hd : isHostChar d = false) : c ≠ d := by
    rintro rfl
    simp [h] at hd
  have hblank : NginxConf.isBlank c = false := by
    simp [NginxConf.isBlank, hne ' ' rfl, hne '\t' rfl, hne '\n' rfl, hne '\r' rfl]
  simp [isPlain, hblank, hne ';' rfl, hne '#' rfl, hne '$' rfl, hne NginxConf.openBrace rfl,
    hne NginxConf.closeBrace rfl, hne NginxConf.backslash rfl, hne NginxConf.doubleQuote rfl,
    hne NginxConf.singleQuote rfl]

theorem IsHost.plain {s : String} (h : IsHost s) : PlainWord s :=
  ⟨h.1, fun c hc => isPlain_of_isHostChar (h.2 c hc)⟩

theorem IsHostPort.plain {s : String} (h : IsHostPort s) : PlainWord s := by
  obtain ⟨host, port, rfl, hhost, -, hport⟩ := h
  have hdigit (c : Char) (hc : c ∈ port.toList) : isPlain c = true :=
    isPlain_of_isHostChar (by simp [isHostChar, Char.isAlphanum, hport c hc])
  have hplain : ∀ c ∈ host.toList, isPlain c = true := by
    obtain hhost | ⟨inner, rfl, hinner⟩ := hhost
    · exact hhost.plain.2
    · intro c hc
      have hcases : c = '[' ∨ c ∈ inner.toList ∨ c = ']' := by simpa using hc
      obtain rfl | hmem | rfl := hcases
      · decide
      · obtain hchar | hcolon := Bool.or_eq_true_iff.mp (hinner c hmem)
        · exact isPlain_of_isHostChar hchar
        · obtain rfl : c = ':' := by simpa using hcolon
          decide
      · decide
  refine ⟨by simp, fun c hc => ?_⟩
  have hcases : c ∈ host.toList ∨ c = ':' ∨ c ∈ port.toList := by simpa using hc
  obtain hmem | rfl | hmem := hcases
  · exact hplain c hmem
  · decide
  · exact hdigit c hmem

/-! ## the file -/

namespace SharedConf

/-- The frame with an entry for each line, as nginx reads it. -/
def events (conf : SharedConf) : List Event :=
  .blockStart ["map", "$ssl_preread_server_name", "$vcp_443_backend"] ::
    conf.lines.map (fun line => .directive [line.1, line.2]) ++
      [.directive ["default", conf.panelBackend], .blockEnd, .blockStart ["server"],
        .directive ["listen", "443", "reuseport"], .directive ["listen", "[::]:443", "reuseport"],
        .directive ["proxy_pass", "$vcp_443_backend"], .directive ["ssl_preread", "on"],
        .directive ["proxy_connect_timeout", "10s"], .directive ["proxy_timeout", "300s"],
        .blockEnd]

/-- The frame and one entry for each line, each a host name with an address,
and no key twice. -/
structure Intact (conf : SharedConf) : Prop where
  read : NginxConf.read conf.render = some conf.events
  named : ∀ line ∈ conf.lines, IsHostname line.1 ∧ IsHostPort line.2
  accepted : conf.Accepted

end SharedConf

section

open NginxConf (feed feed_append)

variable {es : List Event}

theorem feed_head :
    feed {} ("# Managed by VpnControlPanel — do not edit by hand.\n" ++
      "# Updated automatically on Reality/xHTTP create/regenerate when share_public_port is set.\n" ++
      "\n" ++
      "map $ssl_preread_server_name $vcp_443_backend \x7b\n") = some ⟨.space, [], 1,
        [.blockStart ["map", "$ssl_preread_server_name", "$vcp_443_backend"]]⟩ := by
  have hfirst : '\n' ∉ " Managed by VpnControlPanel — do not edit by hand.".toList := by simp
  have hsecond : '\n' ∉
      " Updated automatically on Reality/xHTTP create/regenerate when share_public_port is set.".toList :=
    by simp
  have hfeed := NginxConf.feed_comment (s := {}) rfl hfirst
  have hfeed' := NginxConf.feed_comment (s := {}) rfl hsecond
  simp only [String.reduceAppend] at hfeed hfeed'
  rw [feed_append, feed_append, feed_append, hfeed, Option.bind_some, hfeed', Option.bind_some]
  rfl

/-- A line of the map. -/
def lineText (line : String × String) : String := "    " ++ line.1 ++ " " ++ line.2 ++ ";"

theorem feed_line (es : List Event) {line : String × String}
    (h : PlainWord line.1 ∧ PlainWord line.2) :
    feed ⟨.space, [], 1, es⟩ (lineText line) =
      some ⟨.space, [], 1, .directive [line.1, line.2] :: es⟩ := by
  rw [lineText, String.append_assoc, String.append_assoc, String.append_assoc, feed_append,
    ← String.append_assoc, ← String.append_assoc]
  exact NginxConf.feed_pair rfl rfl h.1 h.2

theorem feed_body (es : List Event) {lines : List (String × String)}
    (h : ∀ line ∈ lines, PlainWord line.1 ∧ PlainWord line.2) :
    feed ⟨.space, [], 1, es⟩ (String.intercalate "\n" (lines.map lineText)) =
      some ⟨.space, [], 1,
        (lines.map fun line => Event.directive [line.1, line.2]).reverse ++ es⟩ := by
  induction lines generalizing es with
  | nil => rfl
  | cons line rest ih =>
      have hline := feed_line es (h line List.mem_cons_self)
      cases rest with
      | nil => simpa using hline
      | cons line' rest =>
          rw [List.map_cons, List.map_cons, String.intercalate_cons_cons,
            ← List.map_cons (f := lineText), feed_append, feed_append, hline]
          have hrest := ih (.directive [line.1, line.2] :: es)
            fun l hl => h l (List.mem_cons_of_mem _ hl)
          have hbreak : feed ⟨.space, [], 1, .directive [line.1, line.2] :: es⟩ "\n" =
              some ⟨.space, [], 1, .directive [line.1, line.2] :: es⟩ := rfl
          simpa [hbreak] using hrest

theorem feed_default {backend : String} (h : PlainWord backend) :
    feed ⟨.space, [], 1, es⟩ ("    default " ++ backend ++ ";\n") =
      some ⟨.space, [], 1, .directive ["default", backend] :: es⟩ := by
  have hsplit : "    default " ++ backend ++ ";\n" =
      "    " ++ ("default" ++ " " ++ backend ++ ";") ++ "\n" := by
    simp [← String.toList_inj]
  have hpair := NginxConf.feed_pair (s := ⟨.space, [], 1, es⟩) rfl rfl
    (show PlainWord "default" from ⟨by decide, List.all_eq_true.mp (by decide)⟩) h
  rw [hsplit, feed_append, feed_append, show feed _ "    " = some _ from rfl, Option.bind_some,
    hpair]
  rfl

/-- The server block. -/
theorem feed_server :
    feed ⟨.space, [], 1, es⟩ ("\x7d\n" ++ "\n" ++ "server \x7b\n" ++
      "    listen 443 reuseport;\n" ++ "    listen [::]:443 reuseport;\n" ++
      "    proxy_pass $vcp_443_backend;\n" ++ "    ssl_preread on;\n" ++
      "    proxy_connect_timeout 10s;\n" ++ "    proxy_timeout 300s;\n" ++ "\x7d\n") =
      some ⟨.space, [], 0, [.blockEnd, .directive ["proxy_timeout", "300s"],
        .directive ["proxy_connect_timeout", "10s"], .directive ["ssl_preread", "on"],
        .directive ["proxy_pass", "$vcp_443_backend"],
        .directive ["listen", "[::]:443", "reuseport"], .directive ["listen", "443", "reuseport"],
        .blockStart ["server"], .blockEnd] ++ es⟩ := by
  simp only [feed_append]
  rfl

/-- A file of plain words is the frame with its lines. -/
theorem read_render {conf : SharedConf}
    (h : ∀ line ∈ conf.lines, PlainWord line.1 ∧ PlainWord line.2)
    (hpanel : PlainWord conf.panelBackend) :
    NginxConf.read conf.render = some conf.events := by
  have hsplit : conf.render =
      ("# Managed by VpnControlPanel — do not edit by hand.\n" ++
        "# Updated automatically on Reality/xHTTP create/regenerate when share_public_port is set.\n" ++
        "\n" ++
        "map $ssl_preread_server_name $vcp_443_backend \x7b\n") ++
      (String.intercalate "\n" (conf.lines.map lineText) ++ ("\n" ++
        (("    default " ++ conf.panelBackend ++ ";\n") ++
          ("\x7d\n" ++ "\n" ++ "server \x7b\n" ++
            "    listen 443 reuseport;\n" ++ "    listen [::]:443 reuseport;\n" ++
            "    proxy_pass $vcp_443_backend;\n" ++ "    ssl_preread on;\n" ++
            "    proxy_connect_timeout 10s;\n" ++ "    proxy_timeout 300s;\n" ++ "\x7d\n")))) := by
    unfold SharedConf.render
    have hline : lineText = fun line => "    " ++ line.1 ++ " " ++ line.2 ++ ";" := rfl
    rw [← hline]
    generalize String.intercalate "\n" _ = body
    simp only [String.append_assoc]
  rw [NginxConf.read, hsplit, feed_append, feed_head, Option.bind_some, feed_append, feed_body _ h,
    Option.bind_some, feed_append, show feed _ "\n" = some _ from rfl, Option.bind_some,
    feed_append,
    feed_default hpanel, Option.bind_some, feed_server, Option.bind_some]
  simp [NginxConf.State.finish, SharedConf.events]

/-- A file whose lines have host names and addresses, and whose keys nginx
accepts, is intact. -/
theorem intact_iff_named {conf : SharedConf} (hpanel : IsHostPort conf.panelBackend) :
    conf.Intact ↔ (∀ line ∈ conf.lines, IsHostname line.1 ∧ IsHostPort line.2) ∧ conf.Accepted := by
  constructor
  · exact fun h => ⟨h.named, h.accepted⟩
  · rintro ⟨hnamed, haccepted⟩
    refine ⟨read_render (fun line hline => ?_) hpanel.plain, hnamed, haccepted⟩
    exact ⟨(hnamed line hline).1.1.plain, (hnamed line hline).2.plain⟩

end

/-! ## what the documents claim -/

section

variable (settings : PanelSettings) (glob : Glob) (configData : PyVal)

/-- A name the Reality branch claims for a document: one of the settings, of
its `serverNames`, or the host of its `dest`. -/
def RealityName (ps : VpnProfileSettings) (data : PyVal) (name : String) : Prop :=
  ∃ reality serverNames names dest, realitySection ps data = .ok reality ∧
    reality.get "serverNames" = .ok serverNames ∧
    (serverNames.orElse (.list [])).iter = .ok names ∧ reality.get "dest" = .ok dest ∧
    name ≠ "" ∧
      ((∃ host ∈ ps.realityDestHosts, name = destHostname host) ∨
        (∃ sni ∈ ps.realityServerNames, name = PyStr.strip sni) ∨
        (∃ s, .str s ∈ names ∧ name = PyStr.strip s) ∨
        dest.truthy = true ∧ name = destHostname dest.toStr)

/-- The one document the Reality branch reads: the injected one, else the
first on disk. -/
def RealityDocument (injected : Option PyVal) (data : PyVal) : Prop :=
  injected = some data ∧ data.truthy = true ∨
    (∀ d, injected = some d → d.truthy = false) ∧
      ∃ items, loadLiveConfigsForProfile settings glob .xrayReality = .ok items ∧
        items.head? = some data

/-- The documents of a profile claim a name for a backend. -/
def Claims (key : ConfigProfile) (name backend : String) : Prop :=
  ∃ ps, settings.profiles key = some ps ∧ shared443Enabled ps = true ∧
    if key = .xrayReality then
      ∃ data, RealityDocument settings glob (injectedFor settings configData key) data ∧
        liveBackend ps data = .ok (some backend) ∧ RealityName ps data name
    else
      ∃ live, loadLiveConfigsForProfile settings glob key = .ok live ∧
        SetLast settings key ps [] (live ++ (injectedFor settings configData key).toList) name
          backend

/-- The last profile that claims a name claims it for this backend. -/
def Routed (name backend : String) : Prop :=
  Claims settings glob configData .xrayGrpc name backend ∨
    (∀ b, ¬ Claims settings glob configData .xrayGrpc name b) ∧
      (Claims settings glob configData .xrayXhttp name backend ∨
        (∀ b, ¬ Claims settings glob configData .xrayXhttp name b) ∧
          Claims settings glob configData .xrayReality name backend)

/-- The names and backends that reach the file are host names and addresses,
and no two of the names are one to nginx. -/
structure CleanClaims (panelBackend : String) : Prop where
  panel_backend : IsHostPort panelBackend
  panel_named : ∀ name ∈ panelSniHosts settings, IsHostname name
  panel_distinct : ((panelSniHosts settings).map asciiLower).Nodup
  panel_default : "default" ∉ (panelSniHosts settings).map asciiLower
  named : ∀ name backend, Routed settings glob configData name backend →
    name ∉ panelSniHosts settings → IsHostname name ∧ IsHostPort backend
  distinct : ∀ name backend name' backend', Routed settings glob configData name backend →
    Routed settings glob configData name' backend' → name ∉ panelSniHosts settings →
      name' ∉ panelSniHosts settings → asciiLower name = asciiLower name' → name = name'
  apart : ∀ name backend, Routed settings glob configData name backend →
    name ∉ panelSniHosts settings →
      asciiLower name ≠ "default" ∧ ∀ sni ∈ panelSniHosts settings, asciiLower sni ≠ asciiLower name

end

section

variable {settings : PanelSettings} {glob : Glob} {configData : PyVal}

theorem mem_stringNames {name : String} {names : List PyVal} :
    name ∈ stringNames names ↔ name ≠ "" ∧ ∃ s, .str s ∈ names ∧ name = PyStr.strip s := by
  simp only [stringNames, List.mem_filterMap]
  constructor
  · rintro ⟨v, hv, hname⟩
    cases v with
    | str s =>
        simp only at hname
        split at hname
        · next hne =>
          obtain rfl := Option.some.inj hname
          exact ⟨hne, s, hv, rfl⟩
        · cases hname
    | _ => cases hname
  · rintro ⟨hne, s, hs, rfl⟩
    exact ⟨.str s, hs, by simp [hne]⟩

theorem mem_realitySniHosts {ps : VpnProfileSettings} {data : PyVal} {hosts : List String}
    (h : realitySniHosts ps data = .ok hosts) {name : String} :
    name ∈ hosts ↔ RealityName ps data name := by
  obtain ⟨reality, hreality, h⟩ := Except.bind_eq_ok_iff.mp h
  obtain ⟨serverNames, hnames, h⟩ := Except.bind_eq_ok_iff.mp h
  obtain ⟨names, hiter, h⟩ := Except.bind_eq_ok_iff.mp h
  obtain ⟨dest, hdest, h⟩ := Except.bind_eq_ok_iff.mp h
  obtain rfl := Except.ok.inj h
  have hofDest : name ∈ (if dest.truthy then [destHostname dest.toStr].filter (· ≠ "") else []) ↔
      name ≠ "" ∧ dest.truthy = true ∧ name = destHostname dest.toStr := by
    split
    · next htruthy =>
      simp only [List.mem_filter, List.mem_singleton, htruthy, true_and, decide_eq_true_eq]
      exact and_comm
    · next htruthy => simp [htruthy]
  rw [List.mem_insertionSort, List.mem_dedup, List.mem_append, List.mem_append, List.mem_append,
    hofDest, mem_stringNames]
  simp only [List.mem_filter, List.mem_map, decide_eq_true_eq]
  constructor
  · rintro (((⟨⟨host, hhost, rfl⟩, hne⟩ | ⟨⟨sni, hsni, rfl⟩, hne⟩) | ⟨hne, hstr⟩) | ⟨hne, hd⟩)
    · exact ⟨reality, serverNames, names, dest, hreality, hnames, hiter, hdest, hne,
        Or.inl ⟨host, hhost, rfl⟩⟩
    · exact ⟨reality, serverNames, names, dest, hreality, hnames, hiter, hdest, hne,
        Or.inr (Or.inl ⟨sni, hsni, rfl⟩)⟩
    · exact ⟨reality, serverNames, names, dest, hreality, hnames, hiter, hdest, hne,
        Or.inr (Or.inr (Or.inl hstr))⟩
    · exact ⟨reality, serverNames, names, dest, hreality, hnames, hiter, hdest, hne,
        Or.inr (Or.inr (Or.inr hd))⟩
  · rintro ⟨reality', serverNames', names', dest', hreality', hnames', hiter', hdest', hne, hcases⟩
    obtain rfl := Except.ok.inj (hreality.symm.trans hreality')
    obtain rfl := Except.ok.inj (hnames.symm.trans hnames')
    obtain rfl := Except.ok.inj (hiter.symm.trans hiter')
    obtain rfl := Except.ok.inj (hdest.symm.trans hdest')
    obtain ⟨host, hhost, rfl⟩ | ⟨sni, hsni, rfl⟩ | hstr | hd := hcases
    · exact Or.inl (Or.inl (Or.inl ⟨⟨host, hhost, rfl⟩, hne⟩))
    · exact Or.inl (Or.inl (Or.inr ⟨⟨sni, hsni, rfl⟩, hne⟩))
    · exact Or.inl (Or.inr ⟨hne, hstr⟩)
    · exact Or.inr ⟨hne, hd⟩

/-- The routes of the document the Reality branch reads. -/
def realityDocumentRoutes (ps : VpnProfileSettings) :
    Option PyVal → Except PyErr (List (String × String))
  | none => .ok []
  | some data => do
      let backend ← liveBackend ps data
      match backend with
      | none => .ok []
      | some backend => do
          let hosts ← realitySniHosts ps data
          .ok (hosts.map fun sni => (sni, backend))

/-- The document the Reality branch reads, if there is one. -/
def realityData (settings : PanelSettings) (glob : Glob) (injected : Option PyVal) :
    Except PyErr (Option PyVal) :=
  if injected.any PyVal.truthy then .ok injected
  else (loadLiveConfigsForProfile settings glob .xrayReality).map List.head?

theorem realityRoutes_eq (ps : VpnProfileSettings) (injected : Option PyVal) :
    realityRoutes settings glob ps injected = (do
      let data ← realityData settings glob injected
      realityDocumentRoutes ps data) := by
  have hdisk (items : Except PyErr (List PyVal)) : (do
      let data ← items.map List.head?
      realityDocumentRoutes ps data) = (do
      let items ← items
      realityDocumentRoutes ps items.head?) := by
    cases items <;> rfl
  cases injected with
  | none =>
      simp only [realityData, Option.any_none, Bool.false_eq_true, if_false, hdisk, realityRoutes]
      cases loadLiveConfigsForProfile settings glob .xrayReality with
      | error e => rfl
      | ok items =>
          cases hhead : items.head? with
          | none => simp [hhead, realityDocumentRoutes]
          | some data =>
              simp only [Except.ok_bind_eq, hhead, realityDocumentRoutes, liveBackend]
              cases findInbound data ps.inboundTag <;> rfl
  | some d =>
      by_cases htruthy : d.truthy = true
      · simp only [realityData, realityRoutes, Option.any_some, htruthy, if_true, Except.ok_bind_eq,
          realityDocumentRoutes, liveBackend]
        cases findInbound d ps.inboundTag <;> rfl
      · simp only [realityData, Option.any_some, htruthy, Bool.false_eq_true, if_false, hdisk,
          realityRoutes]
        cases loadLiveConfigsForProfile settings glob .xrayReality with
        | error e => rfl
        | ok items =>
            cases hhead : items.head? with
            | none => simp [hhead, realityDocumentRoutes]
            | some data =>
              simp only [Except.ok_bind_eq, hhead, realityDocumentRoutes, liveBackend]
              cases findInbound data ps.inboundTag <;> rfl

theorem realityData_eq_ok {injected data : Option PyVal}
    (h : realityData settings glob injected = .ok data) (d : PyVal) :
    RealityDocument settings glob injected d ↔ data = some d := by
  unfold realityData at h
  split at h
  · next htruthy =>
    obtain rfl := Except.ok.inj h
    constructor
    · rintro (⟨heq, -⟩ | ⟨hfalse, -⟩)
      · exact heq
      · cases injected with
        | none => simp at htruthy
        | some d' => simp [hfalse d' rfl] at htruthy
    · rintro rfl
      exact Or.inl ⟨rfl, by simpa using htruthy⟩
  · next hfalsy =>
    cases hload : loadLiveConfigsForProfile settings glob .xrayReality with
    | error e => simp [hload, Except.map] at h
    | ok items =>
        rw [hload] at h
        obtain rfl := Except.ok.inj h
        constructor
        · rintro (⟨rfl, htruthy⟩ | ⟨-, items', hitems', hhead⟩)
          · simp [htruthy] at hfalsy
          · rwa [Except.ok.inj (hload.symm.trans hitems')]
        · intro hhead
          refine Or.inr ⟨fun d' heq => ?_, items, hload, hhead⟩
          simpa [heq] using hfalsy

theorem realityRoutes_spec {ps : VpnProfileSettings} {injected : Option PyVal}
    {routes : List (String × String)} (h : realityRoutes settings glob ps injected = .ok routes)
    {name backend : String} :
    lastWins name routes = some backend ↔
      ∃ data, RealityDocument settings glob injected data ∧
        liveBackend ps data = .ok (some backend) ∧ RealityName ps data name := by
  rw [realityRoutes_eq] at h
  obtain ⟨data, hdata, hroutes⟩ := Except.bind_eq_ok_iff.mp h
  simp only [realityData_eq_ok hdata]
  cases data with
  | none =>
      cases hroutes
      simp
  | some data =>
      obtain ⟨backend', hbackend, hroutes⟩ := Except.bind_eq_ok_iff.mp hroutes
      cases backend' with
      | none =>
          cases hroutes
          simp [hbackend]
      | some b =>
          obtain ⟨hosts, hhosts, hroutes⟩ := Except.bind_eq_ok_iff.mp hroutes
          obtain rfl := Except.ok.inj hroutes
          rw [lastWins_map_const, mem_realitySniHosts hhosts]
          constructor
          · rintro ⟨hname, rfl⟩
            exact ⟨data, rfl, hbackend, hname⟩
          · rintro ⟨data', heq, hbackend', hname⟩
            obtain rfl := Option.some.inj heq
            have hsame := Except.ok.inj (hbackend.symm.trans hbackend')
            exact ⟨hname, (Option.some.inj hsame).symm⟩

/-- The routes of a profile are what its documents claim. -/
theorem lastWins_routesForMuxProfile {key : ConfigProfile} {routes : List (String × String)}
    (h : routesForMuxProfile settings glob key (injectedFor settings configData key) = .ok routes)
    {name backend : String} :
    lastWins name routes = some backend ↔ Claims settings glob configData key name backend := by
  unfold routesForMuxProfile at h
  split at h
  · next hps =>
    cases h
    simp [Claims, hps]
  · next ps hps =>
    split at h
    · next hshared =>
      have hclaims : Claims settings glob configData key name backend ↔
          if key = .xrayReality then
            ∃ data, RealityDocument settings glob (injectedFor settings configData key) data ∧
              liveBackend ps data = .ok (some backend) ∧ RealityName ps data name
          else
            ∃ live, loadLiveConfigsForProfile settings glob key = .ok live ∧
              SetLast settings key ps [] (live ++ (injectedFor settings configData key).toList) name
                backend := by
        constructor
        · rintro ⟨ps', hps', -, hcases⟩
          obtain rfl := Option.some.inj (hps.symm.trans hps')
          exact hcases
        · exact fun hcases => ⟨ps, hps, hshared, hcases⟩
      rw [hclaims]
      split at h
      · next hkey => simpa [hkey] using realityRoutes_spec h
      · next hkey =>
        rw [if_neg hkey]
        obtain ⟨live, hlive, h⟩ := Except.bind_eq_ok_iff.mp h
        rw [collectTlsRoutes_eq] at h
        obtain ⟨byHost, hbyHost, h⟩ := Except.bind_eq_ok_iff.mp h
        obtain rfl := Except.ok.inj h
        cases hnew : newRoutes settings key ps []
            (live ++ (injectedFor settings configData key).toList) with
        | error e => simp [hnew, Except.map] at hbyHost
        | ok routes =>
            rw [hnew] at hbyHost
            obtain rfl := Except.ok.inj hbyHost
            rw [Dict.lastWins_entries, Dict.get?_setAll, Dict.get?_empty, Option.or_none,
              (lastWins_newRoutes hnew).2 backend]
            simp [hlive]
    · next hshared =>
      cases h
      simp [Claims, hps, hshared]

theorem muxRoutes_spec {routes : List (String × String)}
    (h : muxRoutes settings glob configData muxProfiles = .ok routes) {name backend : String} :
    lastWins name routes = some backend ↔ Routed settings glob configData name backend := by
  obtain ⟨reality, hreality, h⟩ := Except.bind_eq_ok_iff.mp h
  obtain ⟨rest, hrest, h⟩ := Except.bind_eq_ok_iff.mp h
  obtain ⟨xhttp, hxhttp, hrest⟩ := Except.bind_eq_ok_iff.mp hrest
  obtain ⟨rest', hrest', hrest⟩ := Except.bind_eq_ok_iff.mp hrest
  obtain ⟨grpc, hgrpc, hrest'⟩ := Except.bind_eq_ok_iff.mp hrest'
  obtain ⟨last, hlast, hrest'⟩ := Except.bind_eq_ok_iff.mp hrest'
  obtain rfl := Except.ok.inj hlast
  obtain rfl := Except.ok.inj hrest'
  obtain rfl := Except.ok.inj hrest
  obtain rfl := Except.ok.inj h
  have hnone {key : ConfigProfile} {routes : List (String × String)}
      (h : routesForMuxProfile settings glob key (injectedFor settings configData key) =
        .ok routes) :
      lastWins name routes = none ↔ ∀ b, ¬ Claims settings glob configData key name b := by
    simp only [← lastWins_routesForMuxProfile h, Option.eq_none_iff_forall_ne_some]
  rw [List.append_nil, lastWins_append, lastWins_append, Option.or_eq_some_iff,
    Option.or_eq_some_iff, Option.or_eq_none_iff, lastWins_routesForMuxProfile hgrpc,
    lastWins_routesForMuxProfile hxhttp, lastWins_routesForMuxProfile hreality, hnone hgrpc,
    hnone hxhttp, Routed]
  tauto

/-! ## stripped strings -/

/-- A host without blanks at its ends, and a port. -/
theorem strip_hostPort {listen port : String} (hne : listen ≠ "")
    (hlisten : PyStr.strip listen = listen) (hport : port ≠ "")
    (hchars : ∀ c ∈ port.toList, PyStr.isSpace c = false) :
    PyStr.strip (listen ++ ":" ++ port) = listen ++ ":" ++ port := by
  have hstripped : PyStr.stripChars listen.toList = listen.toList := by
    have h := congrArg String.toList hlisten
    simpa [PyStr.strip] using h
  have hself : PyStr.stripChars (listen ++ ":" ++ port).toList =
    (listen ++ ":" ++ port).toList := by
    refine PyStr.stripChars_eq_self (fun c hc => ?_) fun c hc => ?_
    · have hhead : listen.toList.head? = some c := by
        cases hcs : listen.toList with
        | nil => exact absurd (String.toList_eq_nil_iff.mp hcs) hne
        | cons d ds => simpa [hcs] using hc
      exact PyStr.head?_stripChars (by rw [hstripped]; exact hhead)
    · refine hchars c (List.mem_of_getLast? ?_)
      rw [String.toList_append, List.getLast?_append_of_ne_nil _ (by simpa using hport)] at hc
      exact hc
  rw [PyStr.strip, hself, String.ofList_toList]

theorem chars_port {i : Int} (h : 1 ≤ i) : (PyVal.int i).toStr ≠ "" ∧
    ∀ c ∈ (PyVal.int i).toStr.toList, PyStr.isSpace c = false := by
  obtain ⟨n, rfl⟩ := Int.eq_ofNat_of_zero_le (by omega : 0 ≤ i)
  have hchars : (PyVal.int n).toStr.toList = Nat.toDigits 10 n := by
    have htext : (PyVal.int n).toStr = toString n := by
      rw [PyVal.toStr, PyVal.repr]
      · rfl
      · simp
    rw [htext, Nat.toString_eq_repr, Nat.toList_repr]
  constructor
  · intro hnil
    rw [hnil] at hchars
    exact Nat.toDigits_ne_nil hchars.symm
  · intro c hc
    rw [hchars] at hc
    exact PyVal.not_isSpace_of_isDigit (Nat.isDigit_of_mem_toDigits (by decide) (by decide) hc)

theorem strip_inboundBackend {inbound : PyVal} {fallback : Option String} {backend : String}
    (h : inboundBackend inbound fallback = .ok (some backend)) :
    PyStr.strip backend = backend ∧ backend ≠ "" := by
  have hlisten {port : String} (hport : port ≠ "" ∧ ∀ c ∈ port.toList, PyStr.isSpace c = false)
      {listen : String} (hstrip : PyStr.strip listen = listen)
      (heq : (if listen = "0.0.0.0" || listen = "::" || listen = "" then "127.0.0.1" else listen) ++
        ":" ++ port = backend) : PyStr.strip backend = backend ∧ backend ≠ "" := by
    subst heq
    refine ⟨?_, by simp⟩
    split
    · exact strip_hostPort (by decide) (by decide) hport.1 hport.2
    · next hlisten =>
      simp only [Bool.or_eq_true, decide_eq_true_eq, not_or] at hlisten
      exact strip_hostPort hlisten.2 hstrip hport.1 hport.2
  unfold inboundBackend at h
  obtain ⟨port, -, h⟩ := Except.bind_eq_ok_iff.mp h
  cases port with
  | int i =>
      simp only at h
      split at h
      · next hi =>
        obtain ⟨listen, -, h⟩ := Except.bind_eq_ok_iff.mp h
        exact hlisten (chars_port (by simpa using hi)) (PyStr.strip_strip _)
          (Option.some.inj (Except.ok.inj h))
      · simp at h
  | bool b =>
      cases b with
      | false => simp at h
      | true =>
          simp only [if_true] at h
          obtain ⟨listen, -, h⟩ := Except.bind_eq_ok_iff.mp h
          have hall : ("True".toList.all fun c => !PyStr.isSpace c) = true := by decide
          have hchars : ∀ c ∈ "True".toList, PyStr.isSpace c = false := fun c hc => by
            simpa using List.all_eq_true.mp hall c hc
          exact hlisten ⟨by decide, hchars⟩ (PyStr.strip_strip _)
            (Option.some.inj (Except.ok.inj h))
  | _ => simp at h

theorem strip_destHostname (dest : String) :
    PyStr.strip (destHostname dest) = destHostname dest := by
  unfold destHostname
  simp only
  split
  · rfl
  · split
    · exact PyStr.strip_strip _
    · exact PyStr.strip_strip _

theorem strip_routeHost {key : ConfigProfile} {ps : VpnProfileSettings} {data : PyVal}
    {host : String} (h : routeHost settings key ps data = .ok host) : PyStr.strip host = host := by
  obtain ⟨tlsHost, htls, h⟩ := Except.bind_eq_ok_iff.mp h
  cases tlsHost with
  | none =>
      obtain rfl := Except.ok.inj h
      exact PyStr.strip_strip _
  | some tlsHost =>
      obtain rfl := Except.ok.inj h
      exact (tlsHost_spec htls).1

theorem RealityName.strip {ps : VpnProfileSettings} {data : PyVal} {name : String}
    (h : RealityName ps data name) : PyStr.strip name = name ∧ name ≠ "" := by
  obtain ⟨_, _, _, _, _, _, _, _, hne, hcases⟩ := h
  refine ⟨?_, hne⟩
  obtain ⟨host, -, rfl⟩ | ⟨sni, -, rfl⟩ | ⟨s, -, rfl⟩ | ⟨-, rfl⟩ := hcases
  · exact strip_destHostname host
  · exact PyStr.strip_strip sni
  · exact PyStr.strip_strip s
  · exact strip_destHostname _

/-- What is claimed is stripped and not blank. -/
theorem Claims.strip {key : ConfigProfile} {name backend : String}
    (h : Claims settings glob configData key name backend) :
    (PyStr.strip name = name ∧ name ≠ "") ∧ PyStr.strip backend = backend ∧ backend ≠ "" := by
  obtain ⟨ps, -, -, hcases⟩ := h
  have hlisten {data : PyVal} (hbackend : liveBackend ps data = .ok (some backend)) :
      PyStr.strip backend = backend ∧ backend ≠ "" := by
    unfold liveBackend at hbackend
    split at hbackend
    · simp at hbackend
    · exact strip_inboundBackend hbackend
  split at hcases
  · obtain ⟨data, -, hbackend, hname⟩ := hcases
    exact ⟨hname.strip, hlisten hbackend⟩
  · obtain ⟨live, -, before, data, after, -, hsets, -⟩ := hcases
    exact ⟨⟨strip_routeHost hsets.named, hsets.named_ne⟩, hlisten hsets.listens⟩

/-! ## the lines -/

/-- Every route is claimed. -/
theorem claims_of_mem {key : ConfigProfile} {routes : List (String × String)}
    (h : routesForMuxProfile settings glob key (injectedFor settings configData key) = .ok routes)
    {route : String × String} (hroute : route ∈ routes) :
    Claims settings glob configData key route.1 route.2 := by
  rw [← lastWins_routesForMuxProfile h]
  unfold routesForMuxProfile at h
  split at h
  · cases h
    cases hroute
  · next ps hps =>
    split at h
    · split at h
      · rw [realityRoutes_eq] at h
        obtain ⟨data, -, h⟩ := Except.bind_eq_ok_iff.mp h
        cases data with
        | none =>
            cases h
            cases hroute
        | some data =>
            obtain ⟨backend, -, h⟩ := Except.bind_eq_ok_iff.mp h
            cases backend with
            | none =>
                cases h
                cases hroute
            | some backend =>
                obtain ⟨hosts, -, h⟩ := Except.bind_eq_ok_iff.mp h
                obtain rfl := Except.ok.inj h
                obtain ⟨host, hhost, rfl⟩ := List.mem_map.mp hroute
                exact lastWins_map_const.mpr ⟨hhost, rfl⟩
      · obtain ⟨live, -, h⟩ := Except.bind_eq_ok_iff.mp h
        obtain ⟨byHost, -, h⟩ := Except.bind_eq_ok_iff.mp h
        obtain rfl := Except.ok.inj h
        rw [Dict.lastWins_entries]
        exact Dict.mem_entries_iff.mp hroute
    · cases h
      cases hroute

/-- The routes of the profiles are stripped already. -/
theorem namedRoutes_muxRoutes {routes : List (String × String)} {keys : List ConfigProfile}
    (h : muxRoutes settings glob configData keys = .ok routes) : namedRoutes routes = routes := by
  induction keys generalizing routes with
  | nil =>
      cases h
      rfl
  | cons key keys ih =>
      obtain ⟨first, hfirst, h⟩ := Except.bind_eq_ok_iff.mp h
      obtain ⟨rest, hrest, h⟩ := Except.bind_eq_ok_iff.mp h
      obtain rfl := Except.ok.inj h
      have hself : namedRoutes first = first := by
        have hmap : first.map (fun r => (PyStr.strip r.1, PyStr.strip r.2)) = first := by
          rw [List.map_congr_left fun r hr => ?_, List.map_id]
          have hstrip := (claims_of_mem hfirst hr).strip
          rw [hstrip.1.1, hstrip.2.1]
          rfl
        rw [namedRoutes, hmap, List.filter_eq_self]
        intro route hroute
        have hstrip := (claims_of_mem hfirst hroute).strip
        simp [hstrip.1.2, hstrip.2.2]
      rw [namedRoutes, List.map_append, List.filter_append]
      exact congrArg₂ (· ++ ·) hself (ih hrest)

/-- The panel's names are stripped already. -/
theorem panelNames_panelSniHosts :
    panelNames (panelSniHosts settings) = panelSniHosts settings := by
  have hfold (candidates acc : List String) (hacc : ∀ x ∈ acc, PyStr.strip x = x ∧ x ≠ "") :
      ∀ x ∈ candidates.foldl (fun hosts candidate =>
          let value := PyStr.strip candidate
          if value ≠ "" && !hosts.contains value then hosts ++ [value] else hosts) acc,
        PyStr.strip x = x ∧ x ≠ "" := by
    induction candidates generalizing acc with
    | nil => exact hacc
    | cons candidate candidates ih =>
        refine ih _ fun x hx => ?_
        simp only at hx
        split at hx
        · next hnew =>
          obtain hx | hx := List.mem_append.mp hx
          · exact hacc x hx
          · obtain rfl := List.mem_singleton.mp hx
            have hne := (Bool.and_eq_true_iff.mp hnew).1
            exact ⟨PyStr.strip_strip candidate, by simpa using hne⟩
        · exact hacc x hx
  have hpanel : ∀ x ∈ panelSniHosts settings, PyStr.strip x = x ∧ x ≠ "" :=
    hfold _ [] (by simp)
  have hmap : (panelSniHosts settings).map PyStr.strip = panelSniHosts settings := by
    rw [List.map_congr_left fun x hx => (hpanel x hx).1, List.map_id']
  rw [panelNames, hmap, List.filter_eq_self]
  exact fun x hx => by simpa using (hpanel x hx).2

/-- A route reaches the file when it is not one of the panel. -/
theorem lastWins_keptRoutes {routes : List (String × String)}
    (h : muxRoutes settings glob configData muxProfiles = .ok routes) {name backend : String} :
    lastWins name (keptRoutes (panelSniHosts settings) routes) = some backend ↔
      name ∉ panelSniHosts settings ∧ Routed settings glob configData name backend := by
  rw [keptRoutes_eq, namedRoutes_muxRoutes h, panelNames_panelSniHosts, ← muxRoutes_spec h]
  by_cases hpanel : name ∈ panelSniHosts settings
  · simp only [hpanel, not_true, false_and, iff_false]
    intro hlast
    have hmem := (List.mem_filter.mp (mem_of_lastWins hlast)).2
    simp [hpanel] at hmem
  · have hfilter : ∀ r ∈ routes, (!(panelSniHosts settings).contains r.1) = false →
        (id r).1 ≠ name := by
      rintro r - hr rfl
      refine hpanel ?_
      simpa using hr
    have hlast := lastWins_map_filter hfilter
    rw [List.map_id, List.map_id] at hlast
    rw [hlast]
    simp [hpanel]

theorem exists_mem_keptRoutes {routes : List (String × String)}
    (h : muxRoutes settings glob configData muxProfiles = .ok routes) {name : String} :
    (∃ r ∈ keptRoutes (panelSniHosts settings) routes, r.1 = name) ↔
      name ∉ panelSniHosts settings ∧ ∃ backend, Routed settings glob configData name backend := by
  have hnone : ¬ lastWins name (keptRoutes (panelSniHosts settings) routes) = none ↔
      ¬ ∀ r ∈ keptRoutes (panelSniHosts settings) routes, r.1 ≠ name :=
    not_congr lastWins_eq_none_iff
  rw [← Ne, Option.ne_none_iff_exists'] at hnone
  simp only [lastWins_keptRoutes h, exists_and_left] at hnone
  rw [hnone]
  push Not
  rfl

theorem mem_lines {panelBackend : String} {routes : List (String × String)}
    (h : muxRoutes settings glob configData muxProfiles = .ok routes)
    (hne : panelSniHosts settings ≠ []) {name backend : String} :
    (name, backend) ∈
        (renderShared443StreamConf (panelSniHosts settings) panelBackend routes).lines ↔
      name ∈ panelSniHosts settings ∧ backend = panelBackend ∨
        name ∉ panelSniHosts settings ∧ Routed settings glob configData name backend := by
  have hsome : panelNames (panelSniHosts settings) ≠ [] := by rwa [panelNames_panelSniHosts]
  rw [lines_of_some_name (Or.inl hsome), List.mem_append, panelNames_panelSniHosts, routeLines,
    Dict.mem_entries_iff, Dict.get?_ofPairs, lastWins_keptRoutes h]
  simp [eq_comm]

theorem distinctNames_iff {routes : List (String × String)}
    (h : muxRoutes settings glob configData muxProfiles = .ok routes)
    (hne : panelSniHosts settings ≠ []) :
    DistinctNames (panelSniHosts settings) routes ↔
      ((panelSniHosts settings).map asciiLower).Nodup ∧
      "default" ∉ (panelSniHosts settings).map asciiLower ∧
      (∀ name backend name' backend', Routed settings glob configData name backend →
        Routed settings glob configData name' backend' → name ∉ panelSniHosts settings →
          name' ∉ panelSniHosts settings → asciiLower name = asciiLower name' → name = name') ∧
      ∀ name backend, Routed settings glob configData name backend →
        name ∉ panelSniHosts settings → asciiLower name ≠ "default" ∧
          ∀ sni ∈ panelSniHosts settings, asciiLower sni ≠ asciiLower name := by
  have hmem (r : String × String) (hr : r ∈ keptRoutes (panelSniHosts settings) routes) :=
    (exists_mem_keptRoutes h).mp ⟨r, hr, rfl⟩
  have hkept {name backend : String} (hrouted : Routed settings glob configData name backend)
      (hout : name ∉ panelSniHosts settings) :=
    (exists_mem_keptRoutes h).mpr ⟨hout, backend, hrouted⟩
  constructor
  · intro hd
    have hpanel := hd.panel
    have hdefault := hd.no_default.1
    have hapart := hd.apart
    rw [panelNames_panelSniHosts] at hpanel hdefault hapart
    refine ⟨hpanel, hdefault, ?_, ?_⟩
    · intro name backend name' backend' hname hname' hout hout' heq
      obtain ⟨r, hr, rfl⟩ := hkept hname hout
      obtain ⟨r', hr', rfl⟩ := hkept hname' hout'
      exact hd.spelled r hr r' hr' heq
    · intro name backend hname hout
      obtain ⟨r, hr, rfl⟩ := hkept hname hout
      exact ⟨hd.no_default.2 r hr, fun sni hsni => hapart sni hsni r hr⟩
  · rintro ⟨hpanel, hdefault, hspelled, hapart⟩
    constructor
    · exact Or.inl (by rwa [panelNames_panelSniHosts])
    · rwa [panelNames_panelSniHosts]
    · intro r hr r' hr' heq
      obtain ⟨hout, backend, hname⟩ := hmem r hr
      obtain ⟨hout', backend', hname'⟩ := hmem r' hr'
      exact hspelled _ _ _ _ hname hname' hout hout' heq
    · intro sni hsni r hr
      obtain ⟨hout, backend, hname⟩ := hmem r hr
      rw [panelNames_panelSniHosts] at hsni
      exact (hapart _ _ hname hout).2 sni hsni
    · rw [panelNames_panelSniHosts]
      refine ⟨hdefault, fun r hr => ?_⟩
      obtain ⟨hout, backend, hname⟩ := hmem r hr
      exact (hapart _ _ hname hout).1

theorem intact_iff_cleanClaims {panelBackend : String} {routes : List (String × String)}
    (h : muxRoutes settings glob configData muxProfiles = .ok routes)
    (hne : panelSniHosts settings ≠ []) :
    (renderShared443StreamConf (panelSniHosts settings) panelBackend routes).Intact ↔
      CleanClaims settings glob configData panelBackend := by
  have hdistinct := distinctNames_iff h hne
  have hlines (name backend : String) : (name, backend) ∈
        (renderShared443StreamConf (panelSniHosts settings) panelBackend routes).lines ↔
      name ∈ panelSniHosts settings ∧ backend = panelBackend ∨
        name ∉ panelSniHosts settings ∧ Routed settings glob configData name backend :=
    mem_lines h hne
  have hpanel : IsHostPort panelBackend →
      IsHostPort (renderShared443StreamConf (panelSniHosts settings) panelBackend
        routes).panelBackend := id
  constructor
  · intro hintact
    obtain ⟨hpanelDistinct, hdefault, hspelled, hapart⟩ :=
      hdistinct.mp (accepted_iff.mp hintact.accepted)
    obtain ⟨sni, hsni⟩ := List.exists_mem_of_ne_nil _ hne
    have hnamed (name backend : String) := hintact.named (name, backend)
    refine ⟨?_, fun name hname => ?_, hpanelDistinct, hdefault, ?_, hspelled, hapart⟩
    · exact (hnamed sni panelBackend ((hlines _ _).mpr (Or.inl ⟨hsni, rfl⟩))).2
    · exact (hnamed name panelBackend ((hlines _ _).mpr (Or.inl ⟨hname, rfl⟩))).1
    · exact fun name backend hname hout =>
        hnamed name backend ((hlines _ _).mpr (Or.inr ⟨hout, hname⟩))
  · intro hclean
    refine (intact_iff_named (hpanel hclean.panel_backend)).mpr ⟨fun line hline => ?_, ?_⟩
    · obtain ⟨hsni, hbackend⟩ | ⟨hout, hrouted⟩ := (hlines line.1 line.2).mp hline
      · exact ⟨hclean.panel_named _ hsni, hbackend ▸ hclean.panel_backend⟩
      · exact hclean.named _ _ hrouted hout
    · exact accepted_iff.mpr (hdistinct.mpr ⟨hclean.panel_distinct, hclean.panel_default,
        hclean.distinct, hclean.apart⟩)

end

/-- **The stream file is intact** exactly when what the documents and the
settings claim are host names and addresses, and no two names are one to
nginx. -/
theorem intact_iff (settings : PanelSettings) (glob : Glob) (configData : PyVal)
    (reality : VpnProfileSettings) (path : String) (conf : SharedConf)
    (hreality : settings.profiles .xrayReality = some reality)
    (h : sharedConf settings glob configData = .ok (some (path, conf))) :
    conf.Intact ↔ CleanClaims settings glob configData
      (PyStr.strip (orStr (reality.nginxPanelBackend.getD "") defaultPanelBackend)) := by
  unfold sharedConf at h
  rw [hreality] at h
  simp only at h
  split at h
  · split at h
    · simp at h
    · next hne =>
      obtain ⟨routes, hroutes, h⟩ := Except.bind_eq_ok_iff.mp h
      obtain ⟨-, rfl⟩ := Prod.mk.inj (Option.some.inj (Except.ok.inj h))
      exact intact_iff_cleanClaims hroutes hne
  · simp at h

/-- An installation with the Reality profile behind the mux. -/
def Ctx.mux : Ctx where
  settings := {
    systemd := { perConfig := true }
    publicHost := "panel.example.com"
    profiles := fun
      | .xrayReality => some muxProfile
      | _ => none }
  encryptor := FieldEncryptor.sample
  sha256Hex _ := ""

/-- A Reality document with these server names. -/
def realityConfig (serverNames : List String) : PyVal :=
  .dict [("inbounds", .list [.dict [("tag", .str "vless"), ("port", .int 2083),
    ("streamSettings", .dict [("realitySettings",
      .dict [("serverNames", .list (serverNames.map .str))])])]])]

/-- A document whose server name is a host name. -/
theorem cleanClaims_of_hostname :
    CleanClaims Ctx.mux.settings (fun _ _ => []) (realityConfig ["a.example.com"])
      "127.0.0.1:8443" := by
  have hport (port : String) (hne : port ≠ "") (hdigits : ∀ c ∈ port.toList, c.isDigit = true) :
      IsHostPort ("127.0.0.1" ++ ":" ++ port) :=
    ⟨"127.0.0.1", port, rfl, Or.inl ⟨by decide, List.all_eq_true.mp (by decide)⟩, hne, hdigits⟩
  have hpanel : IsHostPort "127.0.0.1:8443" :=
    hport "8443" (by decide) (List.all_eq_true.mp (by decide))
  have hbackend : IsHostPort "127.0.0.1:2083" :=
    hport "2083" (by decide) (List.all_eq_true.mp (by decide))
  refine (intact_iff Ctx.mux.settings (fun _ _ => []) (realityConfig ["a.example.com"]) muxProfile
    defaultStreamConf ⟨[("panel.example.com", "127.0.0.1:8443"),
      ("a.example.com", "127.0.0.1:2083")], "127.0.0.1:8443"⟩ rfl rfl).mp ?_
  refine (intact_iff_named hpanel).mpr ⟨?_, by decide⟩
  simp only [List.forall_mem_cons, List.not_mem_nil, false_imp_iff, implies_true, and_true]
  exact ⟨⟨⟨⟨by decide, List.all_eq_true.mp (by decide)⟩, by decide⟩, hpanel⟩,
    ⟨⟨by decide, List.all_eq_true.mp (by decide)⟩, by decide⟩, hbackend⟩

/-- The first version of a config, and an edit with a server name that closes
the map. -/
def closingEdit : List Action :=
  [.create 0 0 "c" .xray .xrayReality none none, .advance 0 { publish := .accepted 0 },
    .advance 0 {}, .deliver 0 0] ++ List.replicate 8 (.work 0 (sampleBuild 2083)) ++
    .finish 0 ::
    .edit 1 0 (.configData (.ofVal (realityConfig ["a.example.com 127.0.0.1:1; \x7d #"]))) ::
    List.replicate 8 (.advance 1 {})

/-- The edit is accepted, and the file it writes is not intact. -/
theorem not_intact_of_closingEdit :
    let w := runFrom Ctx.mux Host.blank closingEdit
    (w.db.versions 0 1).map VpnConfigVersionModel.configData =
        some (realityConfig ["a.example.com 127.0.0.1:1; \x7d #"]) ∧
      ∃ conf, w.host.streamConf defaultStreamConf = some conf ∧ ¬ conf.Intact := by
  refine ⟨rfl, ⟨[("panel.example.com", "127.0.0.1:8443"),
    ("a.example.com 127.0.0.1:1; \x7d #", "127.0.0.1:2083")], "127.0.0.1:8443"⟩, rfl, fun h => ?_⟩
  have hname := (h.named ("a.example.com 127.0.0.1:1; \x7d #", "127.0.0.1:2083") (by simp)).1
  have hblank := hname.1.2 ' ' (by decide)
  contradiction

/-! ## a call that fails -/

/-- **A failed sync.**  Where the routes cannot be collected nothing is
changed; where the write fails the file is as before or, if the call had done
its work, the new one; where the reload fails it is the new one. -/
theorem failedSync (settings : PanelSettings) (faults : Faults) (configData : PyVal) (h h' : Host)
    (e : PyErr)
    (hx : (syncRealityShared443 settings faults configData).exec h = (.error e, h')) :
    sharedConf settings h.glob configData = .error e ∧ h' = h ∨
      ∃ path conf, sharedConf settings h.glob configData = .ok (some (path, conf)) ∧
        ((∃ f, faults .writeStream = some f ∧ e = f.err ∧
            h' = if f.applied then h.setStreamConf path conf else h) ∨
          ∃ f, faults .writeStream = none ∧ faults .reloadNginx = some f ∧ e = f.err ∧
            h' = h.setStreamConf path conf) := by
  unfold syncRealityShared443 at hx
  rw [Eff.exec_bind_ok (Eff.exec_read h)] at hx
  cases hconf : sharedConf settings h.glob configData with
  | error e' =>
      rw [hconf, Eff.exec_bind_error (Eff.exec_ofExcept _ h)] at hx
      obtain ⟨he, rfl⟩ := Prod.mk.inj hx
      exact Or.inl ⟨by rw [Except.error.inj he], rfl⟩
  | ok conf =>
      rw [hconf, Eff.ofExcept_ok_bind] at hx
      cases conf with
      | none => cases hx
      | some target =>
          obtain ⟨path, conf⟩ := target
          refine Or.inr ⟨path, conf, rfl, ?_⟩
          simp only at hx
          cases hwrite : faults .writeStream with
          | some f =>
              rw [Eff.exec_bind_error (exec_attempt_of_fault hwrite h)] at hx
              obtain ⟨he, rfl⟩ := Prod.mk.inj hx
              exact Or.inl ⟨f, rfl, (Except.error.inj he).symm, rfl⟩
          | none =>
              rw [Eff.exec_bind_ok (exec_attempt_of_none hwrite h)] at hx
              obtain ⟨f, hreload, rfl, hsame⟩ := exec_attempt_error hx
              refine Or.inr ⟨f, rfl, hreload, rfl, ?_⟩
              simpa using hsame

/-- nginx does not accept the new file. -/
def rejecting : Faults := fun op =>
  if op = .reloadNginx then some { err := ⟨.calledProcessError, "nginx -t"⟩ } else none

/-- The new file stays when nginx rejects it. -/
theorem not_unchanged_of_rejecting :
    ∃ h', (syncRealityShared443 Ctx.mux.settings rejecting (realityConfig ["a.example.com"])).exec
        Host.blank = (.error ⟨.calledProcessError, "nginx -t"⟩, h') ∧
      h'.streamConf defaultStreamConf ≠ Host.blank.streamConf defaultStreamConf := by
  refine ⟨Host.blank.setStreamConf defaultStreamConf ⟨[("panel.example.com", "127.0.0.1:8443"),
    ("a.example.com", "127.0.0.1:2083")], "127.0.0.1:8443"⟩, rfl, ?_⟩
  show some _ ≠ none
  simp

/-- It is the file of the routes. -/
theorem failedSync_of_rejecting :
    ∃ path conf h', sharedConf Ctx.mux.settings Host.blank.glob (realityConfig ["a.example.com"]) =
        .ok (some (path, conf)) ∧
      (syncRealityShared443 Ctx.mux.settings rejecting (realityConfig ["a.example.com"])).exec
        Host.blank = (.error ⟨.calledProcessError, "nginx -t"⟩, h') ∧
      h' = Host.blank.setStreamConf path conf := by
  have hx : (syncRealityShared443 Ctx.mux.settings rejecting
      (realityConfig ["a.example.com"])).exec Host.blank =
        (.error ⟨.calledProcessError, "nginx -t"⟩, Host.blank.setStreamConf defaultStreamConf
          ⟨[("panel.example.com", "127.0.0.1:8443"), ("a.example.com", "127.0.0.1:2083")],
            "127.0.0.1:8443"⟩) := rfl
  obtain ⟨hconf, -⟩ | ⟨path, conf, hconf, ⟨f, hwrite, -⟩ | ⟨f, -, -, -, hhost⟩⟩ :=
    failedSync _ rejecting _ Host.blank _ _ hx
  · cases hconf
  · cases hwrite
  · exact ⟨path, conf, _, hconf, hx, hhost⟩

end VpnPanel
