import VpnPanel.BuiltDocuments
import VpnPanel.FailedTask

/-!
# VpnPanel.PortUniqueness

The port of a build: the document listens on the one that was picked.
-/

namespace VpnPanel

/-! ## the port of a build -/

/-- The transport of a profile: UDP or TCP. -/
def ConfigProfile.udp : ConfigProfile → Bool
  | hysteria2 => true
  | _ => false

/-- The ports a build does not want. -/
def blockedPorts (settings : PanelSettings) (req : BuildRequest) : ConfigProfile → List Int
  | .hysteria2 => (settings.serverPort : Int) :: req.excludePorts
  | _ => req.excludePorts

/-- The port a build takes without a check. -/
def preferredPort (ps : VpnProfileSettings) (req : BuildRequest) : ConfigProfile → Option Int
  | .hysteria2 => hysteriaPreferred ps req
  | _ => req.preferredPort

section Built

variable {crypto : Crypto} {settings : PanelSettings} {env : BuildEnv} {ps : VpnProfileSettings}
  {req : BuildRequest} {profile : ConfigProfile}

theorem setListen_port {inbound inbound' : PyVal} {port : Nat} {listenAddress : Option String}
    (h : setListen inbound port listenAddress = .ok inbound') :
    inbound'.item "port" = .ok (.int port) := by
  obtain ⟨inbound₁, hset, h⟩ := Except.bind_eq_ok_iff.mp h
  have hport := PyVal.item_self_of_setItem hset
  split at h
  · rw [(PyVal.sameAt_of_setItem h (by decide)).item, hport]
  · rwa [← Except.ok.inj h]

/-- The port of an xray document is that of its tagged inbound. -/
theorem listeningPort_of_changed {template config inbound inbound' : PyVal}
    {before after : List PyVal} {port : Nat} (hprofile : profile ≠ .hysteria2)
    (hchanged : InboundChanged ps.inboundTag template config inbound inbound' before after)
    (htag : inbound.SameAt inbound' "tag") (hport : inbound'.item "port" = .ok (.int port)) :
    listeningPort profile config ps = .ok (port : Int) := by
  have hfind : findInbound config ps.inboundTag = .ok inbound' :=
    findInbound_eq_ok_iff.mpr ⟨_, before, after, hchanged.inbounds', hchanged.split' htag⟩
  cases profile with
  | hysteria2 => exact absurd rfl hprofile
  | _ => simp [listeningPort, hfind, hport, PyVal.toInt]

theorem port_of_buildXrayReality {template : PyVal} {result : BuildResult}
    (h : buildXrayReality crypto env ps req template = .ok result) :
    ∃ port, pickPort env.available env.portDraw ps.portCandidates req.excludePorts false
        req.preferredPort = .ok port ∧
      listeningPort .xrayReality result.configData ps = .ok (port : Int) := by
  obtain ⟨port, hpick, h⟩ := Except.bind_eq_ok_iff.mp h
  simp only at h
  obtain ⟨⟨config, u⟩, hmodify, h⟩ := Except.bind_eq_ok_iff.mp h
  obtain ⟨inbound, inbound', before, after, hf, hchanged⟩ := modifyInbound_spec hmodify
  obtain ⟨inbound₁, hlisten, hf⟩ := Except.bind_eq_ok_iff.mp hf
  obtain ⟨inbound₂, hstream, hf⟩ := Except.bind_eq_ok_iff.mp hf
  obtain ⟨inbound₃, hclient, hf⟩ := Except.bind_eq_ok_iff.mp hf
  obtain rfl : inbound₃ = inbound' := by simpa using hf
  obtain ⟨-, -, -, -, -, hstreamSame⟩ := PyVal.modifyItem_spec hstream
  have hkept (k : String) (hs : "streamSettings" ≠ k) (hc : "settings" ≠ k) :
      inbound₁.SameAt inbound₃ k := (hstreamSame k hs).trans (setClientId_sameAt hclient hc)
  rw [← Except.ok.inj h]
  refine ⟨port, hpick, listeningPort_of_changed (by simp) hchanged ?_ ?_⟩
  · exact (setListen_sameAt hlisten (by decide) (by decide)).trans
      (hkept "tag" (by decide) (by decide))
  · rw [(hkept "port" (by decide) (by decide)).item, setListen_port hlisten]

theorem port_of_buildXrayGrpc {template : PyVal} {result : BuildResult}
    (h : buildXrayGrpc crypto settings env ps req template = .ok result) :
    ∃ port, pickPort env.available env.portDraw ps.portCandidates req.excludePorts false
        req.preferredPort = .ok port ∧
      listeningPort .xrayGrpc result.configData ps = .ok (port : Int) := by
  obtain ⟨port, hpick, h⟩ := Except.bind_eq_ok_iff.mp h
  simp only at h
  obtain ⟨⟨config, tls⟩, hmodify, h⟩ := Except.bind_eq_ok_iff.mp h
  obtain ⟨inbound, inbound', before, after, hf, hchanged⟩ := modifyInbound_spec hmodify
  obtain ⟨inbound₁, hlisten, hf⟩ := Except.bind_eq_ok_iff.mp hf
  obtain ⟨inbound₂, hclient, hf⟩ := Except.bind_eq_ok_iff.mp hf
  obtain ⟨stream, -, hf⟩ := Except.bind_eq_ok_iff.mp hf
  obtain ⟨tlsSettings, -, hf⟩ := Except.bind_eq_ok_iff.mp hf
  obtain ⟨tlsSettings₁, -, hf⟩ := Except.bind_eq_ok_iff.mp hf
  obtain ⟨tlsSettings₂, -, hf⟩ := Except.bind_eq_ok_iff.mp hf
  obtain ⟨⟨tlsSettings₃, tlsName⟩, -, hf⟩ := Except.bind_eq_ok_iff.mp hf
  obtain ⟨stream₁, -, hf⟩ := Except.bind_eq_ok_iff.mp hf
  obtain ⟨stream₂, -, hf⟩ := Except.bind_eq_ok_iff.mp hf
  obtain ⟨resolved, -, hf⟩ := Except.bind_eq_ok_iff.mp hf
  obtain ⟨tlsSettings₄, -, hf⟩ := Except.bind_eq_ok_iff.mp hf
  obtain ⟨stream₃, -, hf⟩ := Except.bind_eq_ok_iff.mp hf
  obtain ⟨inbound₃, hinbound, hf⟩ := Except.bind_eq_ok_iff.mp hf
  obtain ⟨rfl, rfl⟩ : inbound₃ = inbound' ∧ resolved = tls := by simpa using hf
  have hkept (k : String) (hs : "streamSettings" ≠ k) (hc : "settings" ≠ k) :
      inbound₁.SameAt inbound₃ k :=
    (setClientId_sameAt hclient hc).trans (PyVal.sameAt_of_setItem hinbound hs)
  rw [← Except.ok.inj h]
  refine ⟨port, hpick, listeningPort_of_changed (by simp) hchanged ?_ ?_⟩
  · exact (setListen_sameAt hlisten (by decide) (by decide)).trans
      (hkept "tag" (by decide) (by decide))
  · rw [(hkept "port" (by decide) (by decide)).item, setListen_port hlisten]

theorem port_of_buildXrayXhttp {template : PyVal} {result : BuildResult}
    (h : buildXrayXhttp crypto settings env ps req template = .ok result) :
    ∃ port, pickPort env.available env.portDraw ps.portCandidates req.excludePorts false
        req.preferredPort = .ok port ∧
      listeningPort .xrayXhttp result.configData ps = .ok (port : Int) := by
  obtain ⟨port, hpick, h⟩ := Except.bind_eq_ok_iff.mp h
  simp only at h
  obtain ⟨⟨config, tls⟩, hmodify, h⟩ := Except.bind_eq_ok_iff.mp h
  obtain ⟨inbound, inbound', before, after, hf, hchanged⟩ := modifyInbound_spec hmodify
  obtain ⟨inbound₁, hlisten, hf⟩ := Except.bind_eq_ok_iff.mp hf
  obtain ⟨inbound₂, hclient, hf⟩ := Except.bind_eq_ok_iff.mp hf
  obtain ⟨stream, -, hf⟩ := Except.bind_eq_ok_iff.mp hf
  obtain ⟨stream₁, -, hf⟩ := Except.bind_eq_ok_iff.mp hf
  obtain ⟨stream₂, -, hf⟩ := Except.bind_eq_ok_iff.mp hf
  obtain ⟨resolved, -, hf⟩ := Except.bind_eq_ok_iff.mp hf
  obtain ⟨stream₃, -, hf⟩ := Except.bind_eq_ok_iff.mp hf
  obtain ⟨inbound₃, hinbound, hf⟩ := Except.bind_eq_ok_iff.mp hf
  obtain ⟨rfl, rfl⟩ : inbound₃ = inbound' ∧ resolved = tls := by simpa using hf
  have hkept (k : String) (hs : "streamSettings" ≠ k) (hc : "settings" ≠ k) :
      inbound₁.SameAt inbound₃ k :=
    (setClientId_sameAt hclient hc).trans (PyVal.sameAt_of_setItem hinbound hs)
  rw [← Except.ok.inj h]
  refine ⟨port, hpick, listeningPort_of_changed (by simp) hchanged ?_ ?_⟩
  · exact (setListen_sameAt hlisten (by decide) (by decide)).trans
      (hkept "tag" (by decide) (by decide))
  · rw [(hkept "port" (by decide) (by decide)).item, setListen_port hlisten]

/-- The colon of a `listen` value is stripped again. -/
theorem lstripChar_listen (port : Nat) :
    PyStr.lstripChar ':' (":" ++ toString port) = toString port := by
  have hchars : (toString port).toList = Nat.toDigits 10 port := by
    rw [Nat.toString_eq_repr, Nat.toList_repr]
  have hhead : ∀ c, (toString port).toList.head? = some c → decide (c = ':') = false := by
    intro c hc
    rw [hchars] at hc
    have hdigit : c.isDigit = true :=
      Nat.isDigit_of_mem_toDigits (by decide) (by decide) (List.mem_of_head? hc)
    rw [decide_eq_false_iff_not]
    rintro rfl
    contradiction
  have hcolon : (":" ++ toString port).toList = ':' :: (toString port).toList := by
    rw [String.toList_append]
    rfl
  rw [PyStr.lstripChar, hcolon, List.dropWhile_cons_of_pos (by decide),
    PyStr.dropWhile_eq_self_of_head hhead, String.ofList_toList]

theorem port_of_buildHysteria2 {template : PyVal} {result : BuildResult}
    (h : buildHysteria2 crypto settings env ps req template = .ok result) :
    ∃ port, pickPort env.available env.portDraw ps.portCandidates
        ((settings.serverPort : Int) :: req.excludePorts) true (hysteriaPreferred ps req) =
          .ok port ∧
      listeningPort .hysteria2 result.configData ps = .ok (port : Int) := by
  obtain ⟨port, hpick, h⟩ := Except.bind_eq_ok_iff.mp h
  obtain ⟨tls, -, h⟩ := Except.bind_eq_ok_iff.mp h
  obtain ⟨config₁, hlisten, h⟩ := Except.bind_eq_ok_iff.mp h
  obtain ⟨config₂, hauth, h⟩ := Except.bind_eq_ok_iff.mp h
  obtain ⟨config₃, htls, h⟩ := Except.bind_eq_ok_iff.mp h
  obtain ⟨config₄, hobfs, h⟩ := Except.bind_eq_ok_iff.mp h
  obtain ⟨-, -, -, -, -, hauthSame⟩ := PyVal.modifyItem_spec hauth
  obtain ⟨-, -, -, -, -, htlsSame⟩ := PyVal.modifyItem_spec htls
  have hsame : config₁.SameAt config₄ "listen" :=
    ((hauthSame _ (by decide)).trans (htlsSame _ (by decide))).trans
      (PyVal.sameAt_of_setItem hobfs (by decide))
  have hport : config₄.item "listen" = .ok (.str (":" ++ toString port)) := by
    rw [hsame.item, PyVal.item_self_of_setItem hlisten]
  rw [← Except.ok.inj h]
  refine ⟨port, hpick, ?_⟩
  simp only [listeningPort, hysteriaPort, TlsMaterial.result, hport, Except.ok_bind_eq,
    PyVal.toStr, lstripChar_listen, PyVal.parseInt_toString]

/-- The document of a build listens on the port that was picked. -/
theorem port_of_build {result : BuildResult} (hps : settings.profileSettings profile = .ok ps)
    (h : build crypto settings env req profile = .ok result) :
    ∃ port, pickPort env.available env.portDraw ps.portCandidates
        (blockedPorts settings req profile) profile.udp (preferredPort ps req profile) = .ok port ∧
      listeningPort profile result.configData ps = .ok (port : Int) := by
  rw [build, hps, Except.ok_bind_eq] at h
  obtain ⟨template, -, h⟩ := Except.bind_eq_ok_iff.mp h
  cases profile with
  | xrayReality =>
      have hport := port_of_buildXrayReality h
      rwa [req.stripHost_excludePorts, req.stripHost_preferredPort] at hport
  | xrayGrpc =>
      have hport := port_of_buildXrayGrpc h
      rwa [req.stripHost_excludePorts, req.stripHost_preferredPort] at hport
  | xrayXhttp =>
      have hport := port_of_buildXrayXhttp h
      rwa [req.stripHost_excludePorts, req.stripHost_preferredPort] at hport
  | hysteria2 =>
      have hport := port_of_buildHysteria2 h
      have hshare : hysteriaPreferred ps req.stripHost = hysteriaPreferred ps req := by
        rw [hysteriaPreferred, hysteriaPreferred, req.stripHost_preferredPort]
      rwa [req.stripHost_excludePorts, hshare] at hport

end Built

end VpnPanel
