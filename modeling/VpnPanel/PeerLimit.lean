import VpnPanel.CountedAttempts
import VpnPanel.Lib.Quota

/-!
# VpnPanel.PeerLimit

What the limiter does to one TCP peer of the deployed nginx.

nginx forwards the peer's own `X-Forwarded-For` lines with its address after
them, and `get_client_ip` takes the first element: the peer chooses the key it
is counted under.  `peerLimited_iff`: whatever else happens, at most `limit`
attempts of a peer pass in a window, exactly when it makes no more of them or
names one first element in all.
-/

namespace VpnPanel

/-- An attempt as the limiter sees it: the peer, its `X-Forwarded-For` lines,
the time in microseconds, and whether its increment is committed. -/
structure Attempt where
  remoteAddr : String
  forwarded : List String
  now : Nat
  counted : Bool
  deriving DecidableEq, Repr

/-- What an endpoint passes to `check_and_increment`. -/
structure Endpoint where
  scope : String
  limit : Nat
  windowSeconds : Nat
  limit_pos : 0 < limit

def Endpoint.login (ctx : LoginCtx) : Endpoint where
  scope := "login"
  limit := ctx.loginRule.attempts
  windowSeconds := ctx.loginRule.windowSeconds
  limit_pos := ctx.loginRule.attempts_pos

def Endpoint.share (ctx : ShareCtx) : Endpoint where
  scope := "share"
  limit := ctx.shareRule.requests
  windowSeconds := ctx.shareRule.windowSeconds
  limit_pos := ctx.shareRule.requests_pos

/-- What `get_client_ip` makes of an attempt through an nginx on `nginxHost`. -/
def Attempt.clientIp (nginxHost : Option String) (a : Attempt) : String :=
  proxiedIp a.forwarded a.remoteAddr nginxHost

/-- The entry an attempt is counted in. -/
def Endpoint.key (e : Endpoint) (nginxHost : Option String) (a : Attempt) : RateKey :=
  rateKey e.scope ("ip:" ++ a.clientIp nginxHost) e.windowSeconds a.now

/-- The limiter of an endpoint. -/
def Endpoint.limiter (e : Endpoint) (nginxHost : Option String) :
    Quota.Limiter RateKey Attempt where
  limit := e.limit
  key := e.key nginxHost
  counted := Attempt.counted

/-- The attempt falls in the window that starts at `w`. -/
def Endpoint.inWindow (e : Endpoint) (w : Nat) (a : Attempt) : Bool :=
  (rateKey e.scope "" e.windowSeconds a.now).windowStart = w

def Attempt.isOf (peer : String) (a : Attempt) : Bool := a.remoteAddr = peer

/-- At most `limit` attempts of the peer pass in any window. -/
def PeerLimited (e : Endpoint) (nginxHost : Option String) (peer : String) (rates : RateTable)
    (traffic : List Attempt) : Prop :=
  ∀ w, (((e.limiter nginxHost).admitted rates traffic).filter fun a =>
    a.isOf peer && e.inWindow w a).length ≤ e.limit

/-- The attempts of a peer in a window. -/
def Endpoint.attempts (e : Endpoint) (peer : String) (w : Nat) (traffic : List Attempt) :
    List Attempt :=
  (traffic.filter (Attempt.isOf peer)).filter (e.inWindow w)

/-- In each window a peer makes no more attempts than the limit, or all under
one address, and the first of them are counted. -/
def OneAddress (e : Endpoint) (nginxHost : Option String) (peer : String)
    (traffic : List Attempt) : Prop :=
  ∀ w, (e.attempts peer w traffic).length ≤ e.limit ∨
    (∃ ip, ∀ a ∈ e.attempts peer w traffic, a.clientIp nginxHost = ip) ∧
      ∀ a ∈ (e.attempts peer w traffic).take e.limit, a.counted = true

/-! ## the routes are hits -/

/-- What a transaction with an upsert leaves of the entries. -/
theorem rates_transaction {σ α : Type} (rates : σ → RateTable) {kept : PyErr → Bool}
    {commit : Option PyErr} {x : Eff σ PyErr α} {s : σ} {key : RateKey}
    (hx : rates (x.exec s).2 = RateTable.increment (rates s) key) :
    rates ((Eff.transaction kept commit x).exec s).2 = RateTable.increment (rates s) key ∨
      rates ((Eff.transaction kept commit x).exec s).2 = rates s := by
  rw [Eff.exec_transaction]
  cases hexec : x.exec s with
  | mk r s' =>
      rw [hexec] at hx
      cases r with
      | ok a => cases commit <;> simp [hx]
      | error e => cases commit <;> cases hkept : kept e <;> simp [hkept, hx]

theorem step_limiter (e : Endpoint) (nginxHost : Option String) (rates : RateTable) (a : Attempt) :
    (e.limiter nginxHost).step rates a =
      if a.counted then RateTable.increment rates (e.key nginxHost a) else rates := by
  unfold Quota.Limiter.step
  cases hcounted : a.counted with
  | false => simp [Endpoint.limiter, hcounted]
  | true =>
      simp only [Endpoint.limiter, hcounted, if_true]
      funext key
      by_cases hkey : key = e.key nginxHost a <;> simp [RateTable.increment, hkey]

/-- A login is a hit at its limiter, counted or not, and passes it when the hit
is admitted. -/
theorem loginRoute_isHit (ctx : LoginCtx) (env : LoginEnv) (username password : String)
    (nginxHost : Option String) (a : Attempt) (s : LoginStore)
    (hcounted : a.counted = true ↔
      LoginCounted ctx env a.now username password (a.clientIp nginxHost) s) :
    ((loginRoute ctx env a.now username password (a.clientIp nginxHost)).exec s).2.rates =
      ((Endpoint.login ctx).limiter nginxHost).step s.rates a ∧
    (checkCount (s.rates (loginRateKey ctx a.now (a.clientIp nginxHost)) + 1)
      ctx.loginRule.attempts = .ok () ↔
        s.rates ((Endpoint.login ctx).key nginxHost a) < (Endpoint.login ctx).limit) := by
  rw [checkCount_eq_ok_iff, step_limiter]
  refine ⟨?_, Iff.rfl⟩
  by_cases hc : LoginCounted ctx env a.now username password (a.clientIp nginxHost) s
  · rw [hcounted.mpr hc]
    exact hc
  · have hfalse : a.counted = false := by simpa [hc] using hcounted
    rw [hfalse]
    exact (rates_transaction LoginStore.rates rates_login).resolve_left hc

/-- So is an attempt at a link. -/
theorem resolveShareRoute_isHit (ctx : ShareCtx) (env : ResolveEnv) (rawToken : String)
    (nginxHost : Option String) (a : Attempt) (s : ShareStore)
    (hcounted : a.counted = true ↔
      ShareCounted ctx env a.now rawToken (a.clientIp nginxHost) s) :
    ((resolveShareRoute ctx env a.now rawToken (a.clientIp nginxHost)).exec s).2.rates =
      ((Endpoint.share ctx).limiter nginxHost).step s.rates a ∧
    (checkCount (s.rates (shareRateKey ctx a.now (a.clientIp nginxHost)) + 1)
      ctx.shareRule.requests = .ok () ↔
        s.rates ((Endpoint.share ctx).key nginxHost a) < (Endpoint.share ctx).limit) := by
  rw [checkCount_eq_ok_iff, step_limiter]
  refine ⟨?_, Iff.rfl⟩
  by_cases hc : ShareCounted ctx env a.now rawToken (a.clientIp nginxHost) s
  · rw [hcounted.mpr hc]
    exact hc
  · have hfalse : a.counted = false := by simpa [hc] using hcounted
    rw [hfalse]
    exact (rates_transaction ShareStore.rates rates_resolveShare).resolve_left hc

/-! ## the peer's choice -/

section

variable {e : Endpoint} {nginxHost : Option String} {peer : String} {as : List Attempt}

theorem windowStart_key (nginxHost : Option String) (a : Attempt) (w : Nat) :
    e.inWindow w a = decide ((e.key nginxHost a).windowStart = w) := rfl

/-- Attempts in one window with one key come under one address. -/
theorem clientIp_of_key {a b : Attempt} (h : e.key nginxHost a = e.key nginxHost b) :
    a.clientIp nginxHost = b.clientIp nginxHost := by
  have hkey := congrArg RateKey.key h
  simp only [Endpoint.key, rateKey] at hkey
  exact (String.append_right_inj _).mp ((String.append_right_inj _).mp hkey)

theorem key_of_clientIp {a b : Attempt} {w : Nat} (ha : e.inWindow w a = true)
    (hb : e.inWindow w b = true) (h : a.clientIp nginxHost = b.clientIp nginxHost) :
    e.key nginxHost a = e.key nginxHost b := by
  rw [windowStart_key nginxHost, decide_eq_true_eq] at ha hb
  have hkey : (e.key nginxHost a).key = (e.key nginxHost b).key := by
    simp [Endpoint.key, rateKey, h]
  cases hka : e.key nginxHost a with
  | mk ka wa =>
      cases hkb : e.key nginxHost b with
      | mk kb wb =>
          rw [hka, hkb] at hkey
          rw [hka] at ha
          rw [hkb] at hb
          simp only at hkey ha hb
          rw [hkey, ha, hb]

/-- A peer under one address is limited, whatever the other attempts are. -/
theorem peerLimited_of_oneAddress (h : OneAddress e nginxHost peer as) {traffic : List Attempt}
    (htraffic : traffic.filter (Attempt.isOf peer) = as.filter (Attempt.isOf peer))
    (rates : RateTable) : PeerLimited e nginxHost peer rates traffic := by
  intro w
  have hfilter : traffic.filter (fun a => a.isOf peer && e.inWindow w a) =
      e.attempts peer w as := by
    rw [Endpoint.attempts, ← htraffic, List.filter_filter]
    exact congrArg (List.filter · traffic) (funext fun a => Bool.and_comm _ _)
  obtain hfew | ⟨⟨ip, hip⟩, hcounted⟩ := h w
  · have hsub := ((e.limiter nginxHost).admitted_sublist rates traffic).filter fun a =>
      a.isOf peer && e.inWindow w a
    rw [hfilter] at hsub
    exact Nat.le_trans hsub.length_le hfew
  · cases hattempts : e.attempts peer w as with
    | nil =>
        have hsub := ((e.limiter nginxHost).admitted_sublist rates traffic).filter fun a =>
          a.isOf peer && e.inWindow w a
        rw [hfilter, hattempts] at hsub
        simp [List.sublist_nil.mp hsub]
    | cons first rest =>
        have hmem : first ∈ e.attempts peer w as := by simp [hattempts]
        have hfirst : e.inWindow w first = true := (List.mem_filter.mp hmem).2
        refine Quota.Limiter.length_admitted_le (k := e.key nginxHost first) _ ?_ ?_
          (Nat.le_add_left _ _)
        · intro a hin ha
          have hattempt : a ∈ e.attempts peer w as := by
            rw [← hfilter]
            exact List.mem_filter.mpr ⟨hin, ha⟩
          have hw : e.inWindow w a = true := (List.mem_filter.mp hattempt).2
          exact key_of_clientIp hw hfirst ((hip a hattempt).trans (hip first hmem).symm)
        · rw [hfilter]
          exact hcounted

/-- Alone, and before any count, a peer is limited only so. -/
theorem oneAddress_of_peerLimited
    (h : PeerLimited e nginxHost peer (fun _ => 0) (as.filter (Attempt.isOf peer))) :
    OneAddress e nginxHost peer as := by
  intro w
  by_cases hfew : (e.attempts peer w as).length ≤ e.limit
  · exact Or.inl hfew
  · right
    have hpass := h w
    have hwindow : (((e.limiter nginxHost).admitted (fun _ => 0)
        (as.filter (Attempt.isOf peer))).filter fun a => a.isOf peer && e.inWindow w a) =
        (e.limiter nginxHost).admitted (fun _ => 0) (e.attempts peer w as) := by
      rw [Endpoint.attempts]
      have hfilter := (e.limiter nginxHost).admitted_filter (fun _ => 0)
        (as.filter (Attempt.isOf peer)) fun key => decide (key.windowStart = w)
      refine Eq.trans (List.filter_congr fun a ha => ?_) hfilter
      have hmem := ((e.limiter nginxHost).admitted_sublist _ _).subset ha
      rw [(List.mem_filter.mp hmem).2, Bool.true_and]
      rfl
    rw [hwindow] at hpass
    obtain ⟨⟨k, hk⟩, hcounted⟩ := Quota.Limiter.oneKey_of_length_admitted_le e.limit_pos
      (fun _ => rfl) (Nat.lt_of_not_le hfew) hpass
    refine ⟨?_, hcounted⟩
    obtain ⟨first, hfirst⟩ : ∃ first, first ∈ e.attempts peer w as :=
      List.exists_mem_of_length_pos (by omega)
    exact ⟨first.clientIp nginxHost, fun a ha =>
      clientIp_of_key ((hk a ha).trans (hk first hfirst).symm)⟩

end

/-- **The limit for a peer.**  Whatever other attempts there are and whatever
has been counted, at most `limit` attempts of a peer pass in any window,
exactly when in each it makes no more or comes under one address. -/
theorem peerLimited_iff (e : Endpoint) (nginxHost : Option String) (peer : String)
    (as : List Attempt) :
    (∀ rates traffic, traffic.filter (Attempt.isOf peer) = as.filter (Attempt.isOf peer) →
      PeerLimited e nginxHost peer rates traffic) ↔ OneAddress e nginxHost peer as := by
  constructor
  · intro h
    exact oneAddress_of_peerLimited (h _ _ (by rw [List.filter_filter]; simp))
  · intro h rates traffic htraffic
    exact peerLimited_of_oneAddress h htraffic rates

/-- Attempts of one peer under as many addresses. -/
def spoofed (n : Nat) : List Attempt :=
  (List.range n).map fun i => ⟨"203.0.113.5", ["10.0.0." ++ toString i], 0, true⟩

/-- **A peer that is not limited**: six logins in one window pass where five
are the limit. -/
theorem not_peerLimited_of_spoofed :
    ¬ PeerLimited (Endpoint.login LoginCtx.sample) (some "127.0.0.1") "203.0.113.5" (fun _ => 0)
      (spoofed 6) := by
  intro h
  have hpass := h 0
  revert hpass
  decide

end VpnPanel
