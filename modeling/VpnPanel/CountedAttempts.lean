import VpnPanel.Login
import VpnPanel.ServableEdits

/-!
# VpnPanel.CountedAttempts

Which attempts at a login or at a share link are counted.

The limiter's upsert stands in the transaction of its request, and the routes
commit on the exits they list: the response and the exceptions they answer.
`attemptsCounted_iff`: an attempt is counted exactly when the commit goes
through and nothing after the upsert raises another exception.
-/

namespace VpnPanel

open Except (Raises)

/-! ## what the upsert's transaction keeps -/

theorem increment_ne (rates : RateTable) (key : RateKey) :
    RateTable.increment rates key ≠ rates := by
  intro h
  have hkey := congrFun h key
  simp [RateTable.increment] at hkey

/-- An increment in a transaction is committed exactly when the commit goes
through and what is raised, if anything, is kept. -/
theorem counted_transaction {σ α : Type} (rates : σ → RateTable) {kept : PyErr → Bool}
    {commit : Option PyErr} {x : Eff σ PyErr α} {s : σ} {key : RateKey}
    (hx : rates (x.exec s).2 = RateTable.increment (rates s) key) :
    rates ((Eff.transaction kept commit x).exec s).2 = RateTable.increment (rates s) key ↔
      commit = none ∧ ∀ e, (x.exec s).1 = .error e → kept e = true := by
  rw [Eff.exec_transaction]
  have hne := (increment_ne (rates s) key).symm
  cases hexec : x.exec s with
  | mk r s' =>
      rw [hexec] at hx
      cases r with
      | ok a => cases commit <;> simp [hx, hne]
      | error e =>
          cases hkept : kept e with
          | true => cases commit <;> simp [hkept, hx, hne]
          | false => cases commit <;> simp [hkept, hne]

theorem checkCount_eq_ok_iff {count limit : Nat} :
    checkCount count limit = .ok () ↔ count ≤ limit := by
  unfold checkCount
  split <;> simp <;> omega

/-! ## what the parts of a request raise -/

section Raised

theorem raises_listIndex (len : Nat) (i : Int) : Raises PyErr.IsBuiltin (listIndex len i) := by
  unfold listIndex
  repeat' split
  all_goals first
    | exact Raises.ok _
    | exact Raises.error (by simp [PyErr.IsBuiltin])

theorem raises_getPart (part : String) (v : PyVal) : Raises PyErr.IsBuiltin (getPart part v) := by
  unfold getPart
  split
  · exact (PyVal.raises_parseInt _).bind fun _ => (raises_listIndex _ _).bind fun _ => Raises.ok _
  · exact PyVal.raises_item _ _

theorem raises_putPart (part : String) (value v : PyVal) :
    Raises PyErr.IsBuiltin (putPart part value v) := by
  unfold putPart
  split
  · exact (PyVal.raises_parseInt _).bind fun _ => (raises_listIndex _ _).bind fun _ => Raises.ok _
  · exact Raises.ok _
  · exact Raises.error (by simp [PyErr.IsBuiltin])

theorem raises_setByPath (path : List String) (value v : PyVal) :
    Raises PyErr.IsBuiltin (setByPath path value v) := by
  induction path generalizing v with
  | nil => exact Raises.ok _
  | cons part parts ih =>
      exact (raises_getPart part v).bind fun _ => (ih _).bind fun _ => raises_putPart _ _ _

theorem raises_replaceAt {f : String → Except PyErr String}
    (hf : ∀ s, Raises PyErr.IsBuiltin (f s)) (path : List String) (data : PyVal) :
    Raises PyErr.IsBuiltin (replaceAt f path data) := by
  unfold replaceAt
  repeat' split
  · exact Raises.ok _
  · exact Raises.ok _
  · exact (hf _).bind fun _ => raises_setByPath _ _ _
  · exact Raises.ok _

theorem raises_decryptConfigDataFields {encryptor : FieldEncryptor}
    (hdecrypt : ∀ s, Raises PyErr.IsBuiltin (encryptor.decrypt s)) (paths : List (List String))
    (data : PyVal) : Raises PyErr.IsBuiltin (decryptConfigDataFields encryptor paths data) := by
  induction paths generalizing data with
  | nil => exact Raises.ok _
  | cons path paths ih => exact (raises_replaceAt hdecrypt path data).bind fun _ => ih _

theorem raises_findTag (tag : String) (items : List PyVal) :
    Raises PyErr.IsBuiltin (findTag tag items) := by
  induction items with
  | nil => exact Raises.error (by simp [PyErr.IsBuiltin])
  | cons inbound rest ih =>
      refine (PyVal.raises_get _ _ _).bind fun t => ?_
      split
      · exact Raises.ok _
      · exact ih

theorem raises_findInbound (config : PyVal) (tag : String) :
    Raises PyErr.IsBuiltin (findInbound config tag) :=
  (PyVal.raises_get _ _ _).bind fun _ => (PyVal.raises_iter _).bind fun _ => raises_findTag _ _

theorem raises_hysteriaPort (configData : PyVal) :
    Raises PyErr.IsBuiltin (hysteriaPort configData) :=
  (PyVal.raises_item _ _).bind fun _ => PyVal.raises_parseInt _

theorem raises_firstClient (inbound : PyVal) : Raises PyErr.IsBuiltin (firstClient inbound) :=
  (PyVal.raises_item _ _).bind fun _ => (PyVal.raises_item _ _).bind fun _ => PyVal.raises_first _

theorem raises_realityShareSni (rnd : Nat) (reality : PyVal) :
    Raises PyErr.IsBuiltin (realityShareSni rnd reality) := by
  refine (PyVal.raises_get _ _ _).bind fun dest => ?_
  simp only
  split
  · exact Raises.ok _
  · exact (PyVal.raises_get _ _ _).bind fun _ => (PyVal.raises_iter _).bind fun _ => Raises.ok _

theorem raises_buildRealityUri (rnd : Nat) (inbound clientId : PyVal) (host : String) (port : Int)
    (publicKey label : String) :
    Raises PyErr.IsBuiltin (buildRealityUri rnd inbound clientId host port publicKey label) := by
  refine (PyVal.raises_item _ _).bind fun stream => (PyVal.raises_item _ _).bind fun reality => ?_
  refine (PyVal.raises_item _ _).bind fun shortIds => (PyVal.raises_first _).bind fun shortId => ?_
  refine (raises_firstClient _).bind fun client => (PyVal.raises_get _ _ _).bind fun flow => ?_
  exact (raises_realityShareSni _ _).bind fun sni => Raises.ok _

theorem raises_buildXhttpUri (inbound clientId : PyVal) (host : String) (port : Int)
    (certFingerprint label : String) (secure : Bool) :
    Raises PyErr.IsBuiltin
      (buildXhttpUri inbound clientId host port certFingerprint label secure) := by
  refine (PyVal.raises_item _ _).bind fun stream => (PyVal.raises_item _ _).bind fun xhttp => ?_
  refine (PyVal.raises_get _ _ _).bind fun tls => (PyVal.raises_get _ _ _).bind fun xhost => ?_
  refine (PyVal.raises_get _ _ _).bind fun path => (PyVal.raises_get _ _ _).bind fun mode => ?_
  exact (PyVal.raises_get _ _ _).bind fun serverName => Raises.ok _

theorem raises_buildGrpcUri (inbound clientId : PyVal) (host : String) (port : Int)
    (certFingerprint label : String) (secure : Bool) :
    Raises PyErr.IsBuiltin
      (buildGrpcUri inbound clientId host port certFingerprint label secure) := by
  refine (PyVal.raises_item _ _).bind fun stream => (PyVal.raises_item _ _).bind fun tls => ?_
  refine (PyVal.raises_item _ _).bind fun grpc => (PyVal.raises_get _ _ _).bind fun name => ?_
  exact (PyVal.raises_get _ _ _).bind fun serviceName => Raises.ok _

theorem raises_obfsParams (configData : PyVal) :
    Raises PyErr.IsBuiltin (obfsParams configData) := by
  refine (PyVal.raises_get _ _ _).bind fun obfs => (PyVal.raises_get _ _ _).bind fun kind => ?_
  split
  · refine (PyVal.raises_get _ _ _).bind fun salamander => ?_
    refine (PyVal.raises_get _ _ _).bind fun password => ?_
    split <;> exact Raises.ok _
  · exact Raises.ok _

theorem raises_buildHysteria2Uri (configData : PyVal) (host certFingerprint label : String)
    (secure : Bool) (publicPort : Option Nat) :
    Raises PyErr.IsBuiltin
      (buildHysteria2Uri configData host certFingerprint label secure publicPort) := by
  unfold buildHysteria2Uri
  simp only
  split
  all_goals
    refine Raises.bind (by first | exact Raises.ok _ | exact raises_hysteriaPort _) fun port => ?_
    refine (PyVal.raises_item _ _).bind fun auth => (PyVal.raises_item _ _).bind fun password => ?_
    refine (PyVal.raises_get _ _ _).bind fun topSni => ?_
    split
    · refine (Raises.ok _).bind fun sni => (raises_obfsParams _).bind fun obfs => ?_
      cases password <;>
        first | exact Raises.ok _ | exact Raises.error (by simp [PyErr.IsBuiltin])
    · refine (PyVal.raises_get _ _ _).bind fun tls => (PyVal.raises_get _ _ _).bind fun tlsSni => ?_
      refine (Raises.ok _).bind fun sni => (raises_obfsParams _).bind fun obfs => ?_
      cases password <;>
        first | exact Raises.ok _ | exact Raises.error (by simp [PyErr.IsBuiltin])

theorem raises_buildShareUris (rnd : Nat) (profile : ConfigProfile) (configData : PyVal)
    (host publicKey certFingerprint tag : String) (secure : Bool) (publicPort : Option Nat) :
    Raises PyErr.IsBuiltin (buildShareUris rnd profile configData host publicKey certFingerprint
      tag secure publicPort) := by
  by_cases hprofile : profile = .hysteria2
  · subst hprofile
    exact (raises_buildHysteria2Uri _ _ _ _ _ _).bind fun uri => Raises.ok _
  · rw [buildShareUris_xray hprofile]
    have hport (inbound : PyVal) : Raises PyErr.IsBuiltin (sharePort publicPort inbound) := by
      unfold sharePort
      split
      · exact Raises.ok _
      · exact (PyVal.raises_item _ _).bind fun p => PyVal.raises_toInt _
    have huri (inbound clientId : PyVal) (port : Int) : Raises PyErr.IsBuiltin
        (buildXrayUri rnd profile inbound clientId host port publicKey certFingerprint secure) := by
      unfold buildXrayUri
      split
      · exact raises_buildRealityUri _ _ _ _ _ _ _
      · exact raises_buildXhttpUri _ _ _ _ _ _ _
      · exact raises_buildGrpcUri _ _ _ _ _ _ _
    refine (raises_findInbound _ _).bind fun inbound => (hport _).bind fun port => ?_
    refine (raises_firstClient _).bind fun client => (PyVal.raises_item _ _).bind fun id => ?_
    exact (huri _ _ _).bind fun uri => Raises.ok _

theorem raises_urisForSnapshot {ctx : Ctx}
    (hdecrypt : ∀ s, Raises PyErr.IsBuiltin (ctx.encryptor.decrypt s)) (rnd : ConfigId → Nat)
    (secure : Bool) (snapshot : ConfigVersionSnapshot) :
    Raises PyErr.IsBuiltin (urisForSnapshot ctx rnd secure snapshot) := by
  have hsettings : Raises PyErr.IsBuiltin (ctx.settings.profileSettings snapshot.profile) := by
    unfold PanelSettings.profileSettings
    split
    · exact Raises.ok _
    · exact Raises.error (by simp [PyErr.IsBuiltin])
  refine (raises_decryptConfigDataFields hdecrypt _ _).bind fun configPlain => ?_
  have huris := hsettings.bind fun ps => raises_buildShareUris (rnd snapshot.configId)
    snapshot.profile configPlain (effectiveShareHost ctx.settings ps snapshot.sharePublicHost)
    snapshot.publicKey snapshot.certFingerprint ps.inboundTag secure ps.sharePublicPort
  exact huris.bind fun uris => Raises.ok _

theorem raises_urisForSnapshots {ctx : Ctx}
    (hdecrypt : ∀ s, Raises PyErr.IsBuiltin (ctx.encryptor.decrypt s)) (rnd : ConfigId → Nat)
    (secure : Bool) (snapshots : List ConfigVersionSnapshot) :
    Raises PyErr.IsBuiltin (urisForSnapshots ctx rnd secure snapshots) := by
  induction snapshots with
  | nil => exact Raises.ok _
  | cons snapshot rest ih =>
      exact (raises_urisForSnapshot hdecrypt rnd secure snapshot).bind fun _ => ih.bind fun _ =>
        Raises.ok _

end Raised

theorem isRefusal_of_builtin {e : PyErr} (h : e.IsBuiltin) : isRefusal e = false := by
  have hlimit : e ≠ rateLimitExceeded := by
    rintro rfl
    exact h _ rfl
  have hnone : e ≠ shareNotFound := by
    rintro rfl
    exact h _ rfl
  simp [isRefusal, hlimit, hnone]

theorem isLoginRefusal_of_builtin {e : PyErr} (h : e.IsBuiltin) : isLoginRefusal e = false := by
  have hlimit : e ≠ rateLimitExceeded := by
    rintro rfl
    exact h _ rfl
  have hcredentials : e ≠ invalidCredentials := by
    rintro rfl
    exact h _ rfl
  simp [isLoginRefusal, hlimit, hcredentials]

/-! ## attempts at a link -/

section Share

variable {ctx : ShareCtx} {env : ResolveEnv} {now : Nat} {rawToken clientIp : String}
  {s : ShareStore}

/-- The increment of the attempt is committed, and no other. -/
def ShareCounted (ctx : ShareCtx) (env : ResolveEnv) (now : Nat) (rawToken clientIp : String)
    (s : ShareStore) : Prop :=
  ((resolveShareRoute ctx env now rawToken clientIp).exec s).2.rates =
    RateTable.increment s.rates (shareRateKey ctx now clientIp)

/-- The document of a snapshot can be decrypted, and its URIs can be built. -/
def SnapshotShareable (ctx : Ctx) (snapshot : ConfigVersionSnapshot) : Prop :=
  ∃ doc, decryptConfigDataFields ctx.encryptor (sensitiveFields snapshot.profile)
      snapshot.configData = .ok doc ∧
    Shareable ctx.settings snapshot.profile doc

/-- The attempt exceeds the limit, has no valid link, or one whose documents
can all be shared. -/
def ShareAnswered (ctx : ShareCtx) (now : Nat) (rawToken clientIp : String) (s : ShareStore) :
    Prop :=
  ctx.shareRule.requests ≤ s.rates (shareRateKey ctx now clientIp) ∨
    ∀ share, validShare ctx.toCtx now s.tokens rawToken = .ok share →
      ∀ snapshots, sharedSnapshots ctx s.db s.order share = .ok snapshots →
        ∀ snapshot ∈ snapshots, SnapshotShareable ctx.toCtx snapshot

/-- The URIs of a link can be built exactly when those of each document can. -/
theorem urisForSnapshots_eq_ok_iff (ctx : Ctx) (rnd : ConfigId → Nat) (secure : Bool)
    (snapshots : List ConfigVersionSnapshot) :
    (∃ uris, urisForSnapshots ctx rnd secure snapshots = .ok uris) ↔
      ∀ snapshot ∈ snapshots, SnapshotShareable ctx snapshot := by
  induction snapshots with
  | nil => simp [urisForSnapshots]
  | cons snapshot rest ih =>
      rw [List.forall_mem_cons, ← ih, SnapshotShareable, ← urisForSnapshot_eq_ok_iff rnd secure]
      constructor
      · rintro ⟨uris, huris⟩
        obtain ⟨own, hown, huris⟩ := Except.bind_eq_ok_iff.mp huris
        obtain ⟨more, hmore, -⟩ := Except.bind_eq_ok_iff.mp huris
        exact ⟨⟨own, hown⟩, more, hmore⟩
      · rintro ⟨⟨own, hown⟩, more, hmore⟩
        exact ⟨own ++ more, by simp [urisForSnapshots, hown, hmore]⟩

/-- What a link's documents raise is no refusal. -/
theorem shareUris_answered_iff
    (hdecrypt : ∀ c, Raises PyErr.IsBuiltin (ctx.encryptor.decrypt c)) (env : ResolveEnv)
    {share : ShareTokenModel} :
    (∀ e, shareUris ctx env.rnd s.db s.order share = .error e → isRefusal e = true) ↔
      ∀ snapshots, sharedSnapshots ctx s.db s.order share = .ok snapshots →
        ∀ snapshot ∈ snapshots, SnapshotShareable ctx.toCtx snapshot := by
  rw [shareUris]
  cases hsnapshots : sharedSnapshots ctx s.db s.order share with
  | error e =>
      rw [error_of_sharedSnapshots hsnapshots]
      simp [isRefusal]
  | ok snapshots =>
      have hiff := urisForSnapshots_eq_ok_iff ctx.toCtx env.rnd share.secure snapshots
      simp only [Except.ok_bind_eq, Except.ok.injEq, forall_eq']
      rw [← hiff]
      constructor
      · intro h
        cases huris : urisForSnapshots ctx.toCtx env.rnd share.secure snapshots with
        | ok uris => exact ⟨uris, rfl⟩
        | error e =>
            have hbuiltin := raises_urisForSnapshots hdecrypt env.rnd share.secure snapshots e huris
            have hrefused := h e huris
            rw [isRefusal_of_builtin hbuiltin] at hrefused
            cases hrefused
      · rintro ⟨uris, huris⟩ e he
        rw [huris] at he
        cases he

theorem rates_resolveShare :
    ((resolveShare ctx env now rawToken clientIp).exec s).2.rates =
      RateTable.increment s.rates (shareRateKey ctx now clientIp) := by
  rw [exec_resolveShare]
  simp only
  repeat' split
  all_goals rfl

/-- Which attempts at a link are counted. -/
theorem shareCounted_iff (hdecrypt : ∀ c, Raises PyErr.IsBuiltin (ctx.encryptor.decrypt c)) :
    ShareCounted ctx env now rawToken clientIp s ↔
      env.committed = none ∧ ShareAnswered ctx now rawToken clientIp s := by
  unfold ShareCounted resolveShareRoute ShareAnswered
  rw [counted_transaction ShareStore.rates rates_resolveShare]
  refine and_congr_right fun _ => ?_
  rw [exec_resolveShare]
  simp only
  cases hcount :
      checkCount (s.rates (shareRateKey ctx now clientIp) + 1) ctx.shareRule.requests with
  | error e =>
      have hlimit : ctx.shareRule.requests ≤ s.rates (shareRateKey ctx now clientIp) := by
        by_contra hlt
        rw [checkCount_eq_ok_iff.mpr (by omega)] at hcount
        cases hcount
      have hrefused := isRefusal_iff.mpr (refused_of_checkCount hcount)
      simp [hlimit, hrefused]
  | ok u =>
      have hlimit : ¬ ctx.shareRule.requests ≤ s.rates (shareRateKey ctx now clientIp) := by
        have hle := checkCount_eq_ok_iff.mp hcount
        omega
      simp only [hlimit, false_or]
      cases hvalid : validShare ctx.toCtx now s.tokens rawToken with
      | error e =>
          have hrefused := isRefusal_iff.mpr (refused_of_validShare hvalid)
          simp [hrefused]
      | ok share =>
          simp only [Except.ok.injEq, forall_eq']
          rw [← shareUris_answered_iff hdecrypt env]
          cases huris : shareUris ctx env.rnd s.db s.order share with
          | error e => simp
          | ok uris => simp

end Share

/-! ## attempts at a login -/

section Login

variable {ctx : LoginCtx} {env : LoginEnv} {now : Nat} {username password clientIp : String}
  {s : LoginStore}

/-- The increment of the attempt is committed, and no other. -/
def LoginCounted (ctx : LoginCtx) (env : LoginEnv) (now : Nat)
    (username password clientIp : String) (s : LoginStore) : Prop :=
  ((loginRoute ctx env now username password clientIp).exec s).2.rates =
    RateTable.increment s.rates (loginRateKey ctx now clientIp)

/-- The attempt exceeds the limit, or the user is looked up and, if there is
one, the password is verified, and a token made for the right one. -/
def LoginAnswered (ctx : LoginCtx) (env : LoginEnv) (now : Nat)
    (username password clientIp : String) (s : LoginStore) : Prop :=
  ctx.loginRule.attempts ≤ s.rates (loginRateKey ctx now clientIp) ∨
    env.selected = none ∧ ∀ user, s.users username = some user →
      ∃ verified, ctx.verifyPassword password user.passwordHash = .ok verified ∧
        (verified = true → ∃ token, ctx.createAccessToken user.id = .ok token)

/-- The tables after the upsert. -/
def LoginStore.counted (s : LoginStore) (key : RateKey) : LoginStore :=
  { s with rates := RateTable.increment s.rates key }

theorem exec_checkLogin (key : RateKey) (limit : Nat) (s : LoginStore) :
    (checkLogin key limit).exec s = (checkCount (s.rates key + 1) limit, s.counted key) := by
  simp [checkLogin, Eff.exec_bind, RateTable.increment, LoginStore.counted]

/-- How the use case ends after the upsert. -/
theorem exec_login :
    (login ctx env now username password clientIp).exec s =
      let key := loginRateKey ctx now clientIp
      match checkCount (s.rates key + 1) ctx.loginRule.attempts with
      | .error e => (.error e, s.counted key)
      | .ok () =>
          match getByUsername env s.users username with
          | .error e => (.error e, s.counted key)
          | .ok found =>
              match authenticate ctx password found with
              | .error e => (.error e, s.counted key)
              | .ok none =>
                  (.error invalidCredentials, (s.counted key).logFailedLogin ctx username clientIp)
              | .ok (some user) => (ctx.createAccessToken user.id, s.counted key) := by
  rw [login, Eff.exec_bind, exec_checkLogin]
  cases hcount :
      checkCount (s.rates (loginRateKey ctx now clientIp) + 1) ctx.loginRule.attempts with
  | error e => simp only [hcount]
  | ok u =>
      simp only [hcount, Eff.exec_bind, Eff.exec_read, Eff.exec_ofExcept]
      have husers : (s.counted (loginRateKey ctx now clientIp)).users = s.users := rfl
      rw [husers]
      cases hfound : getByUsername env s.users username with
      | error e => simp only
      | ok found =>
          simp only
          cases huser : authenticate ctx password found with
          | error e => simp only
          | ok user =>
              cases user with
              | none => simp [Eff.exec_bind]
              | some user => simp

theorem rates_login :
    ((login ctx env now username password clientIp).exec s).2.rates =
      RateTable.increment s.rates (loginRateKey ctx now clientIp) := by
  rw [exec_login]
  simp only
  repeat' split
  all_goals first | rfl | (unfold LoginStore.logFailedLogin; split <;> rfl)

theorem isLoginRefusal_of_checkCount {count limit : Nat} {e : PyErr}
    (h : checkCount count limit = .error e) : isLoginRefusal e = true := by
  unfold checkCount at h
  split at h
  · simp [isLoginRefusal, ← Except.error.inj h]
  · cases h

/-- Which attempts at a login are counted. -/
theorem loginCounted_iff :
    LoginCounted ctx env now username password clientIp s ↔
      env.committed = none ∧ LoginAnswered ctx env now username password clientIp s := by
  unfold LoginCounted loginRoute LoginAnswered
  rw [counted_transaction LoginStore.rates rates_login]
  refine and_congr_right fun _ => ?_
  rw [exec_login]
  simp only
  cases hcount : checkCount (s.rates (loginRateKey ctx now clientIp) + 1)
      ctx.loginRule.attempts with
  | error e =>
      have hlimit : ctx.loginRule.attempts ≤ s.rates (loginRateKey ctx now clientIp) := by
        by_contra hlt
        rw [checkCount_eq_ok_iff.mpr (by omega)] at hcount
        cases hcount
      simp [hlimit, isLoginRefusal_of_checkCount hcount]
  | ok u =>
      have hlimit : ¬ ctx.loginRule.attempts ≤ s.rates (loginRateKey ctx now clientIp) := by
        have hle := checkCount_eq_ok_iff.mp hcount
        omega
      simp only [hlimit, false_or]
      cases hselected : env.selected with
      | some msg =>
          have hbuiltin : PyErr.IsBuiltin ⟨.databaseError, msg⟩ := by simp [PyErr.IsBuiltin]
          simp [getByUsername, hselected, isLoginRefusal_of_builtin hbuiltin]
      | none =>
          simp only [getByUsername, hselected, true_and]
          cases huser : s.users username with
          | none => simp [authenticate, isLoginRefusal]
          | some user =>
              simp only [Option.some.injEq, forall_eq']
              cases hverify : ctx.verifyPassword password user.passwordHash with
              | error e =>
                  have hbuiltin := ctx.verifyPassword_raises _ _ e hverify
                  simp [authenticate, hverify, isLoginRefusal_of_builtin hbuiltin]
              | ok verified =>
                  cases verified with
                  | false => simp [authenticate, hverify, isLoginRefusal]
                  | true =>
                      cases htoken : ctx.createAccessToken user.id with
                      | ok token => simp [authenticate, hverify, htoken]
                      | error e =>
                          have hbuiltin := ctx.createAccessToken_raises _ e htoken
                          simp [authenticate, hverify, htoken, isLoginRefusal_of_builtin hbuiltin]

end Login

/-! ## both endpoints -/

/-- **Which attempts are counted.**  The increment of an attempt is committed
exactly when the commit goes through and what follows the upsert ends in an
exit of the route. -/
theorem attemptsCounted_iff (loginCtx : LoginCtx) (ctx : ShareCtx)
    (hdecrypt : ∀ c, Raises PyErr.IsBuiltin (ctx.encryptor.decrypt c)) :
    (∀ env now username password clientIp s,
      LoginCounted loginCtx env now username password clientIp s ↔
        env.committed = none ∧ LoginAnswered loginCtx env now username password clientIp s) ∧
    ∀ env now rawToken clientIp s,
      ShareCounted ctx env now rawToken clientIp s ↔
        env.committed = none ∧ ShareAnswered ctx now rawToken clientIp s :=
  ⟨fun _ _ _ _ _ _ => loginCounted_iff, fun _ _ _ _ _ => shareCounted_iff hdecrypt⟩

/-- A context to run examples with: passwords are their own hashes, and those
of more than 72 bytes raise. -/
def LoginCtx.sample : LoginCtx where
  loginRule := { maxAttempts := some 5, windowSeconds := 900 }
  logFailedLogin := true
  verifyPassword password passwordHash :=
    if 72 < password.utf8ByteSize then
      .error ⟨.valueError, "password cannot be longer than 72 bytes"⟩
    else .ok (password = passwordHash)
  createAccessToken id := .ok (toString id)
  verifyPassword_raises password passwordHash := by
    split
    · exact Raises.error (by simp [PyErr.IsBuiltin])
    · exact Raises.ok _
  createAccessToken_raises _ := Raises.ok _

/-- A panel with one user. -/
def oneUser : LoginStore where
  users username := if username = "admin" then some ⟨0, "secret"⟩ else none
  audit := []
  rates _ := 0

theorem attemptsCounted_wrongPassword :
    LoginCounted LoginCtx.sample {} 0 "admin" "guess" "192.0.2.1" oneUser := by
  have hdecrypt : ∀ c, Raises PyErr.IsBuiltin (ShareCtx.sample.encryptor.decrypt c) :=
    fun c => Raises.ok _
  refine ((attemptsCounted_iff LoginCtx.sample ShareCtx.sample hdecrypt).1 _ _ _ _ _ _).mpr
    ⟨rfl, Or.inr ⟨rfl, fun user huser => ⟨false, ?_, fun h => by cases h⟩⟩⟩
  obtain rfl : ⟨0, "secret"⟩ = user := Option.some.inj huser
  decide

/-- **Attempts that are not counted**: a valid token whose version was edited,
and a password that `bcrypt` rejects. -/
theorem not_attemptsCounted_of_raising :
    ¬ ShareCounted ShareCtx.sample {}
        (runPanel ShareCtx.sample Host.blank (editedLink renamedInbound)).world.now "token" "ip"
        (runPanel ShareCtx.sample Host.blank (editedLink renamedInbound)).store ∧
      ¬ LoginCounted LoginCtx.sample {} 0 "admin" (String.ofList (List.replicate 73 'a'))
        "192.0.2.1" oneUser := by
  constructor
  · intro h
    have hraised :
        (runPanel ShareCtx.sample Host.blank (editedLink renamedInbound)).resolve ShareCtx.sample {}
        "token" "ip" = .error ⟨.keyError, "'Inbound tag not found: vless'"⟩ := by
      decide +kernel
    rw [Panel.resolve, resolveShareRoute, Eff.exec_transaction_none] at hraised
    have hkept := ((counted_transaction ShareStore.rates rates_resolveShare).mp h).2 _ hraised
    revert hkept
    decide
  · intro h
    obtain ⟨-, hlimit | ⟨-, hverified⟩⟩ := loginCounted_iff.mp h
    · revert hlimit
      decide
    · obtain ⟨verified, hok, -⟩ := hverified ⟨0, "secret"⟩ rfl
      have herror : LoginCtx.sample.verifyPassword (String.ofList (List.replicate 73 'a'))
          "secret" = .error ⟨.valueError, "password cannot be longer than 72 bytes"⟩ := by
        decide
      rw [herror] at hok
      cases hok

end VpnPanel
