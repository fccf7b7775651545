import VpnPanel.ShareLinks
import VpnPanel.RateLimit
import VpnPanel.ClientUri

/-!
# VpnPanel.ResolveShare

The public link: `ResolveShareUseCase.execute` of `resolve_share.py` and the
transaction its route (`routers/share.py`) puts around it.

* `sharedUris` — what a token resolves to, as a function of the tables;
* `resolveShare` — the use case, and `resolveShareRoute` with its commit;
* `resolveStep` — the same, one statement or commit at a time;
* `runToEnd_resolveStep` — without interference the steps compute the route.
-/

namespace VpnPanel

open Process (Result)

/-- What the share routes know besides `Ctx`: `str.lower`, and
`settings.rate_limit.share`. -/
structure ShareCtx extends Ctx where
  lower : String → String
  shareRule : RateLimitRule

/-- The tables a share request reads and writes; `order` are the ids of
`vpn_configs` by `created_at`. -/
structure ShareStore where
  db : Db
  order : List ConfigId
  tokens : ShareTable
  rates : RateTable

/-- What the surroundings of a resolution decide. -/
structure ResolveEnv where
  /-- The position `random.choice` draws for a config. -/
  rnd : ConfigId → Nat := fun _ => 0
  /-- An error of the commit. -/
  committed : Option PyErr := none

def shareNotFound : PyErr := ⟨.other "ShareNotFound", ""⟩

/-! ## what a token resolves to -/

/-- The checks of `execute` on a row. -/
def ShareTokenModel.valid (now : Nat) (share : ShareTokenModel) : Bool :=
  share.revokedAt.isNone &&
    !(!share.isPermanent && share.expiresAt.any fun e => e ≤ (now : Int))

/-- The row of a raw token, if it passes the checks. -/
def validShare (ctx : Ctx) (now : Nat) (tokens : ShareTable) (rawToken : String) :
    Except PyErr ShareTokenModel :=
  match tokens.byHash (hashShareToken ctx rawToken) with
  | none => .error shareNotFound
  | some share => if share.valid now then .ok share else .error shareNotFound

theorem validShare_eq_ok_iff {ctx : Ctx} {now : Nat} {tokens : ShareTable} {rawToken : String}
    {share : ShareTokenModel} : validShare ctx now tokens rawToken = .ok share ↔
      tokens.byHash (hashShareToken ctx rawToken) = some share ∧ share.valid now = true := by
  unfold validShare
  cases tokens.byHash (hashShareToken ctx rawToken) with
  | none => simp
  | some found =>
      by_cases hvalid : found.valid now = true
      · simp only [hvalid, if_true, Except.ok.injEq, Option.some.injEq]
        constructor
        · rintro rfl
          exact ⟨rfl, hvalid⟩
        · exact fun h => h.1
      · simp only [hvalid]
        constructor
        · intro h
          cases h
        · rintro ⟨h, hshare⟩
          exact absurd (Option.some.inj h ▸ hshare) hvalid

/-- `_PROFILE_ORDER`. -/
def profileOrder : ConfigProfile → Nat
  | .xrayReality => 0
  | .xrayXhttp => 1
  | .xrayGrpc => 2
  | .hysteria2 => 3

/-- `_sort_snapshots`. -/
def sortSnapshots (lower : String → String) (snapshots : List ConfigVersionSnapshot) :
    List ConfigVersionSnapshot :=
  snapshots.mergeSort fun a b =>
    decide (profileOrder a.profile < profileOrder b.profile) ||
      (profileOrder a.profile = profileOrder b.profile && decide (lower a.name ≤ lower b.name))

/-- The snapshots a link stands for. -/
def sharedSnapshots (ctx : ShareCtx) (db : Db) (order : List ConfigId) (share : ShareTokenModel) :
    Except PyErr (List ConfigVersionSnapshot) :=
  match share.configId with
  | none =>
      let snapshots := sortSnapshots ctx.lower (listCurrentVersionSnapshots db order)
      if snapshots.isEmpty then .error shareNotFound else .ok snapshots
  | some c =>
      match share.configVersion with
      | none => .error shareNotFound
      | some v =>
          match getVersionSnapshot db c v with
          | none => .error shareNotFound
          | some snapshot => .ok [snapshot]

/-- `_uris_for_snapshot`. -/
def urisForSnapshot (ctx : Ctx) (rnd : ConfigId → Nat) (secure : Bool)
    (snapshot : ConfigVersionSnapshot) : Except PyErr (List String) := do
  let configPlain ← decryptConfigDataFields ctx.encryptor (sensitiveFields snapshot.profile)
    snapshot.configData
  let uris ← buildClientUris (rnd snapshot.configId) ctx.settings snapshot.profile configPlain
    snapshot.publicKey snapshot.certFingerprint secure snapshot.sharePublicHost
  .ok (uris.map ShareUri.render)

/-- The loop over the snapshots. -/
def urisForSnapshots (ctx : Ctx) (rnd : ConfigId → Nat) (secure : Bool) :
    List ConfigVersionSnapshot → Except PyErr (List String)
  | [] => .ok []
  | snapshot :: rest => do
      let uris ← urisForSnapshot ctx rnd secure snapshot
      let more ← urisForSnapshots ctx rnd secure rest
      .ok (uris ++ more)

/-- The URIs of a link. -/
def shareUris (ctx : ShareCtx) (rnd : ConfigId → Nat) (db : Db) (order : List ConfigId)
    (share : ShareTokenModel) : Except PyErr (List String) := do
  let snapshots ← sharedSnapshots ctx db order share
  urisForSnapshots ctx.toCtx rnd share.secure snapshots

/-- Only the columns of the link matter. -/
theorem shareUris_of_link {ctx : ShareCtx} {rnd : ConfigId → Nat} {db : Db}
    {order : List ConfigId} {row row' : ShareTokenModel} (h : row'.link = row.link) :
    shareUris ctx rnd db order row' = shareUris ctx rnd db order row := by
  show shareUris ctx rnd db order row'.link = shareUris ctx rnd db order row.link
  rw [h]

/-- What a raw token resolves to when the limiter admits the call. -/
def sharedUris (ctx : ShareCtx) (rnd : ConfigId → Nat) (now : Nat) (s : ShareStore)
    (rawToken : String) : Except PyErr (List String) := do
  let share ← validShare ctx.toCtx now s.tokens rawToken
  shareUris ctx rnd s.db s.order share

/-! ## the use case and its route -/

/-- The limiter's entry for a client. -/
def shareRateKey (ctx : ShareCtx) (now : Nat) (clientIp : String) : RateKey :=
  rateKey "share" ("ip:" ++ clientIp) ctx.shareRule.windowSeconds now

/-- `check_and_increment`. -/
def checkAndIncrement (key : RateKey) (limit : Nat) : Eff ShareStore PyErr Unit := do
  Eff.update fun s => { s with rates := RateTable.increment s.rates key }
  let s ← Eff.read
  Eff.ofExcept (checkCount (s.rates key) limit)

/-- `record_access`. -/
def recordAccess (now : Nat) (id : ShareId) : Eff ShareStore PyErr Unit := do
  let s ← Eff.read
  match s.tokens.byId id with
  | none => pure ()
  | some loaded => Eff.update fun s => { s with
      tokens := s.tokens.update id (ShareTokenModel.recordAccess now loaded) }

/-- `ResolveShareUseCase.execute`. -/
def resolveShare (ctx : ShareCtx) (env : ResolveEnv) (now : Nat) (rawToken clientIp : String) :
    Eff ShareStore PyErr (List String) := do
  checkAndIncrement (shareRateKey ctx now clientIp) ctx.shareRule.requests
  let s ← Eff.read
  let share ← Eff.ofExcept (validShare ctx.toCtx now s.tokens rawToken)
  let uris ← Eff.ofExcept (shareUris ctx env.rnd s.db s.order share)
  recordAccess now share.id
  pure uris

/-- The exceptions the route answers, after a commit: `RateLimitExceeded` with
429 and `ShareNotFound` with 404. -/
def isRefusal (e : PyErr) : Bool := e = rateLimitExceeded || e = shareNotFound

/-- The route `resolve_share`, up to the response. -/
def resolveShareRoute (ctx : ShareCtx) (env : ResolveEnv) (now : Nat) (rawToken clientIp : String) :
    Eff ShareStore PyErr (List String) :=
  Eff.transaction isRefusal env.committed (resolveShare ctx env now rawToken clientIp)

/-- The body of its response. -/
def shareBody (uris : List String) : String :=
  let body := String.intercalate "\n" uris
  if body = "" then body else body ++ "\n"

/-! ## the steps -/

/-- Where a resolution stands.  From the upsert on it has incremented, and
locked, the entry `key` of the limiter. -/
inductive ResolveStage where
  | limiting (rawToken clientIp : String)
  | checking (key : RateKey) (rawToken : String)
  | selecting (key : RateKey) (share : ShareTokenModel)
  /-- `record_access` is next. -/
  | accessing (key : RateKey) (id : ShareId) (uris : List String)
  /-- `record_access` has loaded the row at some time; the commit is next. -/
  | committing (key : RateKey) (id : ShareId) (uris : List String)
      (access : Option (ShareTokenModel × Nat))
  /-- Refused; the commit of the limiter's entry is next. -/
  | refusing (key : RateKey) (exc : PyErr)

/-- The write of `record_access` at the commit. -/
def commitAccess (id : ShareId) (access : Option (ShareTokenModel × Nat)) (tokens : ShareTable) :
    ShareTable :=
  match access with
  | some (loaded, at_) => tokens.update id (ShareTokenModel.recordAccess at_ loaded)
  | none => tokens

/-- Where a check that raised leads. -/
def refuse (key : RateKey) (e : PyErr) (s : ShareStore) :
    Result ResolveStage ShareStore (Except PyErr (List String)) :=
  if isRefusal e then .next (.refusing key e) s else .done (.error e) s

/-- One step of a resolution. -/
def resolveStep (ctx : ShareCtx) (env : ResolveEnv) (now : Nat) (stage : ResolveStage)
    (s : ShareStore) : Result ResolveStage ShareStore (Except PyErr (List String)) :=
  match stage with
  | .limiting rawToken clientIp =>
      let key := shareRateKey ctx now clientIp
      match checkCount (s.rates key + 1) ctx.shareRule.requests with
      | .ok () => .next (.checking key rawToken) s
      | .error e => refuse key e s
  | .checking key rawToken =>
      match validShare ctx.toCtx now s.tokens rawToken with
      | .ok share => .next (.selecting key share) s
      | .error e => refuse key e s
  | .selecting key share =>
      match shareUris ctx env.rnd s.db s.order share with
      | .ok uris => .next (.accessing key share.id uris) s
      | .error e => refuse key e s
  | .accessing key id uris =>
      .next (.committing key id uris ((s.tokens.byId id).map fun loaded => (loaded, now))) s
  | .committing key id uris access =>
      match env.committed with
      | some e => .done (.error e) s
      | none => .done (.ok uris) { s with
          tokens := commitAccess id access s.tokens
          rates := RateTable.increment s.rates key }
  | .refusing key exc =>
      match env.committed with
      | some e => .done (.error e) s
      | none => .done (.error exc) { s with rates := RateTable.increment s.rates key }

/-! ## the steps compute the route -/

section Implements

variable {ctx : ShareCtx} {env : ResolveEnv} {now : Nat}

/-- The tables after the upsert. -/
def ShareStore.counted (s : ShareStore) (key : RateKey) : ShareStore :=
  { s with rates := RateTable.increment s.rates key }

/-- How the use case ends: after the upsert it raises in one of its checks, or
counts the access and returns. -/
theorem exec_resolveShare (rawToken clientIp : String) (s : ShareStore) :
    (resolveShare ctx env now rawToken clientIp).exec s =
      let key := shareRateKey ctx now clientIp
      match checkCount (s.rates key + 1) ctx.shareRule.requests with
      | .error e => (.error e, s.counted key)
      | .ok () =>
          match validShare ctx.toCtx now s.tokens rawToken with
          | .error e => (.error e, s.counted key)
          | .ok share =>
              match shareUris ctx env.rnd s.db s.order share with
              | .error e => (.error e, s.counted key)
              | .ok uris => (.ok uris, { s.counted key with
                  tokens := commitAccess share.id
                    ((s.tokens.byId share.id).map fun loaded => (loaded, now)) s.tokens }) := by
  have hcheck : (checkAndIncrement (shareRateKey ctx now clientIp) ctx.shareRule.requests).exec s =
      (checkCount (s.rates (shareRateKey ctx now clientIp) + 1) ctx.shareRule.requests,
        s.counted (shareRateKey ctx now clientIp)) := by
    simp [checkAndIncrement, Eff.exec_bind, RateTable.increment, ShareStore.counted]
  have haccess (id : ShareId) (t : ShareStore) : (recordAccess now id).exec t =
      (.ok (), { t with
        tokens :=
          commitAccess id ((t.tokens.byId id).map fun loaded => (loaded, now)) t.tokens }) := by
    simp only [recordAccess, Eff.exec_bind, Eff.exec_read]
    cases t.tokens.byId id <;> rfl
  rw [resolveShare, Eff.exec_bind, hcheck]
  cases hcount :
      checkCount (s.rates (shareRateKey ctx now clientIp) + 1) ctx.shareRule.requests with
  | error e => simp only [hcount]
  | ok u =>
      simp only [hcount, Eff.exec_bind, Eff.exec_read, Eff.exec_ofExcept, ShareStore.counted]
      cases hvalid : validShare ctx.toCtx now s.tokens rawToken with
      | error e => simp only
      | ok share =>
          cases huris : shareUris ctx env.rnd s.db s.order share with
          | error e => simp only [huris]
          | ok uris => simp [huris, haccess]

/-- When the route returns, and what. -/
theorem resolveShareRoute_eq_ok_iff (rawToken clientIp : String) (s : ShareStore)
    (uris : List String) :
    ((resolveShareRoute ctx env now rawToken clientIp).exec s).1 = .ok uris ↔
      checkCount (s.rates (shareRateKey ctx now clientIp) + 1) ctx.shareRule.requests = .ok () ∧
        env.committed = none ∧ sharedUris ctx env.rnd now s rawToken = .ok uris := by
  rw [resolveShareRoute, Eff.exec_transaction_eq_ok_iff, exec_resolveShare, and_left_comm]
  refine and_congr_right fun _ => ?_
  unfold sharedUris
  cases hcount : checkCount (s.rates (shareRateKey ctx now clientIp) + 1)
    ctx.shareRule.requests with
  | error e => simp [hcount]
  | ok u =>
      cases validShare ctx.toCtx now s.tokens rawToken with
      | error e => simp [hcount]
      | ok share => cases huris : shareUris ctx env.rnd s.db s.order share <;> simp [hcount, huris]

/-- A check that raises ends the transaction, by way of `refusing` or not. -/
theorem runToEnd_refuse (fuel : Nat) (key : RateKey) (e : PyErr) (s : ShareStore)
    (stage : ResolveStage) (hstep : resolveStep ctx env now stage s = refuse key e s) :
    Process.runToEnd (resolveStep ctx env now) (fuel + 2) stage s =
      some (match env.committed with
        | none => if isRefusal e then (.error e, s.counted key) else (.error e, s)
        | some e' => if isRefusal e then (.error e', s) else (.error e, s)) := by
  rw [Process.runToEnd, hstep, refuse]
  cases hrefusal : isRefusal e with
  | false => cases env.committed <;> rfl
  | true =>
      cases hcom : env.committed with
      | none => simp [Process.runToEnd, resolveStep, hcom, ShareStore.counted]
      | some e' => simp [Process.runToEnd, resolveStep, hcom]

/-- **The steps compute the route.** -/
theorem runToEnd_resolveStep (rawToken clientIp : String) (s : ShareStore) :
    Process.runToEnd (resolveStep ctx env now) 5 (.limiting rawToken clientIp) s =
      some ((resolveShareRoute ctx env now rawToken clientIp).exec s) := by
  rw [resolveShareRoute, Eff.exec_transaction, exec_resolveShare]
  cases hcount : checkCount (s.rates (shareRateKey ctx now clientIp) + 1)
    ctx.shareRule.requests with
  | error e =>
      rw [runToEnd_refuse 3 (shareRateKey ctx now clientIp) e s _ (by simp [resolveStep, hcount])]
      simp only [hcount]
      cases env.committed <;> rfl
  | ok u =>
      have hchecking : Process.runToEnd (resolveStep ctx env now) 5
        (.limiting rawToken clientIp) s =
          Process.runToEnd (resolveStep ctx env now) 4
            (.checking (shareRateKey ctx now clientIp) rawToken) s := by
        simp [Process.runToEnd, resolveStep, hcount]
      rw [hchecking]
      cases hvalid : validShare ctx.toCtx now s.tokens rawToken with
      | error e =>
          rw [runToEnd_refuse 2 (shareRateKey ctx now clientIp) e s _
            (by simp [resolveStep, hvalid])]
          simp only [hcount]
          cases env.committed <;> rfl
      | ok share =>
          have hselecting : Process.runToEnd (resolveStep ctx env now) 4
              (.checking (shareRateKey ctx now clientIp) rawToken) s =
                Process.runToEnd (resolveStep ctx env now) 3
                  (.selecting (shareRateKey ctx now clientIp) share) s := by
            simp [Process.runToEnd, resolveStep, hvalid]
          rw [hselecting]
          cases huris : shareUris ctx env.rnd s.db s.order share with
          | error e =>
              rw [runToEnd_refuse 1 (shareRateKey ctx now clientIp) e s _
                (by simp [resolveStep, huris])]
              simp only [hcount, huris]
              cases env.committed <;> rfl
          | ok uris =>
              cases hcom : env.committed <;>
                simp [Process.runToEnd, resolveStep, hcount, huris, hcom, ShareStore.counted]

end Implements

end VpnPanel
