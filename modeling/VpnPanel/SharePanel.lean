import VpnPanel.ResolveShare
import VpnPanel.LifecycleSteps

/-!
# VpnPanel.SharePanel

The panel with its share links: the lifecycle of `VpnPanel.Lifecycle` and the
share requests, taking steps in any order.

A resolution locks its entry of the limiter from the upsert to the end of its
transaction; another call for the entry waits.  Share requests only read the
tables of configs, so the world of a panel makes the steps of the lifecycle
(`world_run`).
-/

namespace VpnPanel

open Process (Result)

/-- The entry of the limiter a resolution has locked. -/
def ResolveStage.key? : ResolveStage → Option RateKey
  | .limiting _ _ => none
  | .checking key _ | .selecting key _ | .accessing key _ _ | .committing key _ _ _
  | .refusing key _ => some key

/-- Where a share request stands. -/
inductive ShareStage where
  /-- The link is planned; the `INSERT` and its commit are next. -/
  | creating (rawToken : String) (row : ShareTokenModel)
  /-- The link is found and not revoked; the commit is next. -/
  | revoking (id : ShareId)
  | resolving (stage : ResolveStage)

/-- The state of the panel. -/
structure Panel where
  world : World
  /-- The ids of `vpn_configs` by `created_at`. -/
  order : List ConfigId
  tokens : ShareTable
  rates : RateTable
  shares : RequestId → Option ShareStage
  rateLocks : RateKey → Option RequestId

/-- What can happen to share links. -/
inductive ShareAction where
  | create (r : RequestId) (id : ShareId) (rawToken : String) (c : ConfigId) (req : ShareRequest)
  | createAll (r : RequestId) (id : ShareId) (rawToken : String) (req : ShareRequest)
  | revoke (r : RequestId) (rawToken : String)
  | revokeById (r : RequestId) (id : ShareId)
  | resolve (r : RequestId) (rawToken clientIp : String)
  | advance (r : RequestId) (env : ResolveEnv)

/-- What can happen. -/
inductive PanelAction where
  | lifecycle (a : Action)
  | share (a : ShareAction)

namespace Panel

/-- A panel without configs and links. -/
def init (host : Host) : Panel where
  world := World.init host
  order := []
  tokens := []
  rates _ := 0
  shares _ := none
  rateLocks _ := none

def store (p : Panel) : ShareStore := ⟨p.world.db, p.order, p.tokens, p.rates⟩

/-- What the route answers when nothing interferes. -/
def resolve (ctx : ShareCtx) (p : Panel) (env : ResolveEnv) (rawToken clientIp : String) :
    Except PyErr (List String) :=
  ((resolveShareRoute ctx env p.world.now rawToken clientIp).exec p.store).1

/-- The limiter lets a client's next call pass. -/
def Admits (ctx : ShareCtx) (p : Panel) (clientIp : String) : Prop :=
  checkCount (p.rates (shareRateKey ctx p.world.now clientIp) + 1) ctx.shareRule.requests = .ok ()

@[simps] def setShareStore (p : Panel) (s : ShareStore) : Panel :=
  { p with tokens := s.tokens, rates := s.rates }

@[simps] def setTokens (p : Panel) (tokens : ShareTable) : Panel := { p with tokens := tokens }

@[simps] def setShare (p : Panel) (r : RequestId) (stage : Option ShareStage) : Panel :=
  { p with shares := Function.update p.shares r stage }

/-- The locks after a step of a resolution. -/
@[simps] def relockRate (p : Panel) (r : RequestId) (key : Option RateKey) : Panel :=
  { p with
    rateLocks := fun k =>
      if key = some k then some r else if p.rateLocks k = some r then none else p.rateLocks k }

variable (ctx : ShareCtx) (p : Panel)

/-- A step of the lifecycle. -/
def lifecycle (a : Action) : Panel :=
  let world := step ctx.toCtx p.world a
  let order := match a with
    | .create _ c _ _ _ _ _ =>
        if (p.world.db.configs c).isNone && (world.db.configs c).isSome then p.order ++ [c]
        else p.order
    | _ => p.order
  { p with world := world, order := order }

/-- A request that has planned a link, or has ended. -/
def plan (r : RequestId) (rawToken : String) (row : Except PyErr ShareTokenModel) : Panel :=
  match p.shares r, row with
  | none, .ok row => p.setShare r (some (.creating rawToken row))
  | _, _ => p

/-- A request that has found the link to revoke, or has ended. -/
def startRevoke (r : RequestId) (found : Option ShareTokenModel) : Panel :=
  match p.shares r, revocable found with
  | none, some id => p.setShare r (some (.revoking id))
  | _, _ => p

/-- The commit of a new link. -/
def commitCreate (env : ResolveEnv) (r : RequestId) (row : ShareTokenModel) : Panel :=
  match env.committed, p.tokens.insert row with
  | none, .ok tokens => (p.setTokens tokens).setShare r none
  | _, _ => p.setShare r none

/-- The commit of a revocation. -/
def commitRevoke (env : ResolveEnv) (r : RequestId) (id : ShareId) : Panel :=
  match env.committed with
  | some _ => p.setShare r none
  | none => (p.setTokens (p.tokens.update id (ShareTokenModel.revoke p.world.now))).setShare r none

/-- The entry of the limiter the next step of a resolution locks. -/
def wants (stage : ResolveStage) : Option RateKey :=
  match stage with
  | .limiting _ clientIp => some (shareRateKey ctx p.world.now clientIp)
  | _ => none

/-- Whether a resolution has to wait for the limiter's entry. -/
def waits (r : RequestId) (stage : ResolveStage) : Bool :=
  match p.wants ctx stage with
  | some key => p.rateLocks key ≠ none && p.rateLocks key ≠ some r
  | none => false

/-- A step of a resolution. -/
def advanceResolve (env : ResolveEnv) (r : RequestId) (stage : ResolveStage) : Panel :=
  if p.waits ctx r stage then p
  else
    match resolveStep ctx env p.world.now stage p.store with
    | .next stage' s =>
        ((p.setShareStore s).setShare r (some (.resolving stage'))).relockRate r stage'.key?
    | .done _ s => ((p.setShareStore s).setShare r none).relockRate r none

/-- The next step of a share request. -/
def advance (env : ResolveEnv) (r : RequestId) : Panel :=
  match p.shares r with
  | none => p
  | some (.creating _ row) => p.commitCreate env r row
  | some (.revoking id) => p.commitRevoke env r id
  | some (.resolving stage) => p.advanceResolve ctx env r stage

/-- A step of the share links. -/
def share : ShareAction → Panel
  | .create r id rawToken c req =>
      p.plan r rawToken (createShareLink ctx.toCtx p.world.now p.world.db id rawToken c req)
  | .createAll r id rawToken req =>
      p.plan r rawToken
        (createAllShareLinks ctx.toCtx p.world.now p.world.db p.order id rawToken req)
  | .revoke r rawToken => p.startRevoke r (p.tokens.byHash (hashShareToken ctx.toCtx rawToken))
  | .revokeById r id => p.startRevoke r (p.tokens.byId id)
  | .resolve r rawToken clientIp =>
      if (p.shares r).isSome then p
      else p.setShare r (some (.resolving (.limiting rawToken clientIp)))
  | .advance r env => p.advance ctx env r

/-- One step of the panel. -/
def step : PanelAction → Panel
  | .lifecycle a => p.lifecycle ctx a
  | .share a => p.share ctx a

end Panel

/-- A run of the panel from an installation without configs and links. -/
abbrev runPanel (ctx : ShareCtx) (host : Host) (as : List PanelAction) : Panel :=
  Machine.run (Panel.step ctx) (Panel.init host) as

/-! ## what a step does -/

/-- The request a share action is about. -/
def ShareAction.request : ShareAction → Option RequestId
  | .create r _ _ _ _ | .createAll r _ _ _ | .revoke r _ | .revokeById r _ | .resolve r _ _
  | .advance r _ => some r

/-- What a share action does to the panel when it does anything. -/
inductive ShareStep (ctx : ShareCtx) (p : Panel) : ShareAction → Panel → Prop where
  | create (r : RequestId) (id : ShareId) (rawToken : String) (c : ConfigId) (req : ShareRequest)
      (row : ShareTokenModel) (hr : p.shares r = none)
      (hrow : createShareLink ctx.toCtx p.world.now p.world.db id rawToken c req = .ok row) :
      ShareStep ctx p (.create r id rawToken c req) (p.setShare r (some (.creating rawToken row)))
  | createAll (r : RequestId) (id : ShareId) (rawToken : String) (req : ShareRequest)
      (row : ShareTokenModel) (hr : p.shares r = none)
      (hrow : createAllShareLinks ctx.toCtx p.world.now p.world.db p.order id rawToken req =
        .ok row) :
      ShareStep ctx p (.createAll r id rawToken req)
        (p.setShare r (some (.creating rawToken row)))
  /-- A revocation has found its link, by its token or by its id. -/
  | startRevoke (a : ShareAction) (r : RequestId) (row : ShareTokenModel) (hr : p.shares r = none)
      (hrow : row ∈ p.tokens) (hnot : row.revokedAt = none) (hreq : a.request = some r)
      (ha : ∀ r' env, a ≠ .advance r' env) :
        ShareStep ctx p a (p.setShare r (some (.revoking row.id)))
  | resolve (r : RequestId) (rawToken clientIp : String) (hr : p.shares r = none) :
      ShareStep ctx p (.resolve r rawToken clientIp)
        (p.setShare r (some (.resolving (.limiting rawToken clientIp))))
  /-- A create or a revocation ends without an effect. -/
  | drop (r : RequestId) (env : ResolveEnv) (stage : ShareStage) (hr : p.shares r = some stage)
      (hstage : ∀ st, stage ≠ .resolving st)
      (hfail : ∀ rawToken row, stage = .creating rawToken row →
        env.committed ≠ none ∨ ∀ tokens, p.tokens.insert row ≠ .ok tokens)
      (hrevoke : ∀ id, stage = .revoking id → env.committed ≠ none) :
      ShareStep ctx p (.advance r env) (p.setShare r none)
  | created (r : RequestId) (env : ResolveEnv) (rawToken : String) (row : ShareTokenModel)
      (tokens : ShareTable) (hr : p.shares r = some (.creating rawToken row))
      (hcom : env.committed = none) (hins : p.tokens.insert row = .ok tokens) :
      ShareStep ctx p (.advance r env) ((p.setTokens tokens).setShare r none)
  | revoked (r : RequestId) (env : ResolveEnv) (id : ShareId)
      (hr : p.shares r = some (.revoking id)) (hcom : env.committed = none) :
      ShareStep ctx p (.advance r env)
        ((p.setTokens (p.tokens.update id (ShareTokenModel.revoke p.world.now))).setShare r none)
  | resolveNext (r : RequestId) (env : ResolveEnv) (stage stage' : ResolveStage)
      (hr : p.shares r = some (.resolving stage)) (hwaits : p.waits ctx r stage = false)
      (hnext : resolveStep ctx env p.world.now stage p.store = .next stage' p.store) :
      ShareStep ctx p (.advance r env)
        ((p.setShare r (some (.resolving stage'))).relockRate r stage'.key?)
  /-- A resolution ends without counting an access. -/
  | refused (r : RequestId) (env : ResolveEnv) (stage : ResolveStage) (rates : RateTable)
      (hr : p.shares r = some (.resolving stage))
      (haccess : ∀ key id uris, stage ≠ .accessing key id uris)
      (hstage : ∀ key id uris access, stage = .committing key id uris access →
        env.committed ≠ none)
      (hrates : rates = p.rates ∨ ∃ key, rates = RateTable.increment p.rates key) :
      ShareStep ctx p (.advance r env)
        (({ p with rates := rates }.setShare r none).relockRate r none)
  | resolved (r : RequestId) (env : ResolveEnv) (key : RateKey) (id : ShareId)
      (uris : List String) (access : Option (ShareTokenModel × Nat))
      (hr : p.shares r = some (.resolving (.committing key id uris access)))
      (hcom : env.committed = none) :
      ShareStep ctx p (.advance r env)
        ((({ p with rates := RateTable.increment p.rates key }.setTokens
          (commitAccess id access p.tokens)).setShare r none).relockRate r none)

/-- What a step of a resolution does: it goes on with the tables as they are,
ends without counting an access, or commits. -/
inductive ResolveEffect (env : ResolveEnv) (s : ShareStore) :
    ResolveStage → Result ResolveStage ShareStore (Except PyErr (List String)) → Prop where
  | next (stage stage' : ResolveStage) : ResolveEffect env s stage (.next stage' s)
  | ended (stage : ResolveStage) (out : Except PyErr (List String)) (rates : RateTable)
      (haccess : ∀ key id uris, stage ≠ .accessing key id uris)
      (hstage : ∀ key id uris access, stage = .committing key id uris access →
        env.committed ≠ none)
      (hrates : rates = s.rates ∨ ∃ key, rates = RateTable.increment s.rates key) :
      ResolveEffect env s stage (.done out { s with rates := rates })
  | counted (key : RateKey) (id : ShareId) (uris : List String)
      (access : Option (ShareTokenModel × Nat)) (hcom : env.committed = none) :
      ResolveEffect env s (.committing key id uris access) (.done (.ok uris) { s with
        tokens := commitAccess id access s.tokens
        rates := RateTable.increment s.rates key })

section Steps

variable {ctx : ShareCtx} {p : Panel}

/-- A check that raised. -/
theorem resolveEffect_refuse {env : ResolveEnv} {s : ShareStore} {stage : ResolveStage}
    (key : RateKey) (e : PyErr)
    (haccess : ∀ key id uris, stage ≠ .accessing key id uris)
    (hstage : ∀ key id uris access, stage ≠ .committing key id uris access) :
    ResolveEffect env s stage (refuse key e s) := by
  unfold refuse
  split
  · exact .next stage _
  · exact .ended stage _ s.rates haccess (fun _ _ _ _ h => absurd h (hstage _ _ _ _)) (Or.inl rfl)

theorem resolveEffect_resolveStep (ctx : ShareCtx) (env : ResolveEnv) (now : Nat)
    (stage : ResolveStage)
    (s : ShareStore) : ResolveEffect env s stage (resolveStep ctx env now stage s) := by
  cases stage with
  | limiting rawToken clientIp =>
      simp only [resolveStep]
      split
      · exact .next _ _
      · exact resolveEffect_refuse _ _ (by simp) (by simp)
  | checking key rawToken =>
      simp only [resolveStep]
      split
      · exact .next _ _
      · exact resolveEffect_refuse _ _ (by simp) (by simp)
  | selecting key share =>
      simp only [resolveStep]
      split
      · exact .next _ _
      · exact resolveEffect_refuse _ _ (by simp) (by simp)
  | accessing key id uris => exact .next _ _
  | committing key id uris access =>
      simp only [resolveStep]
      split
      · next e hcom => exact .ended _ _ s.rates (by simp) (by simp [hcom]) (Or.inl rfl)
      · next hcom => exact .counted key id uris access hcom
  | refusing key exc =>
      simp only [resolveStep]
      split
      · exact .ended _ _ s.rates (by simp) (by simp) (Or.inl rfl)
      · exact .ended _ _ _ (by simp) (by simp) (Or.inr ⟨key, rfl⟩)

/-- The link a revocation goes for is in the table, not revoked. -/
theorem of_revocable {found : Option ShareTokenModel} {id : ShareId}
    (h : revocable found = some id) :
    ∃ row, found = some row ∧ row.revokedAt = none ∧ row.id = id := by
  unfold revocable at h
  split at h
  · contradiction
  · next row =>
    split at h
    · contradiction
    · next hnot => exact ⟨row, rfl, by simpa using hnot, Option.some.inj h⟩

/-- What has no next step: a request that is not there, and a resolution that
has yet to lock its entry of the limiter. -/
def Panel.Idle (p : Panel) : ShareAction → Prop
  | .advance r _ => p.shares r = none ∨
      ∃ rawToken clientIp, p.shares r = some (.resolving (.limiting rawToken clientIp))
  | _ => True

variable (ctx p) in
/-- **A share action leaves the panel alone or is a `ShareStep`.** -/
theorem share_cases (a : ShareAction) :
    (p.share ctx a = p ∧ p.Idle a) ∨ ShareStep ctx p a (p.share ctx a) := by
  have hrevoke {a : ShareAction} {r : RequestId} {found : Option ShareTokenModel}
      (hreq : a.request = some r) (ha : ∀ r' env, a ≠ .advance r' env)
      (hfound : ∀ row, found = some row → row ∈ p.tokens) :
      (p.startRevoke r found = p ∧ p.Idle a) ∨ ShareStep ctx p a (p.startRevoke r found) := by
    unfold Panel.startRevoke
    split
    · next id hr hid =>
      obtain ⟨row, hrow, hnot, rfl⟩ := of_revocable hid
      exact Or.inr (.startRevoke a r row hr (hfound row hrow) hnot hreq ha)
    · refine Or.inl ⟨rfl, ?_⟩
      cases a with
      | advance r' env => exact absurd rfl (ha r' env)
      | _ => trivial
  cases a with
  | create r id rawToken c req =>
      simp only [Panel.share, Panel.plan]
      split
      · next row hr hrow => exact Or.inr (.create r id rawToken c req row hr hrow)
      · exact Or.inl ⟨rfl, trivial⟩
  | createAll r id rawToken req =>
      simp only [Panel.share, Panel.plan]
      split
      · next row hr hrow => exact Or.inr (.createAll r id rawToken req row hr hrow)
      · exact Or.inl ⟨rfl, trivial⟩
  | revoke r rawToken => exact hrevoke rfl (by simp) fun row hrow => List.mem_of_find?_eq_some hrow
  | revokeById r id => exact hrevoke rfl (by simp) fun row hrow => List.mem_of_find?_eq_some hrow
  | resolve r rawToken clientIp =>
      simp only [Panel.share]
      split
      · exact Or.inl ⟨rfl, trivial⟩
      · next hr => exact Or.inr (.resolve r rawToken clientIp (by simpa using hr))
  | advance r env =>
      simp only [Panel.share, Panel.advance]
      cases hr : p.shares r with
      | none => exact Or.inl ⟨rfl, Or.inl hr⟩
      | some stage =>
          cases stage with
          | creating rawToken row =>
              simp only [Panel.commitCreate]
              split
              · next tokens hcom hins =>
                exact Or.inr (.created r env rawToken row tokens hr hcom hins)
              · next hno =>
                refine Or.inr (.drop r env _ hr (by simp) ?_ (by simp))
                rintro _ _ ⟨rfl, rfl⟩
                by_contra hboth
                push Not at hboth
                obtain ⟨hcom, tokens, hins⟩ := hboth
                exact hno tokens hcom hins
          | revoking id =>
              simp only [Panel.commitRevoke]
              split
              · next e hcom => exact Or.inr (.drop r env _ hr (by simp) (by simp) (by simp [hcom]))
              · next hcom => exact Or.inr (.revoked r env id hr hcom)
          | resolving stage =>
              simp only [Panel.advanceResolve]
              split
              · next hwaits =>
                refine Or.inl ⟨rfl, Or.inr ?_⟩
                cases stage with
                | limiting rawToken clientIp => exact ⟨rawToken, clientIp, hr⟩
                | _ => simp [Panel.waits, Panel.wants] at hwaits
              · next hwaits =>
                have heffect := resolveEffect_resolveStep ctx env p.world.now stage p.store
                cases hres : resolveStep ctx env p.world.now stage p.store with
                | next stage' s =>
                    rw [hres] at heffect
                    cases heffect
                    exact Or.inr (.resolveNext r env stage stage' hr (by simpa using hwaits) hres)
                | done out s =>
                    rw [hres] at heffect
                    cases heffect with
                    | ended _ _ rates haccess hstage hrates =>
                        exact Or.inr (.refused r env stage rates hr haccess hstage hrates)
                    | counted key id uris access hcom =>
                        exact Or.inr (.resolved r env key id uris access hr hcom)

/-- Share requests leave the world alone. -/
@[simp] theorem world_share (a : ShareAction) : (p.share ctx a).world = p.world := by
  obtain ⟨heq, -⟩ | hstep := share_cases ctx p a
  · rw [heq]
  · generalize p.share ctx a = p' at hstep ⊢
    cases hstep <;> rfl

/-- Share requests leave the order of the configs alone. -/
@[simp] theorem order_share (a : ShareAction) : (p.share ctx a).order = p.order := by
  obtain ⟨heq, -⟩ | hstep := share_cases ctx p a
  · rw [heq]
  · generalize p.share ctx a = p' at hstep ⊢
    cases hstep <;> rfl

end Steps

/-! ## the world of a panel -/

/-- The lifecycle's part of a run. -/
def lifecycleActions (as : List PanelAction) : List Action :=
  as.filterMap fun
    | .lifecycle a => some a
    | .share _ => none

/-- **The panel runs the lifecycle.**  What holds after every run of the
lifecycle holds of the world of a panel. -/
theorem world_run (ctx : ShareCtx) (p : Panel) (as : List PanelAction) :
    (Machine.run (Panel.step ctx) p as).world =
      Machine.run (step ctx.toCtx) p.world (lifecycleActions as) := by
  induction as generalizing p with
  | nil => rfl
  | cons a as ih =>
      rw [Machine.run_cons, ih]
      cases a with
      | lifecycle a => rfl
      | share a =>
          show Machine.run _ (p.share ctx a).world _ = _
          rw [world_share]
          rfl

theorem world_runPanel (ctx : ShareCtx) (host : Host) (as : List PanelAction) :
    (runPanel ctx host as).world = runFrom ctx.toCtx host (lifecycleActions as) :=
  world_run ctx (Panel.init host) as

/-! ## the tokens after a step -/

/-- What a step does to the table: nothing, the insertion of a planned row, or
an update that leaves the links as they are. -/
inductive TokensChange (p p' : Panel) : ShareAction → Prop where
  | same (a : ShareAction) (h : p'.tokens = p.tokens) : TokensChange p p' a
  | inserted (r : RequestId) (env : ResolveEnv) (rawToken : String) (row : ShareTokenModel)
      (hr : p.shares r = some (.creating rawToken row)) (hcom : env.committed = none)
      (hins : p.tokens.insert row = .ok p'.tokens) : TokensChange p p' (.advance r env)
  | updated (a : ShareAction) (id : ShareId) (change : ShareTokenModel → ShareTokenModel)
      (hchange : ∀ row, (change row).link = row.link)
      (h : p'.tokens = p.tokens.update id change) : TokensChange p p' a

section Tokens

variable {ctx : ShareCtx} {p p' : Panel} {a : ShareAction}

theorem tokens_of_step (hstep : ShareStep ctx p a p') : TokensChange p p' a := by
  cases hstep with
  | created r env rawToken row tokens hr hcom hins =>
    exact .inserted r env rawToken row hr hcom hins
  | revoked r env id hr hcom => exact .updated _ id _ (link_revoke p.world.now) rfl
  | resolved r env key id uris access hr hcom =>
      cases access with
      | none => exact .same _ rfl
      | some access => exact .updated _ id _ (link_recordAccess access.2 access.1) rfl
  | _ => exact .same _ rfl

/-- Links stay in the table. -/
theorem links_mono (hstep : ShareStep ctx p a p') {row : ShareTokenModel} (hrow : row ∈ p.tokens) :
    ∃ row' ∈ p'.tokens, row'.link = row.link := by
  cases tokens_of_step hstep with
  | same _ h => exact ⟨row, by rw [h]; exact hrow, rfl⟩
  | inserted r env rawToken new hr hcom hins =>
      obtain ⟨htokens, -⟩ := ShareTable.of_insert hins
      exact ⟨row, by rw [htokens]; exact List.mem_append_left _ hrow, rfl⟩
  | updated _ id change hchange h =>
      refine ⟨ShareTable.updateRow id change row, ?_, ShareTable.link_updateRow hchange id row⟩
      rw [h]
      exact ShareTable.mem_update.mpr ⟨row, hrow, rfl⟩

/-- A row after a step has the link of a row before, or is a planned row. -/
theorem row_of_tokens (hstep : ShareStep ctx p a p') {row' : ShareTokenModel}
    (hrow' : row' ∈ p'.tokens) :
    (∃ row ∈ p.tokens, row'.link = row.link) ∨
      ∃ r rawToken, p.shares r = some (.creating rawToken row') := by
  cases tokens_of_step hstep with
  | same _ h => exact Or.inl ⟨row', by rwa [h] at hrow', rfl⟩
  | inserted r env rawToken new hr hcom hins =>
      obtain ⟨htokens, -⟩ := ShareTable.of_insert hins
      rw [htokens, List.mem_append, List.mem_singleton] at hrow'
      obtain hrow' | rfl := hrow'
      · exact Or.inl ⟨row', hrow', rfl⟩
      · exact Or.inr ⟨r, rawToken, hr⟩
  | updated _ id change hchange h =>
      rw [h, ShareTable.mem_update] at hrow'
      obtain ⟨row, hrow, rfl⟩ := hrow'
      exact Or.inl ⟨row, hrow, ShareTable.link_updateRow hchange id row⟩

end Tokens

/-- Where a share request stands after a step. -/
inductive StageChange (ctx : ShareCtx) (p : Panel) (r : RequestId) :
    ShareAction → ShareStage → Prop where
  | same (a : ShareAction) (stage : ShareStage) (hr : p.shares r = some stage) :
      StageChange ctx p r a stage
  | create (id : ShareId) (rawToken : String) (c : ConfigId) (req : ShareRequest)
      (row : ShareTokenModel)
      (hrow : createShareLink ctx.toCtx p.world.now p.world.db id rawToken c req = .ok row) :
      StageChange ctx p r (.create r id rawToken c req) (.creating rawToken row)
  | createAll (id : ShareId) (rawToken : String) (req : ShareRequest) (row : ShareTokenModel)
      (hrow : createAllShareLinks ctx.toCtx p.world.now p.world.db p.order id rawToken req =
        .ok row) :
      StageChange ctx p r (.createAll r id rawToken req) (.creating rawToken row)
  | startRevoke (a : ShareAction) (row : ShareTokenModel) (hrow : row ∈ p.tokens) :
      StageChange ctx p r a (.revoking row.id)
  | resolve (rawToken clientIp : String) :
      StageChange ctx p r (.resolve r rawToken clientIp)
        (.resolving (.limiting rawToken clientIp))
  | resolveNext (env : ResolveEnv) (stage stage' : ResolveStage)
      (hr : p.shares r = some (.resolving stage))
      (hnext : resolveStep ctx env p.world.now stage p.store = .next stage' p.store) :
      StageChange ctx p r (.advance r env) (.resolving stage')

section Stages

variable {ctx : ShareCtx} {p p' : Panel} {a : ShareAction} {r : RequestId} {stage : ShareStage}

theorem stage_of_step (hstep : ShareStep ctx p a p') (hr' : p'.shares r = some stage) :
    StageChange ctx p r a stage := by
  have hother {r₀ : RequestId} {st : Option ShareStage}
      (hupdate : Function.update p.shares r₀ st r = some stage) :
      (r = r₀ ∧ st = some stage) ∨ p.shares r = some stage := by
    by_cases hrr : r = r₀
    · exact Or.inl ⟨hrr, by simpa [hrr] using hupdate⟩
    · exact Or.inr (by simpa [hrr] using hupdate)
  cases hstep with
  | create r₀ id rawToken c req row hr hrow =>
      obtain ⟨rfl, hst⟩ | hsame := hother hr'
      · cases hst
        exact .create id rawToken c req row hrow
      · exact .same _ _ hsame
  | createAll r₀ id rawToken req row hr hrow =>
      obtain ⟨rfl, hst⟩ | hsame := hother hr'
      · cases hst
        exact .createAll id rawToken req row hrow
      · exact .same _ _ hsame
  | startRevoke _ r₀ row hr hrow hnot hreq ha =>
      obtain ⟨rfl, hst⟩ | hsame := hother hr'
      · cases hst
        exact .startRevoke a row hrow
      · exact .same _ _ hsame
  | resolve r₀ rawToken clientIp hr =>
      obtain ⟨rfl, hst⟩ | hsame := hother hr'
      · cases hst
        exact .resolve rawToken clientIp
      · exact .same _ _ hsame
  | resolveNext r₀ env st st' hr hwaits hnext =>
      obtain ⟨rfl, hst⟩ | hsame := hother hr'
      · cases hst
        exact .resolveNext env st st' hr hnext
      · exact .same _ _ hsame
  | _ =>
      obtain ⟨rfl, hst⟩ | hsame := hother hr'
      · cases hst
      · exact .same _ _ hsame

end Stages

/-! ## the row of a token -/

/-- `row` is the row of a link, found by its raw token. -/
abbrev Panel.IsLink (ctx : Ctx) (p : Panel) (rawToken : String) (row : ShareTokenModel) : Prop :=
  p.tokens.byHash (hashShareToken ctx rawToken) = some row

section Rows

variable {ctx : ShareCtx} {p : Panel} {rawToken : String} {row : ShareTokenModel}

theorem isLink_step (h : p.IsLink ctx.toCtx rawToken row) (a : PanelAction) :
    ∃ row', (p.step ctx a).IsLink ctx.toCtx rawToken row' ∧ row'.link = row.link := by
  cases a with
  | lifecycle a => exact ⟨row, h, rfl⟩
  | share a =>
      show ∃ row', (p.share ctx a).IsLink ctx.toCtx rawToken row' ∧ row'.link = row.link
      obtain ⟨heq, -⟩ | hstep := share_cases ctx p a
      · exact ⟨row, by rwa [heq], rfl⟩
      · unfold Panel.IsLink at h ⊢
        cases tokens_of_step hstep with
        | same _ htokens => exact ⟨row, by rwa [htokens], rfl⟩
        | inserted r env rawToken' new hr hcom hins =>
            exact ⟨row, by rw [ShareTable.byHash_insert hins, h]; rfl, rfl⟩
        | updated _ id change hchange htokens =>
            refine ⟨ShareTable.updateRow id change row, ?_,
              ShareTable.link_updateRow hchange id row⟩
            rw [htokens, ShareTable.byHash_update hchange, h]
            rfl

/-- A link stays what it is. -/
theorem isLink_run (h : p.IsLink ctx.toCtx rawToken row) (as : List PanelAction) :
    ∃ row', (Machine.run (Panel.step ctx) p as).IsLink ctx.toCtx rawToken row' ∧
      row'.link = row.link := by
  induction as generalizing p row with
  | nil => exact ⟨row, h, rfl⟩
  | cons a as ih =>
      obtain ⟨row₁, h₁, hlink₁⟩ := isLink_step h a
      obtain ⟨row₂, h₂, hlink₂⟩ := ih h₁
      exact ⟨row₂, h₂, hlink₂.trans hlink₁⟩

end Rows

/-! ## the links of a run -/

/-- A link is permanent and has no expiry, or it has one. -/
def ShareTokenModel.WellFormed (row : ShareTokenModel) : Prop :=
  row.isPermanent = row.expiresAt.isNone

/-- The link a stage of a resolution has found. -/
def ResolveStage.id? : ResolveStage → Option ShareId
  | .selecting _ share => some share.id
  | .accessing _ id _ | .committing _ id _ _ => some id
  | _ => none

/-- The links of a reachable panel. -/
structure LinksSound (ctx : Ctx) (p : Panel) : Prop where
  ids : (p.tokens.map (·.id)).Nodup
  hashes : ∀ {row row'}, row ∈ p.tokens → row' ∈ p.tokens → row.tokenHash = row'.tokenHash →
    row = row'
  wellFormed : ∀ row ∈ p.tokens, row.WellFormed
  creating : ∀ r rawToken row, p.shares r = some (.creating rawToken row) →
    row.WellFormed ∧ row.tokenHash = hashShareToken ctx rawToken ∧ row.revokedAt = none
  revoking : ∀ r id, p.shares r = some (.revoking id) → ∃ row ∈ p.tokens, row.id = id
  resolving : ∀ r stage id, p.shares r = some (.resolving stage) → stage.id? = some id →
    ∃ row ∈ p.tokens, row.id = id

theorem wellFormed_of_link {row row' : ShareTokenModel} (h : row'.link = row.link)
    (hrow : row.WellFormed) : row'.WellFormed := by
  show row'.link.isPermanent = row'.link.expiresAt.isNone
  rw [h]
  exact hrow

/-- An expiration that passes is permanent or has an end. -/
theorem isPermanent_of_resolveShareExpiration {now : Nat} {req : ShareRequest}
    {expiration : ShareExpiration} (h : resolveShareExpiration now req = .ok expiration) :
    expiration.isPermanent = expiration.expiresAt.isNone := by
  unfold resolveShareExpiration at h
  repeat' split at h
  all_goals try contradiction
  · obtain ⟨expiresAt, -, h⟩ := Except.bind_eq_ok_iff.mp h
    rw [← Except.ok.inj h]
    rfl
  · rw [← Except.ok.inj h]
    rfl
  · rw [← Except.ok.inj h]
    rfl

/-- The row a create plans. -/
theorem planned_wellFormed {ctx : Ctx} {now : Nat} {id : ShareId} {rawToken : String}
    {req : ShareRequest} {expiration : ShareExpiration} {pinned : Option (ConfigId × Nat)}
    (h : resolveShareExpiration now req = .ok expiration) :
    (shareRow ctx now id rawToken req expiration pinned).WellFormed ∧
      (shareRow ctx now id rawToken req expiration pinned).tokenHash =
        hashShareToken ctx rawToken ∧
      (shareRow ctx now id rawToken req expiration pinned).revokedAt = none :=
  ⟨isPermanent_of_resolveShareExpiration h, rfl, rfl⟩

/-- The row `createShareLink` plans: a pinned link to the current version of a
config that is there and active. -/
theorem of_createShareLink {ctx : Ctx} {now : Nat} {db : Db} {id : ShareId} {rawToken : String}
    {c : ConfigId} {req : ShareRequest} {row : ShareTokenModel}
    (h : createShareLink ctx now db id rawToken c req = .ok row) :
    ∃ expiration config version, resolveShareExpiration now req = .ok expiration ∧
      db.getActive c = some config ∧ config.currentVersion = some version ∧
      config.status = .active ∧
      row = shareRow ctx now id rawToken req expiration (some (c, version)) := by
  obtain ⟨expiration, hexp, h⟩ := Except.bind_eq_ok_iff.mp h
  split at h
  · contradiction
  · next config hconfig =>
    split at h
    · contradiction
    · next version hversion =>
      split at h
      · contradiction
      · next hactive =>
        exact ⟨expiration, config, version, hexp, hconfig, hversion, by simpa using hactive,
          (Except.ok.inj h).symm⟩

theorem of_createAllShareLinks {ctx : Ctx} {now : Nat} {db : Db} {order : List ConfigId}
    {id : ShareId} {rawToken : String} {req : ShareRequest} {row : ShareTokenModel}
    (h : createAllShareLinks ctx now db order id rawToken req = .ok row) :
    ∃ expiration, resolveShareExpiration now req = .ok expiration ∧
      row = shareRow ctx now id rawToken req expiration none := by
  obtain ⟨expiration, hexp, h⟩ := Except.bind_eq_ok_iff.mp h
  split at h
  · contradiction
  · exact ⟨expiration, hexp, (Except.ok.inj h).symm⟩

/-- The link a resolution has found is in the table. -/
theorem id?_of_next {ctx : ShareCtx} {env : ResolveEnv} {now : Nat} {stage stage' : ResolveStage}
    {s : ShareStore} {id : ShareId}
    (hnext : resolveStep ctx env now stage s = .next stage' s) (hid : stage'.id? = some id) :
    stage.id? = some id ∨ ∃ row ∈ s.tokens, row.id = id := by
  cases stage with
  | checking key rawToken =>
      simp only [resolveStep, refuse] at hnext
      split at hnext
      · next share hvalid =>
        cases hnext
        obtain rfl : share.id = id := by simpa [ResolveStage.id?] using hid
        exact Or.inr ⟨share, (ShareTable.of_byHash (validShare_eq_ok_iff.mp hvalid).1).1, rfl⟩
      · split at hnext <;> cases hnext
        cases hid
  | _ =>
      simp only [resolveStep, refuse] at hnext
      repeat' split at hnext
      all_goals cases hnext
      all_goals simp_all [ResolveStage.id?]

variable {ctx : ShareCtx} {p p' : Panel} {a : ShareAction}

theorem linksSound_init (ctx : Ctx) (host : Host) : LinksSound ctx (Panel.init host) where
  ids := by simp [Panel.init]
  hashes := by simp [Panel.init]
  wellFormed := by simp [Panel.init]
  creating := by simp [Panel.init]
  revoking := by simp [Panel.init]
  resolving := by simp [Panel.init]

theorem ids_step (hstep : ShareStep ctx p a p') (h : (p.tokens.map (·.id)).Nodup) :
    (p'.tokens.map (·.id)).Nodup := by
  cases tokens_of_step hstep with
  | same _ htokens => rwa [htokens]
  | inserted r env rawToken row hr hcom hins =>
      obtain ⟨htokens, hnew⟩ := ShareTable.of_insert hins
      rw [htokens, List.map_append]
      refine List.nodup_append.mpr ⟨h, by simp, ?_⟩
      intro i hi j hj
      obtain ⟨old, hold, rfl⟩ := List.mem_map.mp hi
      obtain rfl : j = row.id := by simpa using hj
      exact (hnew old hold).1
  | updated _ id change hchange htokens =>
      rw [htokens, ShareTable.map_id_update hchange]
      exact h

theorem hashes_step (hstep : ShareStep ctx p a p') (h : ∀ {row row'}, row ∈ p.tokens →
    row' ∈ p.tokens → row.tokenHash = row'.tokenHash → row = row') {row row' : ShareTokenModel}
    (hrow : row ∈ p'.tokens) (hrow' : row' ∈ p'.tokens) (heq : row.tokenHash = row'.tokenHash) :
    row = row' := by
  cases tokens_of_step hstep with
  | same _ htokens =>
      rw [htokens] at hrow hrow'
      exact h hrow hrow' heq
  | inserted r env rawToken new hr hcom hins =>
      obtain ⟨htokens, hnew⟩ := ShareTable.of_insert hins
      rw [htokens, List.mem_append, List.mem_singleton] at hrow hrow'
      obtain hrow | rfl := hrow
      · obtain hrow' | rfl := hrow'
        · exact h hrow hrow' heq
        · exact absurd heq (hnew row hrow).2
      · obtain hrow' | rfl := hrow'
        · exact absurd heq.symm (hnew row' hrow').2
        · rfl
  | updated _ id change hchange htokens =>
      rw [htokens, ShareTable.mem_update] at hrow hrow'
      obtain ⟨old, hold, rfl⟩ := hrow
      obtain ⟨old', hold', rfl⟩ := hrow'
      rw [tokenHash_of_link (ShareTable.link_updateRow hchange id old),
        tokenHash_of_link (ShareTable.link_updateRow hchange id old')] at heq
      rw [h hold hold' heq]

/-- A step of the share links keeps them sound. -/
theorem linksSound_share (hstep : ShareStep ctx p a p') (h : LinksSound ctx.toCtx p) :
    LinksSound ctx.toCtx p' := by
  have hkeep {id : ShareId} (hid : ∃ row ∈ p.tokens, row.id = id) :
      ∃ row ∈ p'.tokens, row.id = id := by
    obtain ⟨row, hrow, rfl⟩ := hid
    obtain ⟨row', hrow', hlink⟩ := links_mono hstep hrow
    exact ⟨row', hrow', id_of_link hlink⟩
  constructor
  · exact ids_step hstep h.ids
  · intro row row' hrow hrow' heq
    exact hashes_step hstep h.hashes hrow hrow' heq
  · intro row' hrow'
    obtain ⟨row, hrow, hlink⟩ | ⟨r, rawToken, hr⟩ := row_of_tokens hstep hrow'
    · exact wellFormed_of_link hlink (h.wellFormed row hrow)
    · exact (h.creating r rawToken row' hr).1
  · intro r rawToken row hr'
    cases stage_of_step hstep hr' with
    | same _ _ hr => exact h.creating r rawToken row hr
    | create id _ c req _ hrow =>
        obtain ⟨expiration, config, version, hexp, -, -, -, rfl⟩ := of_createShareLink hrow
        exact planned_wellFormed hexp
    | createAll id _ req _ hrow =>
        obtain ⟨expiration, hexp, rfl⟩ := of_createAllShareLinks hrow
        exact planned_wellFormed hexp
  · intro r id hr'
    cases stage_of_step hstep hr' with
    | same _ _ hr => exact hkeep (h.revoking r id hr)
    | startRevoke _ row hrow => exact hkeep ⟨row, hrow, rfl⟩
  · intro r stage id hr' hid
    cases stage_of_step hstep hr' with
    | same _ _ hr => exact hkeep (h.resolving r stage id hr hid)
    | resolve rawToken clientIp => simp [ResolveStage.id?] at hid
    | resolveNext env st _ hr hnext =>
        obtain hst | hfound := id?_of_next hnext hid
        · exact hkeep (h.resolving r st id hr hst)
        · exact hkeep hfound

theorem linksSound_step (h : LinksSound ctx.toCtx p) (a : PanelAction) :
    LinksSound ctx.toCtx (p.step ctx a) := by
  cases a with
  | lifecycle a => exact ⟨h.ids, h.hashes, h.wellFormed, h.creating, h.revoking, h.resolving⟩
  | share a =>
      obtain ⟨heq, -⟩ | hstep := share_cases ctx p a
      · show LinksSound ctx.toCtx (p.share ctx a)
        rwa [heq]
      · exact linksSound_share hstep h

/-- **In every reachable panel the links are sound.** -/
theorem linksSound_run (ctx : ShareCtx) (host : Host) (as : List PanelAction) :
    LinksSound ctx.toCtx (runPanel ctx host as) :=
  Machine.run_invariant (I := LinksSound ctx.toCtx) (fun _ a h => linksSound_step h a)
    (linksSound_init ctx.toCtx host) as

/-! ## what a run names -/

/-- A share request no action is about is left alone. -/
theorem shares_of_ne (hstep : ShareStep ctx p a p') {r : RequestId} (h : a.request ≠ some r) :
    p'.shares r = p.shares r := by
  cases hstep <;> simp [ShareAction.request, Function.update_apply] at * <;> grind

/-- The share request an action is about. -/
def PanelAction.shareRequest : PanelAction → Option RequestId
  | .share a => a.request
  | .lifecycle _ => none

/-- After a run, only the share requests it names can be there. -/
theorem shares_eq_none_of_run {host : Host} {as : List PanelAction} {r : RequestId}
    (h : r ∉ as.filterMap PanelAction.shareRequest) : (runPanel ctx host as).shares r = none := by
  refine Machine.run_invariant_of_meets (I := fun p : Panel => p.shares r = none)
    (C := fun _ a => a.shareRequest ≠ some r) (fun p a hI hC => ?_) rfl ?_
  · cases a with
    | lifecycle a => exact hI
    | share a =>
        obtain ⟨heq, -⟩ | hstep := share_cases ctx p a
        · show (p.share ctx a).shares r = none
          rw [heq, hI]
        · exact (shares_of_ne hstep hC).trans hI
  · rw [Machine.meets_iff]
    rintro bs a cs rfl hr
    exact h (List.mem_filterMap.mpr ⟨a, by simp, hr⟩)

/-! ## a panel to run examples on -/

/-- The installation of `Ctx.sample`, with share links. -/
def ShareCtx.sample : ShareCtx where
  toCtx := { Ctx.sample with sha256Hex := id }
  lower := PyStr.asciiLower
  shareRule := { windowSeconds := 60 }

/-- A document a link can be made of. -/
def shareableConfigData (port : Int) : PyVal :=
  .dict [("inbounds", .list [.dict [("tag", .str "vless"), ("port", .int port),
    ("settings", .dict [("clients", .list [.dict [("id", .str "client")]])]),
    ("streamSettings", .dict [("xhttpSettings", .dict [])])]])]

/-- A build that returns such a document. -/
def shareableBuild (port : Int) : TaskEnv where
  built := .ok
    { configData := shareableConfigData port, port := port, privateKey := "", publicKey := "" }

/-- The first version of a config. -/
def buildConfig (r : RequestId) (c : ConfigId) (e : ExecutionId) (port : Int) :
    List PanelAction :=
  let actions : List Action :=
    [.create r c "c" .xray .xrayXhttp none none, .advance r { publish := .accepted r },
      .advance r {}, .deliver e r] ++ List.replicate 8 (.work e (shareableBuild port)) ++
      [.finish r]
  actions.map .lifecycle

/-- Config 0 is built, and a permanent link pinned to its first version is
created. -/
def pinnedLink : List PanelAction :=
  buildConfig 0 0 0 443 ++ [.share (.create 0 0 "token" 0 {}), .share (.advance 0 {})]

/-- An installation with the Reality profile. -/
def ShareCtx.reality : ShareCtx :=
  { ShareCtx.sample with
    settings := { ShareCtx.sample.settings with
      profiles := fun
        | .xrayReality => some sampleProfile
        | _ => none } }

/-- A Reality document with a destination. -/
def realityConfigData (dest : String) : PyVal :=
  .dict [("inbounds", .list [.dict [("tag", .str "vless"), ("port", .int 443),
    ("settings", .dict [("clients", .list [.dict [("id", .str "client")]])]),
    ("streamSettings", .dict [("realitySettings", .dict [("dest", .str dest),
      ("shortIds", .list [.str "0a"]), ("privateKey", .str "key"),
      ("serverNames", .list [.str "a.example", .str "b.example"])])])]])]

/-- A build that returns such a document. -/
def realityBuild (dest : String) : TaskEnv where
  built := .ok
    { configData := realityConfigData dest, port := 443, privateKey := "key", publicKey := "pbk" }

/-- Config 0 is built with Reality, and a permanent link pinned to its first
version is created. -/
def pinnedReality (dest : String) : List PanelAction :=
  let actions : List Action :=
    [.create 0 0 "c" .xray .xrayReality none none, .advance 0 { publish := .accepted 0 },
      .advance 0 {}, .deliver 0 0] ++ List.replicate 8 (.work 0 (realityBuild dest)) ++
      [.finish 0]
  actions.map .lifecycle ++ [.share (.create 0 0 "token" 0 {}), .share (.advance 0 {})]

end VpnPanel
