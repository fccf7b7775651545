import VpnPanel.DeletedConfigs

/-!
# VpnPanel.RegenerateAll

`RegenerateAllConfigsUseCase.execute` among the other requests and the workers.

The configs are listed in pages by `OFFSET`, each page after a count of its own,
and regenerated one after the other; between any two statements the rest of the
system takes steps.  Rows that are created or deleted meanwhile shift the later
pages, and a config deleted before its turn ends the whole call:
`coversOnce_of_steady` says of which runs that is not so.
-/

namespace VpnPanel

/-! ## the call -/

/-- A page of `list_active` and what is left of it. -/
structure Page where
  offset : Nat
  total : Nat
  len : Nat
  rest : List ConfigId

/-- The stop test of the loop. -/
def Page.isLast (page : Page) : Bool := page.total ≤ page.offset + page.len

/-- Where the call stands. -/
inductive AllStage where
  /-- It has not begun. -/
  | idle
  /-- The count of `list_active` is next. -/
  | counting (offset : Nat)
  /-- Its page is next. -/
  | paging (offset total : Nat)
  /-- The rest of a page is next. -/
  | working (page : Page)
  /-- Inside `regenerate.execute` of `c`. -/
  | regenerating (page : Page) (c : ConfigId)
  | finished
  | aborted (exc : PyErr)

/-- What the surroundings of a step of the call decide; `rows` is the order the
database finds the active configs in. -/
structure AllEnv extends RequestEnv where
  rows : List ConfigId := []

/-- The system with a call. -/
structure AllPanel where
  world : World
  /-- `created_at` of the configs, oldest first. -/
  created : List (ConfigId × Nat)
  stage : AllStage
  queued : List (ConfigId × TaskId)
  skipped : List (ConfigId × String)
  /-- The configs that were active when the call began. -/
  atStart : ConfigId → Bool
  /-- What the pages have returned so far. -/
  listed : List ConfigId

/-- `limit`. -/
def pageLimit : Nat := 100

/-- An exception of `publish_task`. -/
def brokerError : PyErr := ⟨.other "BrokerError", ""⟩

/-- Why `regenerate.execute` refuses a config. -/
def executeReason (config : VpnConfigModel) : Option String :=
  if config.currentVersion = none then some "Config has no version to regenerate"
  else if config.status.busy then some "Config is busy"
  else none

/-- Why `prepare_regenerate` refuses it. -/
def prepareReason (c : ConfigId) : Option VpnConfigModel → String
  | none => (configNotFound c).msg
  | some config =>
      if config.currentVersion = none then "Config has no version to regenerate from"
      else "Config is not ready for regenerate"

namespace AllPanel

/-- An installation without configs. -/
def init (host : Host) : AllPanel where
  world := World.init host
  created := []
  stage := .idle
  queued := []
  skipped := []
  atStart _ := false
  listed := []

variable (ctx : Ctx) (r : RequestId) (p : AllPanel)

def isActive (c : ConfigId) : Bool := (p.world.db.getActive c).isSome

/-- The rows with `is_active`. -/
def activeIds : List ConfigId := (p.created.map Prod.fst).filter p.isActive

/-- When a config was created. -/
def createdAt (c : ConfigId) : Nat := ((p.created.find? fun e => e.1 = c).map Prod.snd).getD 0

/-- An order the database may find the active configs in: `created_at`
descending, which leaves rows of one moment in any order. -/
def IsListing (rows : List ConfigId) : Prop :=
  rows.Perm p.activeIds ∧ rows.Pairwise fun c c' => p.createdAt c' ≤ p.createdAt c

instance (rows : List ConfigId) : Decidable (p.IsListing rows) :=
  inferInstanceAs (Decidable (_ ∧ _))

/-- A step of the rest of the system. -/
def others (a : Action) : AllPanel :=
  if a.request = some r then p
  else
    let world := step ctx p.world a
    let created := match a with
      | .create _ c _ _ _ _ _ =>
          if (p.world.db.configs c).isNone && (world.db.configs c).isSome then
            p.created ++ [(c, p.world.now)]
          else p.created
      | _ => p.created
    { p with world := world, created := created }

/-- The page of `list_active`. -/
def selectPage (env : AllEnv) (offset total : Nat) : AllPanel :=
  if p.IsListing env.rows then
    let items := (env.rows.drop offset).take pageLimit
    { p with stage := .working ⟨offset, total, items.length, items⟩, listed := p.listed ++ items }
  else p

/-- The loop over a page: the first checks of `regenerate.execute`. -/
def nextConfig (env : AllEnv) (page : Page) : AllPanel :=
  match page.rest with
  | [] =>
      if page.isLast then
        match env.committed with
        | some exc => { p with stage := .aborted exc }
        | none => { p with stage := .finished }
      else { p with stage := .counting (page.offset + page.len) }
  | c :: rest =>
      let page := { page with rest := rest }
      match p.world.db.getActive c with
      | none => { p with stage := .aborted configNotFoundError }
      | some config =>
          match executeReason config with
          | some reason =>
              { p with stage := .working page, skipped := p.skipped ++ [(c, reason)] }
          | none =>
              { p with
                world := step ctx p.world (.regenerate r c)
                stage := .regenerating page c }

/-- The rest of `regenerate.execute`. -/
def regenerateStep (env : AllEnv) (page : Page) (c : ConfigId) : AllPanel :=
  let world := step ctx p.world (.advance r env.toRequestEnv)
  let p' := { p with world := world }
  match p.world.requests r, world.requests r with
  | some (.regenerateChecked _), none =>
      { p' with
        stage := .working page
        skipped := p.skipped ++ [(c, prepareReason c (p.world.db.getActive c))] }
  | some (.regeneratePrepared _ _), none =>
      { p' with stage := .aborted (env.committed.getD (configNotFound c)) }
  | some (.publishing _), none => { p' with stage := .aborted brokerError }
  | some (.published _ t), none =>
      if env.committed.isSome || (p.world.db.getActive c).isNone then
        { p' with stage := .aborted (env.committed.getD (configNotFound c)) }
      else { p' with stage := .working page, queued := p.queued ++ [(c, t)] }
  | _, _ => p'

/-- The next step of the call. -/
def own (env : AllEnv) : AllPanel :=
  match p.stage with
  | .idle =>
      if (p.world.requests r).isSome then p
      else { p with stage := .counting 0, atStart := p.isActive }
  | .counting offset => { p with stage := .paging offset p.activeIds.length }
  | .paging offset total => p.selectPage env offset total
  | .working page => p.nextConfig ctx r env page
  | .regenerating page c => p.regenerateStep ctx r env page c
  | .finished | .aborted _ => p

end AllPanel

/-- What can happen around the call. -/
inductive AllAction where
  | others (a : Action)
  | own (env : AllEnv)

/-- One step of the system with a call under request `r`. -/
def allStep (ctx : Ctx) (r : RequestId) (p : AllPanel) : AllAction → AllPanel
  | .others a => p.others ctx r a
  | .own env => p.own ctx r env

/-- A run from an installation without configs. -/
abbrev runAll (ctx : Ctx) (r : RequestId) (host : Host) (as : List AllAction) : AllPanel :=
  Machine.run (allStep ctx r) (AllPanel.init host) as

/-- The configs the call has dealt with. -/
def AllPanel.answered (p : AllPanel) : List ConfigId :=
  p.queued.map Prod.fst ++ p.skipped.map Prod.fst

/-- The call has not raised, and when it has returned, every config that was
active from its start on is queued or skipped, once. -/
structure CoversOnce (p : AllPanel) : Prop where
  returns : ∀ exc, p.stage ≠ .aborted exc
  once : p.stage = .finished → ∀ c, p.atStart c = true → p.isActive c = true →
    p.answered.count c = 1

/-- A step of the call that no other request gets in the way of. -/
def Steady (r : RequestId) (p : AllPanel) : AllAction → Prop
  | .others _ => True
  | .own env =>
      match p.stage with
      | .paging offset total => p.IsListing env.rows →
          -- the rows before the offset are those that were listed, and none are left out at the end
          (∀ c, p.atStart c = true → p.isActive c = true →
            (c ∈ env.rows.take offset ↔ c ∈ p.listed)) ∧
          (env.rows.length ≤ total ∨ env.rows.length ≤ offset + pageLimit)
      | .working page =>
          match page.rest with
          | [] => env.committed = none
          | c :: _ => p.isActive c = true
      | .regenerating _ c =>
          match p.world.requests r with
          | some (.regeneratePrepared _ _) | some (.published _ _) =>
              env.committed = none ∧ p.isActive c = true
          | some (.publishing _) => ∃ t, env.publish = .accepted t
          | _ => True
      | _ => True

/-! ## what steps of the system leave alone -/

section World

variable {ctx : Ctx} {w w' : World} {a : Action} {c : ConfigId}

/-- A config that was not there comes from a create. -/
theorem create_of_step {row' : VpnConfigModel} (hstep : Step ctx w a w')
    (hnone : w.db.configs c = none) (hsome : w'.db.configs c = some row') :
    ∃ r name protocol profile policy host, a = .create r c name protocol profile policy host := by
  have hupdate {db : Db} {c₀ : ConfigId} {change : VpnConfigModel → VpnConfigModel}
      (hdb : db.configs = w.db.configs) : (db.updateConfig c₀ change).configs c ≠ some row' := by
    intro h
    obtain ⟨row, hrow, -⟩ := Db.exists_of_updateConfig h
    rw [hdb, hnone] at hrow
    cases hrow
  have hsame {db : Db} (hdb : db.configs = w.db.configs) : db.configs c ≠ some row' := by
    rw [hdb, hnone]
    simp
  cases hstep with
  | create r c' name protocol profile policy host ps hprofile hr hc =>
      by_cases hcc : c = c'
      · subst hcc
        exact ⟨r, name, protocol, profile, policy, host, rfl⟩
      · have hold : w.db.configs c = some row' := by
          simpa [Db.setConfig_configs_ne _ _ hcc] using hsome
        rw [hnone] at hold
        cases hold
  | editNext r env stage stage' s hr hlock hmove =>
      exact absurd hsome (hsame (by simp [hmove.db_eq]))
  | editDone r env stage s out hr hend =>
      cases hend with
      | committed plan loaded hcom => exact absurd hsome (hupdate (by simp))
      | _ => exact absurd hsome (hsame rfl)
  | regenerateCommit r env c' loaded row v hr hlock hc hcur => exact absurd hsome (hupdate rfl)
  | finishRequest r env c' t hr hlock => exact absurd hsome (hupdate rfl)
  | deleteCommit r env c' hr hlock hcom => exact absurd hsome (hupdate rfl)
  | policyCommit r env c' policy loaded hr hlock hcom => exact absurd hsome (hupdate rfl)
  | taskNext e env x stage s he hlock hmove =>
      exact absurd hsome (hsame (by simp [hmove.db_eq]))
  | taskDone e env x out s he hlock hend =>
      obtain ⟨task, payload, stage⟩ := x
      rw [World.report_db] at hsome
      cases hend with
      | built vrow hcom => exact absurd hsome (hupdate rfl)
      | marked loaded hcom => exact absurd hsome (hupdate rfl)
      | failed exc loaded => exact absurd hsome (hupdate rfl)
      | lost exc hnone => exact absurd hsome (hsame rfl)
  | _ => exact absurd hsome (hsame rfl)

theorem isSome_step (ctx : Ctx) (w : World) (a : Action) {c : ConfigId}
    (h : (w.db.configs c).isSome = true) : ((step ctx w a).db.configs c).isSome = true := by
  obtain heq | hstep : step ctx w a = w ∨ Step ctx w a (step ctx w a) := step_cases a
  · rwa [heq]
  · obtain ⟨row, hrow⟩ := Option.isSome_iff_exists.mp h
    obtain ⟨row', hrow'⟩ := configs_mono hstep hrow
    simp [hrow']

/-- A config that is active after a step, and was there before it, was active
before it. -/
theorem active_of_step (ctx : Ctx) (w : World) (a : Action) {c : ConfigId}
    (hc : (w.db.configs c).isSome = true) (h : ((step ctx w a).db.getActive c).isSome = true) :
    (w.db.getActive c).isSome = true := by
  obtain ⟨row, hrow⟩ := Option.isSome_iff_exists.mp hc
  cases hactive : row.isActive with
  | true => exact Option.isSome_iff_exists.mpr ⟨row, Db.getActive_eq_some_iff.mpr ⟨hrow, hactive⟩⟩
  | false =>
      obtain heq | hstep : step ctx w a = w ∨ Step ctx w a (step ctx w a) := step_cases a
      · rwa [heq] at h
      · obtain ⟨row', hrow', hactive'⟩ := deleted_step hstep ⟨row, hrow, hactive⟩
        obtain ⟨row'', hrow''⟩ := Option.isSome_iff_exists.mp h
        obtain ⟨hrow'', hactive''⟩ := Db.getActive_eq_some_iff.mp hrow''
        obtain rfl : row' = row'' := Option.some.inj (hrow'.symm.trans hrow'')
        rw [hactive'] at hactive''
        cases hactive''

/-- A config keeps having a version. -/
theorem versioned_of_step {row row' : VpnConfigModel} (hstep : Step ctx w a w')
    (hrow : w.db.configs c = some row) (hrow' : w'.db.configs c = some row')
    (h : row.currentVersion ≠ none) : row'.currentVersion ≠ none := by
  have hnet (loaded assigned : Option Nat) (current : Option Nat) (ha : assigned ≠ none)
      (hc : current ≠ none) : netChange loaded assigned current ≠ none := by
    unfold netChange
    split
    · exact hc
    · exact ha
  obtain ⟨-, -, hnone, -⟩ | ⟨old, hold, hchange⟩ := row_of_step hstep hrow'
  · rw [hrow] at hnone
    cases hnone
  · obtain rfl : row = old := Option.some.inj (hrow.symm.trans hold)
    cases hchange with
    | marked e env row x loaded he hc hstage hcom hlock hgone => exact hnet _ _ _ (by simp) h
    | built e env row x vrow he hc hstage hcom hdb hhost hgone => simp
    | _ => exact h

end World

/-! ## the invariant -/

/-- The request is inside `regenerate.execute` of `c`. -/
def RequestStage.IsRegenerate (c : ConfigId) : RequestStage → Prop
  | .regenerateChecked c' | .regeneratePrepared c' _ | .published c' _ => c' = c
  | .publishing p => p.configId = c
  | _ => False

/-- What is listed and not answered. -/
def AllStage.pending : AllStage → List ConfigId
  | .working page => page.rest
  | .regenerating page c => c :: page.rest
  | _ => []

/-- The last page has been listed. -/
def AllStage.listedLast : AllStage → Bool
  | .working page | .regenerating page _ => page.isLast
  | .finished => true
  | _ => false

/-- The request of the call stands where the call does. -/
def AllStage.Holds (w : World) (r : RequestId) : AllStage → Prop
  | .regenerating _ c => (∃ stage, w.requests r = some stage ∧ stage.IsRegenerate c) ∧
      ∃ row, w.db.configs c = some row ∧ row.currentVersion ≠ none
  | .idle => True
  | _ => w.requests r = none

/-- What holds all along a run of steady steps. -/
structure Covering (r : RequestId) (p : AllPanel) : Prop where
  nodup : (p.created.map Prod.fst).Nodup
  logged : ∀ c, (p.world.db.configs c).isSome = true ↔ c ∈ p.created.map Prod.fst
  fresh : p.stage = .idle → p.queued = [] ∧ p.skipped = [] ∧ p.listed = []
  started : ∀ c, p.atStart c = true → (p.world.db.configs c).isSome = true
  holds : p.stage.Holds p.world r
  account : ∀ c, p.answered.count c + p.stage.pending.count c = p.listed.count c
  once : ∀ c, p.atStart c = true → p.isActive c = true → p.listed.count c ≤ 1
  complete : p.stage.listedLast = true → ∀ c, p.atStart c = true → p.isActive c = true →
    c ∈ p.listed
  running : ∀ exc, p.stage ≠ .aborted exc

theorem covering_init (r : RequestId) (host : Host) : Covering r (AllPanel.init host) := by
  constructor <;> simp [AllPanel.init, AllPanel.answered, AllStage.pending, AllStage.listedLast,
    AllStage.Holds, World.init, Db.empty]

namespace Covering

variable {ctx : Ctx} {r : RequestId} {p p' : AllPanel}

/-- A config there is, of an order the database finds the active ones in. -/
theorem mem_rows (h : Covering r p) {rows : List ConfigId} (hrows : p.IsListing rows)
    {c : ConfigId} : c ∈ rows ↔ p.isActive c = true := by
  rw [hrows.1.mem_iff, AllPanel.activeIds, List.mem_filter, ← h.logged]
  constructor
  · exact And.right
  · intro hactive
    refine ⟨?_, hactive⟩
    obtain ⟨row, hrow⟩ := Option.isSome_iff_exists.mp hactive
    rw [(Db.getActive_eq_some_iff.mp hrow).1]
    rfl

theorem nodup_rows (h : Covering r p) {rows : List ConfigId} (hrows : p.IsListing rows) :
    rows.Nodup :=
  hrows.1.nodup_iff.mpr (h.nodup.filter _)

/-- Steps that create no config. -/
theorem logged_of_step (h : Covering r p) (ctx : Ctx) {a : Action}
    (ha : ∀ c r name protocol profile policy host,
      a ≠ .create r c name protocol profile policy host) (c : ConfigId) :
    ((step ctx p.world a).db.configs c).isSome = true ↔ c ∈ p.created.map Prod.fst := by
  rw [← h.logged c]
  constructor
  · intro hsome
    cases hc : p.world.db.configs c with
    | some row => rfl
    | none =>
        obtain ⟨row', hrow'⟩ := Option.isSome_iff_exists.mp hsome
        obtain heq | hstep : step ctx p.world a = p.world ∨ Step ctx p.world a _ := step_cases a
        · rw [heq, hc] at hrow'
          cases hrow'
        · obtain ⟨r', name, protocol, profile, policy, host, rfl⟩ := create_of_step hstep hc hrow'
          exact absurd rfl (ha c r' name protocol profile policy host)
  · exact isSome_step ctx p.world a

/-- The world takes a step, and the call one that lists nothing, or none. -/
theorem of_world (h : Covering r p) (ctx : Ctx) (a : Action) (hstart : p'.atStart = p.atStart)
    (hworld : p'.world = step ctx p.world a) (hnodup : (p'.created.map Prod.fst).Nodup)
    (hlogged : ∀ c, (p'.world.db.configs c).isSome = true ↔ c ∈ p'.created.map Prod.fst)
    (hlisted : p'.listed = p.listed)
    (hfresh : p'.stage = .idle → p'.queued = [] ∧ p'.skipped = [] ∧ p'.listed = [])
    (hholds : p'.stage.Holds p'.world r)
    (haccount : ∀ c, p'.answered.count c + p'.stage.pending.count c = p.listed.count c)
    (hlast : p'.stage.listedLast = true → p.stage.listedLast = true)
    (hrunning : ∀ exc, p'.stage ≠ .aborted exc) : Covering r p' := by
  have hactive : ∀ c, p'.atStart c = true → p'.isActive c = true →
      p.atStart c = true ∧ p.isActive c = true := by
    intro c hc hact
    rw [hstart] at hc
    refine ⟨hc, active_of_step ctx p.world a (h.started c hc) ?_⟩
    rw [← hworld]
    exact hact
  constructor
  · exact hnodup
  · exact hlogged
  · exact hfresh
  · intro c hc
    rw [hstart] at hc
    rw [hworld]
    exact isSome_step ctx p.world a (h.started c hc)
  · exact hholds
  · rw [hlisted]
    exact haccount
  · intro c hc hact
    rw [hlisted]
    exact h.once c (hactive c hc hact).1 (hactive c hc hact).2
  · intro hend c hc hact
    rw [hlisted]
    exact h.complete (hlast hend) c (hactive c hc hact).1 (hactive c hc hact).2
  · exact hrunning

/-- The call takes a step of its own that does not touch the world. -/
theorem of_stage (h : Covering r p) {stage : AllStage} {skipped : List (ConfigId × String)}
    (hstage : stage ≠ .idle) (hholds : stage.Holds p.world r)
    (haccount : ∀ c, (p.queued.map Prod.fst ++ skipped.map Prod.fst).count c +
      stage.pending.count c = p.listed.count c)
    (hlast : stage.listedLast = true → p.stage.listedLast = true)
    (hrunning : ∀ exc, stage ≠ .aborted exc) :
    Covering r { p with stage := stage, skipped := skipped } where
  nodup := h.nodup
  logged := h.logged
  fresh hidle := absurd hidle hstage
  started := h.started
  holds := hholds
  account := haccount
  once := h.once
  complete hend := h.complete (hlast hend)
  running := hrunning

/-! ## the others -/

/-- The call stands where it stood. -/
theorem holds_of_step (h : Covering r p) {a : Action} (hr : a.request ≠ some r) :
    p.stage.Holds (step ctx p.world a) r := by
  have hreq : (step ctx p.world a).requests r = p.world.requests r := step_requests_of_ne p.world hr
  have hholds := h.holds
  cases hstage : p.stage with
  | regenerating page c =>
      rw [hstage] at hholds
      obtain ⟨hrequest, row, hrow, hversion⟩ := hholds
      refine ⟨by rwa [hreq], ?_⟩
      obtain heq | hstep : step ctx p.world a = p.world ∨ Step ctx p.world a _ := step_cases a
      · rw [heq]
        exact ⟨row, hrow, hversion⟩
      · obtain ⟨row', hrow'⟩ := configs_mono hstep hrow
        exact ⟨row', hrow', versioned_of_step hstep hrow hrow' hversion⟩
  | idle => trivial
  | counting _ | paging _ _ | working _ | finished | aborted _ =>
      rw [hstage] at hholds
      exact hreq.trans hholds

/-- A step of another request that creates no config. -/
theorem others_of_ne (h : Covering r p) {a : Action} (hr : a.request ≠ some r)
    (ha : ∀ c r name protocol profile policy host,
      a ≠ .create r c name protocol profile policy host) :
    Covering r { p with world := step ctx p.world a } :=
  h.of_world ctx a rfl rfl h.nodup (h.logged_of_step ctx ha) rfl h.fresh
    (h.holds_of_step hr) h.account
    id h.running

theorem others (h : Covering r p) (a : Action) : Covering r (p.others ctx r a) := by
  unfold AllPanel.others
  split
  · exact h
  · next hr =>
    cases a with
    | create r' c name protocol profile policy host =>
        have hholds : p.stage.Holds
            (step ctx p.world (.create r' c name protocol profile policy host)) r :=
          h.holds_of_step hr
        have hsame : ∀ c', c' ≠ c → (((step ctx p.world
            (.create r' c name protocol profile policy host)).db.configs c').isSome = true ↔
            c' ∈ p.created.map Prod.fst) := by
          intro c' hne
          rw [← h.logged c']
          constructor
          · intro hsome
            cases hc : p.world.db.configs c' with
            | some row => rfl
            | none =>
                obtain ⟨row', hrow'⟩ := Option.isSome_iff_exists.mp hsome
                obtain heq | hstep : step ctx p.world _ = p.world ∨ Step ctx p.world _ _ :=
                  step_cases _
                · rw [heq, hc] at hrow'
                  cases hrow'
                · obtain ⟨_, _, _, _, _, _, heq⟩ := create_of_step hstep hc hrow'
                  cases heq
                  exact absurd rfl hne
          · exact isSome_step ctx p.world _
        by_cases hnew : ((p.world.db.configs c).isNone && ((step ctx p.world
            (.create r' c name protocol profile policy host)).db.configs c).isSome) = true
        · simp only [hnew, if_true]
          rw [Bool.and_eq_true] at hnew
          have habsent : c ∉ p.created.map Prod.fst := by
            rw [← h.logged c]
            simp [Option.isNone_iff_eq_none.mp hnew.1]
          refine h.of_world ctx (.create r' c name protocol profile policy host) rfl rfl ?_ ?_ rfl
            h.fresh hholds h.account id h.running
          · rw [List.map_append, List.nodup_append]
            refine ⟨h.nodup, by simp, ?_⟩
            rintro c' hc' c'' hc'' rfl
            obtain rfl : c' = c := by simpa using hc''
            exact habsent hc'
          · intro c'
            rw [List.map_append, List.mem_append]
            by_cases hc' : c' = c
            · subst hc'
              simp [hnew.2]
            · rw [hsame c' hc']
              simp [hc']
        · simp only [hnew, Bool.false_eq_true, if_false]
          refine h.of_world ctx (.create r' c name protocol profile policy host) rfl rfl h.nodup ?_
            rfl
            h.fresh hholds h.account id h.running
          intro c'
          by_cases hc' : c' = c
          · subst hc'
            rw [← h.logged c']
            cases hrow : p.world.db.configs c' with
            | none => simpa [hrow] using hnew
            | some row =>
                have hsome : (p.world.db.configs c').isSome = true := by simp [hrow]
                simp [isSome_step ctx p.world _ hsome]
          · exact hsame c' hc'
    | _ => exact h.others_of_ne hr (by simp)

/-! ## the call -/

theorem start (h : Covering r p) (hstage : p.stage = .idle) (hr : p.world.requests r = none) :
    Covering r { p with stage := .counting 0, atStart := p.isActive } := by
  obtain ⟨hqueued, hskipped, hlisted⟩ := h.fresh hstage
  refine ⟨h.nodup, h.logged, by simp, ?_, hr, ?_, ?_, by simp [AllStage.listedLast], by simp⟩
  · intro c hc
    obtain ⟨row, hrow⟩ := Option.isSome_iff_exists.mp hc
    rw [(Db.getActive_eq_some_iff.mp hrow).1]
    rfl
  · simp [AllPanel.answered, hqueued, hskipped, hlisted, AllStage.pending]
  · simp [hlisted]

theorem selectPage (h : Covering r p) {env : AllEnv} {offset total : Nat}
    (hstage : p.stage = .paging offset total) (hsteady : Steady r p (.own env)) :
    Covering r (p.selectPage env offset total) := by
  unfold AllPanel.selectPage
  split
  swap
  · exact h
  next hrows =>
  simp only [Steady, hstage] at hsteady
  obtain ⟨hshift, hleft⟩ := hsteady hrows
  have hnodup := h.nodup_rows hrows
  have hsplit : (env.rows.take offset ++ env.rows.drop offset).Nodup := by
    rwa [List.take_append_drop]
  have hdisjoint := (List.nodup_append.mp hsplit).2.2
  have hholds := h.holds
  have haccount := h.account
  simp only [hstage, AllStage.Holds, AllStage.pending, List.count_nil,
    Nat.add_zero] at hholds haccount
  refine ⟨h.nodup, h.logged, by simp, h.started, hholds, ?_, ?_, ?_, by simp⟩
  · intro c
    have hc := haccount c
    rw [List.count_append, ← hc]
    rfl
  · intro c hc hactive
    rw [List.count_append]
    by_cases hlisted : c ∈ p.listed
    · have htake := (hshift c hc hactive).mpr hlisted
      have hnot : c ∉ (env.rows.drop offset).take pageLimit := fun hmem =>
        hdisjoint c htake c (List.mem_of_mem_take hmem) rfl
      have hone := h.once c hc hactive
      rw [List.count_eq_zero_of_not_mem hnot]
      exact hone
    · have hone : ((env.rows.drop offset).take pageLimit).Nodup :=
        (hnodup.drop).take
      rw [List.count_eq_zero_of_not_mem hlisted, Nat.zero_add]
      exact List.nodup_iff_count_le_one.mp hone c
  · intro hlast c hc hactive
    simp only [AllStage.listedLast, Page.isLast, decide_eq_true_eq, List.length_take,
      List.length_drop] at hlast
    have hall : (env.rows.drop offset).take pageLimit = env.rows.drop offset := by
      refine List.take_of_length_le ?_
      rw [List.length_drop]
      obtain hle | hle := hleft <;> omega
    rw [hall, List.mem_append]
    have hmem : c ∈ env.rows.take offset ++ env.rows.drop offset := by
      rw [List.take_append_drop]
      exact (h.mem_rows hrows).mpr hactive
    obtain hmem | hmem := List.mem_append.mp hmem
    · exact Or.inl ((hshift c hc hactive).mp hmem)
    · exact Or.inr hmem

theorem nextConfig (h : Covering r p) {env : AllEnv} {page : Page}
    (hstage : p.stage = .working page) (hsteady : Steady r p (.own env)) :
    Covering r (p.nextConfig ctx r env page) := by
  have hholds : p.world.requests r = none := by simpa [hstage, AllStage.Holds] using h.holds
  have haccount := h.account
  simp only [hstage, AllStage.pending] at haccount
  simp only [Steady, hstage] at hsteady
  unfold AllPanel.nextConfig
  cases hrest : page.rest with
  | nil =>
      simp only [hrest] at hsteady haccount
      simp only [hsteady]
      split
      · next hlast =>
        exact h.of_stage (by simp) hholds haccount (fun _ => by simpa [hstage, AllStage.listedLast])
          (by simp)
      · exact h.of_stage (by simp) hholds haccount (by simp [AllStage.listedLast]) (by simp)
  | cons c rest =>
      simp only [hrest] at hsteady haccount
      obtain ⟨config, hconfig⟩ := Option.isSome_iff_exists.mp hsteady
      simp only [hconfig]
      cases hreason : executeReason config with
      | some reason =>
          refine h.of_stage (by simp) hholds ?_ (by simp [hstage, AllStage.listedLast, Page.isLast])
            (by simp)
          intro c'
          have hc' := haccount c'
          simp only [AllPanel.answered, AllStage.pending, List.count_append, List.count_cons,
            List.map_append, List.map_cons, List.map_nil, List.count_nil] at hc' ⊢
          omega
      | none =>
          -- `get_by_id` has found a config that can be regenerated
          obtain ⟨hcurrent, hbusy⟩ : config.currentVersion ≠ none ∧ config.status.busy = false := by
            unfold executeReason at hreason
            split at hreason
            · cases hreason
            · next hcurrent =>
              split at hreason
              · cases hreason
              · next hbusy => exact ⟨hcurrent, by simpa using hbusy⟩
          have hstep : step ctx p.world (.regenerate r c) =
              p.world.setRequest r (some (.regenerateChecked c)) := by
            simp [step, World.regenerate, hholds, hconfig, hcurrent, hbusy]
          refine h.of_world ctx (.regenerate r c) rfl rfl h.nodup
            (h.logged_of_step ctx (by simp)) rfl
            (by simp) ?_ haccount (by simp [hstage, AllStage.listedLast, Page.isLast]) (by simp)
          have hc := (Db.getActive_eq_some_iff.mp hconfig).1
          rw [hstep]
          exact ⟨⟨.regenerateChecked c, by simp, rfl⟩, config, hc, hcurrent⟩

end Covering

/-- A request inside `regenerate.execute`, one step on: still inside, or at an
end it can come to. -/
theorem regenerate_advance (ctx : Ctx) (env : RequestEnv) {w : World} {r : RequestId}
    {stage : RequestStage} {c : ConfigId} (hr : w.requests r = some stage)
    (hstage : stage.IsRegenerate c) :
    (∃ stage', (step ctx w (.advance r env)).requests r = some stage' ∧ stage'.IsRegenerate c) ∨
      (step ctx w (.advance r env)).requests r = none ∧
        match stage with
        | .regeneratePrepared _ _ => env.committed ≠ none ∨ ∀ row, w.db.getActive c = some row →
            row.currentVersion = none
        | .publishing _ => ∀ t, env.publish ≠ .accepted t
        | _ => True := by
  cases stage with
  | regenerateChecked c' =>
      obtain rfl := hstage
      simp only [step, World.advance, hr, World.regeneratePrepare]
      split
      · exact Or.inr ⟨by simp, trivial⟩
      · split
        · exact Or.inr ⟨by simp, trivial⟩
        · next loaded _ _ => exact Or.inl ⟨.regeneratePrepared c' loaded, by simp, rfl⟩
  | regeneratePrepared c' loaded =>
      obtain rfl := hstage
      simp only [step, World.advance, hr, World.regenerateCommit]
      split
      · exact Or.inl ⟨_, hr, rfl⟩
      · split
        · next hcommitted =>
          refine Or.inr ⟨by simp, Or.inl ?_⟩
          rw [← Option.isSome_iff_ne_none]
          exact hcommitted
        · split
          · next hnone => exact Or.inr ⟨by simp, Or.inr (by simp [hnone])⟩
          · next row hrow =>
            split
            · next hcurrent => exact Or.inr ⟨by simp, Or.inr (by simp [hrow, hcurrent])⟩
            · next v _ =>
              exact Or.inl ⟨.publishing ⟨c', row.profile, row.name, v + 1⟩, by simp, rfl⟩
  | publishing p =>
      simp only [step, World.advance, hr, World.publishTask]
      cases hpublish : env.publish with
      | accepted t =>
          simp only
          split
          · exact Or.inl ⟨_, hr, hstage⟩
          · exact Or.inl ⟨.published p.configId t, by simp, hstage⟩
      | rejected => exact Or.inr ⟨by simp, by simp⟩
      | lost t =>
          simp only
          split
          · exact Or.inl ⟨_, hr, hstage⟩
          · exact Or.inr ⟨by simp, by simp⟩
  | published c' t =>
      obtain rfl := hstage
      simp only [step, World.advance, hr, World.finishRequest]
      split
      · exact Or.inl ⟨_, hr, rfl⟩
      · split
        · exact Or.inr ⟨by simp, trivial⟩
        · exact Or.inr ⟨by simp, trivial⟩
  | _ => cases hstage

namespace Covering

variable {ctx : Ctx} {r : RequestId} {p : AllPanel}

theorem regenerateStep (h : Covering r p) {env : AllEnv} {page : Page} {c : ConfigId}
    (hstage : p.stage = .regenerating page c) (hsteady : Steady r p (.own env)) :
    Covering r (p.regenerateStep ctx r env page c) := by
  have hholds := h.holds
  rw [hstage] at hholds
  obtain ⟨⟨stage, hr, hregen⟩, row, hrow, hversion⟩ := hholds
  have haccount := h.account
  simp only [hstage, AllStage.pending] at haccount
  simp only [Steady, hstage, hr] at hsteady
  -- what the step leaves of the row
  have hrow' : ∃ row', (step ctx p.world (.advance r env.toRequestEnv)).db.configs c = some row' ∧
      row'.currentVersion ≠ none := by
    obtain heq | hstep : step ctx p.world (.advance r env.toRequestEnv) = p.world ∨
        Step ctx p.world _ _ := step_cases _
    · rw [heq]
      exact ⟨row, hrow, hversion⟩
    · obtain ⟨row', hrow'⟩ := configs_mono hstep hrow
      exact ⟨row', hrow', versioned_of_step hstep hrow hrow' hversion⟩
  have hlogged : ∀ c,
    ((step ctx p.world (.advance r env.toRequestEnv)).db.configs c).isSome = true ↔
      c ∈ p.created.map Prod.fst := h.logged_of_step ctx (by simp)
  unfold AllPanel.regenerateStep
  obtain ⟨stage', hr', hregen'⟩ | ⟨hnone, hend⟩ := regenerate_advance ctx
    env.toRequestEnv hr hregen
  · simp only [hr, hr']
    have hgoal : Covering r { p with
        world := step ctx p.world (.advance r env.toRequestEnv) } := by
      refine h.of_world ctx (.advance r env.toRequestEnv) rfl rfl h.nodup hlogged rfl
        h.fresh ?_ h.account id h.running
      rw [hstage]
      exact ⟨⟨stage', hr', hregen'⟩, hrow'⟩
    cases stage <;> exact hgoal
  · simp only [hr, hnone]
    have hanswer {queued : List (ConfigId × TaskId)} {skipped : List (ConfigId × String)}
        (hcount : ∀ c', (queued.map Prod.fst ++ skipped.map Prod.fst).count c' =
          p.answered.count c' + [c].count c') :
        Covering r { p with
          world := step ctx p.world (.advance r env.toRequestEnv)
          stage := .working page
          queued := queued
          skipped := skipped } := by
      refine h.of_world ctx (.advance r env.toRequestEnv) rfl rfl h.nodup hlogged rfl (by simp)
        hnone ?_ (by simp [hstage, AllStage.listedLast]) (by simp)
      intro c'
      have hc' := haccount c'
      have hq := hcount c'
      simp only [AllPanel.answered, AllStage.pending, List.count_append, List.count_cons,
        List.count_nil] at hc' hq ⊢
      omega
    cases stage with
    | regenerateChecked c' =>
        refine hanswer fun c' => ?_
        simp only [AllPanel.answered, List.map_append, List.map_cons, List.map_nil,
          List.count_append]
        omega
    | regeneratePrepared c' loaded =>
        obtain ⟨hcommitted, hactive⟩ := hsteady
        obtain ⟨row', hactive⟩ := Option.isSome_iff_exists.mp hactive
        obtain rfl : row = row' :=
          Option.some.inj (hrow.symm.trans (Db.getActive_eq_some_iff.mp hactive).1)
        obtain hfailed | hunversioned := hend
        · exact absurd hcommitted hfailed
        · exact absurd (hunversioned row hactive) hversion
    | publishing payload =>
        obtain ⟨t, ht⟩ := hsteady
        exact absurd ht (hend t)
    | published c' t =>
        obtain ⟨hcommitted, hactive⟩ := hsteady
        have hactive' : (p.world.db.getActive c).isNone = false := by
          rw [← Option.not_isSome, Bool.not_eq_false']
          exact hactive
        simp only [hcommitted, hactive', Option.isSome_none, Bool.or_self, Bool.false_eq_true,
          if_false]
        refine hanswer fun c' => ?_
        simp only [AllPanel.answered, List.map_append, List.map_cons, List.map_nil,
          List.count_append]
        omega
    | _ => cases hregen

theorem own (h : Covering r p) {env : AllEnv} (hsteady : Steady r p (.own env)) :
    Covering r (p.own ctx r env) := by
  unfold AllPanel.own
  cases hstage : p.stage with
  | idle =>
      simp only
      split
      · exact h
      · next hr => exact h.start hstage (by simpa using hr)
  | counting offset =>
      have hholds := h.holds
      have haccount := h.account
      rw [hstage] at hholds haccount
      exact h.of_stage (by simp) hholds haccount (by simp [AllStage.listedLast]) (by simp)
  | paging offset total => exact h.selectPage hstage hsteady
  | working page => exact h.nextConfig hstage hsteady
  | regenerating page c => exact h.regenerateStep hstage hsteady
  | finished => exact h
  | aborted exc => exact h

end Covering

/-- **Regenerate-all covers everything once**, in every run whose steps are
steady. -/
theorem coversOnce_of_steady (ctx : Ctx) (r : RequestId) (host : Host) (as : List AllAction)
    (h : Machine.Meets (allStep ctx r) (Steady r) (AllPanel.init host) as) :
    CoversOnce (runAll ctx r host as) := by
  have hcovering : Covering r (runAll ctx r host as) := by
    refine Machine.run_invariant_of_meets (fun p a hp ha => ?_) (covering_init r host) h
    cases a with
    | others a => exact hp.others a
    | own env => exact hp.own ha
  refine ⟨hcovering.running, fun hfinished c hc hactive => ?_⟩
  have haccount := hcovering.account c
  have honce := hcovering.once c hc hactive
  have hlisted := hcovering.complete (by rw [hfinished]; rfl) c hc hactive
  rw [hfinished] at haccount
  have hpos := List.count_pos_iff.mpr hlisted
  simp only [AllStage.pending, List.count_nil] at haccount
  omega

/-- Config 0 is there, with its first version, and the call has listed it. -/
def listedFirst : List AllAction :=
  firstVersion.map .others ++ [.own {}, .own {}, .own { rows := [0] }]

/-- Another request deletes config 0. -/
def deletedFirst : List AllAction :=
  [.others (.delete 1 0), .others (.advance 1 {}), .others (.advance 1 {}),
    .others (.advance 1 {})]

/-- What makes a step of a call steady, with the orders of rows and the configs at hand. -/
def steadyCheck (r : RequestId) (p : AllPanel) : AllAction → Bool
  | .others _ => true
  | .own env =>
      match p.stage with
      | .paging offset total =>
          env.rows.take offset = p.listed && env.rows.length ≤ total
      | .working page =>
          match page.rest with
          | [] => env.committed = none
          | c :: _ => p.isActive c
      | .regenerating _ c =>
          match p.world.requests r with
          | some (.regeneratePrepared _ _) | some (.published _ _) =>
              env.committed = none && p.isActive c
          | some (.publishing _) =>
              (match env.publish with | .accepted _ => true | _ => false)
          | _ => true
      | _ => true

theorem steady_of_check {r : RequestId} {p : AllPanel} {a : AllAction}
    (h : steadyCheck r p a = true) : Steady r p a := by
  unfold steadyCheck at h
  unfold Steady
  cases a with
  | others a => trivial
  | own env =>
      simp only at h ⊢
      cases hstage : p.stage with
      | paging offset total =>
          rw [hstage] at h
          obtain ⟨htake, hlength⟩ : env.rows.take offset = p.listed ∧ env.rows.length ≤ total := by
            simpa using h
          exact fun _ => ⟨fun c _ _ => by rw [htake], Or.inl hlength⟩
      | working page =>
          rw [hstage] at h
          cases hrest : page.rest <;> simpa [hrest] using h
      | regenerating page c =>
          rw [hstage] at h
          simp only at h ⊢
          split at h
          · next heq => simpa [heq] using h
          · next heq => simpa [heq] using h
          · next heq =>
            cases hpublish : env.publish <;> simp_all
          · trivial
      | _ => trivial

/-- Config `c` is created, its first version built and the task finished. -/
def builtFirst (c : ConfigId) : List Action :=
  [.create c c "c" .xray .xrayXhttp none none, .advance c { publish := .accepted c },
    .advance c {}, .deliver c c] ++ List.replicate 8 (.work c (sampleBuild 443)) ++ [.finish c]

/-- Configs whose first version is still to be built. -/
def pendingConfigs : List ConfigId := (List.range 100).map (· + 2)

/-- Config 0 has its first version, a hundred others have none, and then config 1 has its. -/
def twoPages : List Action :=
  builtFirst 0 ++ pendingConfigs.map (fun c => .create c c "c" .xray .xrayXhttp none none) ++
    [.tick] ++ builtFirst 1

/-- One order the rows are found in. -/
def newestFirst : List ConfigId := 1 :: pendingConfigs ++ [0]

/-- A config is regenerated. -/
def regenerated (t : TaskId) : List AllAction :=
  [.own {}, .own {}, .own {}, .own { publish := .accepted t }, .own {}]

/-- The call regenerates one config of each page, and skips the others. -/
def callTwoPages : List AllAction :=
  [.own {}, .own {}, .own { rows := newestFirst }] ++ regenerated 2 ++
    List.replicate 99 (.own {}) ++ [.own {}, .own {}, .own { rows := newestFirst }, .own {}] ++
    regenerated 3 ++ [.own {}]

theorem callTwoPages_checks :
    Machine.Meets (allStep Ctx.sample 200) (fun p a => steadyCheck 200 p a = true)
        (AllPanel.init Host.blank) (twoPages.map .others ++ callTwoPages) ∧
      (runAll Ctx.sample 200 Host.blank (twoPages.map .others ++ callTwoPages)).queued =
        [(1, 2), (0, 3)] ∧
      (runAll Ctx.sample 200 Host.blank (twoPages.map .others ++ callTwoPages)).skipped.map
        Prod.fst = pendingConfigs := by
  decide +kernel

/-- The theorem for a call over two pages that nobody gets in the way of. -/
theorem coversOnce_of_regenerated :
    CoversOnce (runAll Ctx.sample 200 Host.blank (twoPages.map .others ++ callTwoPages)) ∧
      (runAll Ctx.sample 200 Host.blank (twoPages.map .others ++ callTwoPages)).answered =
        1 :: 0 :: pendingConfigs := by
  obtain ⟨hchecks, hqueued, hskipped⟩ := callTwoPages_checks
  have hsteady := hchecks.mono fun _ _ => steady_of_check
  refine ⟨coversOnce_of_steady Ctx.sample 200 Host.blank _ hsteady, ?_⟩
  rw [AllPanel.answered, hqueued, hskipped]
  rfl

/-- **A delete before a listed config's turn** ends the call with
`ConfigNotFound`. -/
theorem not_coversOnce_of_deleted :
    ¬ CoversOnce (runAll Ctx.sample 7 Host.blank (listedFirst ++ deletedFirst ++ [.own {}])) := by
  intro h
  exact h.returns configNotFoundError rfl

end VpnPanel
