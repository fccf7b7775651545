import VpnPanel.SharePanel
import VpnPanel.Lib.Counter

/-!
# VpnPanel.AccessCount

The access count of a link under concurrent resolutions.

`record_access` reads the count in one statement and the commit of its
transaction writes one more, so the count of a link is a counter of
`VpnPanel.Lib.Counter` whose sessions are the resolutions (`Simulates`).
`countsEvery_iff` says in which interleavings every committed resolution is
counted.
-/

namespace VpnPanel

open Counter (Access Register Undisturbed writes)

/-- The access of a step to the count of a link: `record_access` reads it, the
commit of a resolution writes it. -/
def Panel.accessEvent (id : ShareId) (p : Panel) : PanelAction → Option (Access RequestId)
  | .share (.advance r env) =>
      match p.shares r with
      | some (.resolving (.accessing _ id' _)) => if id' = id then some (.read r) else none
      | some (.resolving (.committing _ id' _ _)) =>
          if id' = id && env.committed.isNone then some (.write r) else none
      | _ => none
  | _ => none

/-- The accesses of a run to the count of a link; its writes are the committed
resolutions of the link. -/
def Panel.accesses (ctx : ShareCtx) (id : ShareId) (p : Panel) (as : List PanelAction) :
    List (Access RequestId) :=
  Machine.trace (Panel.step ctx) (Panel.accessEvent id) p as

/-- No resolution of the link stands between its read of the count and its
commit. -/
def Panel.Quiet (p : Panel) (id : ShareId) : Prop :=
  ∀ r key uris access, p.shares r ≠ some (.resolving (.committing key id uris access))

/-- The count of a link as a counter: the register holds the count of its row,
and what the resolutions about to commit have read. -/
structure Simulates (p : Panel) (id : ShareId) (s : Register RequestId) : Prop where
  value : ∃ row ∈ p.tokens, row.id = id ∧ row.accessCount = s.value
  loaded : ∀ r key uris access, p.shares r = some (.resolving (.committing key id uris access)) →
    ∃ row at_, access = some (row, at_) ∧ s.loaded r = some row.accessCount

section Steps

variable {ctx : ShareCtx} {p p' : Panel} {id : ShareId} {s : Register RequestId}

/-- Steps that are no access of the link leave its count and its readers. -/
theorem Simulates.of_same (h : Simulates p id s)
    (htokens : ∀ row ∈ p.tokens, row.id = id →
      ∃ row' ∈ p'.tokens, row'.id = id ∧ row'.accessCount = row.accessCount)
    (hshares : ∀ r key uris access,
      p'.shares r = some (.resolving (.committing key id uris access)) →
        p.shares r = some (.resolving (.committing key id uris access))) :
    Simulates p' id s where
  value := by
    obtain ⟨row, hrow, hid, hcount⟩ := h.value
    obtain ⟨row', hrow', hid', hcount'⟩ := htokens row hrow hid
    exact ⟨row', hrow', hid', hcount'.trans hcount⟩
  loaded r key uris access hr := h.loaded r key uris access (hshares r key uris access hr)

/-- The commit of another link's resolution leaves the rows of this one. -/
theorem mem_commitAccess_of_ne {tokens : ShareTable} {id' : ShareId} {row : ShareTokenModel}
    (access : Option (ShareTokenModel × Nat)) (hrow : row ∈ tokens) (hne : row.id ≠ id') :
    row ∈ commitAccess id' access tokens := by
  cases access with
  | none => exact hrow
  | some access =>
      exact ShareTable.mem_update.mpr ⟨row, hrow, by simp [ShareTable.updateRow, hne]⟩

/-- `record_access` has read the count. -/
theorem Simulates.read {r : RequestId} {key : RateKey} {uris : List String} {now : Nat}
    (h : Simulates p id s) (hids : (p.tokens.map (·.id)).Nodup)
    (htokens : p'.tokens = p.tokens)
    (hshares : p'.shares = Function.update p.shares r (some (.resolving (.committing key id uris
      ((p.tokens.byId id).map fun loaded => (loaded, now)))))) :
    Simulates p' id (s.access (.read r)) := by
  obtain ⟨row, hrow, rfl, hcount⟩ := h.value
  have hbyId : p.tokens.byId row.id = some row := ShareTable.byId_of_mem hids hrow
  constructor
  · exact ⟨row, by rwa [htokens], rfl, hcount⟩
  · intro r' key' uris' access' hr'
    rw [hshares] at hr'
    by_cases hrr : r' = r
    · subst hrr
      simp only [Function.update_self, hbyId, Option.map_some, Option.some.injEq,
        ShareStage.resolving.injEq, ResolveStage.committing.injEq] at hr'
      obtain ⟨-, -, -, rfl⟩ := hr'
      exact ⟨row, now, rfl, by simp [Register.access, hcount]⟩
    · simp only [Function.update_of_ne hrr] at hr'
      obtain ⟨row', at', haccess, hloaded⟩ := h.loaded r' key' uris' access' hr'
      exact ⟨row', at', haccess, by simpa [Register.access, hrr] using hloaded⟩

/-- The commit of a resolution has written the count. -/
theorem Simulates.write {r : RequestId} {key : RateKey} {uris : List String}
    {access : Option (ShareTokenModel × Nat)} (h : Simulates p id s)
    (hr : p.shares r = some (.resolving (.committing key id uris access)))
    (htokens : p'.tokens = commitAccess id access p.tokens)
    (hshares : p'.shares = Function.update p.shares r none) :
    Simulates p' id (s.access (.write r)) := by
  obtain ⟨loaded, at_, rfl, hloaded⟩ := h.loaded r key uris access hr
  have hwrite : s.access (.write r) =
      { value := loaded.accessCount + 1, loaded := Function.update s.loaded r none } := by
    simp [Register.access, hloaded]
  obtain ⟨row, hrow, rfl, -⟩ := h.value
  rw [hwrite]
  constructor
  · refine ⟨ShareTokenModel.recordAccess at_ loaded row, ?_, rfl, rfl⟩
    rw [htokens]
    exact ShareTable.mem_update.mpr ⟨row, hrow, by simp [ShareTable.updateRow]⟩
  · intro r' key' uris' access' hr'
    rw [hshares] at hr'
    by_cases hrr : r' = r
    · simp [hrr] at hr'
    · simp only [Function.update_of_ne hrr] at hr'
      obtain ⟨row', at', haccess, hloaded'⟩ := h.loaded r' key' uris' access' hr'
      exact ⟨row', at', haccess, by simpa [hrr] using hloaded'⟩

/-- A step and its access keep the simulation, and a session that writes has
read. -/
theorem simulates_share {a : ShareAction} (hsound : LinksSound ctx.toCtx p)
    (hstep : ShareStep ctx p a p') (h : Simulates p id s) :
    Simulates p' id (Counter.run s (p.accessEvent id (.share a)).toList) ∧
      Counter.Paired s (p.accessEvent id (.share a)).toList := by
  -- a step that gives a session a stage other than a commit of the link
  have hother {p₁ : Panel} {r : RequestId} {stage : Option ShareStage}
      (htokens : ∀ row ∈ p.tokens, row.id = id →
        ∃ row' ∈ p₁.tokens, row'.id = id ∧ row'.accessCount = row.accessCount)
      (hshares : p₁.shares = Function.update p.shares r stage)
      (hstage : ∀ key uris access, stage ≠ some (.resolving (.committing key id uris access))) :
      Simulates p₁ id s :=
    h.of_same htokens fun r' key uris access hr' => by
      rw [hshares] at hr'
      by_cases hrr : r' = r
      · exact absurd (by simpa [hrr] using hr') (hstage key uris access)
      · simpa [hrr] using hr'
  have hkeep (row : ShareTokenModel) (hrow : row ∈ p.tokens) (hid : row.id = id) :
      ∃ row' ∈ p.tokens, row'.id = id ∧ row'.accessCount = row.accessCount := ⟨row, hrow, hid, rfl⟩
  cases hstep with
  | create r _ rawToken c req row hr hrow => exact ⟨hother hkeep rfl (by simp), trivial⟩
  | createAll r _ rawToken req row hr hrow => exact ⟨hother hkeep rfl (by simp), trivial⟩
  | startRevoke _ r row hr hrow hnot hreq ha =>
      have hevent : p.accessEvent id (.share a) = none := by
        cases a with
        | advance r' env => exact absurd rfl (ha r' env)
        | _ => rfl
      rw [hevent]
      exact ⟨hother hkeep rfl (by simp), trivial⟩
  | resolve r rawToken clientIp hr => exact ⟨hother hkeep rfl (by simp), trivial⟩
  | drop r env stage hr hstage hfail hrevoke =>
      have hevent : p.accessEvent id (.share (.advance r env)) = none := by
        cases stage with
        | resolving st => exact absurd rfl (hstage st)
        | _ => simp [Panel.accessEvent, hr]
      rw [hevent]
      exact ⟨hother hkeep rfl (by simp), trivial⟩
  | created r env rawToken row tokens hr hcom hins =>
      have hevent : p.accessEvent id (.share (.advance r env)) = none := by
        simp [Panel.accessEvent, hr]
      rw [hevent]
      obtain ⟨rfl, -⟩ := ShareTable.of_insert hins
      exact ⟨hother (fun row' hrow' hid => ⟨row', List.mem_append_left _ hrow', hid, rfl⟩) rfl
        (by simp), trivial⟩
  | revoked r env id' hr hcom =>
      have hevent : p.accessEvent id (.share (.advance r env)) = none := by
        simp [Panel.accessEvent, hr]
      rw [hevent]
      refine ⟨hother (fun row' hrow' hid => ?_) rfl (by simp), trivial⟩
      refine ⟨_, ShareTable.mem_update.mpr ⟨row', hrow', rfl⟩, ?_, ?_⟩
      · rw [id_of_link (ShareTable.link_updateRow (link_revoke _) id' row'), hid]
      · unfold ShareTable.updateRow
        split <;> rfl
  | resolveNext r env stage stage' hr hwaits hnext =>
      cases stage with
      | accessing key id' uris =>
          cases hnext
          by_cases hid : id' = id
          · subst hid
            have hevent : p.accessEvent id' (.share (.advance r env)) = some (.read r) := by
              simp [Panel.accessEvent, hr]
            rw [hevent]
            exact ⟨h.read hsound.ids rfl rfl, by simp, trivial⟩
          · have hevent : p.accessEvent id (.share (.advance r env)) = none := by
              simp [Panel.accessEvent, hr, hid]
            rw [hevent]
            exact ⟨hother hkeep rfl (by simp [hid]), trivial⟩
      | committing key id' uris access =>
          simp only [resolveStep] at hnext
          split at hnext <;> cases hnext
      | _ =>
          have hevent : p.accessEvent id (.share (.advance r env)) = none := by
            simp [Panel.accessEvent, hr]
          rw [hevent]
          refine ⟨hother hkeep rfl ?_, trivial⟩
          rintro key uris access ⟨rfl⟩
          simp only [resolveStep, refuse] at hnext
          repeat' split at hnext
          all_goals cases hnext
  | refused r env stage rates hr haccess hstage hrates =>
      cases stage with
      | accessing key id' uris => exact absurd rfl (haccess key id' uris)
      | committing key id' uris access =>
          have hcom := hstage key id' uris access rfl
          have hevent : p.accessEvent id (.share (.advance r env)) = none := by
            simp [Panel.accessEvent, hr, hcom]
          rw [hevent]
          exact ⟨hother hkeep rfl (by simp), trivial⟩
      | _ =>
          have hevent : p.accessEvent id (.share (.advance r env)) = none := by
            simp [Panel.accessEvent, hr]
          rw [hevent]
          exact ⟨hother hkeep rfl (by simp), trivial⟩
  | resolved r env key id' uris access hr hcom =>
      by_cases hid : id' = id
      · subst hid
        have hevent : p.accessEvent id' (.share (.advance r env)) = some (.write r) := by
          simp [Panel.accessEvent, hr, hcom]
        rw [hevent]
        obtain ⟨loaded, at_, -, hread⟩ := h.loaded r key uris access hr
        exact ⟨h.write hr rfl rfl, by simp [hread], trivial⟩
      · have hevent : p.accessEvent id (.share (.advance r env)) = none := by
          simp [Panel.accessEvent, hr, hid]
        rw [hevent]
        refine ⟨hother (fun row' hrow' hrid => ?_) rfl (by simp), trivial⟩
        exact ⟨row', mem_commitAccess_of_ne access hrow' (by rw [hrid]; exact Ne.symm hid), hrid,
          rfl⟩

/-- The run of a panel, as the run of a counter. -/
theorem simulates_run (hsound : LinksSound ctx.toCtx p) (h : Simulates p id s)
    (as : List PanelAction) :
    Simulates (Machine.run (Panel.step ctx) p as) id
        (Counter.run s (p.accesses ctx id as)) ∧
      Counter.Paired s (p.accesses ctx id as) := by
  induction as generalizing p s with
  | nil => exact ⟨h, trivial⟩
  | cons a as ih =>
      have hstep : Simulates (p.step ctx a) id (Counter.run s (p.accessEvent id a).toList) ∧
          Counter.Paired s (p.accessEvent id a).toList := by
        cases a with
        | lifecycle a =>
            refine ⟨h.of_same (fun row hrow hid => ⟨row, hrow, hid, rfl⟩) fun _ _ _ _ hr => hr, ?_⟩
            exact Machine.meets_nil s
        | share a =>
            obtain ⟨heq, hidle⟩ | hstep := share_cases ctx p a
            · have hevent : p.accessEvent id (.share a) = none := by
                cases a with
                | advance r env =>
                    obtain hr | ⟨rawToken, clientIp, hr⟩ := hidle <;> simp [Panel.accessEvent, hr]
                | _ => rfl
              show Simulates (p.share ctx a) id _ ∧ _
              rw [heq, hevent]
              exact ⟨h, Machine.meets_nil s⟩
            · exact simulates_share hsound hstep h
      obtain ⟨hsim, hpaired⟩ := ih (linksSound_step hsound a) hstep.1
      have htrace : p.accesses ctx id (a :: as) =
          (p.accessEvent id a).toList ++ (p.step ctx a).accesses ctx id as := rfl
      rw [htrace, Counter.run, Machine.run_append, Counter.Paired, Machine.meets_append]
      exact ⟨hsim, hstep.2, hpaired⟩

end Steps

/-- The count of a link grows by the number of its resolutions that commit. -/
def CountsEvery (ctx : ShareCtx) (p : Panel) (rawToken : String) (as : List PanelAction) : Prop :=
  ∀ row, p.IsLink ctx.toCtx rawToken row →
    ∃ row', (Machine.run (Panel.step ctx) p as).IsLink ctx.toCtx rawToken row' ∧
      row'.accessCount = row.accessCount + writes (p.accesses ctx row.id as)

/-- **Which interleavings count every access.**  From a reachable panel in which
no resolution of a link is between its read of the count and its commit, the
count grows by the number of resolutions of the link that commit exactly when no
other such commit falls between the read of one of them and its own commit. -/
theorem countsEvery_iff (ctx : ShareCtx) (host : Host) (as bs : List PanelAction)
    (rawToken : String) (row : ShareTokenModel)
    (hlink : (runPanel ctx host as).IsLink ctx.toCtx rawToken row)
    (hquiet : (runPanel ctx host as).Quiet row.id) :
    CountsEvery ctx (runPanel ctx host as) rawToken bs ↔
      Undisturbed ((runPanel ctx host as).accesses ctx row.id bs) := by
  have hsound := linksSound_run ctx host as
  have hstart : Simulates (runPanel ctx host as) row.id ⟨row.accessCount, fun _ => none⟩ := by
    constructor
    · exact ⟨row, (ShareTable.of_byHash hlink).1, rfl, rfl⟩
    · intro r key uris access hr
      exact absurd hr (hquiet r key uris access)
  obtain ⟨hsim, hpaired⟩ := simulates_run hsound hstart bs
  obtain ⟨row', hlink', hsame⟩ := isLink_run hlink bs
  have hcount : row'.accessCount =
      (Counter.run ⟨row.accessCount, fun _ => none⟩
        ((runPanel ctx host as).accesses ctx row.id bs)).value := by
    obtain ⟨found, hfound, hid, hcount⟩ := hsim.value
    have hids := (linksSound_run ctx host (as ++ bs)).ids
    rw [runPanel, Machine.run_append] at hids
    rw [← hcount, List.inj_on_of_nodup_map hids hfound (ShareTable.of_byHash hlink').1
      (hid.trans (id_of_link hsame).symm)]
  rw [← Counter.value_run_eq_iff (fun _ => rfl) hpaired, ← hcount]
  constructor
  · intro h
    obtain ⟨row'', hlink'', hgrows⟩ := h row hlink
    rw [Panel.IsLink, hlink'] at hlink''
    rw [Option.some.inj hlink'', hgrows]
  · intro hgrows row₁ hlink₁
    rw [Panel.IsLink, hlink] at hlink₁
    obtain rfl := Option.some.inj hlink₁
    exact ⟨row', hlink', hgrows⟩

/-- Two resolutions of a link, one after the other. -/
def twoResolutions : List PanelAction :=
  let resolve (r : RequestId) : List ShareAction :=
    .resolve r "token" "10.0.0.1" :: List.replicate 5 (.advance r {})
  (resolve 1 ++ resolve 2).map .share

/-- They are both counted. -/
theorem countsEvery_of_twoResolutions :
    CountsEvery ShareCtx.sample (runPanel ShareCtx.sample Host.blank pinnedLink) "token"
      twoResolutions := by
  refine (countsEvery_iff ShareCtx.sample Host.blank pinnedLink twoResolutions "token" _ rfl
    ?_).mpr ?_
  · intro r key uris access hr
    by_cases hr0 : r = 0
    · subst hr0
      cases hr
    · have hnone : (runPanel ShareCtx.sample Host.blank pinnedLink).shares r = none := by
        refine shares_eq_none_of_run ?_
        have hnamed : pinnedLink.filterMap PanelAction.shareRequest = [0, 0] := rfl
        simp [hnamed, hr0]
      rw [hnone] at hr
      cases hr
  · rw [Counter.undisturbed_iff_allFresh]
    show Counter.AllFresh _ [.read 1, .write 1, .read 2, .write 2]
    simp [Counter.AllFresh]

/-- Two clients resolve a link at the same time: both read the count before the
first commit. -/
def lostUpdate : List PanelAction :=
  let start (r : RequestId) (ip : String) : List ShareAction :=
    .resolve r "token" ip :: List.replicate 4 (.advance r {})
  let commits : List ShareAction := [.advance 1 {}, .advance 2 {}]
  (start 1 "10.0.0.1" ++ start 2 "10.0.0.2" ++ commits).map .share

/-- **Two concurrent resolutions count once.** -/
theorem not_countsEvery_of_lostUpdate :
    ¬ CountsEvery ShareCtx.sample (runPanel ShareCtx.sample Host.blank pinnedLink) "token"
      lostUpdate := by
  intro h
  obtain ⟨row', hlink', hcount⟩ := h _ rfl
  have hwrites : writes ((runPanel ShareCtx.sample Host.blank pinnedLink).accesses
      ShareCtx.sample 0 lostUpdate) = 2 := by rfl
  have hone : ((Machine.run (Panel.step ShareCtx.sample)
      (runPanel ShareCtx.sample Host.blank pinnedLink) lostUpdate).tokens.byHash "token").map
        (·.accessCount) = some 1 := by rfl
  rw [show (Machine.run (Panel.step ShareCtx.sample)
      (runPanel ShareCtx.sample Host.blank pinnedLink) lostUpdate).tokens.byHash "token" =
        some row' from hlink'] at hone
  have htwo : row'.accessCount = 0 + 2 := hcount
  simp [htwo] at hone

end VpnPanel
