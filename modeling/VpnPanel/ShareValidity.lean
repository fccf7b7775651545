import VpnPanel.SharePanel

/-!
# VpnPanel.ShareValidity

When a share token is valid.

The abstract side is the history of a run: the links that were created and
revoked (`ShareEvent`), and `ValidAt`, which reads validity off the history.
The code decides by the row of the token, once in Python (`validShare`) and once
in SQL (`listActive`).  `Recorded` connects the rows to the history, and
`share_validity` says that all three agree and that validity does not come
back.
-/

namespace VpnPanel

/-- What happened to share links. -/
inductive ShareEvent where
  | created (id : ShareId) (rawToken : String) (expiration : ShareExpiration)
  | revoked (id : ShareId)
  deriving DecidableEq, Repr

/-- The event of a step: the commit of a create or of a revocation. -/
def Panel.shareEvent (p : Panel) : PanelAction → Option ShareEvent
  | .share (.advance r env) =>
      match p.shares r with
      | some (.creating rawToken row) =>
          if env.committed.isNone && (p.tokens.insert row).toOption.isSome then
            some (.created row.id rawToken ⟨row.isPermanent, row.expiresAt⟩)
          else none
      | some (.revoking id) => if env.committed.isNone then some (.revoked id) else none
      | _ => none
  | _ => none

/-- The history of a run. -/
def shareEvents (ctx : ShareCtx) (host : Host) (as : List PanelAction) : List ShareEvent :=
  Machine.trace (Panel.step ctx) Panel.shareEvent (Panel.init host) as

/-- A link has not expired at a time. -/
def ShareExpiration.Alive (e : ShareExpiration) (t : Nat) : Prop :=
  e.isPermanent = true ∨ ∃ expiresAt, e.expiresAt = some expiresAt ∧ (t : Int) < expiresAt

/-- A token is valid at a time: its link was created, was not revoked and has
not expired. -/
def ValidAt (history : List ShareEvent) (rawToken : String) (t : Nat) : Prop :=
  ∃ id expiration, ShareEvent.created id rawToken expiration ∈ history ∧
    ShareEvent.revoked id ∉ history ∧ expiration.Alive t

/-- A token passes the checks of a resolution at a time. -/
def Panel.Passes (ctx : Ctx) (p : Panel) (rawToken : String) (t : Nat) : Prop :=
  ∃ share, validShare ctx t p.tokens rawToken = .ok share

/-- The row of a token is in `list_active` at a time. -/
def Panel.Listed (ctx : Ctx) (p : Panel) (rawToken : String) (t : Nat) : Prop :=
  ∃ share, p.IsLink ctx rawToken share ∧
    ∃ item ∈ listActive p.tokens (fun c => (p.world.db.configs c).map (·.name)) t none,
      item.id = share.id

/-! ## the two predicates on a row -/

/-- On a link that is well formed, the check in Python and the filter in SQL
agree. -/
theorem listed_eq_valid {row : ShareTokenModel} (h : row.WellFormed) (t : Nat) :
    row.listed t none = row.valid t := by
  unfold ShareTokenModel.WellFormed at h
  cases hexp : row.expiresAt with
  | none => simp [ShareTokenModel.listed, ShareTokenModel.valid, h, hexp]
  | some expiresAt =>
      by_cases hlt : (t : Int) < expiresAt
      · simp [ShareTokenModel.listed, ShareTokenModel.valid, h, hexp, hlt]
      · simp [ShareTokenModel.listed, ShareTokenModel.valid, h, hexp, hlt, Int.not_lt.mp hlt]

/-- The check on a row, in words. -/
theorem valid_iff {row : ShareTokenModel} (h : row.WellFormed) (t : Nat) :
    row.valid t = true ↔
      row.revokedAt = none ∧ (⟨row.isPermanent, row.expiresAt⟩ : ShareExpiration).Alive t := by
  unfold ShareTokenModel.WellFormed at h
  cases hexp : row.expiresAt with
  | none => simp [ShareTokenModel.valid, ShareExpiration.Alive, h, hexp]
  | some expiresAt => simp [ShareTokenModel.valid, ShareExpiration.Alive, h, hexp]

theorem ShareExpiration.Alive.mono {e : ShareExpiration} {t t' : Nat} (h : e.Alive t')
    (hle : t ≤ t') : e.Alive t := by
  obtain hperm | ⟨expiresAt, hexp, hlt⟩ := h
  · exact Or.inl hperm
  · exact Or.inr ⟨expiresAt, hexp, by omega⟩

/-! ## the rows and the history -/

/-- The table is what the history says. -/
structure Recorded (ctx : Ctx) (p : Panel) (history : List ShareEvent) : Prop where
  row : ∀ row ∈ p.tokens, ∃ rawToken,
    ShareEvent.created row.id rawToken ⟨row.isPermanent, row.expiresAt⟩ ∈ history ∧
      row.tokenHash = hashShareToken ctx rawToken ∧
      (row.revokedAt ≠ none ↔ ShareEvent.revoked row.id ∈ history)
  created : ∀ id rawToken expiration, ShareEvent.created id rawToken expiration ∈ history →
    ∃ row ∈ p.tokens, row.id = id ∧ row.tokenHash = hashShareToken ctx rawToken ∧
      (⟨row.isPermanent, row.expiresAt⟩ : ShareExpiration) = expiration
  revoked : ∀ id, ShareEvent.revoked id ∈ history → ∃ row ∈ p.tokens, row.id = id

section Steps

variable {ctx : ShareCtx} {p p' : Panel} {history : List ShareEvent}

theorem recorded_init (ctx : Ctx) (host : Host) : Recorded ctx (Panel.init host) [] where
  row := by simp [Panel.init]
  created := by simp
  revoked := by simp

/-- Steps that neither create nor revoke. -/
theorem Recorded.of_same (h : Recorded ctx.toCtx p history)
    (hrow : ∀ row' ∈ p'.tokens, ∃ row ∈ p.tokens, row'.link = row.link ∧
      row'.revokedAt = row.revokedAt)
    (hmono : ∀ row ∈ p.tokens, ∃ row' ∈ p'.tokens, row'.link = row.link) :
    Recorded ctx.toCtx p' history where
  row row' hrow' := by
    obtain ⟨row, hrow, hlink, hrevoked⟩ := hrow row' hrow'
    obtain ⟨rawToken, hcreated, hhash, hiff⟩ := h.row row hrow
    refine ⟨rawToken, ?_, ?_, ?_⟩
    · rw [id_of_link hlink, expiration_of_link hlink]
      exact hcreated
    · rw [tokenHash_of_link hlink, hhash]
    · rw [hrevoked, id_of_link hlink]
      exact hiff
  created id rawToken expiration hmem := by
    obtain ⟨row, hrow, hid, hhash, hexp⟩ := h.created id rawToken expiration hmem
    obtain ⟨row', hrow', hlink⟩ := hmono row hrow
    exact ⟨row', hrow', (id_of_link hlink).trans hid, (tokenHash_of_link hlink).trans hhash,
      (expiration_of_link hlink).trans hexp⟩
  revoked id hmem := by
    obtain ⟨row, hrow, hid⟩ := h.revoked id hmem
    obtain ⟨row', hrow', hlink⟩ := hmono row hrow
    exact ⟨row', hrow', (id_of_link hlink).trans hid⟩

/-- The commit of a create. -/
theorem Recorded.insert {rawToken : String} {row : ShareTokenModel}
    (h : Recorded ctx.toCtx p history) (hins : p.tokens.insert row = .ok p'.tokens)
    (hhash : row.tokenHash = hashShareToken ctx.toCtx rawToken) (hnot : row.revokedAt = none) :
    Recorded ctx.toCtx p'
      (history ++ [.created row.id rawToken ⟨row.isPermanent, row.expiresAt⟩]) := by
  obtain ⟨htokens, hnew⟩ := ShareTable.of_insert hins
  constructor
  · intro row' hrow'
    rw [htokens, List.mem_append, List.mem_singleton] at hrow'
    obtain hrow' | rfl := hrow'
    · obtain ⟨rawToken', hcreated, hhash', hiff⟩ := h.row row' hrow'
      exact ⟨rawToken', List.mem_append_left _ hcreated, hhash', by simpa using hiff⟩
    · refine ⟨rawToken, by simp, hhash, ?_⟩
      have hfresh : ShareEvent.revoked row'.id ∉ history := by
        intro hmem
        obtain ⟨old, hold, hid⟩ := h.revoked row'.id hmem
        exact (hnew old hold).1 hid
      simp [hnot, hfresh]
  · intro id rawToken' expiration hmem
    rw [List.mem_append, List.mem_singleton] at hmem
    obtain hmem | heq := hmem
    · obtain ⟨row', hrow', hrest⟩ := h.created id rawToken' expiration hmem
      exact ⟨row', by rw [htokens]; exact List.mem_append_left _ hrow', hrest⟩
    · cases heq
      exact ⟨row, by simp [htokens], rfl, hhash, rfl⟩
  · intro id hmem
    obtain ⟨row', hrow', hid⟩ := h.revoked id (by simpa using hmem)
    exact ⟨row', by rw [htokens]; exact List.mem_append_left _ hrow', hid⟩

/-- The commit of a revocation. -/
theorem Recorded.revoke {id : ShareId} {now : Nat} (h : Recorded ctx.toCtx p history)
    (htokens : p'.tokens = p.tokens.update id (ShareTokenModel.revoke now))
    (hid : ∃ row ∈ p.tokens, row.id = id) :
    Recorded ctx.toCtx p' (history ++ [.revoked id]) := by
  have hmem (row : ShareTokenModel) (hrow : row ∈ p.tokens) :
      ShareTable.updateRow id (ShareTokenModel.revoke now) row ∈ p'.tokens := by
    rw [htokens]
    exact ShareTable.mem_update.mpr ⟨row, hrow, rfl⟩
  have hlink (row : ShareTokenModel) :
      (ShareTable.updateRow id (ShareTokenModel.revoke now) row).link = row.link :=
    ShareTable.link_updateRow (link_revoke now) id row
  constructor
  · intro row' hrow'
    rw [htokens, ShareTable.mem_update] at hrow'
    obtain ⟨row, hrow, rfl⟩ := hrow'
    obtain ⟨rawToken, hcreated, hhash, hiff⟩ := h.row row hrow
    refine ⟨rawToken, ?_, ?_, ?_⟩
    · rw [id_of_link (hlink row), expiration_of_link (hlink row)]
      exact List.mem_append_left _ hcreated
    · rw [tokenHash_of_link (hlink row), hhash]
    · rw [id_of_link (hlink row)]
      unfold ShareTable.updateRow
      by_cases hrid : row.id = id
      · simp [hrid, ShareTokenModel.revoke]
      · simp [hrid, hiff]
  · intro id' rawToken expiration hcreated
    obtain ⟨row, hrow, hrid, hhash, hexp⟩ := h.created id' rawToken expiration
      (by simpa using hcreated)
    exact ⟨_, hmem row hrow, (id_of_link (hlink row)).trans hrid,
      (tokenHash_of_link (hlink row)).trans hhash, (expiration_of_link (hlink row)).trans hexp⟩
  · intro id' hrevoked
    have hold : ∃ row ∈ p.tokens, row.id = id' := by
      rw [List.mem_append, List.mem_singleton] at hrevoked
      obtain hrevoked | heq := hrevoked
      · exact h.revoked id' hrevoked
      · cases heq
        exact hid
    obtain ⟨row, hrow, hrid⟩ := hold
    exact ⟨_, hmem row hrow, (id_of_link (hlink row)).trans hrid⟩

/-- A step and its event keep the record. -/
theorem recorded_share {a : ShareAction} (hsound : LinksSound ctx.toCtx p)
    (hstep : ShareStep ctx p a p') (h : Recorded ctx.toCtx p history) :
    Recorded ctx.toCtx p' (history ++ (p.shareEvent (.share a)).toList) := by
  have hsame (htokens : p'.tokens = p.tokens) (hevent : p.shareEvent (.share a) = none) :
      Recorded ctx.toCtx p' (history ++ (p.shareEvent (.share a)).toList) := by
    rw [hevent, Option.toList_none, List.append_nil]
    refine h.of_same ?_ ?_
    · intro row hrow
      exact ⟨row, by rwa [htokens] at hrow, rfl, rfl⟩
    · intro row hrow
      exact ⟨row, by rwa [htokens], rfl⟩
  cases hstep with
  | startRevoke _ r row hr hrow hnot hreq ha =>
      refine hsame rfl ?_
      cases a with
      | advance r' env => exact absurd rfl (ha r' env)
      | _ => rfl
  | drop r env stage hr hstage hfail hrevoke =>
      refine hsame rfl ?_
      cases stage with
      | creating rawToken row =>
          obtain hcom | hins := hfail rawToken row rfl
          · simp [Panel.shareEvent, hr, hcom]
          · cases hinsert : p.tokens.insert row with
            | ok tokens => exact absurd hinsert (hins tokens)
            | error e => simp [Panel.shareEvent, hr, hinsert, Except.toOption]
      | revoking id => simp [Panel.shareEvent, hr, hrevoke id rfl]
      | resolving st => exact absurd rfl (hstage st)
  | created r env rawToken row tokens hr hcom hins =>
      obtain ⟨-, hhash, hnot⟩ := hsound.creating r rawToken row hr
      have hevent : p.shareEvent (.share (.advance r env)) =
          some (.created row.id rawToken ⟨row.isPermanent, row.expiresAt⟩) := by
        simp [Panel.shareEvent, hr, hcom, hins, Except.toOption]
      rw [hevent]
      exact h.insert hins hhash hnot
  | revoked r env id hr hcom =>
      have hevent : p.shareEvent (.share (.advance r env)) = some (.revoked id) := by
        simp [Panel.shareEvent, hr, hcom]
      rw [hevent]
      exact h.revoke rfl (hsound.revoking r id hr)
  | resolveNext r env stage stage' hr hwaits hnext =>
    exact hsame rfl (by simp [Panel.shareEvent, hr])
  | refused r env stage rates hr haccess hstage hrates =>
      exact hsame rfl (by simp [Panel.shareEvent, hr])
  | resolved r env key id uris access hr hcom =>
      have hevent : p.shareEvent (.share (.advance r env)) = none := by
        simp [Panel.shareEvent, hr]
      cases access with
      | none => exact hsame rfl hevent
      | some access =>
          rw [hevent, Option.toList_none, List.append_nil]
          have hlink (row : ShareTokenModel) := ShareTable.link_updateRow
            (link_recordAccess access.2 access.1) id row
          refine h.of_same ?_ ?_
          · intro row' hrow'
            obtain ⟨row, hrow, rfl⟩ := ShareTable.mem_update.mp hrow'
            refine ⟨row, hrow, hlink row, ?_⟩
            unfold ShareTable.updateRow
            split <;> rfl
          · intro row hrow
            exact ⟨_, ShareTable.mem_update.mpr ⟨row, hrow, rfl⟩, hlink row⟩
  | _ => exact hsame rfl rfl

theorem recorded_step (hsound : LinksSound ctx.toCtx p) (h : Recorded ctx.toCtx p history)
    (a : PanelAction) :
    Recorded ctx.toCtx (p.step ctx a) (history ++ (p.shareEvent a).toList) := by
  cases a with
  | lifecycle a =>
      rw [show p.shareEvent (.lifecycle a) = none from rfl, Option.toList_none, List.append_nil]
      exact ⟨h.row, h.created, h.revoked⟩
  | share a =>
      obtain ⟨heq, hidle⟩ | hstep := share_cases ctx p a
      · have hevent : p.shareEvent (.share a) = none := by
          cases a with
          | advance r env =>
              obtain hr | ⟨rawToken, clientIp, hr⟩ := hidle <;> simp [Panel.shareEvent, hr]
          | _ => rfl
        show Recorded ctx.toCtx (p.share ctx a) _
        rw [heq, hevent, Option.toList_none, List.append_nil]
        exact h
      · exact recorded_share hsound hstep h

end Steps

/-- **In every reachable panel the table is what the history says.** -/
theorem recorded_run (ctx : ShareCtx) (host : Host) (as : List PanelAction) :
    Recorded ctx.toCtx (runPanel ctx host as) (shareEvents ctx host as) := by
  have h : LinksSound ctx.toCtx (runPanel ctx host as) ∧
      Recorded ctx.toCtx (runPanel ctx host as) ([] ++ shareEvents ctx host as) :=
    Machine.run_trace_invariant
      (J := fun p history => LinksSound ctx.toCtx p ∧ Recorded ctx.toCtx p history)
      (fun p history a h => ⟨linksSound_step h.1 a, recorded_step h.1 h.2 a⟩)
      ⟨linksSound_init ctx.toCtx host, recorded_init ctx.toCtx host⟩ as
  simpa using h.2

/-! ## validity -/

section Validity

variable {ctx : ShareCtx} {host : Host} {as : List PanelAction} {rawToken : String} {t : Nat}

theorem passes_iff {p : Panel} : p.Passes ctx.toCtx rawToken t ↔
    ∃ share, p.IsLink ctx.toCtx rawToken share ∧ share.valid t = true :=
  exists_congr fun _ => validShare_eq_ok_iff

/-- The check in Python, and the history. -/
theorem passes_iff_validAt
    (hhash : ∀ id rawToken' expiration,
      ShareEvent.created id rawToken' expiration ∈ shareEvents ctx host as →
      hashShareToken ctx.toCtx rawToken' = hashShareToken ctx.toCtx rawToken →
      rawToken' = rawToken) :
    (runPanel ctx host as).Passes ctx.toCtx rawToken t ↔
      ValidAt (shareEvents ctx host as) rawToken t := by
  have hsound := linksSound_run ctx host as
  have hrecorded := recorded_run ctx host as
  rw [passes_iff]
  constructor
  · rintro ⟨share, hlink, hvalid⟩
    obtain ⟨hmem, htoken⟩ := ShareTable.of_byHash hlink
    obtain ⟨rawToken', hcreated, hsame, hiff⟩ := hrecorded.row share hmem
    obtain rfl := hhash _ rawToken' _ hcreated (hsame.symm.trans htoken)
    obtain ⟨hnot, halive⟩ := (valid_iff (hsound.wellFormed share hmem) t).mp hvalid
    exact ⟨share.id, _, hcreated, fun hrevoked => hiff.mpr hrevoked hnot, halive⟩
  · rintro ⟨id, expiration, hcreated, hnot, halive⟩
    obtain ⟨row, hrow, rfl, htoken, rfl⟩ := hrecorded.created id rawToken expiration hcreated
    obtain ⟨share, hlink⟩ := ShareTable.byHash_isSome hrow htoken
    -- the row found by the hash is the one the history names
    obtain ⟨hmem, htoken'⟩ := ShareTable.of_byHash hlink
    have hshare : share = row := hsound.hashes hmem hrow (htoken'.trans htoken.symm)
    subst hshare
    obtain ⟨rawToken', -, -, hiff⟩ := hrecorded.row share hmem
    refine ⟨share, hlink, (valid_iff (hsound.wellFormed share hmem) t).mpr ⟨?_, halive⟩⟩
    by_contra hrevoked
    exact hnot (hiff.mp hrevoked)

/-- The check in Python, and the query. -/
theorem passes_iff_listed : (runPanel ctx host as).Passes ctx.toCtx rawToken t ↔
    (runPanel ctx host as).Listed ctx.toCtx rawToken t := by
  have hsound := linksSound_run ctx host as
  rw [passes_iff]
  unfold Panel.Listed
  refine exists_congr fun share => and_congr_right fun hlink => ?_
  obtain ⟨hmem, -⟩ := ShareTable.of_byHash hlink
  rw [← listed_eq_valid (hsound.wellFormed share hmem)]
  simp only [listActive, List.mem_map, List.mem_mergeSort, List.mem_filter]
  constructor
  · intro hlisted
    exact ⟨_, ⟨share, ⟨hmem, hlisted⟩, rfl⟩, rfl⟩
  · rintro ⟨item, ⟨row, ⟨hrow, hlisted⟩, rfl⟩, hid⟩
    rwa [← List.inj_on_of_nodup_map hsound.ids hrow hmem hid]

/-- A link that does not pass any more. -/
theorem not_passes_of_not_passes {share : ShareTokenModel} {bs : List PanelAction} {t' : Nat}
    (hlink : (runPanel ctx host as).IsLink ctx.toCtx rawToken share)
    (hnot : ¬ (runPanel ctx host as).Passes ctx.toCtx rawToken t) (ht : t ≤ t') :
    ¬ (runPanel ctx host (as ++ bs)).Passes ctx.toCtx rawToken t' := by
  rw [passes_iff] at hnot ⊢
  rintro ⟨share', hlink', hvalid'⟩
  obtain ⟨found, hfound, hsame⟩ := isLink_run hlink bs
  rw [← Machine.run_append] at hfound
  obtain rfl : found = share' := Option.some.inj (hfound.symm.trans hlink')
  obtain ⟨hmem, -⟩ := ShareTable.of_byHash hlink
  obtain ⟨hmem', -⟩ := ShareTable.of_byHash hlink'
  have hwell := (linksSound_run ctx host as).wellFormed share hmem
  obtain ⟨hnot', halive'⟩ := (valid_iff (wellFormed_of_link hsame hwell) t').mp hvalid'
  refine hnot ⟨share, hlink, (valid_iff hwell t).mpr ⟨?_, ?_⟩⟩
  · -- a revocation stays in the history
    obtain ⟨-, -, -, hiff⟩ := (recorded_run ctx host as).row share hmem
    obtain ⟨-, -, -, hiff'⟩ := (recorded_run ctx host (as ++ bs)).row found hmem'
    by_contra hrevoked
    refine hiff'.mpr ?_ hnot'
    rw [id_of_link hsame, shareEvents, Machine.trace_append]
    exact List.mem_append_left _ (hiff.mp hrevoked)
  · rw [← expiration_of_link hsame]
    exact halive'.mono ht

end Validity

/-- **When a token is valid.**  At every time, a token passes the checks of a
resolution exactly when its link was created, was not revoked and has not
expired, and exactly when its row is in `list_active`; and a token that has
passed and does not pass any more never passes again.  SHA-256 is assumed not
to collide on the tokens of the run. -/
theorem share_validity (ctx : ShareCtx) (host : Host) (as : List PanelAction) (rawToken : String)
    (hhash : ∀ id rawToken' expiration,
      ShareEvent.created id rawToken' expiration ∈ shareEvents ctx host as →
      hashShareToken ctx.toCtx rawToken' = hashShareToken ctx.toCtx rawToken →
      rawToken' = rawToken) :
    (∀ t, ((runPanel ctx host as).Passes ctx.toCtx rawToken t ↔
        ValidAt (shareEvents ctx host as) rawToken t) ∧
      ((runPanel ctx host as).Passes ctx.toCtx rawToken t ↔
        (runPanel ctx host as).Listed ctx.toCtx rawToken t)) ∧
    ∀ before between after t₀ t₁ t₂, as = before ++ between ++ after → t₁ ≤ t₂ →
      (runPanel ctx host before).Passes ctx.toCtx rawToken t₀ →
      ¬ (runPanel ctx host (before ++ between)).Passes ctx.toCtx rawToken t₁ →
      ¬ (runPanel ctx host as).Passes ctx.toCtx rawToken t₂ := by
  refine ⟨fun t => ⟨passes_iff_validAt hhash, passes_iff_listed⟩, ?_⟩
  rintro before between after t₀ t₁ t₂ rfl ht hpasses hnot
  obtain ⟨share, hlink, -⟩ := passes_iff.mp hpasses
  obtain ⟨share', hlink', -⟩ := isLink_run hlink between
  rw [← Machine.run_append] at hlink'
  exact not_passes_of_not_passes hlink' hnot ht

/-- A token that is created and then revoked. -/
theorem share_validity_of_revokedLink :
    ¬ (runPanel ShareCtx.sample Host.blank (pinnedLink ++
      [.share (.revoke 1 "token"), .share (.advance 1 {})])).Passes ShareCtx.sample.toCtx
        "token" 0 := by
  intro hpasses
  have h := (share_validity ShareCtx.sample Host.blank (pinnedLink ++
    [.share (.revoke 1 "token"), .share (.advance 1 {})]) "token"
    (fun _ _ _ _ hsame => hsame)).1 0
  obtain ⟨id, expiration, hcreated, hnot, -⟩ := h.1.mp hpasses
  have hevents : shareEvents ShareCtx.sample Host.blank (pinnedLink ++
      [.share (.revoke 1 "token"), .share (.advance 1 {})]) =
        [.created 0 "token" ⟨true, none⟩, .revoked 0] := by rfl
  rw [hevents] at hcreated hnot
  simp at hcreated hnot
  exact hnot hcreated.1

end VpnPanel
