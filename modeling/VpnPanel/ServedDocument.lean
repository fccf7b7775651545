import VpnPanel.ConfigTask

/-!
# VpnPanel.ServedDocument

The two things a client of a config meets: the document its service is to
read, and what that service is doing.

`Serves` says both of a machine.  Each part of `write_files` has a rule with
it: the documents replace the one, the service the other, the rest neither.
-/

namespace VpnPanel

/-- The document the config's service reads when it is started: the live file,
or the profile's `active_config_path`. -/
def served (settings : PanelSettings) (ps : VpnProfileSettings) (profile : ConfigProfile)
    (configId : ConfigId) (h : Host) : Option PyVal :=
  if settings.systemd.perConfig then
    (h.live.get? (liveConfigPath profile configId ps.configFilename settings.systemd)).join
  else ps.activeConfigPath.bind h.active

/-- What is served, and what the service is doing. -/
structure Serves (settings : PanelSettings) (ps : VpnProfileSettings) (profile : ConfigProfile)
    (configId : ConfigId) (doc : Option PyVal) (state : ServiceState) (h : Host) : Prop where
  doc : served settings ps profile configId h = doc
  state : h.services (servingName settings ps configId) = state

/-- There is a file the service reads. -/
def HasServedFile (settings : PanelSettings) (ps : VpnProfileSettings) : Prop :=
  settings.systemd.perConfig = true ∨ ps.activeConfigPath.isSome = true

/-- The parts of a machine that decide what is served. -/
def Host.serving (h : Host) :
    Dict LiveKey (Option PyVal) × (String → Option PyVal) × (ServiceName → ServiceState) :=
  (h.live, h.active, h.services)

section Rules

variable {settings : PanelSettings} {ps : VpnProfileSettings} {profile : ConfigProfile}
  {configId : ConfigId} {doc : Option PyVal} {state : ServiceState} {faults : Faults}

/-- A document that is served stands in a file. -/
theorem hasServedFile_of_served {h : Host} {d : PyVal}
    (hserved : served settings ps profile configId h = some d) : HasServedFile settings ps := by
  unfold HasServedFile
  cases hper : settings.systemd.perConfig with
  | true => exact Or.inl rfl
  | false =>
      rw [served, hper] at hserved
      obtain ⟨path, hpath, -⟩ := Option.bind_eq_some_iff.mp hserved
      exact Or.inr (by rw [hpath]; rfl)

/-- Without such a file nothing is served. -/
theorem served_eq_none (hfile : ¬ HasServedFile settings ps) (h : Host) :
    served settings ps profile configId h = none := by
  cases hserved : served settings ps profile configId h with
  | none => rfl
  | some d => exact absurd (hasServedFile_of_served hserved) hfile

theorem Serves.congr {h h' : Host} (hserves : Serves settings ps profile configId doc state h)
    (heq : h'.serving = h.serving) : Serves settings ps profile configId doc state h' := by
  obtain ⟨hlive, hactive, hservices⟩ : h'.live = h.live ∧ h'.active = h.active ∧
      h'.services = h.services := by simpa [Host.serving] using heq
  constructor
  · rw [← hserves.doc, served, served, hlive, hactive]
  · rw [← hserves.state, hservices]

/-- What leaves the live files, the active files and the services alone. -/
theorem spec_of_keeps_serving {α : Type} {x : HostM α} {E : PyErr → Host → Prop}
    (hx : Eff.Keeps Host.serving x)
    (hE : ∀ e h, Serves settings ps profile configId doc state h → E e h) :
    Eff.Spec (Serves settings ps profile configId doc state) x
      (fun _ => Serves settings ps profile configId doc state) E :=
  (hx.spec fun _ _ heq hserves => hserves.congr heq).mono (fun _ h => h) (fun _ _ h => h) hE

theorem keeps_serving_prepareDocuments {timestamp : Nat} {result : BuildResult} :
    Eff.Keeps Host.serving
      (prepareDocuments settings faults timestamp profile ps configId result) :=
  within_prepareDocuments (fun _ => rfl) (fun _ _ _ _ => rfl) fun _ _ _ => rfl

theorem keeps_serving_syncMux {configData : PyVal} :
    Eff.Keeps Host.serving (syncMux settings faults profile configData) :=
  within_syncMux fun _ _ _ => rfl

/-- Without certificates of its own a document is written as it is. -/
theorem spec_prepareDocuments_id {timestamp : Nat} {result : BuildResult} {P : Host → Prop}
    (hfiles : result.extraFiles = []) :
    Eff.Spec P (prepareDocuments settings faults timestamp profile ps configId result)
      (fun configData _ => configData = result.configData) (fun _ _ => True) := by
  have hcerts : installCerts settings faults timestamp profile ps configId result =
      pure result.configData := by
    simp [installCerts, hfiles]
  have hskip {Q : Host → Prop} {op : HostOp} {effect : Host → Host} :
      Eff.Spec Q (attempt faults op effect) (fun _ _ => True) (fun _ _ => True) :=
    spec_attempt (fun _ _ _ => trivial) fun _ _ _ _ => ⟨trivial, trivial⟩
  unfold prepareDocuments
  rw [hcerts]
  simp only [pure_bind]
  have hrest {Q : Host → Prop} : Eff.Spec Q (do
      attempt faults .serialize id
      attempt faults .writeArchive fun h => h.setArchive configId ps.configFilename
        result.configData
      pure result.configData) (fun configData _ => configData = result.configData)
      (fun _ _ => True) :=
    Eff.Spec.bind hskip fun _ => Eff.Spec.bind hskip fun _ => Eff.Spec.pure fun _ _ => rfl
  refine Eff.Spec.bind hskip fun _ => ?_
  split
  · exact Eff.Spec.bind hskip fun _ => hrest
  · exact hrest

/-- The write of the served file replaces the document, or fails and may have
replaced it. -/
theorem spec_writeServed (hfile : HasServedFile settings ps) (configData : PyVal) :
    Eff.Spec (Serves settings ps profile configId doc state)
      (writeServed settings faults profile ps configId configData)
      (fun _ => Serves settings ps profile configId (some configData) state)
      (fun _ h => Serves settings ps profile configId doc state h ∨
        Serves settings ps profile configId (some configData) state h ∧
          ∃ f, faults .writeLive = some f ∨ faults .writeActive = some f) := by
  unfold writeServed
  cases hper : settings.systemd.perConfig with
  | true =>
      have hset {h : Host} (hserves : Serves settings ps profile configId doc state h) :
          Serves settings ps profile configId (some configData) state
            (h.setLive (liveConfigPath profile configId ps.configFilename settings.systemd)
              configData) :=
        ⟨by simp [served, hper, Host.setLive], hserves.state⟩
      exact spec_attempt (fun _ h hserves => hset hserves)
        fun f hf h hserves => ⟨Or.inl hserves, Or.inr ⟨hset hserves, f, Or.inl hf⟩⟩
  | false =>
      cases hpath : ps.activeConfigPath with
      | none => simp [HasServedFile, hper, hpath] at hfile
      | some path =>
          have hset {h : Host} (hserves : Serves settings ps profile configId doc state h) :
              Serves settings ps profile configId (some configData) state
                (h.setActive path configData) :=
            ⟨by simp [served, hper, hpath, Host.setActive], hserves.state⟩
          simp only [Bool.false_eq_true, if_false]
          refine Eff.Spec.bind (R := fun _ => Serves settings ps profile configId doc state)
            (spec_attempt (fun _ h hserves => hserves)
              fun f _ h hserves => ⟨Or.inl hserves, Or.inl hserves⟩) fun _ => ?_
          exact spec_attempt (fun _ h hserves => hset hserves)
            fun f hf h hserves => ⟨Or.inl hserves, Or.inr ⟨hset hserves, f, Or.inr hf⟩⟩

/-- Starting a service and waiting for it. -/
theorem spec_startService {name : ServiceName} {next : Host → ServiceState} {P : Host → Prop}
    {started : ServiceState} (hstate : ∀ h, P h → next h = started)
    (hset : ∀ h st, P h → P (h.setService name st)) :
    Eff.Spec P
      (attemptStart faults .restart name (fun h => h.setService name (next h)) >>=
        fun _ => attemptStart faults .waitReady name id)
      (fun _ h => P h ∧ h.services name = started)
      (fun _ h => P h ∧ ∃ f, (faults .restart = some f ∨ faults .waitReady = some f) ∧
        h.services name = f.service) := by
  have hself (h : Host) (st : ServiceState) : (h.setService name st).services name = st := by
    simp [Host.setService]
  refine Eff.Spec.bind (R := fun _ h => P h ∧ h.services name = started) ?_ fun _ => ?_
  · refine spec_attemptStart (fun _ h hP => ?_) fun f hf h hP => ?_
    · exact ⟨hset h _ hP, by rw [hself, hstate h hP]⟩
    · exact ⟨hset h _ hP, f, Or.inl hf, hself h _⟩
  · refine spec_attemptStart (fun _ h hP => hP) fun f hf h hP => ?_
    exact ⟨hset h _ hP.1, f, Or.inr hf, hself h _⟩

theorem spec_prepareDocuments {timestamp : Nat} {result : BuildResult} :
    Eff.Spec (Serves settings ps profile configId doc state)
      (prepareDocuments settings faults timestamp profile ps configId result)
      (fun configData h => Serves settings ps profile configId doc state h ∧
        (result.extraFiles = [] → configData = result.configData))
      (fun _ => Serves settings ps profile configId doc state) := by
  have hkeeps : Eff.Spec (Serves settings ps profile configId doc state)
      (prepareDocuments settings faults timestamp profile ps configId result)
      (fun _ => Serves settings ps profile configId doc state)
      (fun _ => Serves settings ps profile configId doc state) :=
    spec_of_keeps_serving keeps_serving_prepareDocuments fun _ _ h => h
  by_cases hfiles : result.extraFiles = []
  · exact (hkeeps.and (spec_prepareDocuments_id hfiles)).mono (fun _ h => h)
      (fun _ _ h => ⟨h.1, fun _ => h.2⟩) fun _ _ h => h.1
  · exact hkeeps.mono (fun _ h => h) (fun _ _ h => ⟨h, fun hno => absurd hno hfiles⟩) fun _ _ h => h

/-- `write_files` up to the served file: it replaces the document, or fails
before, or in the write itself. -/
theorem spec_writeDocuments (hps : settings.profileSettings profile = .ok ps)
    (hfile : HasServedFile settings ps) (timestamp : Nat) (result : BuildResult) :
    Eff.Spec (Serves settings ps profile configId doc state)
      (writeDocuments settings faults timestamp profile configId result)
      (fun configData h => Serves settings ps profile configId (some configData) state h ∧
        (result.extraFiles = [] → configData = result.configData))
      (fun _ h => Serves settings ps profile configId doc state h ∨
        (∃ configData, Serves settings ps profile configId (some configData) state h ∧
          (result.extraFiles = [] → configData = result.configData)) ∧
          ∃ f, faults .writeLive = some f ∨ faults .writeActive = some f) := by
  unfold writeDocuments
  rw [hps, Eff.ofExcept_ok_bind]
  refine Eff.Spec.bind (spec_prepareDocuments.mono (fun _ h => h) (fun _ _ h => h)
    fun _ _ h => Or.inl h) fun configData => ?_
  by_cases hsame : result.extraFiles = [] → configData = result.configData
  · refine Eff.Spec.bind (R := fun _ => Serves settings ps profile configId (some configData) state)
      ((spec_writeServed hfile configData).mono (fun _ h => h.1) (fun _ _ h => h) ?_)
      fun _ => Eff.Spec.pure fun _ h => ⟨h, hsame⟩
    rintro _ h (hserves | ⟨hserves, hf⟩)
    · exact Or.inl hserves
    · exact Or.inr ⟨⟨configData, hserves, hsame⟩, hf⟩
  · exact fun h hserves => absurd hserves.2 hsame

/-- The build and its documents. -/
theorem spec_buildDocuments {ctx : Ctx} {env : TaskEnv} {p : Payload}
    (hps : ctx.settings.profileSettings p.profile = .ok ps)
    (hfile : HasServedFile ctx.settings ps) :
    Eff.Spec (Serves ctx.settings ps p.profile p.configId doc state) (buildDocuments ctx env p)
      (fun result => Serves ctx.settings ps p.profile p.configId (some result.configData) state)
      (fun _ h => Serves ctx.settings ps p.profile p.configId doc state h ∨
        (∃ configData, Serves ctx.settings ps p.profile p.configId (some configData) state h) ∧
          ∃ f, env.faults .writeLive = some f ∨ env.faults .writeActive = some f) := by
  have hpure {α : Type} (r : Except PyErr α) :
      Eff.Spec (Serves ctx.settings ps p.profile p.configId doc state) (Eff.ofExcept r)
        (fun _ => Serves ctx.settings ps p.profile p.configId doc state)
        (fun _ h => Serves ctx.settings ps p.profile p.configId doc state h ∨
          (∃ configData, Serves ctx.settings ps p.profile p.configId (some configData) state h) ∧
            ∃ f, env.faults .writeLive = some f ∨ env.faults .writeActive = some f) :=
    Eff.Spec.ofExcept (fun _ _ h hserves => hserves) fun _ _ h hserves => Or.inl hserves
  unfold buildDocuments
  refine Eff.Spec.bind (hpure _) fun _ => Eff.Spec.bind (hpure _) fun result => ?_
  refine Eff.Spec.bind (hpure _) fun port => Eff.Spec.bind ((spec_writeDocuments hps hfile _ _).mono
    (fun _ h => h) (fun _ _ h => h.1) ?_) fun configData => Eff.Spec.pure fun h hserves => hserves
  rintro _ h (hserves | ⟨⟨configData, hserves, -⟩, hf⟩)
  · exact Or.inl hserves
  · exact Or.inr ⟨⟨configData, hserves⟩, hf⟩

/-- `restart` and the wait for it, per config or of a shared service: the
service runs on what is served, or is as the failure left it, or was not
touched. -/
theorem spec_restartService (hps : settings.profileSettings profile = .ok ps)
    (configName : String) :
    Eff.Spec (Serves settings ps profile configId doc state)
      (restartService settings faults profile configId configName)
      (fun _ => Serves settings ps profile configId doc (.running doc))
      (fun _ h => Serves settings ps profile configId doc state h ∨
        ∃ f, (faults .restart = some f ∨ faults .waitReady = some f) ∧
          Serves settings ps profile configId doc f.service h) := by
  unfold restartService
  rw [hps, Eff.ofExcept_ok_bind]
  -- the restart itself, whatever the service is
  have hstart {next : Host → ServiceState} (hnext : ∀ h,
      served settings ps profile configId h = doc → next h = .running doc) :
      Eff.Spec (Serves settings ps profile configId doc state)
        (attemptStart faults .restart (servingName settings ps configId)
          (fun h => h.setService (servingName settings ps configId) (next h)) >>= fun _ =>
          attemptStart faults .waitReady (servingName settings ps configId) id)
        (fun _ => Serves settings ps profile configId doc (.running doc))
        (fun _ h => Serves settings ps profile configId doc state h ∨
          ∃ f, (faults .restart = some f ∨ faults .waitReady = some f) ∧
            Serves settings ps profile configId doc f.service h) :=
    (spec_startService hnext fun _ _ h => h).mono (fun _ h => h.doc)
      (fun _ _ h => ⟨h.1, h.2⟩) fun _ _ ⟨hdoc, f, hf, hstate⟩ => Or.inr ⟨f, hf, hdoc, hstate⟩
  have hkeep {x : HostM Unit} (hx : Eff.Keeps Host.serving x) :
      Eff.Spec (Serves settings ps profile configId doc state) x
        (fun _ => Serves settings ps profile configId doc state)
        (fun _ h => Serves settings ps profile configId doc state h ∨
          ∃ f, (faults .restart = some f ∨ faults .waitReady = some f) ∧
            Serves settings ps profile configId doc f.service h) :=
    spec_of_keeps_serving hx fun _ _ h => Or.inl h
  cases hper : settings.systemd.perConfig with
  | true =>
      have hname : servingName settings ps configId =
        configServiceName settings.systemd configId := by
        simp [servingName, hper]
      rw [hname] at hstart
      simp only [if_true]
      unfold installConfigUnit
      refine Eff.Spec.bind (Eff.Spec.read fun _ h => h) fun h₀ => ?_
      refine Eff.Spec.bind (hkeep (Eff.Within.catching (within_attempt fun _ => rfl)
        fun _ => within_attempt fun _ => rfl)) fun _ => ?_
      refine Eff.Spec.bind (hkeep (within_attempt fun _ => rfl)) fun _ => ?_
      have hnext (h : Host) (hdoc : served settings ps profile configId h = doc) :
          ServiceState.running (h.live.get?
            (liveConfigPath profile configId ps.configFilename settings.systemd)).join =
              .running doc := by
        rw [served, if_pos hper] at hdoc
        rw [hdoc]
      have hrestart := hstart hnext
      split
      · exact Eff.Spec.bind (hkeep (within_attempt fun _ => rfl)) fun _ => hrestart
      · exact hrestart
  | false =>
      have hname : servingName settings ps configId = .profile ps.serviceName := by
        simp [servingName, hper]
      rw [hname] at hstart
      refine hstart fun h hdoc => ?_
      rw [← hdoc, served, hper]
      rfl

end Rules

end VpnPanel
