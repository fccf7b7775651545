import VpnPanel.ServedCertificates

/-!
# VpnPanel.CertLinks

The stable names of a certificate and its key while `write_files` points them
at new files, over an earlier installation.  A failure, or the end of the
process, cuts the installation after some of its six file operations
(`certCallsDone`), and what the two names lead to then is a function of that
number (`links_of_writeFiles`).
-/

namespace VpnPanel

/-! ## calls that are cut short -/

/-- A point of a run and what is done there. -/
abbrev HostCall := HostOp × (Host → Host)

/-- Calls one after the other. -/
def attempts (faults : Faults) : List HostCall → HostM Unit
  | [] => pure ()
  | (op, effect) :: calls => do
      attempt faults op effect
      attempts faults calls

/-- How many calls do their work: those before the first that fails, and that
one too when it fails after its work. -/
def callsDone (faults : Faults) : List HostOp → Nat
  | [] => 0
  | op :: ops =>
      match faults op with
      | none => callsDone faults ops + 1
      | some f => if f.applied then 1 else 0

/-- The machine after calls that all did their work. -/
def Host.after (h : Host) (calls : List HostCall) : Host :=
  calls.foldl (fun h call => call.2 h) h

section Attempts

variable {faults : Faults}

theorem callsDone_le (ops : List HostOp) : callsDone faults ops ≤ ops.length := by
  induction ops with
  | nil => simp [callsDone]
  | cons op ops ih =>
      rw [callsDone, List.length_cons]
      split
      · omega
      · split <;> omega

theorem after_append (h : Host) (calls calls' : List HostCall) :
    h.after (calls ++ calls') = (h.after calls).after calls' := by
  rw [Host.after, List.foldl_append]
  rfl

theorem attempts_append (calls calls' : List HostCall) :
    attempts faults (calls ++ calls') = (do
      attempts faults calls
      attempts faults calls') := by
  induction calls with
  | nil =>
      rw [List.nil_append, attempts]
      exact (pure_bind _ _).symm
  | cons call calls ih => simp only [List.cons_append, attempts, ih, bind_assoc]

/-- Calls that returned did their work. -/
theorem exec_attempts_ok {calls : List HostCall} {h h' : Host} {u : Unit}
    (hx : (attempts faults calls).exec h = (.ok u, h')) : h' = h.after calls := by
  induction calls generalizing h with
  | nil => exact (congrArg Prod.snd hx).symm
  | cons call calls ih => exact ih (exec_attempt_bind_ok hx)

/-- **Calls that are cut short** leave what the calls before the cut do. -/
theorem snd_exec_attempts (calls : List HostCall) (h : Host) :
    ((attempts faults calls).exec h).2 =
      h.after (calls.take (callsDone faults (calls.map Prod.fst))) := by
  induction calls generalizing h with
  | nil => rfl
  | cons call calls ih =>
      obtain ⟨op, effect⟩ := call
      rw [attempts, List.map_cons, callsDone]
      cases hop : faults op with
      | none =>
          rw [Eff.exec_bind_ok (exec_attempt_of_none hop h), ih, List.take_succ_cons]
          rfl
      | some f =>
          rw [Eff.exec_bind_error (exec_attempt_of_fault hop h)]
          cases happlied : f.applied <;> simp [happlied, Host.after]

end Attempts

/-! ## the names of the certificates -/

/-- The stable name of a certificate file. -/
def stableName (namePrefix kind : String) : String := namePrefix ++ "-" ++ kind ++ ".pem"

/-- The name of the file a stable name is pointed at. -/
def versionedName (namePrefix kind : String) (timestamp : Nat) : String :=
  namePrefix ++ "-" ++ kind ++ "-" ++ toString timestamp ++ ".pem"

theorem ne_of_toList {name name' : String} (hne : name.toList ≠ name'.toList) : name ≠ name' :=
  fun heq => hne (congrArg String.toList heq)

theorem stableName_ne_versionedName (namePrefix kind : String) (timestamp : Nat) :
    stableName namePrefix kind ≠ versionedName namePrefix kind timestamp :=
  ne_of_toList (by simp [stableName, versionedName])

/-- Files of one kind have one name only when they are of one second. -/
theorem versionedName_inj {namePrefix kind : String} {timestamp timestamp' : Nat} :
    versionedName namePrefix kind timestamp = versionedName namePrefix kind timestamp' ↔
      timestamp = timestamp' := by
  constructor
  · intro heq
    have hdigits : Nat.toDigits 10 timestamp = Nat.toDigits 10 timestamp' := by
      have hchars := congrArg String.toList heq
      simpa [versionedName] using hchars
    calc
      timestamp = Nat.ofDigitChars 10 (Nat.toDigits 10 timestamp) 0 :=
        Nat.ofDigitChars_ten_toDigits.symm
      _ = Nat.ofDigitChars 10 (Nat.toDigits 10 timestamp') 0 := by rw [hdigits]
      _ = timestamp' := Nat.ofDigitChars_ten_toDigits
  · exact fun heq => by rw [heq]

/-- The names of the two kinds. -/
structure OtherKind (kind kind' : String) : Prop where
  stable (namePrefix : String) : stableName namePrefix kind ≠ stableName namePrefix kind'
  stable_versioned (namePrefix : String) (timestamp : Nat) :
    stableName namePrefix kind ≠ versionedName namePrefix kind' timestamp
  versioned_stable (namePrefix : String) (timestamp : Nat) :
    versionedName namePrefix kind timestamp ≠ stableName namePrefix kind'
  versioned (namePrefix : String) (timestamp timestamp' : Nat) :
    versionedName namePrefix kind timestamp ≠ versionedName namePrefix kind' timestamp'

theorem otherKind_cert_key : OtherKind "cert" "key" where
  stable _ := ne_of_toList (by simp [stableName])
  stable_versioned _ _ := ne_of_toList (by simp [stableName, versionedName])
  versioned_stable _ _ := ne_of_toList (by simp [stableName, versionedName])
  versioned _ _ _ := ne_of_toList (by simp [versionedName])

theorem OtherKind.symm {kind kind' : String} (h : OtherKind kind kind') : OtherKind kind' kind where
  stable namePrefix := (h.stable namePrefix).symm
  stable_versioned namePrefix timestamp := (h.versioned_stable namePrefix timestamp).symm
  versioned_stable namePrefix timestamp := (h.stable_versioned namePrefix timestamp).symm
  versioned namePrefix timestamp timestamp' := (h.versioned namePrefix timestamp' timestamp).symm

/-! ## what a stable name leads to -/

/-- The text of the file a link leads to. -/
def Host.linkedPem (h : Host) (base : CertBase) (name : String) : Option String :=
  match h.pems base name with
  | some (.symlink target) =>
      match h.pems base target with
      | some (.file body) => some body
      | _ => none
  | _ => none

/-- A file installed at a time, and the stable name that leads to it. -/
structure PemInstalled (base : CertBase) (namePrefix kind : String) (timestamp : Nat)
    (body : String) (h : Host) : Prop where
  link : h.pems base (stableName namePrefix kind) =
    some (.symlink (versionedName namePrefix kind timestamp))
  file : h.pems base (versionedName namePrefix kind timestamp) = some (.file body)

/-- The three calls that install a file over an earlier one. -/
def pemCalls (base : CertBase) (namePrefix kind : String) (timestamp : Nat) (content : String) :
    List HostCall :=
  let versioned := versionedName namePrefix kind timestamp
  let stable := stableName namePrefix kind
  [(.writePem kind, fun h => h.setPem base versioned (some (.file (pemBody content)))),
    (.unlinkPem kind, fun h => h.setPem base stable none),
    (.symlinkPem kind, fun h => h.setPem base stable (some (.symlink versioned)))]

/-- What a stable name leads to after some of the three calls: with a file of
the same second the first call replaces the text under the old link, and after
the second call there is no link. -/
def linkedAfter (sameSecond : Bool) (old new : String) : Nat → Option String
  | 0 => some old
  | 1 => some (if sameSecond then new else old)
  | 2 => none
  | _ => some new

section Links

variable {base : CertBase} {namePrefix kind kind' : String} {timestamp earlier : Nat}
  {old content : String} {h : Host}

theorem PemInstalled.linkedPem {body : String}
    (hold : PemInstalled base namePrefix kind timestamp body h) :
    h.linkedPem base (stableName namePrefix kind) = some body := by
  rw [Host.linkedPem, hold.link]
  simp only [hold.file]

/-- Another name is changed. -/
theorem PemInstalled.setPem {body name : String}
    (hold : PemInstalled base namePrefix kind timestamp body h)
    (hstable : stableName namePrefix kind ≠ name)
    (hversioned : versionedName namePrefix kind timestamp ≠ name) (entry : Option PemEntry) :
    PemInstalled base namePrefix kind timestamp body (h.setPem base name entry) where
  link := (pems_setPem_of_ne h base entry hstable).trans hold.link
  file := (pems_setPem_of_ne h base entry hversioned).trans hold.file

/-- The calls for one kind leave the files of the other alone. -/
theorem PemInstalled.after_other {body : String} (hkinds : OtherKind kind kind')
    (hold : PemInstalled base namePrefix kind earlier body h) (n : Nat) :
    PemInstalled base namePrefix kind earlier body
      (h.after ((pemCalls base namePrefix kind' timestamp content).take n)) := by
  have hwrite (entry : Option PemEntry) {h : Host}
      (hold : PemInstalled base namePrefix kind earlier body h) :=
    hold.setPem (hkinds.stable_versioned namePrefix timestamp)
      (hkinds.versioned namePrefix earlier timestamp) entry
  have hlink (entry : Option PemEntry) {h : Host}
      (hold : PemInstalled base namePrefix kind earlier body h) :=
    hold.setPem (hkinds.stable namePrefix) (hkinds.versioned_stable namePrefix earlier) entry
  match n with
  | 0 => exact hold
  | 1 => exact hwrite _ hold
  | 2 => exact hlink _ (hwrite _ hold)
  | _ + 3 =>
      rw [List.take_of_length_le (by simp [pemCalls])]
      exact hlink _ (hlink _ (hwrite _ hold))

/-- All three calls. -/
theorem pemInstalled_after (h : Host) :
    PemInstalled base namePrefix kind timestamp (pemBody content)
      (h.after (pemCalls base namePrefix kind timestamp content)) where
  link := by simp [Host.after, pemCalls, Host.setPem]
  file := by
    have hne := stableName_ne_versionedName namePrefix kind timestamp
    simp [Host.after, pemCalls, Host.setPem, hne.symm]

/-- **A stable name whose file is replaced**, after some of the three calls. -/
theorem linkedPem_after (hold : PemInstalled base namePrefix kind earlier old h) (n : Nat) :
    (h.after ((pemCalls base namePrefix kind timestamp content).take n)).linkedPem base
        (stableName namePrefix kind) =
      linkedAfter (decide (timestamp = earlier)) old (pemBody content) n := by
  match n with
  | 0 => exact hold.linkedPem
  | 1 =>
      show (h.setPem base (versionedName namePrefix kind timestamp)
        (some (.file (pemBody content)))).linkedPem base (stableName namePrefix kind) = _
      have hstable := stableName_ne_versionedName namePrefix kind timestamp
      by_cases htime : timestamp = earlier
      · have hnew : PemInstalled base namePrefix kind timestamp (pemBody content)
            (h.setPem base (versionedName namePrefix kind timestamp)
              (some (.file (pemBody content)))) := by
          rw [← htime] at hold
          exact ⟨(pems_setPem_of_ne h base _ hstable).trans hold.link, by simp [Host.setPem]⟩
        rw [hnew.linkedPem]
        simp [linkedAfter, htime]
      · have hversioned : versionedName namePrefix kind earlier ≠
            versionedName namePrefix kind timestamp :=
          fun heq => htime (versionedName_inj.mp heq).symm
        rw [(hold.setPem hstable hversioned _).linkedPem]
        simp [linkedAfter, htime]
  | 2 => simp [Host.after, pemCalls, Host.linkedPem, Host.setPem, linkedAfter]
  | n + 3 =>
      rw [List.take_of_length_le (by simp [pemCalls])]
      exact (pemInstalled_after h).linkedPem

end Links

/-! ## the pair -/

/-- A certificate and its key, installed at a time. -/
structure PairInstalled (base : CertBase) (namePrefix : String) (timestamp : Nat)
    (pair : String × String) (h : Host) : Prop where
  cert : PemInstalled base namePrefix "cert" timestamp pair.1 h
  key : PemInstalled base namePrefix "key" timestamp pair.2 h

/-- What the two stable names lead to. -/
def Host.linkedPair (h : Host) (base : CertBase) (namePrefix : String) :
    Option String × Option String :=
  (h.linkedPem base (stableName namePrefix "cert"), h.linkedPem base (stableName namePrefix "key"))

/-- Both stable names are links, and lead to a certificate and a key that
belong together: the pair of before, or the new one. -/
def LinksPair (base : CertBase) (namePrefix : String) (old new : String × String) (h : Host) :
    Prop :=
  h.linkedPair base namePrefix = (some old.1, some old.2) ∨
    h.linkedPair base namePrefix = (some new.1, some new.2)

/-- The six calls that install a pair over an earlier one. -/
def pairCalls (base : CertBase) (namePrefix : String) (timestamp : Nat)
    (certPem privatePem : String) : List HostCall :=
  pemCalls base namePrefix "cert" timestamp certPem ++
    pemCalls base namePrefix "key" timestamp privatePem

/-- The points of the six calls. -/
def pairOps : List HostOp :=
  [.writePem "cert", .unlinkPem "cert", .symlinkPem "cert",
    .writePem "key", .unlinkPem "key", .symlinkPem "key"]

section Pair

variable {faults : Faults} {base : CertBase} {namePrefix certPem privatePem : String}
  {timestamp earlier : Nat} {old : String × String} {h : Host}

/-- The loop over a file whose stable name is there makes the three calls. -/
theorem exec_installPems_over {kind content : String} {rest : List (String × String)}
    (hthere : (h.pems base (stableName namePrefix kind)).isSome) :
    (installPems faults base namePrefix timestamp ((kind, content) :: rest)).exec h =
      (attempts faults (pemCalls base namePrefix kind timestamp content) >>= fun _ =>
        installPems faults base namePrefix timestamp rest).exec h := by
  simp only [attempts, pemCalls, bind_assoc, pure_bind]
  show (attempt faults (.writePem kind) (fun h => h.setPem base
    (versionedName namePrefix kind timestamp) (some (.file (pemBody content)))) >>= _).exec h = _
  rw [Eff.exec_bind, Eff.exec_bind]
  cases hwrite : (attempt faults (.writePem kind) fun h => h.setPem base
      (versionedName namePrefix kind timestamp) (some (.file (pemBody content)))).exec h with
  | mk r h₁ =>
      cases r with
      | error e => rfl
      | ok u =>
          have hstill : (h₁.pems base (stableName namePrefix kind)).isSome := by
            rw [(exec_attempt_ok hwrite).2,
              pems_setPem_of_ne h base _ (stableName_ne_versionedName _ _ _)]
            exact hthere
          show (Eff.read >>= _).exec h₁ = _
          rw [Eff.exec_bind_ok (Eff.exec_read h₁)]
          exact congrArg (Eff.exec · h₁) (if_pos hstill)

/-- The loop over a pair whose stable names are there makes the six calls. -/
theorem exec_installPems_pair_over (hold : PairInstalled base namePrefix earlier old h) :
    (installPems faults base namePrefix timestamp [("cert", certPem), ("key", privatePem)]).exec h =
      (attempts faults (pairCalls base namePrefix timestamp certPem privatePem)).exec h := by
  rw [exec_installPems_over (by rw [hold.cert.link]; rfl), pairCalls, attempts_append,
    Eff.exec_bind, Eff.exec_bind]
  cases hcert : (attempts faults (pemCalls base namePrefix "cert" timestamp certPem)).exec h with
  | mk r h₁ =>
      cases r with
      | error e => rfl
      | ok u =>
          have hkey : PemInstalled base namePrefix "key" earlier old.2 h₁ := by
            rw [exec_attempts_ok hcert]
            exact hold.key.after_other otherKind_cert_key.symm 3
          show (installPems faults base namePrefix timestamp [("key", privatePem)]).exec h₁ =
            (attempts faults (pemCalls base namePrefix "key" timestamp privatePem)).exec h₁
          rw [exec_installPems_over (by rw [hkey.link]; rfl)]
          exact congrArg (Eff.exec · h₁) (bind_pure _)

/-- **The two stable names after some of the six calls.** -/
theorem linkedPair_after (hold : PairInstalled base namePrefix earlier old h) (n : Nat) :
    (h.after ((pairCalls base namePrefix timestamp certPem privatePem).take n)).linkedPair base
        namePrefix =
      (linkedAfter (decide (timestamp = earlier)) old.1 (pemBody certPem) n,
        linkedAfter (decide (timestamp = earlier)) old.2 (pemBody privatePem) (n - 3)) := by
  have hlength : (pemCalls base namePrefix "cert" timestamp certPem).length = 3 := rfl
  rw [pairCalls, List.take_append, hlength, after_append]
  refine Prod.ext ?_ ?_
  · by_cases hn : n ≤ 3
    · rw [Nat.sub_eq_zero_of_le hn]
      exact linkedPem_after hold.cert n
    · rw [List.take_of_length_le (by omega)]
      have hcert : PemInstalled base namePrefix "cert" timestamp (pemBody certPem)
          (h.after (pemCalls base namePrefix "cert" timestamp certPem)) := pemInstalled_after h
      obtain ⟨m, rfl⟩ : ∃ m, n = m + 3 := ⟨n - 3, by omega⟩
      exact (hcert.after_other otherKind_cert_key m).linkedPem
  · exact linkedPem_after (hold.key.after_other otherKind_cert_key.symm n) (n - 3)

end Pair

/-! ## `write_files` -/

/-- The prefix of the certificate files of a profile. -/
def certNamePrefix (ps : VpnProfileSettings) : String := orStr (ps.certPrefix.getD "") "cert"

/-- How many of the six calls a `write_files` makes: none where it fails
before them. -/
def certCallsDone (settings : PanelSettings) (faults : Faults) (profile : ConfigProfile)
    (ps : VpnProfileSettings) (configId : ConfigId) (result : BuildResult) : Nat :=
  let base := certBase settings profile ps configId
  match faults .mkdirArchive,
    (if settings.systemd.perConfig then faults .mkdirLive else none), faults .mkdirCerts,
    applyTlsCertPaths profile result.configData
      (base.render ++ "/" ++ certNamePrefix ps ++ "-cert.pem")
      (base.render ++ "/" ++ certNamePrefix ps ++ "-key.pem") with
  | none, none, none, .ok _ => callsDone faults pairOps
  | _, _, _, _ => 0

section WriteFiles

variable {settings : PanelSettings} {faults : Faults} {timestamp earlier : Nat}
  {profile : ConfigProfile} {ps : VpnProfileSettings} {configId : ConfigId} {result : BuildResult}
  {certPem privatePem : String} {old : String × String} {h h' : Host}

theorem certCallsDone_le : certCallsDone settings faults profile ps configId result ≤ 6 := by
  unfold certCallsDone
  dsimp only
  split
  · exact callsDone_le pairOps
  · omega

theorem linkedPair_congr {base : CertBase} {namePrefix : String} (hpems : h'.pems = h.pems) :
    h'.linkedPair base namePrefix = h.linkedPair base namePrefix := by
  simp only [Host.linkedPair, Host.linkedPem, hpems]

theorem PairInstalled.congr {base : CertBase} {namePrefix : String}
    (hold : PairInstalled base namePrefix earlier old h) (hpems : h'.pems = h.pems) :
    PairInstalled base namePrefix earlier old h' where
  cert := ⟨by rw [hpems]; exact hold.cert.link, by rw [hpems]; exact hold.cert.file⟩
  key := ⟨by rw [hpems]; exact hold.key.link, by rw [hpems]; exact hold.key.file⟩

/-- What the stable names lead to after `n` of the six calls. -/
def linksAfter (timestamp earlier : Nat) (old new : String × String) (n : Nat) :
    Option String × Option String :=
  (linkedAfter (decide (timestamp = earlier)) old.1 new.1 n,
    linkedAfter (decide (timestamp = earlier)) old.2 new.2 (n - 3))

theorem PairInstalled.linksAfter_zero {base : CertBase} {namePrefix : String}
    {new : String × String} (hold : PairInstalled base namePrefix earlier old h)
    (hpems : h'.pems = h.pems) :
    h'.linkedPair base namePrefix = linksAfter timestamp earlier old new 0 := by
  rw [linkedPair_congr hpems]
  exact Prod.ext hold.cert.linkedPem hold.key.linkedPem

/-- After the certificates nothing touches them. -/
theorem pems_of_writeFiles {configName : String} (hps : settings.profileSettings profile = .ok ps) :
    ((writeFiles settings faults timestamp profile configId result configName).exec h).2.pems =
      ((prepareDocuments settings faults timestamp profile ps configId result).exec h).2.pems := by
  have hdocuments (doc : PyVal) : Eff.Keeps Host.pems (do
      restartService settings faults profile configId configName
      syncMux settings faults profile doc
      pure doc) := by
    have hservice : Eff.Keeps Host.pems
        (restartService settings faults profile configId configName) :=
      within_restartService (fun _ _ _ => rfl) (fun _ => rfl) (fun _ _ => rfl) fun _ _ _ _ => rfl
    have hmux : Eff.Keeps Host.pems (syncMux settings faults profile doc) :=
      within_syncMux fun _ _ _ => rfl
    exact hservice.bind fun _ => hmux.bind fun _ => Eff.Within.pure _
  have hserved (doc : PyVal) : Eff.Keeps Host.pems (do
      writeServed settings faults profile ps configId doc
      pure doc) := by
    have hwrite : Eff.Keeps Host.pems (writeServed settings faults profile ps configId doc) :=
      within_writeServed (fun _ _ => rfl) fun _ _ _ _ => rfl
    exact hwrite.bind fun _ => Eff.Within.pure _
  rw [writeFiles, Eff.snd_exec_bind hdocuments, writeDocuments, hps, Eff.ofExcept_ok_bind,
    Eff.snd_exec_bind hserved]

/-- The certificates of a result that are installed over an earlier pair. -/
theorem links_of_installCerts
    (hfiles : result.extraFiles = [("cert", certPem), ("key", privatePem)])
    (hold : PairInstalled (certBase settings profile ps configId) (certNamePrefix ps) earlier old h)
    (hearlier : faults .mkdirArchive = none ∧
      (if settings.systemd.perConfig then faults .mkdirLive else none) = none) :
    ((installCerts settings faults timestamp profile ps configId result).exec h).2.linkedPair
        (certBase settings profile ps configId) (certNamePrefix ps) =
      linksAfter timestamp earlier old (pemBody certPem, pemBody privatePem)
        (certCallsDone settings faults profile ps configId result) := by
  have hsome : result.extraFiles.isEmpty = false := by rw [hfiles]; rfl
  rw [installCerts, hsome, certCallsDone, hearlier.1, hearlier.2]
  cases hcerts : faults .mkdirCerts with
  | some f =>
      show ((attempt faults .mkdirCerts id >>= _).exec h).2.linkedPair _ _ = _
      rw [Eff.exec_bind_error (exec_attempt_of_fault hcerts h)]
      exact hold.linksAfter_zero (by split <;> rfl)
  | none =>
      show ((attempt faults .mkdirCerts id >>= _).exec h).2.linkedPair _ _ = _
      rw [Eff.exec_bind_ok (exec_attempt_of_none hcerts h)]
      show ((Eff.ofExcept (applyTlsCertPaths profile result.configData
        ((certBase settings profile ps configId).render ++ "/" ++ certNamePrefix ps ++ "-cert.pem")
        ((certBase settings profile ps configId).render ++ "/" ++ certNamePrefix ps ++ "-key.pem"))
          >>= fun configData => do
            installPems faults (certBase settings profile ps configId) (certNamePrefix ps) timestamp
              result.extraFiles
            pure configData).exec h).2.linkedPair _ _ = _
      cases happly : applyTlsCertPaths profile result.configData
        ((certBase settings profile ps configId).render ++ "/" ++ certNamePrefix ps ++ "-cert.pem")
        ((certBase settings profile ps configId).render ++ "/" ++ certNamePrefix ps ++
          "-key.pem") with
      | error e => exact hold.linksAfter_zero rfl
      | ok doc =>
          rw [Eff.ofExcept_ok_bind, hfiles]
          have hpure : ∀ u : Unit, Eff.Keeps Host.pems (pure doc : HostM PyVal) :=
            fun _ => Eff.Within.pure _
          rw [linkedPair_congr (Eff.snd_exec_bind hpure h), exec_installPems_pair_over hold,
            snd_exec_attempts]
          exact linkedPair_after hold _

/-- The directories are made first, and what is written afterwards is no
certificate. -/
theorem links_of_prepareDocuments
    (hfiles : result.extraFiles = [("cert", certPem), ("key", privatePem)])
    (hold : PairInstalled (certBase settings profile ps configId) (certNamePrefix ps) earlier old
      h) :
    ((prepareDocuments settings faults timestamp profile ps configId result).exec h).2.linkedPair
        (certBase settings profile ps configId) (certNamePrefix ps) =
      linksAfter timestamp earlier old (pemBody certPem, pemBody privatePem)
        (certCallsDone settings faults profile ps configId result) := by
  have hwritten (doc : PyVal) : Eff.Keeps Host.pems (do
      attempt faults .serialize id
      attempt faults .writeArchive fun h => h.setArchive configId ps.configFilename doc
      pure doc) := by
    have hserialize : Eff.Keeps Host.pems (attempt faults .serialize id) :=
      within_attempt fun _ => rfl
    have harchive : Eff.Keeps Host.pems
        (attempt faults .writeArchive fun h => h.setArchive configId ps.configFilename doc) :=
      within_attempt fun _ => rfl
    exact hserialize.bind fun _ => harchive.bind fun _ => Eff.Within.pure _
  rw [prepareDocuments]
  cases harchive : faults .mkdirArchive with
  | some f =>
      rw [Eff.exec_bind_error (exec_attempt_of_fault harchive h), certCallsDone, harchive]
      exact hold.linksAfter_zero (by split <;> rfl)
  | none =>
      rw [Eff.exec_bind_ok (exec_attempt_of_none harchive h)]
      by_cases hper : settings.systemd.perConfig = true
      · rw [if_pos hper]
        cases hlive : faults .mkdirLive with
        | some f =>
            rw [Eff.exec_bind_error (exec_attempt_of_fault hlive _), certCallsDone, harchive,
              if_pos hper, hlive]
            exact hold.linksAfter_zero (by split <;> rfl)
        | none =>
            rw [Eff.exec_bind_ok (exec_attempt_of_none hlive _),
              linkedPair_congr (Eff.snd_exec_bind hwritten _)]
            exact links_of_installCerts hfiles (hold.congr rfl)
              ⟨harchive, by rw [if_pos hper, hlive]⟩
      · rw [if_neg hper, linkedPair_congr (Eff.snd_exec_bind hwritten _)]
        exact links_of_installCerts hfiles hold ⟨harchive, if_neg hper⟩

/-- **What the stable names lead to after a `write_files`**, however it ends. -/
theorem links_of_writeFiles {configName : String} (hps : settings.profileSettings profile = .ok ps)
    (hfiles : result.extraFiles = [("cert", certPem), ("key", privatePem)])
    (hold : PairInstalled (certBase settings profile ps configId) (certNamePrefix ps) earlier old
      h) :
    ((writeFiles settings faults timestamp profile configId result configName).exec
        h).2.linkedPair (certBase settings profile ps configId) (certNamePrefix ps) =
      linksAfter timestamp earlier old (pemBody certPem, pemBody privatePem)
        (certCallsDone settings faults profile ps configId result) := by
  rw [linkedPair_congr (pems_of_writeFiles hps)]
  exact links_of_prepareDocuments hfiles hold

/-- A pair that is installed. -/
theorem pairInstalled_installPair (h : Host) (base : CertBase) (namePrefix : String)
    (timestamp : Nat) (certPem privatePem : String) :
    PairInstalled base namePrefix timestamp (pemBody certPem, pemBody privatePem)
      (h.installPair base namePrefix timestamp certPem privatePem) := by
  have hcert : PemInstalled base namePrefix "cert" timestamp (pemBody certPem)
      (h.after (pemCalls base namePrefix "cert" timestamp certPem)) := pemInstalled_after h
  have hpair : PairInstalled base namePrefix timestamp (pemBody certPem, pemBody privatePem)
      (h.after (pairCalls base namePrefix timestamp certPem privatePem)) := by
    rw [pairCalls, after_append]
    exact ⟨hcert.after_other otherKind_cert_key 3, pemInstalled_after _⟩
  refine hpair.congr ?_
  simp only [Host.after, pairCalls, pemCalls, List.cons_append, List.nil_append,
    List.foldl_cons, List.foldl_nil, setPem_setPem]
  rfl

/-- A `write_files` that returned leaves the pair of its result. -/
theorem pairInstalled_of_writeFiles {configName : String} {doc : PyVal}
    (hps : settings.profileSettings profile = .ok ps)
    (hfiles : result.extraFiles = [("cert", certPem), ("key", privatePem)])
    (hx : (writeFiles settings faults timestamp profile configId result configName).exec h =
      (.ok doc, h')) :
    PairInstalled (certBase settings profile ps configId) (certNamePrefix ps) timestamp
      (pemBody certPem, pemBody privatePem) h' := by
  cases installed_of_writeFiles hps hx with
  | nothing hnone _ _ =>
      rw [hfiles] at hnone
      cases hnone
  | files _ _ hpems =>
      exact (pairInstalled_installPair h _ _ timestamp certPem privatePem).congr
        (hpems certPem privatePem hfiles)

end WriteFiles

/-! ## the files of a build -/

section Build

variable {crypto : Crypto} {settings : PanelSettings} {env : BuildEnv} {req : BuildRequest}
  {profile : ConfigProfile} {result : BuildResult}

theorem extraFiles_of_resolveTls {ps : VpnProfileSettings} {previous : Option PreviousSecrets}
    {dnsName filePrefix : String} {rotateTls : Bool} {tls : TlsMaterial}
    (hx : resolveTls crypto env ps previous dnsName rotateTls filePrefix = .ok tls) :
    tls.extraFiles = [] ∨ tls.extraFiles = [("cert", tls.certPem), ("key", tls.privatePem)] := by
  cases rotateTls with
  | true =>
      obtain ⟨external, hexternal, hx⟩ := Except.bind_eq_ok_iff.mp hx
      cases hexternal
      obtain ⟨⟨privatePem, certPem, fingerprint⟩, -, hx⟩ := Except.bind_eq_ok_iff.mp hx
      cases hx
      exact Or.inr rfl
  | false =>
      obtain ⟨external, hexternal, hx⟩ := Except.bind_eq_ok_iff.mp hx
      cases external with
      | some found =>
          cases hx
          exact Or.inl (loadExternalTls_spec hexternal).2.1
      | none =>
          simp only [Bool.false_eq_true, if_false] at hx
          split at hx
          · cases hx
            exact Or.inr rfl
          · obtain ⟨⟨privatePem, certPem, fingerprint⟩, -, hx⟩ := Except.bind_eq_ok_iff.mp hx
            cases hx
            exact Or.inr rfl

/-- A build has its certificate and its key installed, or nothing. -/
theorem extraFiles_of_build (hbuild : build crypto settings env req profile = .ok result) :
    result.extraFiles = [] ∨
      result.extraFiles = [("cert", result.publicKey), ("key", result.privateKey)] := by
  have hmaterial {tls : TlsMaterial} (hfiles : tls.extraFiles = [] ∨
      tls.extraFiles = [("cert", tls.certPem), ("key", tls.privatePem)])
      (hresult : ∃ port clientId, result = tls.result result.configData port clientId) :
      result.extraFiles = [] ∨
        result.extraFiles = [("cert", result.publicKey), ("key", result.privateKey)] := by
    obtain ⟨port, clientId, hresult⟩ := hresult
    rw [hresult]
    exact hfiles
  obtain ⟨ps, -, hbuild⟩ := Except.bind_eq_ok_iff.mp hbuild
  obtain ⟨template, -, hbuild⟩ := Except.bind_eq_ok_iff.mp hbuild
  cases profile with
  | xrayReality => exact Or.inl (buildXrayReality_spec hbuild).extraFiles
  | xrayGrpc =>
      obtain ⟨tls, hbuilt⟩ := buildXrayGrpc_spec hbuild
      obtain ⟨dnsName, hresolved⟩ := hbuilt.resolved
      exact hmaterial (extraFiles_of_resolveTls hresolved) hbuilt.material
  | xrayXhttp =>
      obtain ⟨tls, hbuilt⟩ := buildXrayXhttp_spec hbuild
      obtain ⟨dnsName, hresolved⟩ := hbuilt.resolved
      exact hmaterial (extraFiles_of_resolveTls hresolved) hbuilt.material
  | hysteria2 =>
      obtain ⟨tls, hbuilt⟩ := buildHysteria2_tls hbuild
      obtain ⟨dnsName, hresolved⟩ := hbuilt.resolved
      exact hmaterial (extraFiles_of_resolveTls hresolved) hbuilt.material

end Build

/-! ## where the links stay a pair -/

/-- The cut splits no pair: no stable name is missing there, and where the
certificate is new and the key is not, one of them is the same as before. -/
def CutBetweenPairs (timestamp earlier : Nat) (old new : String × String) (n : Nat) : Prop :=
  n ≠ 2 ∧ n ≠ 5 ∧
    (n = 1 ∧ timestamp = earlier ∨ n = 3 ∨ n = 4 ∧ timestamp ≠ earlier →
      new.1 = old.1 ∨ new.2 = old.2)

theorem linksAfter_pair_iff {timestamp earlier : Nat} {old new : String × String} {n : Nat}
    (hn : n ≤ 6) :
    linksAfter timestamp earlier old new n = (some old.1, some old.2) ∨
        linksAfter timestamp earlier old new n = (some new.1, some new.2) ↔
      CutBetweenPairs timestamp earlier old new n := by
  have hmixed : (some new.1, some old.2) = (some old.1, some old.2) ∨
      (some new.1, some old.2) = (some new.1, some new.2) ↔
        new.1 = old.1 ∨ new.2 = old.2 := by
    simp [eq_comm]
  match n, hn with
  | 0, _ => simp [linksAfter, linkedAfter, CutBetweenPairs]
  | 1, _ =>
      by_cases htime : timestamp = earlier
      · simpa [linksAfter, linkedAfter, CutBetweenPairs, htime] using hmixed
      · simp [linksAfter, linkedAfter, CutBetweenPairs, htime]
  | 2, _ => simp [linksAfter, linkedAfter, CutBetweenPairs]
  | 3, _ => simpa [linksAfter, linkedAfter, CutBetweenPairs] using hmixed
  | 4, _ =>
      by_cases htime : timestamp = earlier
      · simp [linksAfter, linkedAfter, CutBetweenPairs, htime]
      · simpa [linksAfter, linkedAfter, CutBetweenPairs, htime] using hmixed
  | 5, _ => simp [linksAfter, linkedAfter, CutBetweenPairs]
  | 6, _ => simp [linksAfter, linkedAfter, CutBetweenPairs]

/-- **When the certificate links stay a pair.**  However a `write_files` over
an earlier installation ends, both stable names are links and lead to the old
pair or to the new one exactly when the cut splits no pair. -/
theorem linksPair_iff (settings : PanelSettings) (faults : Faults) (timestamp earlier : Nat)
    (profile : ConfigProfile) (ps : VpnProfileSettings) (configId : ConfigId)
    (result : BuildResult) (configName certPem privatePem : String) (old : String × String)
    (h : Host) (hps : settings.profileSettings profile = .ok ps)
    (hfiles : result.extraFiles = [("cert", certPem), ("key", privatePem)])
    (hold : PairInstalled (certBase settings profile ps configId) (certNamePrefix ps) earlier old
      h) :
    LinksPair (certBase settings profile ps configId) (certNamePrefix ps) old
        (pemBody certPem, pemBody privatePem)
        ((writeFiles settings faults timestamp profile configId result configName).exec h).2 ↔
      CutBetweenPairs timestamp earlier old (pemBody certPem, pemBody privatePem)
        (certCallsDone settings faults profile ps configId result) := by
  rw [LinksPair, links_of_writeFiles hps hfiles hold]
  exact linksAfter_pair_iff certCallsDone_le

/-- A build that renews the certificate of a Hysteria2 config. -/
def renewedPair : BuildResult where
  configData := .dict []
  port := 443
  privateKey := "new key\n"
  publicKey := "new cert\n"
  extraFiles := [("cert", "new cert\n"), ("key", "new key\n")]

/-- The profile of the config. -/
def renewedProfile : VpnProfileSettings := { sampleProfile with portCandidates := [443, 8443] }

/-- Where its pair is installed. -/
def renewedBase : CertBase := certBase Ctx.allProfiles.settings .hysteria2 renewedProfile 0

/-- What `write_files` leaves of a machine with the pair of the second 1. -/
def renewedHost (faults : Faults) : Host :=
  ((writeFiles Ctx.allProfiles.settings faults 2 .hysteria2 0 renewedPair "c").exec
    (Host.blank.installPair renewedBase (certNamePrefix renewedProfile) 1 "old cert\n"
      "old key\n")).2

/-- No call fails. -/
theorem linksPair_of_noFault :
    LinksPair renewedBase (certNamePrefix renewedProfile)
      (pemBody "old cert\n", pemBody "old key\n") (pemBody "new cert\n", pemBody "new key\n")
      (renewedHost Faults.none) :=
  (linksPair_iff Ctx.allProfiles.settings Faults.none 2 1 .hysteria2 renewedProfile 0 renewedPair
    "c" "new cert\n" "new key\n" _ _ rfl rfl (pairInstalled_installPair _ _ _ _ _ _)).mpr (by
      have hdone : certCallsDone Ctx.allProfiles.settings Faults.none .hysteria2 renewedProfile 0
          renewedPair = 6 := rfl
      simp [CutBetweenPairs, hdone])

/-- `symlink_to` fails for the certificate, after the `unlink`. -/
def cutAfterUnlink : Faults := fun op =>
  if op = .symlinkPem "cert" then some { err := ⟨.osError, "No space left on device"⟩ } else none

/-- There is no certificate then. -/
theorem not_linksPair_of_cutAfterUnlink :
    ¬ LinksPair renewedBase (certNamePrefix renewedProfile)
      (pemBody "old cert\n", pemBody "old key\n") (pemBody "new cert\n", pemBody "new key\n")
      (renewedHost cutAfterUnlink) := by
  have hlinks : (renewedHost cutAfterUnlink).linkedPair renewedBase
      (certNamePrefix renewedProfile) = linksAfter 2 1
        (pemBody "old cert\n", pemBody "old key\n") (pemBody "new cert\n", pemBody "new key\n")
        (certCallsDone Ctx.allProfiles.settings cutAfterUnlink .hysteria2 renewedProfile 0
          renewedPair) :=
    links_of_writeFiles rfl rfl (pairInstalled_installPair _ _ _ _ _ _)
  have hdone : certCallsDone Ctx.allProfiles.settings cutAfterUnlink .hysteria2 renewedProfile 0
      renewedPair = 2 := rfl
  rw [LinksPair, hlinks, hdone]
  simp [linksAfter, linkedAfter]

end VpnPanel
