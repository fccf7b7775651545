import VpnPanel.BuiltDocuments
import VpnPanel.StoredVersions

/-!
# VpnPanel.ServedCertificates

The certificate of a build, and the files `write_files` installs of it.

* `resolveTls_spec` — the pair of a build, and what it does with it;
* `installed_of_writeFiles` — what is installed;
* `buildXrayGrpc_spec`, `buildXrayXhttp_spec`, `buildHysteria2_tls` — where the
  documents of the TLS profiles name the files;
* `certified_run` — the fingerprints of the stored versions.
-/

namespace VpnPanel

/-! ## the certificate of a build -/

/-- A pair of certificate and key with a fingerprint. -/
structure PinnedPair (crypto : Crypto) (fingerprint certPem privatePem : String) : Prop where
  fingerprint : crypto.certFingerprintSha256 certPem = .ok fingerprint
  matched : crypto.certMatchesPrivateKey certPem privatePem = true

/-- Self-signed pairs match. -/
def BuildEnv.SelfSignedMatches (crypto : Crypto) (env : BuildEnv) : Prop :=
  ∀ names privatePem certPem, env.selfSigned names = .ok (privatePem, certPem) →
    crypto.certMatchesPrivateKey certPem privatePem = true

/-- The fingerprint of a version is that of its certificate. -/
def PreviousSecrets.Fingerprinted (crypto : Crypto) (previous : PreviousSecrets) : Prop :=
  ∀ certPem fingerprint, nonEmpty previous.publicKey = some certPem →
    nonEmpty previous.certFingerprint = some fingerprint →
    crypto.certFingerprintSha256 certPem = .ok fingerprint

/-- The external pair of a profile was read at the build. -/
def BuildEnv.ReadsFile (env : BuildEnv) (path text : String) : Prop :=
  env.isFile path = .ok true ∧ env.readText path = .ok text

/-- The file a build names for a pair of its own. -/
def ownFile (ps : VpnProfileSettings) (filePrefix kind : String) : String :=
  ps.certDir.getD "/usr/local/etc/xray/certs" ++ "/" ++ orStr (ps.certPrefix.getD "") filePrefix ++
    "-" ++ kind ++ ".pem"

/-- What a build does with its certificate: it names the files of the external
pair, or has the pair installed. -/
inductive TlsSource (crypto : Crypto) (env : BuildEnv) (ps : VpnProfileSettings) (rotateTls : Bool)
    (filePrefix : String) (tls : TlsMaterial) : Prop where
  | external (hrotate : rotateTls = false) (hload : loadExternalTls crypto env ps = .ok (some tls))
      (hfiles : tls.extraFiles = []) (hcert : env.ReadsFile tls.certFile tls.certPem)
      (hkey : env.ReadsFile tls.keyFile tls.privatePem)
  | installed (hnone : rotateTls = true ∨ loadExternalTls crypto env ps = .ok none)
      (hfiles : tls.extraFiles = [("cert", tls.certPem), ("key", tls.privatePem)])
      (hcert : tls.certFile = ownFile ps filePrefix "cert")
      (hkey : tls.keyFile = ownFile ps filePrefix "key")

section Material

variable {crypto : Crypto} {env : BuildEnv} {ps : VpnProfileSettings}

/-- Both files of the external pair were read. -/
theorem of_readPair {certPath keyPath certPem privatePem : String}
    (h : readPair env certPath keyPath = .ok (some (certPem, privatePem))) :
    env.ReadsFile certPath certPem ∧ env.ReadsFile keyPath privatePem := by
  obtain ⟨certThere, hcertThere, h⟩ := Except.bind_eq_ok_iff.mp h
  cases certThere with
  | false => cases h
  | true =>
      obtain ⟨keyThere, hkeyThere, h⟩ := Except.bind_eq_ok_iff.mp h
      cases keyThere with
      | false => cases h
      | true =>
          obtain ⟨certText, hcert, h⟩ := Except.bind_eq_ok_iff.mp h
          obtain ⟨keyText, hkey, h⟩ := Except.bind_eq_ok_iff.mp h
          obtain ⟨rfl, rfl⟩ : certText = certPem ∧ keyText = privatePem := by simpa using h
          exact ⟨⟨hcertThere, hcert⟩, hkeyThere, hkey⟩

theorem loadExternalTls_spec {tls : TlsMaterial}
    (h : loadExternalTls crypto env ps = .ok (some tls)) :
    PinnedPair crypto tls.fingerprint tls.certPem tls.privatePem ∧ tls.extraFiles = [] ∧
      env.ReadsFile tls.certFile tls.certPem ∧ env.ReadsFile tls.keyFile tls.privatePem := by
  unfold loadExternalTls at h
  split at h
  · split at h
    · split at h <;> cases h
    · cases h
    · next certPem privatePem hpair =>
      split at h
      · next hmatched =>
        obtain ⟨fingerprint, hfingerprint, h⟩ := Except.bind_eq_ok_iff.mp h
        obtain ⟨hcert, hkey⟩ := of_readPair hpair
        rw [← Option.some.inj (Except.ok.inj h)]
        exact ⟨⟨hfingerprint, hmatched⟩, rfl, hcert, hkey⟩
      · cases h
  · cases h

theorem tryReuseTls_spec {previous : Option PreviousSecrets} {primary privatePem certPem : String}
    {fingerprint : String}
    (hprevious : ∀ p, previous = some p → p.Fingerprinted crypto)
    (h : tryReuseTls crypto previous primary = some (privatePem, certPem, fingerprint)) :
    PinnedPair crypto fingerprint certPem privatePem := by
  unfold tryReuseTls at h
  split at h
  · contradiction
  · next p =>
    split at h
    · next privateKey publicKey fp hprivate hpublic hfp =>
      split at h
      · next hmatched =>
        cases h
        simp only [Bool.and_eq_true] at hmatched
        exact ⟨hprevious p rfl _ _ hpublic hfp, hmatched.2⟩
      · contradiction
    · contradiction

theorem generateSelfSignedCert_spec {dnsNames : List String}
    {privatePem certPem fingerprint : String}
    (h : generateSelfSignedCert crypto env dnsNames = .ok (privatePem, certPem, fingerprint)) :
    crypto.certFingerprintSha256 certPem = .ok fingerprint ∧
      (env.SelfSignedMatches crypto → crypto.certMatchesPrivateKey certPem privatePem = true) := by
  unfold generateSelfSignedCert at h
  simp only at h
  split at h
  · cases h
  · obtain ⟨⟨key, cert⟩, hsigned, h⟩ := Except.bind_eq_ok_iff.mp h
    obtain ⟨fp, hfp, h⟩ := Except.bind_eq_ok_iff.mp h
    cases h
    exact ⟨hfp, fun hself => hself _ _ _ hsigned⟩

/-- The certificate of a build has the fingerprint of the build, its key is its
own, and the build names the files or has them installed. -/
theorem resolveTls_spec {previous : Option PreviousSecrets} {dnsName filePrefix : String}
    {rotateTls : Bool} {tls : TlsMaterial}
    (hprevious : ∀ p, previous = some p → p.Fingerprinted crypto)
    (h : resolveTls crypto env ps previous dnsName rotateTls filePrefix = .ok tls) :
    crypto.certFingerprintSha256 tls.certPem = .ok tls.fingerprint ∧
      (env.SelfSignedMatches crypto →
        crypto.certMatchesPrivateKey tls.certPem tls.privatePem = true) ∧
      TlsSource crypto env ps rotateTls filePrefix tls := by
  have hown (kind : String) :
      ps.certDir.getD "/usr/local/etc/xray/certs" ++ "/" ++
        orStr (ps.certPrefix.getD "") filePrefix ++ ("-" ++ kind ++ ".pem") =
      ownFile ps filePrefix kind := by
    simp only [ownFile, String.append_assoc]
  have hcert := hown "cert"
  have hkey := hown "key"
  cases rotateTls with
  | true =>
      obtain ⟨external, hexternal, h⟩ := Except.bind_eq_ok_iff.mp h
      cases hexternal
      obtain ⟨⟨privatePem, certPem, fingerprint⟩, hsigned, h⟩ := Except.bind_eq_ok_iff.mp h
      cases h
      obtain ⟨hfingerprint, hmatched⟩ := generateSelfSignedCert_spec hsigned
      exact ⟨hfingerprint, hmatched, .installed (Or.inl rfl) rfl hcert hkey⟩
  | false =>
      obtain ⟨external, hexternal, h⟩ := Except.bind_eq_ok_iff.mp h
      cases external with
      | some found =>
          cases h
          obtain ⟨hpair, hfiles, hreadsCert, hreadsKey⟩ := loadExternalTls_spec hexternal
          exact ⟨hpair.fingerprint, fun _ => hpair.matched,
            .external rfl hexternal hfiles hreadsCert hreadsKey⟩
      | none =>
          simp only [Bool.false_eq_true, if_false] at h
          split at h
          · next pair hreuse =>
            obtain ⟨privatePem, certPem, fingerprint⟩ := pair
            cases h
            have hpair := tryReuseTls_spec hprevious hreuse
            exact ⟨hpair.fingerprint, fun _ => hpair.matched,
              .installed (Or.inr hexternal) rfl hcert hkey⟩
          · obtain ⟨⟨privatePem, certPem, fingerprint⟩, hsigned, h⟩ := Except.bind_eq_ok_iff.mp h
            cases h
            obtain ⟨hfingerprint, hmatched⟩ := generateSelfSignedCert_spec hsigned
            exact ⟨hfingerprint, hmatched, .installed (Or.inr hexternal) rfl hcert hkey⟩

/-- The pair of a build belongs together, and has the fingerprint of the
build. -/
theorem pinnedPair_of_resolveTls {previous : Option PreviousSecrets} {dnsName filePrefix : String}
    {rotateTls : Bool} {tls : TlsMaterial} (hself : env.SelfSignedMatches crypto)
    (hprevious : ∀ p, previous = some p → p.Fingerprinted crypto)
    (h : resolveTls crypto env ps previous dnsName rotateTls filePrefix = .ok tls) :
    PinnedPair crypto tls.fingerprint tls.certPem tls.privatePem ∧
      TlsSource crypto env ps rotateTls filePrefix tls := by
  obtain ⟨hfingerprint, hmatched, hsource⟩ := resolveTls_spec hprevious h
  exact ⟨⟨hfingerprint, hmatched hself⟩, hsource⟩

end Material

/-! ## the files of the certificates -/

/-- The text of a file `write_files` installs. -/
def pemBody (content : String) : String :=
  if content.endsWith "\n" then content else content ++ "\n"

/-- The text a name in a certificate directory leads to. -/
def Host.readPem (h : Host) (base : CertBase) (name : String) : Option String :=
  match h.pems base name with
  | some (.file body) => some body
  | some (.symlink target) =>
      match h.pems base target with
      | some (.file body) => some body
      | _ => none
  | none => none

/-- The machine with a file and the stable name that leads to it. -/
def Host.installPem (h : Host) (base : CertBase) (namePrefix kind : String) (timestamp : Nat)
    (content : String) : Host :=
  let versioned := namePrefix ++ "-" ++ kind ++ "-" ++ toString timestamp ++ ".pem"
  (h.setPem base versioned (some (.file (pemBody content)))).setPem base
    (namePrefix ++ "-" ++ kind ++ ".pem") (some (.symlink versioned))

/-- The machine with a certificate and its key installed. -/
def Host.installPair (h : Host) (base : CertBase) (namePrefix : String) (timestamp : Nat)
    (certPem privatePem : String) : Host :=
  (h.installPem base namePrefix "cert" timestamp certPem).installPem base namePrefix "key"
    timestamp privatePem

theorem setPem_setPem (h : Host) (base : CertBase) (name : String)
    (entry entry' : Option PemEntry) :
    (h.setPem base name entry).setPem base name entry' = h.setPem base name entry' := by
  simp only [Host.setPem]
  congr 1
  funext b n
  split <;> rfl

/-- What a call of the loop leaves. -/
theorem exec_installPems_cons {faults : Faults} {base : CertBase} {namePrefix kind content : String}
    {timestamp : Nat} {rest : List (String × String)} {h h' : Host} {u : Unit}
    (hx : (installPems faults base namePrefix timestamp ((kind, content) :: rest)).exec h =
      (.ok u, h')) :
    (installPems faults base namePrefix timestamp rest).exec
      (h.installPem base namePrefix kind timestamp content) = (.ok u, h') := by
  unfold installPems at hx
  have hbody : pemBody content = if content.endsWith "\n" then content else content ++ "\n" := rfl
  simp only [← hbody] at hx
  have hwritten := exec_attempt_bind_ok hx
  obtain ⟨h₂, h₃, hread, hlink⟩ := Eff.exec_bind_eq_ok hwritten
  cases hread
  split at hlink
  · have hrest := exec_attempt_bind_ok (exec_attempt_bind_ok hlink)
    rw [setPem_setPem] at hrest
    exact hrest
  · exact exec_attempt_bind_ok hlink

theorem exec_installPems_pair {faults : Faults} {base : CertBase} {namePrefix : String}
    {certPem privatePem : String} {timestamp : Nat} {h h' : Host} {u : Unit}
    (hx : (installPems faults base namePrefix timestamp
      [("cert", certPem), ("key", privatePem)]).exec h = (.ok u, h')) :
    h' = h.installPair base namePrefix timestamp certPem privatePem := by
  have hdone := exec_installPems_cons (exec_installPems_cons hx)
  exact (congrArg Prod.snd hdone).symm

/-- The other directories stay as they are. -/
theorem pems_installPair_of_ne (h : Host) (namePrefix : String) (timestamp : Nat)
    (certPem privatePem : String) {base base' : CertBase} (hne : base' ≠ base) :
    (h.installPair base namePrefix timestamp certPem privatePem).pems base' = h.pems base' := by
  funext name
  simp [Host.installPair, Host.installPem, Host.setPem, hne]

/-- A link leads to its file. -/
theorem readPem_link (h : Host) (base : CertBase) {versioned stable : String} (body : String)
    (hne : stable ≠ versioned) :
    ((h.setPem base versioned (some (.file body))).setPem base stable
      (some (.symlink versioned))).readPem base stable = some body := by
  simp [Host.readPem, Host.setPem, hne.symm]

theorem pems_setPem_of_ne (h : Host) (base : CertBase) {name stable : String}
    (entry : Option PemEntry) (hne : stable ≠ name) :
    (h.setPem base name entry).pems base stable = h.pems base stable := by
  simp [Host.setPem, hne]

/-- Another name does not change where a link leads. -/
theorem readPem_setPem {h : Host} {base : CertBase} {name stable target : String}
    (hlink : h.pems base stable = some (.symlink target)) (entry : Option PemEntry)
    (hstable : stable ≠ name) (htarget : target ≠ name) :
    (h.setPem base name entry).readPem base stable = h.readPem base stable := by
  rw [Host.readPem, pems_setPem_of_ne h base entry hstable, hlink, Host.readPem, hlink]
  simp only [pems_setPem_of_ne h base entry htarget]

/-- The installed pair, under the stable names. -/
theorem readPem_installPair (h : Host) (base : CertBase) (namePrefix : String) (timestamp : Nat)
    (certPem privatePem : String) :
    (h.installPair base namePrefix timestamp certPem privatePem).readPem base
        (namePrefix ++ "-" ++ "cert" ++ ".pem") = some (pemBody certPem) ∧
      (h.installPair base namePrefix timestamp certPem privatePem).readPem base
        (namePrefix ++ "-" ++ "key" ++ ".pem") = some (pemBody privatePem) := by
  -- the four names are different texts
  have hdiffers {name name' : String} (hne : name.toList ≠ name'.toList) : name ≠ name' :=
    fun heq => hne (congrArg String.toList heq)
  have hversioned (kind : String) : namePrefix ++ "-" ++ kind ++ ".pem" ≠
      namePrefix ++ "-" ++ kind ++ "-" ++ toString timestamp ++ ".pem" := hdiffers (by simp)
  have hlink : (h.installPem base namePrefix "cert" timestamp certPem).pems base
      (namePrefix ++ "-" ++ "cert" ++ ".pem") =
        some (.symlink (namePrefix ++ "-" ++ "cert" ++ "-" ++ toString timestamp ++ ".pem")) := by
    simp [Host.installPem, Host.setPem]
  have hkey : namePrefix ++ "-" ++ "cert" ++ ".pem" ≠
      namePrefix ++ "-" ++ "key" ++ "-" ++ toString timestamp ++ ".pem" := hdiffers (by simp)
  refine ⟨?_, readPem_link _ _ _ (hversioned "key")⟩
  rw [Host.installPair, Host.installPem,
    readPem_setPem ((pems_setPem_of_ne _ _ _ hkey).trans hlink) _ (hdiffers (by simp))
      (hdiffers (by simp)),
    readPem_setPem hlink _ hkey (hdiffers (by simp))]
  exact readPem_link _ _ _ (hversioned "cert")

/-- What `write_files` leaves of the certificates: nothing is installed, or
the files of the result are and the document gets their paths. -/
inductive Installed (settings : PanelSettings) (profile : ConfigProfile) (configId : ConfigId)
    (ps : VpnProfileSettings) (timestamp : Nat) (result : BuildResult) (h : Host) (doc : PyVal)
    (h' : Host) : Prop where
  | nothing (hfiles : result.extraFiles = []) (hdoc : doc = result.configData)
      (hpems : h'.pems = h.pems)
  | files (hfiles : result.extraFiles ≠ [])
      (hdoc : applyTlsCertPaths profile result.configData
        ((certBase settings profile ps configId).render ++ "/" ++
          orStr (ps.certPrefix.getD "") "cert" ++ "-cert.pem")
        ((certBase settings profile ps configId).render ++ "/" ++
          orStr (ps.certPrefix.getD "") "cert" ++ "-key.pem") = .ok doc)
      (hpems : ∀ certPem privatePem,
        result.extraFiles = [("cert", certPem), ("key", privatePem)] →
        h'.pems = (h.installPair (certBase settings profile ps configId)
          (orStr (ps.certPrefix.getD "") "cert") timestamp certPem privatePem).pems)

section Files

variable {settings : PanelSettings} {faults : Faults} {timestamp : Nat} {profile : ConfigProfile}
  {configId : ConfigId} {ps : VpnProfileSettings} {result : BuildResult} {h h' : Host} {doc : PyVal}

theorem installed_of_installCerts
    (hx : (installCerts settings faults timestamp profile ps configId result).exec h =
      (.ok doc, h')) : Installed settings profile configId ps timestamp result h doc h' := by
  unfold installCerts at hx
  split at hx
  · next hfiles =>
    cases hx
    exact .nothing (List.isEmpty_iff.mp hfiles) rfl rfl
  · next hfiles =>
    have hpaths := exec_attempt_bind_ok hx
    obtain ⟨doc', h₂, hdoc, hpems⟩ := Eff.exec_bind_eq_ok hpaths
    rw [Eff.exec_ofExcept] at hdoc
    obtain ⟨happlied, rfl⟩ := Prod.mk.inj hdoc
    obtain ⟨_, h₃, hinstall, hdone⟩ := Eff.exec_bind_eq_ok hpems
    cases hdone
    refine .files (by simpa using hfiles) happlied fun certPem privatePem hpair => ?_
    rw [hpair] at hinstall
    rw [exec_installPems_pair hinstall]
    rfl

/-- Only the certificates are installed before the document is written. -/
theorem installed_of_prepareDocuments
    (hx : (prepareDocuments settings faults timestamp profile ps configId result).exec h =
      (.ok doc, h')) : Installed settings profile configId ps timestamp result h doc h' := by
  have hrest {h : Host} (hx : Eff.exec (do
      let configData ← installCerts settings faults timestamp profile ps configId result
      attempt faults .serialize id
      attempt faults .writeArchive fun h => h.setArchive configId ps.configFilename configData
      pure configData) h = (.ok doc, h')) :
      Installed settings profile configId ps timestamp result h doc h' := by
    obtain ⟨doc', h₁, hinstall, hwrite⟩ := Eff.exec_bind_eq_ok hx
    have hdone := exec_attempt_bind_ok (exec_attempt_bind_ok hwrite)
    cases hdone
    cases installed_of_installCerts hinstall with
    | nothing hfiles hdoc hpems => exact .nothing hfiles hdoc hpems
    | files hfiles hdoc hpems => exact .files hfiles hdoc hpems
  unfold prepareDocuments at hx
  have hdirs := exec_attempt_bind_ok hx
  split at hdirs
  · cases hrest (exec_attempt_bind_ok hdirs) with
    | nothing hfiles hdoc hpems => exact .nothing hfiles hdoc hpems
    | files hfiles hdoc hpems => exact .files hfiles hdoc hpems
  · exact hrest hdirs

theorem installed_of_writeFiles {configName : String}
    (hps : settings.profileSettings profile = .ok ps)
    (hx : (writeFiles settings faults timestamp profile configId result configName).exec h =
      (.ok doc, h')) : Installed settings profile configId ps timestamp result h doc h' := by
  obtain ⟨doc', h₁, hdocuments, hrest⟩ := Eff.exec_bind_eq_ok hx
  obtain ⟨_, h₂, hservice, hrest⟩ := Eff.exec_bind_eq_ok hrest
  obtain ⟨_, h₃, hmux, hdone⟩ := Eff.exec_bind_eq_ok hrest
  cases hdone
  obtain ⟨ps', h₄, hsettings, hdocuments⟩ := Eff.exec_bind_eq_ok hdocuments
  rw [Eff.exec_ofExcept, hps] at hsettings
  cases hsettings
  obtain ⟨doc', h₅, hprepare, hserve⟩ := Eff.exec_bind_eq_ok hdocuments
  obtain ⟨_, h₆, hserved, hdone⟩ := Eff.exec_bind_eq_ok hserve
  cases hdone
  have hkept : h'.pems = h₅.pems := by
    have hserved' : Eff.SameAt Host.pems h₅ h₁ :=
      (within_writeServed (R := Eff.SameAt Host.pems) (fun _ _ => rfl)
        fun _ _ _ _ => rfl).of_exec hserved
    have hservice' : Eff.SameAt Host.pems h₁ h₂ :=
      (within_restartService (R := Eff.SameAt Host.pems) (fun _ _ _ => rfl) (fun _ => rfl)
        (fun _ _ => rfl) fun _ _ _ _ => rfl).of_exec hservice
    have hmux' : Eff.SameAt Host.pems h₂ h' :=
      (within_syncMux (R := Eff.SameAt Host.pems) fun _ _ _ => rfl).of_exec hmux
    exact (hmux'.trans hservice').trans hserved'
  cases installed_of_prepareDocuments hprepare with
  | nothing hfiles hdoc hpems => exact .nothing hfiles hdoc (hkept.trans hpems)
  | files hfiles hdoc hpems =>
      exact .files hfiles hdoc fun certPem privatePem hpair =>
        hkept.trans (hpems certPem privatePem hpair)

end Files

/-! ## the documents of the TLS profiles -/

/-- Where the certificates of an inbound stand. -/
def certificatesPath : List String := ["streamSettings", "tlsSettings", "certificates"]

/-- An xray result with a certificate: the tagged inbound names the files the
build has chosen. -/
structure XrayTlsBuilt (crypto : Crypto) (env : BuildEnv) (ps : VpnProfileSettings)
    (req : BuildRequest) (filePrefix : String) (template : PyVal) (result : BuildResult)
    (tls : TlsMaterial) : Prop where
  resolved : ∃ dnsName,
    resolveTls crypto env ps req.previous dnsName req.policy.rotateTls filePrefix = .ok tls
  material : ∃ port clientId, result = tls.result result.configData port clientId
  changed : ∃ inbound inbound' before after,
    InboundChanged ps.inboundTag template result.configData inbound inbound' before after ∧
      inbound.SameAt inbound' "tag" ∧
      PyVal.itemAt certificatesPath inbound' = .ok (certificatesOf tls)

section Builds

variable {crypto : Crypto} {settings : PanelSettings} {env : BuildEnv} {ps : VpnProfileSettings}
  {req : BuildRequest} {template : PyVal} {result : BuildResult}

theorem buildXrayGrpc_spec (h : buildXrayGrpc crypto settings env ps req template = .ok result) :
    ∃ tls, XrayTlsBuilt crypto env ps req "grpc" template result tls := by
  obtain ⟨port, -, h⟩ := Except.bind_eq_ok_iff.mp h
  simp only at h
  obtain ⟨⟨config, tls⟩, hmodify, h⟩ := Except.bind_eq_ok_iff.mp h
  obtain ⟨inbound, inbound', before, after, hf, hchanged⟩ := modifyInbound_spec hmodify
  obtain ⟨inbound₁, hlisten, hf⟩ := Except.bind_eq_ok_iff.mp hf
  obtain ⟨inbound₂, hclient, hf⟩ := Except.bind_eq_ok_iff.mp hf
  obtain ⟨stream, -, hf⟩ := Except.bind_eq_ok_iff.mp hf
  obtain ⟨tlsSettings, -, hf⟩ := Except.bind_eq_ok_iff.mp hf
  obtain ⟨tlsSettings₁, -, hf⟩ := Except.bind_eq_ok_iff.mp hf
  obtain ⟨tlsSettings₂, -, hf⟩ := Except.bind_eq_ok_iff.mp hf
  obtain ⟨⟨tlsSettings₃, tlsName⟩, -, hf⟩ := Except.bind_eq_ok_iff.mp hf
  obtain ⟨stream₁, -, hf⟩ := Except.bind_eq_ok_iff.mp hf
  obtain ⟨stream₂, -, hf⟩ := Except.bind_eq_ok_iff.mp hf
  obtain ⟨resolved, htls, hf⟩ := Except.bind_eq_ok_iff.mp hf
  obtain ⟨tlsSettings₄, hcerts, hf⟩ := Except.bind_eq_ok_iff.mp hf
  obtain ⟨stream₃, hstream, hf⟩ := Except.bind_eq_ok_iff.mp hf
  obtain ⟨inbound₃, hinbound, hf⟩ := Except.bind_eq_ok_iff.mp hf
  obtain ⟨rfl, rfl⟩ : inbound₃ = inbound' ∧ resolved = tls := by simpa using hf
  have htag : inbound.SameAt inbound₃ "tag" :=
    ((setListen_sameAt hlisten (by decide) (by decide)).trans
      (setClientId_sameAt hclient (by decide))).trans (PyVal.sameAt_of_setItem hinbound (by decide))
  rw [← Except.ok.inj h]
  refine ⟨resolved, ⟨tlsName, htls⟩, ⟨port, _, rfl⟩, inbound, inbound₃, before, after,
    hchanged, htag, ?_⟩
  rw [certificatesPath, PyVal.itemAt_cons (PyVal.item_self_of_setItem hinbound),
    PyVal.itemAt_cons (PyVal.item_self_of_setItem hstream),
    PyVal.itemAt_cons (PyVal.item_self_of_setItem hcerts)]
  rfl

theorem buildXrayXhttp_spec (h : buildXrayXhttp crypto settings env ps req template = .ok result) :
    ∃ tls, XrayTlsBuilt crypto env ps req "xhttp" template result tls := by
  obtain ⟨port, -, h⟩ := Except.bind_eq_ok_iff.mp h
  simp only at h
  obtain ⟨⟨config, tls⟩, hmodify, h⟩ := Except.bind_eq_ok_iff.mp h
  obtain ⟨inbound, inbound', before, after, hf, hchanged⟩ := modifyInbound_spec hmodify
  obtain ⟨inbound₁, hlisten, hf⟩ := Except.bind_eq_ok_iff.mp hf
  obtain ⟨inbound₂, hclient, hf⟩ := Except.bind_eq_ok_iff.mp hf
  obtain ⟨stream, -, hf⟩ := Except.bind_eq_ok_iff.mp hf
  obtain ⟨stream₁, -, hf⟩ := Except.bind_eq_ok_iff.mp hf
  obtain ⟨stream₂, -, hf⟩ := Except.bind_eq_ok_iff.mp hf
  obtain ⟨resolved, htls, hf⟩ := Except.bind_eq_ok_iff.mp hf
  obtain ⟨stream₃, hstream, hf⟩ := Except.bind_eq_ok_iff.mp hf
  obtain ⟨inbound₃, hinbound, hf⟩ := Except.bind_eq_ok_iff.mp hf
  obtain ⟨rfl, rfl⟩ : inbound₃ = inbound' ∧ resolved = tls := by simpa using hf
  have htag : inbound.SameAt inbound₃ "tag" :=
    ((setListen_sameAt hlisten (by decide) (by decide)).trans
      (setClientId_sameAt hclient (by decide))).trans (PyVal.sameAt_of_setItem hinbound (by decide))
  rw [← Except.ok.inj h]
  refine ⟨resolved, ⟨_, htls⟩, ⟨port, _, rfl⟩, inbound, inbound₃, before, after,
    hchanged, htag, ?_⟩
  rw [certificatesPath, PyVal.itemAt_cons (PyVal.item_self_of_setItem hinbound),
    PyVal.itemAt_cons (PyVal.item_self_of_setItem hstream)]
  rfl

/-- A Hysteria2 result names its files in `tls`. -/
structure HysteriaTlsBuilt (crypto : Crypto) (env : BuildEnv) (ps : VpnProfileSettings)
    (req : BuildRequest) (result : BuildResult) (tls : TlsMaterial) : Prop where
  resolved : ∃ dnsName,
    resolveTls crypto env ps req.previous dnsName req.policy.rotateTls "hysteria" = .ok tls
  material : ∃ port clientId, result = tls.result result.configData port clientId
  cert : PyVal.itemAt ["tls", "cert"] result.configData = .ok (.str tls.certFile)
  key : PyVal.itemAt ["tls", "key"] result.configData = .ok (.str tls.keyFile)

theorem buildHysteria2_tls (h : buildHysteria2 crypto settings env ps req template = .ok result) :
    ∃ tls, HysteriaTlsBuilt crypto env ps req result tls := by
  obtain ⟨port, -, h⟩ := Except.bind_eq_ok_iff.mp h
  obtain ⟨tls, hresolved, h⟩ := Except.bind_eq_ok_iff.mp h
  obtain ⟨config₁, -, h⟩ := Except.bind_eq_ok_iff.mp h
  obtain ⟨config₂, -, h⟩ := Except.bind_eq_ok_iff.mp h
  obtain ⟨config₃, htls, h⟩ := Except.bind_eq_ok_iff.mp h
  obtain ⟨config₄, hobfs, h⟩ := Except.bind_eq_ok_iff.mp h
  obtain ⟨section₀, section', -, hset, hsection, -⟩ := PyVal.modifyItem_spec htls
  obtain ⟨section₁, hcert, hset⟩ := Except.bind_eq_ok_iff.mp hset
  obtain ⟨section₂, hkey, hsni⟩ := Except.bind_eq_ok_iff.mp hset
  have hsection₄ : config₄.item "tls" = .ok section' := by
    rw [(PyVal.sameAt_of_setItem hobfs (by decide)).item, hsection]
  rw [← Except.ok.inj h]
  refine ⟨tls, ⟨_, hresolved⟩, ⟨port, _, rfl⟩, ?_, ?_⟩
  · show PyVal.itemAt _ config₄ = _
    rw [PyVal.itemAt_cons hsection₄]
    have hkept : section'.item "cert" = .ok (.str tls.certFile) := by
      rw [(PyVal.sameAt_of_setItem hsni (by decide)).item,
        (PyVal.sameAt_of_setItem hkey (by decide)).item, PyVal.item_self_of_setItem hcert]
    simp [PyVal.itemAt, hkept]
  · show PyVal.itemAt _ config₄ = _
    rw [PyVal.itemAt_cons hsection₄]
    have hkept : section'.item "key" = .ok (.str tls.keyFile) := by
      rw [(PyVal.sameAt_of_setItem hsni (by decide)).item, PyVal.item_self_of_setItem hkey]
    simp [PyVal.itemAt, hkept]

end Builds

/-! ## the fingerprints of the stored versions -/

/-- A TLS version with the fingerprint of its certificate. -/
def CertifiedRow (crypto : Crypto) (profile : ConfigProfile) (row : VpnConfigVersionModel) : Prop :=
  profile ≠ .xrayReality → crypto.certFingerprintSha256 row.publicKey = .ok row.certFingerprint

/-- The same of a result that is not stored yet. -/
def CertifiedResult (crypto : Crypto) (profile : ConfigProfile) (result : BuildResult) : Prop :=
  profile ≠ .xrayReality →
    crypto.certFingerprintSha256 result.publicKey = .ok result.certFingerprint

/-- Fingerprints are not empty. -/
def Crypto.Fingerprints (crypto : Crypto) : Prop :=
  ∀ certPem fingerprint, crypto.certFingerprintSha256 certPem = .ok fingerprint → fingerprint ≠ ""

section Stored

variable {ctx : Ctx} {crypto : Crypto}

theorem certified_of_insertVersion (hnames : crypto.Fingerprints) {env : TaskEnv} {p : Payload}
    {result : BuildResult} {db : Db} {row : VpnConfigVersionModel}
    (h : CertifiedResult crypto p.profile result)
    (hinsert : insertVersion ctx env p result db = .ok row) :
    CertifiedRow crypto p.profile row := by
  intro hprofile
  obtain ⟨-, -, -, hpublic, hcert⟩ := versionRow_spec (versionRow_of_insertVersion hinsert)
  have hfingerprint := h hprofile
  simp only [hpublic, hcert, certFingerprintForKeys, hnames _ _ hfingerprint, ne_eq,
    not_false_eq_true, if_true, hfingerprint]

/-- What a build takes over from a version with the fingerprint of its
certificate. -/
theorem fingerprinted_of_buildRequest {db : Db} {usedPorts : List Int} {p : Payload}
    {req : BuildRequest} {config : VpnConfigModel} (hconfig : db.configs p.configId = some config)
    (hstored : ∀ v row, db.versions p.configId v = some row →
      CertifiedRow crypto config.profile row)
    (h : buildRequest ctx db usedPorts p = .ok req) :
    ∀ secrets, req.previous = some secrets → secrets.Fingerprinted crypto := by
  intro secrets hsecrets certPem fingerprint hpublic hfingerprint
  obtain ⟨previous, hversion, rfl⟩ := previous_of_buildRequest h hsecrets
  obtain ⟨config', row, privatePlain, hconfig', hrow, -, -, -, hsecrets⟩ :=
    previousVersion_spec hversion
  obtain rfl : config = config' := Option.some.inj (hconfig.symm.trans hconfig')
  have hcertified := hstored _ row hrow
  obtain ⟨inbounds, -, hsecrets⟩ := Except.bind_eq_ok_iff.mp hsecrets
  obtain ⟨items, -, hsecrets⟩ := Except.bind_eq_ok_iff.mp hsecrets
  obtain ⟨found, -, hsecrets⟩ := Except.bind_eq_ok_iff.mp hsecrets
  have hcolumns : config.profile ≠ .xrayReality ∧
      previous.secrets.publicKey = nonEmpty (some row.publicKey) ∧
      previous.secrets.certFingerprint = nonEmpty (some row.certFingerprint) := by
    cases hprofile : config.profile with
    | xrayReality =>
        rw [hprofile] at hsecrets
        rw [← Except.ok.inj hsecrets] at hfingerprint
        cases hfingerprint
    | xrayGrpc | xrayXhttp =>
        rw [hprofile] at hsecrets
        rw [← Except.ok.inj hsecrets]
        simp
    | hysteria2 =>
        rw [hprofile] at hsecrets
        obtain ⟨auth, -, hsecrets⟩ := Except.bind_eq_ok_iff.mp hsecrets
        obtain ⟨password, -, hsecrets⟩ := Except.bind_eq_ok_iff.mp hsecrets
        obtain ⟨obfs, -, hsecrets⟩ := Except.bind_eq_ok_iff.mp hsecrets
        obtain ⟨salamander, -, hsecrets⟩ := Except.bind_eq_ok_iff.mp hsecrets
        obtain ⟨obfsPassword, -, hsecrets⟩ := Except.bind_eq_ok_iff.mp hsecrets
        rw [← Except.ok.inj hsecrets]
        simp
  obtain ⟨hprofile, hpublicKey, hcertFingerprint⟩ := hcolumns
  rw [hpublicKey] at hpublic
  rw [hcertFingerprint] at hfingerprint
  have hcert := (nonEmpty_eq_some_iff.mp (nonEmpty_eq_some_iff.mp hpublic).1).1
  have hfp := (nonEmpty_eq_some_iff.mp (nonEmpty_eq_some_iff.mp hfingerprint).1).1
  rw [← Option.some.inj hcert, ← Option.some.inj hfp]
  exact hcertified hprofile

/-- The result of a TLS build has the fingerprint of its certificate. -/
theorem certified_of_build {env : BuildEnv} {req : BuildRequest} {profile : ConfigProfile}
    {result : BuildResult}
    (hprevious : ∀ previous, req.previous = some previous → previous.Fingerprinted crypto)
    (hbuild : build crypto ctx.settings env req profile = .ok result) :
    CertifiedResult crypto profile result := by
  intro htls
  obtain ⟨ps, -, hbuild⟩ := Except.bind_eq_ok_iff.mp hbuild
  obtain ⟨template, -, hbuild⟩ := Except.bind_eq_ok_iff.mp hbuild
  have hresult : ∃ tls config port clientId dnsName filePrefix,
      result = TlsMaterial.result tls config port clientId ∧
        resolveTls crypto env ps req.previous dnsName req.policy.rotateTls filePrefix =
          .ok tls := by
    cases profile with
    | xrayReality => exact absurd rfl htls
    | xrayGrpc =>
        obtain ⟨tls, ⟨dnsName, hresolved⟩, ⟨port, clientId, hresult⟩, -⟩ :=
          buildXrayGrpc_spec hbuild
        rw [req.stripHost_previous, req.stripHost_policy] at hresolved
        exact ⟨tls, _, port, clientId, dnsName, _, hresult, hresolved⟩
    | xrayXhttp =>
        obtain ⟨tls, ⟨dnsName, hresolved⟩, ⟨port, clientId, hresult⟩, -⟩ :=
          buildXrayXhttp_spec hbuild
        rw [req.stripHost_previous, req.stripHost_policy] at hresolved
        exact ⟨tls, _, port, clientId, dnsName, _, hresult, hresolved⟩
    | hysteria2 =>
        obtain ⟨tls, ⟨dnsName, hresolved⟩, ⟨port, clientId, hresult⟩, -⟩ :=
          buildHysteria2_tls hbuild
        rw [req.stripHost_previous, req.stripHost_policy] at hresolved
        exact ⟨tls, _, port, clientId, dnsName, _, hresult, hresolved⟩
  obtain ⟨tls, config, port, clientId, dnsName, filePrefix, rfl, hresolved⟩ := hresult
  exact (resolveTls_spec hprevious hresolved).1

theorem certifiedResult_of_build {w : World} {a : Action} {p : Payload} {env : TaskEnv}
    {result : BuildResult} (h : Versioned (CertifiedRow crypto) (CertifiedResult crypto) w)
    (hstored : Stored (CertifiedRow crypto) w) (hhonest : BuildsHonestly ctx crypto w a)
    (hbuild : BuildsDocuments ctx w a p env result) : CertifiedResult crypto p.profile result := by
  obtain ⟨e, x, h', rfl, he, hstage, rfl, hx⟩ := hbuild
  obtain ⟨benv, usedPorts, req, hreq, hbuilt⟩ := hhonest x he hstage
  obtain ⟨ps, built, port, -, hok, -, hresult, -⟩ := written_of_buildDocuments hx
  obtain ⟨config, hconfig⟩ :=
    h.sound.owned.inFlight x.payload (.execution e x he rfl)
  have hprevious := fingerprinted_of_buildRequest hconfig
    (fun v row => hstored _ _ v row hconfig) hreq
  have hcertified := certified_of_build hprevious (hbuilt.symm.trans hok)
  rw [hresult]
  exact hcertified

/-- **The fingerprints of the stored versions.**  In every state of a run every
stored TLS version has the fingerprint of its certificate. -/
theorem certified_run (hnames : crypto.Fingerprints) {host : Host} {as : List Action}
    (h : Machine.Meets (step ctx) (BuildsHonestly ctx crypto) (World.init host) as) :
    ∀ bs, bs <+: as → Stored (CertifiedRow crypto) (runFrom ctx host bs) := by
  have hedits (w : World) (a : Action) : AtEditCommit (fun _ _ _ _ => True) w a := by
    cases a with
    | advance r env => exact fun _ _ _ _ _ _ _ _ => trivial
    | _ => trivial
  exact (stored_iff (fun _ _ _ _ _ => certifiedResult_of_build)
    (fun _ _ _ _ _ => certified_of_insertVersion hnames)
    (fun _ _ _ _ hrow => iff_of_true hrow trivial) h).mpr (Machine.meets_of_forall hedits _ _)

end Stored

end VpnPanel
