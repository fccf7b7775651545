import VpnPanel.CertifiedSni
import VpnPanel.CertLinks

/-!
# VpnPanel.PinnedCertificates

The certificate a service is started with, and the one its share URIs pin.

`build` puts the paths of the certificate into the inbound with the profile's
tag, and `write_files` puts the paths of the files it installs into the first
inbound that has certificates.  `servesPinned_iff`: the written document names
files with the certificate of `cert_fingerprint` and its key, exactly when these
are one inbound, nothing is installed, `build` names the files that are
installed, or it names files that have had the pair it uses again.
-/

namespace VpnPanel

/-! ## the paths `write_files` sets -/

/-- Whether an inbound has certificates. -/
def hasCertificates (inbound : PyVal) : Bool :=
  let certificates : Except PyErr PyVal := do
    let stream ← inbound.get "streamSettings" (.dict [])
    let tls ← stream.get "tlsSettings" (.dict [])
    tls.get "certificates"
  match certificates with
  | .ok certificates => certificates.truthy
  | .error _ => false

section Paths

variable {certFile keyFile : String}

/-- An inbound is left alone when it has no certificates. -/
theorem hasCertificates_of_setCertificates {inbound : PyVal} {changed : Option PyVal}
    (h : setCertificates inbound certFile keyFile = .ok changed) :
    hasCertificates inbound = changed.isSome := by
  obtain ⟨stream, hstream, h⟩ := Except.bind_eq_ok_iff.mp h
  obtain ⟨tls, htls, h⟩ := Except.bind_eq_ok_iff.mp h
  obtain ⟨certificates, hcertificates, h⟩ := Except.bind_eq_ok_iff.mp h
  have hsame : hasCertificates inbound = certificates.truthy := by
    simp [hasCertificates, hstream, htls, hcertificates]
  rw [hsame]
  split at h
  · next htruthy =>
    obtain ⟨cert, -, h⟩ := Except.bind_eq_ok_iff.mp h
    obtain ⟨cert₁, -, h⟩ := Except.bind_eq_ok_iff.mp h
    obtain ⟨cert₂, -, h⟩ := Except.bind_eq_ok_iff.mp h
    obtain ⟨tls', -, h⟩ := Except.bind_eq_ok_iff.mp h
    obtain ⟨stream', -, h⟩ := Except.bind_eq_ok_iff.mp h
    obtain ⟨inbound', -, h⟩ := Except.bind_eq_ok_iff.mp h
    rw [← Except.ok.inj h, htruthy]
    rfl
  · next hfalsy =>
    rw [← Except.ok.inj h]
    simpa using hfalsy

/-- The paths of an inbound that names a pair. -/
theorem setCertificates_spec {inbound : PyVal} {oldCert oldKey : String} {changed : Option PyVal}
    (hcerts : PyVal.itemAt certificatesPath inbound = .ok (.list [.dict
      [("certificateFile", .str oldCert), ("keyFile", .str oldKey)]]))
    (h : setCertificates inbound certFile keyFile = .ok changed) :
    ∃ inbound', changed = some inbound' ∧ inbound.SameAt inbound' "tag" ∧
      PyVal.itemAt certificatesPath inbound' = .ok (.list [.dict
        [("certificateFile", .str certFile), ("keyFile", .str keyFile)]]) := by
  obtain ⟨stream, hstream, hcerts⟩ := Except.bind_eq_ok_iff.mp hcerts
  obtain ⟨tls, htls, hcerts⟩ := Except.bind_eq_ok_iff.mp hcerts
  obtain ⟨certificates, hitem, hcerts⟩ := Except.bind_eq_ok_iff.mp hcerts
  obtain rfl := Except.ok.inj hcerts
  obtain ⟨stream₀, hstream₀, h⟩ := Except.bind_eq_ok_iff.mp h
  obtain rfl : stream₀ = stream := Except.ok.inj (hstream₀.symm.trans (PyVal.get_of_item hstream _))
  obtain ⟨tls₀, htls₀, h⟩ := Except.bind_eq_ok_iff.mp h
  obtain rfl : tls₀ = tls := Except.ok.inj (htls₀.symm.trans (PyVal.get_of_item htls _))
  obtain ⟨found, hfound, h⟩ := Except.bind_eq_ok_iff.mp h
  obtain rfl := Except.ok.inj (hfound.symm.trans (PyVal.get_of_item hitem _))
  split at h
  · obtain ⟨cert, hcert, h⟩ := Except.bind_eq_ok_iff.mp h
    cases hcert
    obtain ⟨cert₁, hcert₁, h⟩ := Except.bind_eq_ok_iff.mp h
    cases hcert₁
    obtain ⟨cert₂, hcert₂, h⟩ := Except.bind_eq_ok_iff.mp h
    cases hcert₂
    obtain ⟨tls', hsetTls, h⟩ := Except.bind_eq_ok_iff.mp h
    obtain ⟨stream', hsetStream, h⟩ := Except.bind_eq_ok_iff.mp h
    obtain ⟨inbound', hsetInbound, h⟩ := Except.bind_eq_ok_iff.mp h
    refine ⟨inbound', (Except.ok.inj h).symm,
      PyVal.sameAt_of_setItem hsetInbound (by decide), ?_⟩
    rw [certificatesPath, PyVal.itemAt_cons (PyVal.item_self_of_setItem hsetInbound),
      PyVal.itemAt_cons (PyVal.item_self_of_setItem hsetStream),
      PyVal.itemAt_cons (PyVal.item_self_of_setItem hsetTls)]
    rfl
  · next hfalsy => exact absurd rfl hfalsy

/-- Where no inbound before has certificates, the paths are set in this one. -/
theorem setFirstCertificates_here {before after items' : List PyVal} {inbound inbound' : PyVal}
    (hbefore : before.all (fun x => !hasCertificates x) = true)
    (hinbound : setCertificates inbound certFile keyFile = .ok (some inbound'))
    (h : setFirstCertificates certFile keyFile (before ++ inbound :: after) = .ok items') :
    items' = before ++ inbound' :: after := by
  induction before generalizing items' with
  | nil =>
      rw [List.nil_append, setFirstCertificates, hinbound] at h
      exact (Except.ok.inj h).symm
  | cons x before ih =>
      simp only [List.all_cons, Bool.and_eq_true, Bool.not_eq_true'] at hbefore
      obtain ⟨changed, hx, h⟩ := Except.bind_eq_ok_iff.mp h
      have hnone := hasCertificates_of_setCertificates hx
      cases changed with
      | some x' =>
          rw [hbefore.1] at hnone
          cases hnone
      | none =>
          obtain ⟨rest', hrest, h⟩ := Except.bind_eq_ok_iff.mp h
          rw [← Except.ok.inj h, ih hbefore.2 hrest]
          rfl

/-- Where an inbound before has certificates, this one is left alone. -/
theorem setFirstCertificates_before {tag : String} {before rest items' : List PyVal}
    (hbefore : before.all (fun x => !hasCertificates x) = false)
    (hothers : ∀ x ∈ before, ∃ t, x.get "tag" = .ok t ∧ t.isStr tag = false)
    (h : setFirstCertificates certFile keyFile (before ++ rest) = .ok items') :
    ∃ before', items' = before' ++ rest ∧
      ∀ x ∈ before', ∃ t, x.get "tag" = .ok t ∧ t.isStr tag = false := by
  induction before generalizing items' with
  | nil => simp at hbefore
  | cons x before ih =>
      obtain ⟨t, ht, hne⟩ := hothers x List.mem_cons_self
      have hrest : ∀ y ∈ before, ∃ t, y.get "tag" = .ok t ∧ t.isStr tag = false :=
        fun y hy => hothers y (List.mem_cons_of_mem _ hy)
      obtain ⟨changed, hx, h⟩ := Except.bind_eq_ok_iff.mp h
      have hhas := hasCertificates_of_setCertificates hx
      cases changed with
      | some x' =>
          refine ⟨x' :: before, (Except.ok.inj h).symm, fun y hy => ?_⟩
          obtain rfl | hy := List.mem_cons.mp hy
          · have htag : x.SameAt y "tag" := setCertificates_sameAt hx (by decide)
            exact ⟨t, by rw [htag.get, ht], hne⟩
          · exact hrest y hy
      | none =>
          obtain ⟨items, hitems, h⟩ := Except.bind_eq_ok_iff.mp h
          have hlater : before.all (fun x => !hasCertificates x) = false := by
            simpa [hhas] using hbefore
          obtain ⟨before', rfl, hothers'⟩ := ih hlater hrest hitems
          refine ⟨x :: before', (Except.ok.inj h).symm, fun y hy => ?_⟩
          obtain rfl | hy := List.mem_cons.mp hy
          · exact ⟨t, ht, hne⟩
          · exact hothers' y hy

/-- Setting the paths in a list of inbounds, none of which has certificates
before this one. -/
theorem setCertificates_of_setFirst {before after items' : List PyVal} {inbound : PyVal}
    (hbefore : before.all (fun x => !hasCertificates x) = true)
    (h : setFirstCertificates certFile keyFile (before ++ inbound :: after) = .ok items') :
    ∃ changed, setCertificates inbound certFile keyFile = .ok changed := by
  induction before generalizing items' with
  | nil =>
      obtain ⟨changed, hx, -⟩ := Except.bind_eq_ok_iff.mp h
      exact ⟨changed, hx⟩
  | cons x before ih =>
      simp only [List.all_cons, Bool.and_eq_true, Bool.not_eq_true'] at hbefore
      obtain ⟨changed, hx, h⟩ := Except.bind_eq_ok_iff.mp h
      have hnone := hasCertificates_of_setCertificates hx
      cases changed with
      | some x' =>
          rw [hbefore.1] at hnone
          cases hnone
      | none =>
          obtain ⟨rest', hrest, -⟩ := Except.bind_eq_ok_iff.mp h
          exact ih hbefore.2 hrest

/-- The inbounds of a document with paths. -/
theorem items_of_applyTlsCertPaths {profile : ConfigProfile} {configData doc : PyVal}
    {before after : List PyVal} {inbound : PyVal}
    (hprofile : profile = .xrayGrpc ∨ profile = .xrayXhttp)
    (hitems : configData.item "inbounds" = .ok (.list (before ++ inbound :: after)))
    (h : applyTlsCertPaths profile configData certFile keyFile = .ok doc) :
    ∃ items', setFirstCertificates certFile keyFile (before ++ inbound :: after) = .ok items' ∧
      doc.item "inbounds" = .ok (.list items') := by
  have hpaths : (do
      let inbounds ← configData.get "inbounds" (.list [])
      let items ← inbounds.iter
      let items ← setFirstCertificates certFile keyFile items
      if items.isEmpty then .ok configData else configData.setItem "inbounds" (.list items)) =
        Except.ok doc := by
    obtain rfl | rfl := hprofile <;> exact h
  rw [PyVal.get_of_item hitems, Except.ok_bind_eq, PyVal.iter_list, Except.ok_bind_eq] at hpaths
  obtain ⟨items', hset, hdoc⟩ := Except.bind_eq_ok_iff.mp hpaths
  refine ⟨items', hset, ?_⟩
  split at hdoc
  · next hempty =>
    obtain ⟨rfl, -⟩ | ⟨pre, x, x', post, -, rfl, -, -⟩ := setFirstCertificates_spec hset <;>
      simp at hempty
  · exact PyVal.item_self_of_setItem hdoc

end Paths

/-- Of the inbounds, none before the first with the tag has certificates. -/
def firstCertificates (tag : String) : List PyVal → Bool
  | [] => true
  | inbound :: rest =>
      match inbound.get "tag" with
      | .ok t => t.isStr tag || !hasCertificates inbound && firstCertificates tag rest
      | .error _ => true

/-- No inbound before the tagged one of a template has certificates. -/
def taggedFirst (tag : String) (template : PyVal) : Bool :=
  match template.item "inbounds" with
  | .ok (.list items) => firstCertificates tag items
  | _ => true

theorem firstCertificates_of_split {tag : String} {items before after : List PyVal}
    {inbound : PyVal} (h : TagSplit tag items before inbound after) :
    firstCertificates tag items = before.all fun x => !hasCertificates x := by
  obtain ⟨rfl, hothers, htagged⟩ := h
  induction before with
  | nil => simp [firstCertificates, htagged, PyVal.isStr]
  | cons x before ih =>
      obtain ⟨t, ht, hne⟩ := hothers x List.mem_cons_self
      have hrest := ih fun y hy => hothers y (List.mem_cons_of_mem _ hy)
      simp only [List.cons_append, firstCertificates, ht, hne, Bool.false_or, hrest,
        List.all_cons]

/-! ## what a written document serves -/

/-- The files a document gives the service: of the certificate and of its
key. -/
def tlsPaths (profile : ConfigProfile) (tag : String) (doc : PyVal) :
    Except PyErr (PyVal × PyVal) :=
  match profile with
  | .hysteria2 => do
      let cert ← PyVal.itemAt ["tls", "cert"] doc
      let key ← PyVal.itemAt ["tls", "key"] doc
      .ok (cert, key)
  | _ => do
      let inbound ← findInbound doc tag
      let certificates ← PyVal.itemAt certificatesPath inbound
      let certificate ← certificates.first
      let cert ← certificate.item "certificateFile"
      let key ← certificate.item "keyFile"
      .ok (cert, key)

/-- A path leads to a PEM: to a file that was read at the build, or to one that
was installed. -/
def NamesPem (env : BuildEnv) (h : Host) (path pem : String) : Prop :=
  env.ReadsFile path pem ∨
    ∃ base name, path = base.render ++ "/" ++ name ∧ h.readPem base name = some (pemBody pem)

/-- Two paths lead to a certificate with the fingerprint and to its key. -/
def NamesPair (crypto : Crypto) (env : BuildEnv) (h : Host)
    (certFile keyFile fingerprint : String) :
    Prop :=
  ∃ certPem privatePem, NamesPem env h certFile certPem ∧ NamesPem env h keyFile privatePem ∧
    PinnedPair crypto fingerprint certPem privatePem

/-- The service is given the certificate with the fingerprint, and its key. -/
def ServesPinned (crypto : Crypto) (env : BuildEnv) (tag : String) (profile : ConfigProfile)
    (doc : PyVal) (h : Host) (fingerprint : String) : Prop :=
  ∃ certFile keyFile, tlsPaths profile tag doc = .ok (.str certFile, .str keyFile) ∧
    NamesPair crypto env h certFile keyFile fingerprint

/-- The prefix of a build's own files. -/
def tlsFilePrefix : ConfigProfile → String
  | .xrayGrpc => "grpc"
  | .xrayXhttp => "xhttp"
  | _ => "hysteria"

instance (ps : VpnProfileSettings) (req : BuildRequest) : Decidable (HostPinned ps req) :=
  inferInstanceAs (Decidable (_ ∨ _))

/-- The name the certificate of a build is for. -/
def certName (settings : PanelSettings) (env : BuildEnv) (ps : VpnProfileSettings)
    (req : BuildRequest) (profile : ConfigProfile) : String :=
  let host := effectiveShareHost settings ps req.sharePublicHost
  if profile = .xrayGrpc ∧ ¬ HostPinned ps req then (pooledSni env ps req).getD host else host

/-- The path `write_files` sets for a file it installs. -/
def installedFile (settings : PanelSettings) (profile : ConfigProfile) (ps : VpnProfileSettings)
    (configId : ConfigId) (kind : String) : String :=
  (certBase settings profile ps configId).render ++ "/" ++ certNamePrefix ps ++ "-" ++ kind ++
    ".pem"

/-- The pair of the version before is used again, and the files a build names
have it already. -/
def ReusedInPlace (crypto : Crypto) (settings : PanelSettings) (env : BuildEnv)
    (req : BuildRequest) (ps : VpnProfileSettings) (profile : ConfigProfile) (h : Host) : Prop :=
  req.policy.rotateTls = false ∧ ∃ privatePem certPem fingerprint,
    tryReuseTls crypto req.previous (certName settings env ps req profile) =
      some (privatePem, certPem, fingerprint) ∧
    NamesPair crypto env h (ownFile ps (tlsFilePrefix profile) "cert")
      (ownFile ps (tlsFilePrefix profile) "key") fingerprint

/-- The certificate gets where it is served from: the profile has one place for
it, the external pair is used, no inbound before the tagged one has
certificates, `build` names the files that are installed, or it names files
that have the pair before they are. -/
def CertificatesInPlace (crypto : Crypto) (settings : PanelSettings) (env : BuildEnv)
    (req : BuildRequest) (ps : VpnProfileSettings) (profile : ConfigProfile) (configId : ConfigId)
    (h : Host) : Prop :=
  profile = .hysteria2 ∨ UsesExternal crypto env ps req ∨
    (∃ template, env.template = .ok template ∧ taggedFirst ps.inboundTag template = true) ∨
    ownFile ps (tlsFilePrefix profile) "cert" =
      installedFile settings profile ps configId "cert" ∨
    ReusedInPlace crypto settings env req ps profile h

/-- A new certificate is unlike every file of the machine. -/
def BuildEnv.SelfSignedFresh (crypto : Crypto) (env : BuildEnv) (h : Host) : Prop :=
  ∀ names privatePem certPem, env.selfSigned names = .ok (privatePem, certPem) →
    ∀ path pem, NamesPem env h path pem →
      crypto.certFingerprintSha256 pem ≠ crypto.certFingerprintSha256 certPem

/-! ## the links of the machine -/

/-- Every link leads to a version of the file it is the stable name of. -/
def Host.LinksOwn (h : Host) : Prop := ∀ base name, OwnEntry name (h.pems base name)

/-- What keeps the links so. -/
def KeepsLinks (h h' : Host) : Prop := h.LinksOwn → h'.LinksOwn

instance : IsPreorder Host KeepsLinks where
  refl _ h := h
  trans _ _ _ h h' hlinks := h' (h hlinks)

theorem KeepsLinks.of_eq {h h' : Host} (heq : h'.pems = h.pems) : KeepsLinks h h' := by
  intro hlinks base name
  rw [heq]
  exact hlinks base name

/-- Everything done for a config does. -/
theorem allows_keepsLinks (settings : PanelSettings) (c : ConfigId) :
    Allows settings c KeepsLinks where
  pem h profile ps name entry hentry hlinks base name' := by
    simp only [Host.setPem]
    split
    · next hat => exact hat.2 ▸ hentry
    · exact hlinks base name'
  liveDir _ _ := .of_eq rfl
  archive _ _ _ := .of_eq rfl
  live _ _ _ _ := .of_eq rfl
  active _ _ _ _ := .of_eq rfl
  unit _ _ _ := .of_eq rfl
  enable _ := .of_eq rfl
  service _ _ := .of_eq rfl
  shared _ _ _ _ := .of_eq rfl
  stream _ _ _ := .of_eq rfl

theorem allowsDelete_keepsLinks (systemd : SystemdSettings) (c : ConfigId) :
    AllowsDelete systemd c KeepsLinks where
  stop _ := .of_eq rfl
  disable _ := .of_eq rfl
  unit _ _ := .of_eq rfl
  live h profile undeletable hlinks base name := by
    obtain hsame | ⟨-, hgone⟩ :=
      pems_removeLiveDir h (liveDir profile systemd) c undeletable base name
    · rw [hsame]
      exact hlinks base name
    · rw [hgone]
      exact ownEntry_none name

/-- **The links of the machine.**  In every state of a run the links lead to
versions of their own files. -/
theorem linksOwn_run {ctx : Ctx} {host : Host} (hhost : host.LinksOwn) (as : List Action) :
    (runFrom ctx host as).host.LinksOwn := by
  have hstep (w : World) (a : Action) (h : w.host.LinksOwn) : (step ctx w a).host.LinksOwn := by
    obtain hsame | hstep := step_cases a
    · rwa [hsame]
    · exact host_of_step hstep (fun _ _ _ _ _ => allows_keepsLinks _ _)
        (fun _ _ _ _ _ => allows_keepsLinks _ _) (fun _ _ _ _ _ => allowsDelete_keepsLinks _ _) h
  exact Machine.run_invariant (I := fun w : World => w.host.LinksOwn) hstep hhost as

/-! ## the names in a certificate directory -/

/-- The four names the installation of a pair sets. -/
def InstallsName (namePrefix : String) (timestamp : Nat) (name : String) : Prop :=
  ∃ kind, (kind = "cert" ∨ kind = "key") ∧
    (name = stableName namePrefix kind ∨ name = versionedName namePrefix kind timestamp)

/-- The last character before the ending of a name. -/
def stemEnd (name : String) : Option Char := name.toList.reverse[4]?

theorem stemEnd_cert (pre : String) : stemEnd (pre ++ "cert" ++ ".pem") = some 't' := by
  simp [stemEnd]

theorem stemEnd_key (pre : String) : stemEnd (pre ++ "key" ++ ".pem") = some 'y' := by
  simp [stemEnd]

/-- A version ends in a digit. -/
theorem stemEnd_version (pre : String) (timestamp : Nat) :
    ∃ c, c.isDigit = true ∧ stemEnd (pre ++ toString timestamp ++ ".pem") = some c := by
  have hne : (Nat.toDigits 10 timestamp).reverse ≠ [] := by simp
  obtain ⟨c, cs, hdigits⟩ := List.exists_cons_of_ne_nil hne
  refine ⟨c, ?_, by simp [stemEnd, hdigits]⟩
  have hmem : c ∈ (Nat.toDigits 10 timestamp).reverse := by simp [hdigits]
  exact Nat.isDigit_of_mem_toDigits (by decide) (by decide) (List.mem_reverse.mp hmem)

/-- Before the number of a version stands the stem of its file. -/
theorem stem_of_version {stem stem' : String} {timestamp timestamp' : Nat}
    (h : stem ++ "-" ++ toString timestamp ++ ".pem" =
      stem' ++ "-" ++ toString timestamp' ++ ".pem") : stem = stem' := by
  have hdash (n : Nat) (rest : List Char) :
      ((Nat.toDigits 10 n).reverse ++ '-' :: rest).dropWhile Char.isDigit = '-' :: rest := by
    rw [List.dropWhile_append_of_pos fun c hc =>
      Nat.isDigit_of_mem_toDigits (by decide) (by decide) (List.mem_reverse.mp hc)]
    rfl
  have hchars : (Nat.toDigits 10 timestamp).reverse ++ '-' :: stem.toList.reverse =
      (Nat.toDigits 10 timestamp').reverse ++ '-' :: stem'.toList.reverse := by
    have hreverse := congrArg (fun name => name.toList.reverse) h
    simpa using hreverse
  have hrest := congrArg (List.dropWhile Char.isDigit) hchars
  rw [hdash, hdash] at hrest
  exact String.toList_inj.mp (List.reverse_inj.mp (List.cons.inj hrest).2)

section Served

variable {crypto : Crypto} {settings : PanelSettings} {env : BuildEnv} {req : BuildRequest}
  {ps : VpnProfileSettings} {profile : ConfigProfile} {configId : ConfigId} {timestamp : Nat}
  {result : BuildResult} {tls : TlsMaterial} {h h' : Host} {template doc : PyVal}

theorem NamesPair.of_pems {certFile keyFile fingerprint : String}
    (hpair : NamesPair crypto env h certFile keyFile fingerprint) (hpems : h'.pems = h.pems) :
    NamesPair crypto env h' certFile keyFile fingerprint := by
  have hread (path pem : String) (hpem : NamesPem env h path pem) : NamesPem env h' path pem := by
    obtain hreads | ⟨base, name, hpath, hpem⟩ := hpem
    · exact Or.inl hreads
    · exact Or.inr ⟨base, name, hpath, by rw [← hpem, Host.readPem, Host.readPem, hpems]⟩
  obtain ⟨certPem, privatePem, hcert, hkey, hpinned⟩ := hpair
  exact ⟨certPem, privatePem, hread _ _ hcert, hread _ _ hkey, hpinned⟩

/-- The paths `write_files` sets lead to the pair it installs. -/
theorem namesPair_installPair {base : CertBase} {namePrefix fingerprint certPem privatePem : String}
    (hpair : PinnedPair crypto fingerprint certPem privatePem) (h : Host) :
    NamesPair crypto env (h.installPair base namePrefix timestamp certPem privatePem)
      (base.render ++ "/" ++ namePrefix ++ "-cert.pem")
      (base.render ++ "/" ++ namePrefix ++ "-key.pem") fingerprint := by
  obtain ⟨hcert, hkey⟩ := readPem_installPair h base namePrefix timestamp certPem privatePem
  have hname (kind : String) : base.render ++ "/" ++ namePrefix ++ ("-" ++ kind ++ ".pem") =
      base.render ++ "/" ++ (namePrefix ++ "-" ++ kind ++ ".pem") := by
    simp only [String.append_assoc]
  exact ⟨certPem, privatePem, Or.inr ⟨base, _, hname "cert", hcert⟩,
    Or.inr ⟨base, _, hname "key", hkey⟩, hpair⟩

/-- A name that is not one of the pair's leads where it has led. -/
theorem readPem_installPair_of_not {base : CertBase} {namePrefix name certPem privatePem : String}
    (hlinks : h.LinksOwn) (hnot : ¬ InstallsName namePrefix timestamp name) :
    (h.installPair base namePrefix timestamp certPem privatePem).readPem base name =
      h.readPem base name := by
  have hkept {name : String} (hnot : ¬ InstallsName namePrefix timestamp name) :
      (h.installPair base namePrefix timestamp certPem privatePem).pems base name =
        h.pems base name := by
    have hne (kind : String) (hkind : kind = "cert" ∨ kind = "key") :
        name ≠ stableName namePrefix kind ∧ name ≠ versionedName namePrefix kind timestamp :=
      ⟨fun heq => hnot ⟨kind, hkind, Or.inl heq⟩, fun heq => hnot ⟨kind, hkind, Or.inr heq⟩⟩
    obtain ⟨hcert, hcertFile⟩ := hne "cert" (Or.inl rfl)
    obtain ⟨hkey, hkeyFile⟩ := hne "key" (Or.inr rfl)
    exact (pems_setPem_of_ne _ _ _ hkey).trans <| (pems_setPem_of_ne _ _ _ hkeyFile).trans <|
      (pems_setPem_of_ne _ _ _ hcert).trans (pems_setPem_of_ne _ _ _ hcertFile)
  rw [Host.readPem, hkept hnot, Host.readPem]
  cases hentry : h.pems base name with
  | none => rfl
  | some entry =>
      cases entry with
      | file body => rfl
      | symlink target =>
          obtain ⟨stem, version, rfl, rfl⟩ := hlinks base name target hentry
          -- a link to a file of the pair would be its stable name
          have htarget : ¬ InstallsName namePrefix timestamp
              (stem ++ "-" ++ toString version ++ ".pem") := by
            rintro ⟨kind, hkind, hstable | hversioned⟩
            · obtain ⟨c, hdigit, hend⟩ := stemEnd_version (stem ++ "-") version
              rw [hstable, stableName] at hend
              obtain rfl | rfl := hkind
              · cases (stemEnd_cert _).symm.trans hend
                contradiction
              · cases (stemEnd_key _).symm.trans hend
                contradiction
            · obtain rfl : stem = namePrefix ++ "-" ++ kind := stem_of_version hversioned
              exact hnot ⟨kind, hkind, Or.inl rfl⟩
          simp only [hkept htarget]

/-- The name under which a path is in the directory is one of the pair's only
if the path is one that `write_files` sets. -/
theorem not_installsName {base : CertBase} {namePrefix stem kind name : String}
    (hkind : kind = "cert" ∨ kind = "key")
    (hne : stem ++ "-" ++ kind ++ ".pem" ≠
      base.render ++ "/" ++ namePrefix ++ "-" ++ kind ++ ".pem")
    (hpath : stem ++ "-" ++ kind ++ ".pem" = base.render ++ "/" ++ name) :
    ¬ InstallsName namePrefix timestamp name := by
  have hend : stemEnd (base.render ++ "/" ++ name) =
      if kind = "cert" then some 't' else some 'y' := by
    rw [← hpath]
    obtain rfl | rfl := hkind
    · exact stemEnd_cert _
    · exact stemEnd_key _
  rintro ⟨kind', hkind', rfl | rfl⟩
  · have hpath' : base.render ++ "/" ++ stableName namePrefix kind' =
        base.render ++ "/" ++ namePrefix ++ "-" ++ kind' ++ ".pem" := by
      simp only [stableName, String.append_assoc]
    rw [hpath'] at hend hpath
    obtain rfl : kind = kind' := by
      obtain rfl | rfl := hkind' <;> obtain rfl | rfl := hkind
      · rfl
      · rw [stemEnd_cert] at hend
        contradiction
      · rw [stemEnd_key] at hend
        contradiction
      · rfl
    exact hne hpath
  · have hpath' : base.render ++ "/" ++ versionedName namePrefix kind' timestamp =
        base.render ++ "/" ++ namePrefix ++ "-" ++ kind' ++ "-" ++ toString timestamp ++
          ".pem" := by
      simp only [versionedName, String.append_assoc]
    obtain ⟨c, hdigit, hend'⟩ := stemEnd_version
      (base.render ++ "/" ++ namePrefix ++ "-" ++ kind' ++ "-") timestamp
    rw [hpath', hend'] at hend
    split at hend <;> cases hend <;> exact absurd hdigit (by decide)

/-- Another path leads where it has led before the pair is installed. -/
theorem namesPem_installPair_iff {base : CertBase}
    {namePrefix stem kind pem certPem privatePem : String}
    (hlinks : h.LinksOwn) (hkind : kind = "cert" ∨ kind = "key")
    (hne : stem ++ "-" ++ kind ++ ".pem" ≠
      base.render ++ "/" ++ namePrefix ++ "-" ++ kind ++ ".pem") :
    NamesPem env (h.installPair base namePrefix timestamp certPem privatePem)
        (stem ++ "-" ++ kind ++ ".pem") pem ↔
      NamesPem env h (stem ++ "-" ++ kind ++ ".pem") pem := by
  refine or_congr_right (exists_congr fun base' => exists_congr fun name =>
    and_congr_right fun hpath => ?_)
  by_cases hbase : base' = base
  · subst hbase
    rw [readPem_installPair_of_not hlinks (not_installsName hkind hne hpath)]
  · have hpems := pems_installPair_of_ne h namePrefix timestamp certPem privatePem hbase
    rw [Host.readPem, Host.readPem, hpems]

/-- The build names the file of the key that is installed when it names that of
the certificate. -/
theorem ownFile_eq_installedFile_iff {filePrefix kind : String} :
    ownFile ps filePrefix kind = installedFile settings profile ps configId kind ↔
      ps.certDir.getD "/usr/local/etc/xray/certs" ++ "/" ++
          orStr (ps.certPrefix.getD "") filePrefix =
        (certBase settings profile ps configId).render ++ "/" ++ certNamePrefix ps := by
  simp only [ownFile, installedFile, String.append_left_inj]

/-- What the files a build names lead to, where they are not those installed. -/
theorem namesPair_own_iff {filePrefix fingerprint certPem privatePem : String}
    (hlinks : h.LinksOwn)
    (hne : ownFile ps filePrefix "cert" ≠ installedFile settings profile ps configId "cert") :
    NamesPair crypto env (h.installPair (certBase settings profile ps configId) (certNamePrefix ps)
        timestamp certPem privatePem) (ownFile ps filePrefix "cert") (ownFile ps filePrefix "key")
        fingerprint ↔
      NamesPair crypto env h (ownFile ps filePrefix "cert") (ownFile ps filePrefix "key")
        fingerprint := by
  have hneKey : ownFile ps filePrefix "key" ≠ installedFile settings profile ps configId "key" :=
    fun heq => hne (ownFile_eq_installedFile_iff.mpr (ownFile_eq_installedFile_iff.mp heq))
  refine exists_congr fun certPem' => exists_congr fun privatePem' => ?_
  rw [ownFile, ownFile, namesPem_installPair_iff hlinks (Or.inl rfl) hne,
    namesPem_installPair_iff hlinks (Or.inr rfl) hneKey]

/-- The paths of an inbound that names a pair. -/
theorem tlsPaths_of_inbound {tag certFile keyFile : String} {items before after : List PyVal}
    {inbound : PyVal} (hprofile : profile ≠ .hysteria2)
    (hitems : doc.item "inbounds" = .ok (.list items))
    (hsplit : TagSplit tag items before inbound after)
    (hcerts : PyVal.itemAt certificatesPath inbound = .ok (.list [.dict
      [("certificateFile", .str certFile), ("keyFile", .str keyFile)]])) :
    tlsPaths profile tag doc = .ok (.str certFile, .str keyFile) := by
  have hfind : findInbound doc tag = .ok inbound :=
    findInbound_eq_ok_iff.mpr ⟨items, before, after, hitems, hsplit⟩
  have hpaths : (do
      let inbound ← findInbound doc tag
      let certificates ← PyVal.itemAt certificatesPath inbound
      let certificate ← certificates.first
      let cert ← certificate.item "certificateFile"
      let key ← certificate.item "keyFile"
      .ok (cert, key) : Except PyErr (PyVal × PyVal)) = .ok (.str certFile, .str keyFile) := by
    rw [hfind, Except.ok_bind_eq, hcerts]
    rfl
  cases profile with
  | hysteria2 => exact absurd rfl hprofile
  | _ => exact hpaths

/-- A Hysteria2 document has one place for the certificate. -/
theorem servesPinned_hysteria2 (hbuilt : HysteriaTlsBuilt crypto env ps req result tls)
    (hself : env.SelfSignedMatches crypto)
    (hprevious : ∀ p, req.previous = some p → p.Fingerprinted crypto)
    (hinstalled : Installed settings .hysteria2 configId ps timestamp result h doc h') :
    ServesPinned crypto env ps.inboundTag .hysteria2 doc h' result.certFingerprint := by
  obtain ⟨dnsName, hresolved⟩ := hbuilt.resolved
  obtain ⟨hpair, hsource⟩ := pinnedPair_of_resolveTls hself hprevious hresolved
  obtain ⟨port, clientId, hresult⟩ := hbuilt.material
  have hfiles : result.extraFiles = tls.extraFiles := by rw [hresult]; rfl
  have hfingerprint : result.certFingerprint = tls.fingerprint := by rw [hresult]; rfl
  rw [hfingerprint]
  cases hsource with
  | external _ _ hnone hcert hkey =>
      cases hinstalled with
      | files hne _ _ => exact absurd (hfiles.trans hnone) hne
      | nothing _ hdoc _ =>
          refine ⟨tls.certFile, tls.keyFile, ?_, _, _, Or.inl hcert, Or.inl hkey, hpair⟩
          simp [tlsPaths, hdoc, hbuilt.cert, hbuilt.key]
  | installed _ hsome _ _ =>
      cases hinstalled with
      | nothing hempty _ _ => simp [hfiles, hsome] at hempty
      | files _ hdoc hpems =>
          obtain ⟨tls₀, -, hdoc⟩ := Except.bind_eq_ok_iff.mp hdoc
          obtain ⟨tls₁, hcert, hdoc⟩ := Except.bind_eq_ok_iff.mp hdoc
          obtain ⟨tls₂, hkey, hdoc⟩ := Except.bind_eq_ok_iff.mp hdoc
          have hkept : tls₁.SameAt tls₂ "cert" := PyVal.sameAt_of_setItem hkey (by decide)
          refine ⟨_, _, ?_, (namesPair_installPair hpair h).of_pems
            (hpems tls.certPem tls.privatePem (hfiles.trans hsome))⟩
          simp only [tlsPaths, PyVal.itemAt, PyVal.item_self_of_setItem hdoc, Except.ok_bind_eq,
            hkept.item, PyVal.item_self_of_setItem hcert, PyVal.item_self_of_setItem hkey]

/-- A new pair is one that was signed for it. -/
theorem selfSigned_of_generate {dnsNames : List String} {privatePem certPem fingerprint : String}
    (h : generateSelfSignedCert crypto env dnsNames = .ok (privatePem, certPem, fingerprint)) :
    ∃ names, env.selfSigned names = .ok (privatePem, certPem) := by
  simp only [generateSelfSignedCert] at h
  split at h
  · contradiction
  · obtain ⟨pair, hsigned, h⟩ := Except.bind_eq_ok_iff.mp h
    obtain ⟨fingerprint', -, h⟩ := Except.bind_eq_ok_iff.mp h
    cases h
    exact ⟨_, hsigned⟩

/-- When the files a build names lead to its pair once it is installed. -/
theorem namesPair_installed_iff {certPem privatePem fingerprint : String}
    (hpair : PinnedPair crypto fingerprint certPem privatePem)
    (hown : ¬ UsesExternal crypto env ps req)
    (hresolved : resolveTls crypto env ps req.previous (certName settings env ps req profile)
      req.policy.rotateTls (tlsFilePrefix profile) = .ok tls)
    (hsame : tls.certPem = certPem)
    (hprevious : ∀ p, req.previous = some p → p.Fingerprinted crypto)
    (hfresh : env.SelfSignedFresh crypto h) (hlinks : h.LinksOwn) :
    NamesPair crypto env (h.installPair (certBase settings profile ps configId) (certNamePrefix ps)
        timestamp certPem privatePem) (ownFile ps (tlsFilePrefix profile) "cert")
        (ownFile ps (tlsFilePrefix profile) "key") fingerprint ↔
      ownFile ps (tlsFilePrefix profile) "cert" =
          installedFile settings profile ps configId "cert" ∨
        ReusedInPlace crypto settings env req ps profile h := by
  by_cases heq : ownFile ps (tlsFilePrefix profile) "cert" =
      installedFile settings profile ps configId "cert"
  · have heqKey : ownFile ps (tlsFilePrefix profile) "key" =
        installedFile settings profile ps configId "key" :=
      ownFile_eq_installedFile_iff.mpr (ownFile_eq_installedFile_iff.mp heq)
    refine iff_of_true ?_ (Or.inl heq)
    have hname (kind : String) : installedFile settings profile ps configId kind =
        (certBase settings profile ps configId).render ++ "/" ++ certNamePrefix ps ++
          ("-" ++ kind ++ ".pem") := by simp only [installedFile, String.append_assoc]
    rw [heq, heqKey, hname, hname]
    exact namesPair_installPair hpair h
  rw [or_iff_right heq, namesPair_own_iff hlinks heq]
  have hfingerprint : fingerprint = tls.fingerprint := by
    have hread := (resolveTls_spec hprevious hresolved).1
    rw [hsame, hpair.fingerprint] at hread
    exact Except.ok.inj hread
  obtain ⟨hrotate, hreused⟩ | ⟨hnone, hnew⟩ := reused_or_new hown hresolved
  · constructor
    · exact fun hnames => ⟨hrotate, _, _, _, hreused, hfingerprint ▸ hnames⟩
    · rintro ⟨-, privatePem', certPem', fingerprint', hreused', hnames⟩
      cases hreused.symm.trans hreused'
      exact hfingerprint ▸ hnames
  · -- a new certificate is in no file yet
    obtain ⟨names, hsigned⟩ := selfSigned_of_generate hnew
    refine iff_of_false ?_ ?_
    · rintro ⟨certPem', privatePem', hcert, -, hpair'⟩
      refine hfresh names _ _ hsigned _ certPem' hcert ?_
      rw [hpair'.fingerprint, hsame, hpair.fingerprint]
    · rintro ⟨hrotate, privatePem', certPem', fingerprint', hreused, -⟩
      rw [hnone hrotate] at hreused
      cases hreused

/-- Stripping the public host of the request changes nothing of it. -/
theorem XrayTlsBuilt.of_stripHost {filePrefix : String}
    (h : XrayTlsBuilt crypto env ps req.stripHost filePrefix template result tls) :
    XrayTlsBuilt crypto env ps req filePrefix template result tls := by
  obtain ⟨hresolved, hmaterial, hchanged⟩ := h
  rw [req.stripHost_previous, req.stripHost_policy] at hresolved
  exact ⟨hresolved, hmaterial, hchanged⟩

/-- The name a gRPC build has certified. -/
theorem certified_of_buildXrayGrpc
    (h : buildXrayGrpc crypto settings env ps req.stripHost template = .ok result) :
    ∃ named, resolveTls crypto env ps req.previous (certName settings env ps req .xrayGrpc)
        req.policy.rotateTls (tlsFilePrefix .xrayGrpc) = .ok named ∧
      result.publicKey = named.certPem := by
  obtain ⟨_, _, _, _, tlsName, named, -, -, hname, -, -, hresolved, hpublic⟩ :=
    tlsSection_of_buildXrayGrpc h
  obtain ⟨hpinned, hfree⟩ := setGrpcServerName_spec hname
  have hcert : tlsName = certName settings env ps req .xrayGrpc := by
    by_cases hpin : HostPinned ps req
    · simp [certName, hpin, (hpinned hpin).1]
    · have hfree := hfree hpin
      cases hpool : pooledSni env ps req with
      | some sni =>
          rw [hpool] at hfree
          simp [certName, hpin, hpool, hfree.1]
      | none =>
          rw [hpool] at hfree
          simp [certName, hpin, hpool, hfree.1]
  rw [req.stripHost_previous, req.stripHost_policy, hcert] at hresolved
  exact ⟨named, hresolved, hpublic⟩

/-- The name an xHTTP build has certified. -/
theorem certified_of_buildXrayXhttp
    (h : buildXrayXhttp crypto settings env ps req.stripHost template = .ok result) :
    ∃ named, resolveTls crypto env ps req.previous (certName settings env ps req .xrayXhttp)
        req.policy.rotateTls (tlsFilePrefix .xrayXhttp) = .ok named ∧
      result.publicKey = named.certPem := by
  obtain ⟨_, _, named, -, -, -, -, hresolved, hpublic⟩ := tlsSection_of_buildXrayXhttp h
  have hhost : tlsServerName settings ps req.stripHost.sharePublicHost =
      certName settings env ps req .xrayXhttp := effectiveShareHost_stripHost settings ps req
  rw [req.stripHost_previous, req.stripHost_policy, hhost] at hresolved
  exact ⟨named, hresolved, hpublic⟩

/-- Where `_apply_tls_cert_paths` leaves the paths of the tagged inbound: it sets
them there, or in an inbound before it. -/
theorem tlsPaths_of_applyTlsCertPaths {tag certFile keyFile oldCert oldKey : String}
    {template configData inbound inbound' : PyVal} {before after : List PyVal}
    (hprofile : profile = .xrayGrpc ∨ profile = .xrayXhttp)
    (hchanged : InboundChanged tag template configData inbound inbound' before after)
    (htag : inbound.SameAt inbound' "tag")
    (hcerts : PyVal.itemAt certificatesPath inbound' = .ok (.list [.dict
      [("certificateFile", .str oldCert), ("keyFile", .str oldKey)]]))
    (hdoc : applyTlsCertPaths profile configData certFile keyFile = .ok doc) :
    tlsPaths profile tag doc = .ok (if taggedFirst tag template = true
      then (.str certFile, .str keyFile) else (.str oldCert, .str oldKey)) := by
  have hxray : profile ≠ .hysteria2 := by
    obtain rfl | rfl := hprofile <;> simp
  have hsplit := hchanged.split' htag
  obtain ⟨items', hset, hitems⟩ := items_of_applyTlsCertPaths hprofile hchanged.inbounds' hdoc
  have hfirst : taggedFirst tag template = before.all fun x => !hasCertificates x := by
    rw [taggedFirst, hchanged.inbounds]
    exact firstCertificates_of_split hchanged.split
  rw [hfirst]
  cases hbefore : before.all fun x => !hasCertificates x with
  | true =>
      obtain ⟨changed, hx⟩ := setCertificates_of_setFirst hbefore hset
      obtain ⟨inbound'', rfl, htag'', hcerts''⟩ := setCertificates_spec hcerts hx
      have hsplit'' : TagSplit tag items' before inbound'' after :=
        ⟨setFirstCertificates_here hbefore hx hset, hchanged.split.others,
          by rw [htag''.get, hsplit.tagged]⟩
      exact tlsPaths_of_inbound hxray hitems hsplit'' hcerts''
  | false =>
      obtain ⟨before', hitems', hothers'⟩ :=
        setFirstCertificates_before hbefore hchanged.split.others hset
      exact tlsPaths_of_inbound hxray hitems ⟨hitems', hothers', hsplit.tagged⟩ hcerts

/-- An xray document has the pair in its tagged inbound when nothing is
installed, when the paths are set in that inbound, or when the files the build
has named have the pair. -/
theorem servesPinned_xray_iff (hprofile : profile = .xrayGrpc ∨ profile = .xrayXhttp)
    (hbuilt : XrayTlsBuilt crypto env ps req (tlsFilePrefix profile) template result tls)
    (hnamed : ∃ named, resolveTls crypto env ps req.previous (certName settings env ps req profile)
      req.policy.rotateTls (tlsFilePrefix profile) = .ok named ∧ result.publicKey = named.certPem)
    (hself : env.SelfSignedMatches crypto)
    (hprevious : ∀ p, req.previous = some p → p.Fingerprinted crypto)
    (hfresh : env.SelfSignedFresh crypto h) (hlinks : h.LinksOwn)
    (hinstalled : Installed settings profile configId ps timestamp result h doc h') :
    ServesPinned crypto env ps.inboundTag profile doc h' result.certFingerprint ↔
      UsesExternal crypto env ps req ∨ taggedFirst ps.inboundTag template = true ∨
      ownFile ps (tlsFilePrefix profile) "cert" =
        installedFile settings profile ps configId "cert" ∨
      ReusedInPlace crypto settings env req ps profile h := by
  have hxray : profile ≠ .hysteria2 := by
    obtain rfl | rfl := hprofile <;> simp
  obtain ⟨dnsName, hresolved⟩ := hbuilt.resolved
  obtain ⟨hpair, hsource⟩ := pinnedPair_of_resolveTls hself hprevious hresolved
  obtain ⟨port, clientId, hresult⟩ := hbuilt.material
  have hfiles : result.extraFiles = tls.extraFiles := by rw [hresult]; rfl
  have hfingerprint : result.certFingerprint = tls.fingerprint := by rw [hresult]; rfl
  have hpublic : result.publicKey = tls.certPem := by rw [hresult]; rfl
  obtain ⟨inbound, inbound', before, after, hchanged, htag, hcerts⟩ := hbuilt.changed
  have hsplit := hchanged.split' htag
  have hitems := hchanged.inbounds'
  cases hsource with
  | external hrotate hload hnone hcert hkey =>
      refine iff_of_true ?_ (Or.inl ⟨hrotate, tls, hload⟩)
      cases hinstalled with
      | files hne _ _ => exact absurd (hfiles.trans hnone) hne
      | nothing _ hdoc _ =>
          rw [hfingerprint, hdoc]
          exact ⟨tls.certFile, tls.keyFile, tlsPaths_of_inbound hxray hitems hsplit hcerts, _, _,
            Or.inl hcert, Or.inl hkey, hpair⟩
  | installed hnone hsome hcertFile hkeyFile =>
      have hown : ¬ UsesExternal crypto env ps req := by
        rintro ⟨hrotate, external, hload⟩
        obtain hrotate' | hload' := hnone
        · rw [hrotate] at hrotate'
          cases hrotate'
        · rw [hload] at hload'
          cases hload'
      rw [or_iff_right hown]
      cases hinstalled with
      | nothing hempty _ _ => simp [hfiles, hsome] at hempty
      | files _ hdoc hpems =>
          have hpems := hpems tls.certPem tls.privatePem (hfiles.trans hsome)
          have hpaths := tlsPaths_of_applyTlsCertPaths hprofile hchanged htag hcerts hdoc
          rw [hfingerprint]
          cases hfirst : taggedFirst ps.inboundTag template with
          | true =>
              rw [hfirst, if_pos rfl] at hpaths
              exact iff_of_true ⟨_, _, hpaths, (namesPair_installPair hpair h).of_pems hpems⟩
                (Or.inl rfl)
          | false =>
              rw [hfirst, if_neg Bool.false_ne_true, hcertFile, hkeyFile] at hpaths
              rw [or_iff_right Bool.false_ne_true]
              obtain ⟨named, hnamed, hnamedCert⟩ := hnamed
              rw [← namesPair_installed_iff hpair hown hnamed (hnamedCert.symm.trans hpublic)
                hprevious hfresh hlinks]
              constructor
              · rintro ⟨certFile, keyFile, hpaths', hnames⟩
                cases hpaths.symm.trans hpaths'
                exact hnames.of_pems hpems.symm
              · exact fun hnames => ⟨_, _, hpaths, hnames.of_pems hpems⟩

/-- Without per-config units, and with a directory and a prefix of its own, a
profile has one place for the certificate too. -/
theorem certificatesInPlace_of_shared {dir filePrefix : String}
    (hshared : settings.systemd.perConfig = false) (hdir : ps.certDir = some dir)
    (hfilePrefix : ps.certPrefix = some filePrefix) (hne : filePrefix ≠ "") :
    CertificatesInPlace crypto settings env req ps profile configId h := by
  refine Or.inr (Or.inr (Or.inr (Or.inl (ownFile_eq_installedFile_iff.mpr ?_))))
  simp [certBase, hshared, hdir, hfilePrefix, certNamePrefix, orStr, hne, CertBase.render]

end Served

/-- **When the served certificate is the pinned one.**  After a build and its
`write_files` the service of a TLS profile is given the certificate whose
fingerprint the share URIs pin, and its key, exactly when the certificate gets
where it is served from. -/
theorem servesPinned_iff (crypto : Crypto) (settings : PanelSettings) (env : BuildEnv)
    (req : BuildRequest) (profile : ConfigProfile) (ps : VpnProfileSettings) (result : BuildResult)
    (faults : Faults) (timestamp : Nat) (configId : ConfigId) (configName : String) (h h' : Host)
    (doc : PyVal) (htls : profile ≠ .xrayReality) (hps : settings.profileSettings profile = .ok ps)
    (hself : env.SelfSignedMatches crypto) (hfresh : env.SelfSignedFresh crypto h)
    (hprevious : ∀ p, req.previous = some p → p.Fingerprinted crypto) (hlinks : h.LinksOwn)
    (hbuild : build crypto settings env req profile = .ok result)
    (hwrite : (writeFiles settings faults timestamp profile configId result configName).exec h =
      (.ok doc, h')) :
    ServesPinned crypto env ps.inboundTag profile doc h' result.certFingerprint ↔
      CertificatesInPlace crypto settings env req ps profile configId h := by
  have hinstalled := installed_of_writeFiles hps hwrite
  rw [build, hps, Except.ok_bind_eq] at hbuild
  obtain ⟨template, htemplate, hbuild⟩ := Except.bind_eq_ok_iff.mp hbuild
  have hfirst : (∃ template, env.template = .ok template ∧
      taggedFirst ps.inboundTag template = true) ↔ taggedFirst ps.inboundTag template = true := by
    constructor
    · rintro ⟨template', htemplate', hfirst⟩
      rwa [Except.ok.inj (htemplate.symm.trans htemplate')]
    · exact fun hfirst => ⟨template, htemplate, hfirst⟩
  unfold CertificatesInPlace
  rw [hfirst]
  cases profile with
  | xrayReality => exact absurd rfl htls
  | hysteria2 =>
      obtain ⟨tls, hbuilt⟩ := buildHysteria2_tls hbuild
      rw [← req.stripHost_previous] at hprevious
      exact iff_of_true (servesPinned_hysteria2 hbuilt hself hprevious hinstalled) (Or.inl rfl)
  | xrayGrpc =>
      obtain ⟨tls, hbuilt⟩ := buildXrayGrpc_spec hbuild
      rw [or_iff_right (fun heq : ConfigProfile.xrayGrpc = .hysteria2 => by cases heq)]
      exact servesPinned_xray_iff (Or.inl rfl) hbuilt.of_stripHost
        (certified_of_buildXrayGrpc hbuild) hself
        hprevious hfresh hlinks hinstalled
  | xrayXhttp =>
      obtain ⟨tls, hbuilt⟩ := buildXrayXhttp_spec hbuild
      rw [or_iff_right (fun heq : ConfigProfile.xrayXhttp = .hysteria2 => by cases heq)]
      exact servesPinned_xray_iff (Or.inr rfl) hbuilt.of_stripHost
        (certified_of_buildXrayXhttp hbuild) hself
        hprevious hfresh hlinks hinstalled

/-- A gRPC template with other inbounds before the tagged one. -/
def grpcTemplate (before : List PyVal) : PyVal :=
  .dict [("inbounds", .list (before ++ [.dict [("tag", .str "vless"), ("port", .int 1),
    ("settings", .dict [("clients", .list [.dict [("id", .str "template")]])]),
    ("streamSettings", .dict [("grpcSettings", .dict [("serviceName", .str "vpn")]),
      ("tlsSettings", .dict [("serverName", .str "vpn.example")])])]]))]

/-- An inbound of another service, with certificates of its own. -/
def certifiedInbound : PyVal :=
  .dict [("tag", .str "web"), ("streamSettings", .dict [("tlsSettings", .dict [("certificates",
    .list [.dict [("certificateFile", .str "/web-cert.pem"),
      ("keyFile", .str "/web-key.pem")]])])])]

/-- A first gRPC build from a template. -/
def grpcResult (template : PyVal) : Except PyErr BuildResult :=
  build Crypto.sample Ctx.allProfiles.settings (BuildEnv.sample template) {} .xrayGrpc

/-- What `write_files` does with it. -/
def grpcWrite (result : BuildResult) : Except PyErr PyVal × Host :=
  (writeFiles Ctx.allProfiles.settings Faults.none 0 .xrayGrpc 0 result "c").exec Host.blank

theorem blank_linksOwn : Host.blank.LinksOwn := fun _ => ownEntry_none

/-- Nothing is on the blank machine, and nothing was read. -/
theorem sample_selfSignedFresh (template : PyVal) :
    (BuildEnv.sample template).SelfSignedFresh Crypto.sample Host.blank := by
  rintro names privatePem certPem - path pem (⟨hfile, -⟩ | ⟨base, name, -, hread⟩)
  · cases hfile
  · cases hread

theorem sample_selfSignedMatches (template : PyVal) :
    (BuildEnv.sample template).SelfSignedMatches Crypto.sample := by
  intro names privatePem certPem h
  cases h
  simp [Crypto.sample]

/-- An earlier inbound without certificates. -/
theorem servesPinned_of_apiInbound :
    ∃ result doc h', grpcResult (grpcTemplate [apiInbound]) = .ok result ∧
      grpcWrite result = (.ok doc, h') ∧
      ServesPinned Crypto.sample (BuildEnv.sample (grpcTemplate [apiInbound])) "vless" .xrayGrpc doc
        h' result.certFingerprint :=
  ⟨_, _, _, rfl, rfl,
    (servesPinned_iff Crypto.sample Ctx.allProfiles.settings
      (BuildEnv.sample (grpcTemplate [apiInbound]))
        {} .xrayGrpc _ _ Faults.none 0 0 "c" Host.blank _
      _ (by decide) rfl (sample_selfSignedMatches _) (sample_selfSignedFresh _)
      (fun _ h => by cases h) blank_linksOwn rfl rfl).mpr (Or.inr (Or.inr (Or.inl ⟨_, rfl, rfl⟩)))⟩

/-- The paths are set in an earlier inbound with certificates, and the tagged
one names a file that is not there. -/
theorem not_servesPinned_of_certifiedInbound :
    (BuildEnv.sample (grpcTemplate [certifiedInbound])).SelfSignedMatches Crypto.sample ∧
      ∃ result doc h', grpcResult (grpcTemplate [certifiedInbound]) = .ok result ∧
        grpcWrite result = (.ok doc, h') ∧
        ¬ ServesPinned Crypto.sample (BuildEnv.sample (grpcTemplate [certifiedInbound])) "vless"
          .xrayGrpc doc h' result.certFingerprint := by
  obtain ⟨result, hbuild⟩ : ∃ result, grpcResult (grpcTemplate [certifiedInbound]) = .ok result :=
    ⟨_, rfl⟩
  obtain ⟨doc, h', hwrite⟩ : ∃ doc h', grpcWrite result = (.ok doc, h') := by
    cases hbuild
    exact ⟨_, _, rfl⟩
  refine ⟨sample_selfSignedMatches _, result, doc, h', hbuild, hwrite, ?_⟩
  rintro ⟨certFile, keyFile, hpaths, certPem, privatePem, hcert, -⟩
  have hfile : tlsPaths .xrayGrpc "vless" doc = .ok (.str "/usr/local/etc/xray/certs/grpc-cert.pem",
      .str "/usr/local/etc/xray/certs/grpc-key.pem") := by
    cases hbuild
    cases hwrite
    rfl
  obtain ⟨rfl, rfl⟩ : certFile = "/usr/local/etc/xray/certs/grpc-cert.pem" ∧
      keyFile = "/usr/local/etc/xray/certs/grpc-key.pem" := by simpa [hpaths] using hfile
  obtain ⟨hthere, -⟩ | ⟨base, name, hpath, hread⟩ := hcert
  · cases hthere
  have hbase : base = .live "/usr/local/etc/xray/configs" 0 := by
    by_contra hne
    cases installed_of_writeFiles rfl hwrite with
    | nothing hfiles _ _ =>
        cases hbuild
        cases hfiles
    | files _ _ hpems =>
        have hpems := hpems "cert:127.0.0.1" "key:cert:127.0.0.1" (by cases hbuild; rfl)
        have hnone : h'.pems base = fun _ => none :=
          (congrFun hpems base).trans (pems_installPair_of_ne _ _ _ _ _ hne)
        simp [Host.readPem, hnone] at hread
  rw [hbase] at hpath
  have hfilePrefix := congrArg (List.take 23) (congrArg String.toList hpath)
  simp [CertBase.render] at hfilePrefix

end VpnPanel
