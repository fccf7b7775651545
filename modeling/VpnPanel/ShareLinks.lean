import VpnPanel.ConfigTask

/-!
# VpnPanel.ShareLinks

Share links: the table `share_tokens`, and the requests that create and revoke
links.

* `resolve_share_expiration` of `share_expiration.py`;
* `repositories/share_token.py`, with `list_active`;
* the snapshots of `repositories/vpn_config.py` that links are made of;
* `create_share_link.py`, `create_all_share_link.py`, `revoke_share_link.py`.

Instants are counted in microseconds.  A token's random text is drawn by
`generate_share_token` and given to the requests as an argument.
-/

namespace VpnPanel

abbrev ShareId := Nat

/-! ## expiration -/

/-- A `datetime` a client sends: with a time zone, as the instant in UTC, or
without one. -/
inductive PyDatetime where
  | aware (utc : Int)
  | naive (wall : Int)
  deriving DecidableEq, Repr

/-- `ShareExpiration`. -/
structure ShareExpiration where
  isPermanent : Bool
  expiresAt : Option Int
  deriving DecidableEq, Repr

/-- `CreateShareLinkRequest` and `CreateAllShareLinkRequest`. -/
structure ShareRequest where
  isPermanent : Bool := true
  expiresAt : Option PyDatetime := none
  ttlSeconds : Option Int := none
  secure : Bool := true
  deriving DecidableEq, Repr

def invalidShareRequest (msg : String) : PyErr := ⟨.other "InvalidShareRequest", msg⟩

def overflowError (msg : String) : PyErr := ⟨.other "OverflowError", msg⟩

/-- `datetime.max`. -/
def datetimeMax : Int := 253402300799999999

/-- `timedelta(seconds=s)` for a positive `s`. -/
def timedeltaSeconds (s : Int) : Except PyErr Int :=
  let days := s / 86400
  if 2147483647 < days then .error (overflowError "Python int too large to convert to C int")
  else if 999999999 < days then
    .error (overflowError ("days=" ++ toString days ++ "; must have magnitude <= 999999999"))
  else .ok (s * 1000000)

/-- `datetime.now(UTC) + timedelta(seconds=s)`. -/
def nowPlus (now : Nat) (s : Int) : Except PyErr Int := do
  let delta ← timedeltaSeconds s
  if datetimeMax < now + delta then .error (overflowError "date value out of range")
  else .ok (now + delta)

/-- `resolve_share_expiration`. -/
def resolveShareExpiration (now : Nat) (req : ShareRequest) : Except PyErr ShareExpiration :=
  match req.ttlSeconds with
  | some ttl =>
      if ttl ≤ 0 then .error (invalidShareRequest "ttl_seconds must be positive")
      else if req.expiresAt.isSome then
        .error (invalidShareRequest "Specify either ttl_seconds or expires_at, not both")
      else if req.isPermanent then
        .error (invalidShareRequest "ttl_seconds cannot be used with is_permanent")
      else do
        let expiresAt ← nowPlus now ttl
        .ok { isPermanent := false, expiresAt := some expiresAt }
  | none =>
      if req.isPermanent then
        if req.expiresAt.isSome then
          .error (invalidShareRequest "expires_at cannot be used with is_permanent")
        else .ok { isPermanent := true, expiresAt := none }
      else
        match req.expiresAt with
        | none => .error (invalidShareRequest
            "ttl_seconds or expires_at is required when is_permanent is false")
        | some (.naive _) =>
            .error ⟨.typeError, "can't compare offset-naive and offset-aware datetimes"⟩
        | some (.aware utc) =>
            if utc ≤ now then .error (invalidShareRequest "expires_at must be in the future")
            else .ok { isPermanent := false, expiresAt := some utc }

/-! ## the table -/

/-- A row of `share_tokens`. -/
structure ShareTokenModel where
  id : ShareId
  tokenHash : String
  configId : Option ConfigId
  configVersion : Option Nat
  secure : Bool
  isPermanent : Bool
  expiresAt : Option Int
  revokedAt : Option Nat := none
  createdAt : Nat
  lastAccessedAt : Option Nat := none
  accessCount : Nat := 0
  deriving DecidableEq, Repr

/-- `share_tokens`, in the order of insertion. -/
abbrev ShareTable := List ShareTokenModel

namespace ShareTable

/-- `get_by_token_hash`. -/
def byHash (tokens : ShareTable) (tokenHash : String) : Option ShareTokenModel :=
  tokens.find? (·.tokenHash = tokenHash)

/-- The row of an id. -/
def byId (tokens : ShareTable) (id : ShareId) : Option ShareTokenModel :=
  tokens.find? (·.id = id)

/-- The `UPDATE` of one row. -/
def update (tokens : ShareTable) (id : ShareId) (change : ShareTokenModel → ShareTokenModel) :
    ShareTable :=
  tokens.map fun row => if row.id = id then change row else row

/-- The `INSERT` of a row: ids and hashes are unique. -/
def insert (tokens : ShareTable) (row : ShareTokenModel) : Except PyErr ShareTable :=
  if tokens.any fun old => old.id = row.id || old.tokenHash = row.tokenHash then
    .error ⟨.databaseError, "duplicate key value violates unique constraint"⟩
  else .ok (tokens ++ [row])

end ShareTable

/-- What `revoke_by_token_hash` and `revoke_by_id` write. -/
def ShareTokenModel.revoke (now : Nat) (row : ShareTokenModel) : ShareTokenModel :=
  { row with revokedAt := some now }

/-- What `record_access` writes at the commit: the count is computed from the
row that was loaded. -/
def ShareTokenModel.recordAccess (at_ : Nat) (loaded : ShareTokenModel) (row : ShareTokenModel) :
    ShareTokenModel :=
  { row with lastAccessedAt := some at_, accessCount := loaded.accessCount + 1 }

/-- `ActiveShareLinkRow`. -/
structure ActiveShareLinkRow where
  id : ShareId
  configId : Option ConfigId
  configName : Option String
  secure : Bool
  isPermanent : Bool
  expiresAt : Option Int
  createdAt : Nat
  lastAccessedAt : Option Nat
  accessCount : Nat
  deriving DecidableEq, Repr

/-- The filters of `list_active`; comparing with null is not true. -/
def ShareTokenModel.listed (now : Nat) (configId : Option ConfigId) (row : ShareTokenModel) :
    Bool :=
  row.revokedAt.isNone && (row.isPermanent || row.expiresAt.any fun e => (now : Int) < e) &&
    (configId.isNone || row.configId = configId)

/-- `list_active`; `name` reads `vpn_configs.name`. -/
def listActive (tokens : ShareTable) (name : ConfigId → Option String) (now : Nat)
    (configId : Option ConfigId) : List ActiveShareLinkRow :=
  ((tokens.filter (ShareTokenModel.listed now configId)).mergeSort
      fun a b => decide (b.createdAt ≤ a.createdAt)).map fun row =>
    { id := row.id, configId := row.configId, configName := row.configId.bind name,
      secure := row.secure, isPermanent := row.isPermanent, expiresAt := row.expiresAt,
      createdAt := row.createdAt, lastAccessedAt := row.lastAccessedAt,
      accessCount := row.accessCount }

/-! ## the rows of the table -/

/-- What a link is from its creation on: its row without the columns that
revocations and accesses write. -/
def ShareTokenModel.link (row : ShareTokenModel) : ShareTokenModel :=
  { row with revokedAt := none, lastAccessedAt := none, accessCount := 0 }

@[simp] theorem link_revoke (now : Nat) (row : ShareTokenModel) :
    (row.revoke now).link = row.link := rfl

@[simp] theorem link_recordAccess (at_ : Nat) (loaded row : ShareTokenModel) :
    (ShareTokenModel.recordAccess at_ loaded row).link = row.link := rfl

theorem id_of_link {row row' : ShareTokenModel} (h : row'.link = row.link) : row'.id = row.id := by
  show row'.link.id = row.link.id
  rw [h]

theorem tokenHash_of_link {row row' : ShareTokenModel} (h : row'.link = row.link) :
    row'.tokenHash = row.tokenHash := by
  show row'.link.tokenHash = row.link.tokenHash
  rw [h]

/-- The expiration a link was created with. -/
theorem expiration_of_link {row row' : ShareTokenModel} (h : row'.link = row.link) :
    (⟨row'.isPermanent, row'.expiresAt⟩ : ShareExpiration) =
      ⟨row.isPermanent, row.expiresAt⟩ := by
  show (⟨row'.link.isPermanent, row'.link.expiresAt⟩ : ShareExpiration) = _
  rw [h]
  rfl

namespace ShareTable

variable {tokens tokens' : ShareTable} {row : ShareTokenModel}
  {change : ShareTokenModel → ShareTokenModel}

/-- One row of an `UPDATE`. -/
def updateRow (id : ShareId) (change : ShareTokenModel → ShareTokenModel) (row : ShareTokenModel) :
    ShareTokenModel := if row.id = id then change row else row

theorem link_updateRow (hchange : ∀ row, (change row).link = row.link) (id : ShareId)
    (row : ShareTokenModel) : (updateRow id change row).link = row.link := by
  unfold updateRow
  split
  · exact hchange row
  · rfl

theorem mem_update {id : ShareId} :
    row ∈ tokens.update id change ↔ ∃ old ∈ tokens, updateRow id change old = row := by
  simp [update, updateRow]

theorem byHash_update (hchange : ∀ row, (change row).link = row.link) (id : ShareId)
    (tokenHash : String) :
    (tokens.update id change).byHash tokenHash =
      (tokens.byHash tokenHash).map (updateRow id change) := by
  rw [byHash, update, List.find?_map]
  congr 2
  funext row
  exact congrArg (fun h => decide (h = tokenHash))
    (tokenHash_of_link (link_updateRow hchange id row))

theorem map_id_update (hchange : ∀ row, (change row).link = row.link) (id : ShareId) :
    (tokens.update id change).map (·.id) = tokens.map (·.id) := by
  simp only [update, List.map_map]
  congr 1
  funext row
  exact id_of_link (link_updateRow hchange id row)

/-- What an `INSERT` that passes adds, and what it has checked. -/
theorem of_insert (h : tokens.insert row = .ok tokens') :
    tokens' = tokens ++ [row] ∧
      ∀ old ∈ tokens, old.id ≠ row.id ∧ old.tokenHash ≠ row.tokenHash := by
  unfold insert at h
  split at h
  · contradiction
  · next hno =>
    refine ⟨(Except.ok.inj h).symm, ?_⟩
    simpa using hno

theorem byHash_insert (h : tokens.insert row = .ok tokens') (tokenHash : String) :
    tokens'.byHash tokenHash =
      (tokens.byHash tokenHash).or (if row.tokenHash = tokenHash then some row else none) := by
  obtain ⟨rfl, -⟩ := of_insert h
  by_cases hrow : row.tokenHash = tokenHash <;> simp [byHash, List.find?_append, hrow]

/-- A row that is found by its hash is in the table. -/
theorem of_byHash {tokenHash : String} (h : tokens.byHash tokenHash = some row) :
    row ∈ tokens ∧ row.tokenHash = tokenHash :=
  ⟨List.mem_of_find?_eq_some h, by simpa using List.find?_some h⟩

theorem byHash_isSome {tokenHash : String} (hrow : row ∈ tokens) (h : row.tokenHash = tokenHash) :
    ∃ found, tokens.byHash tokenHash = some found := by
  rw [← Option.isSome_iff_exists, byHash, List.find?_isSome]
  exact ⟨row, hrow, by simpa using h⟩

/-- With distinct ids, a row is found by its id. -/
theorem byId_of_mem (hids : (tokens.map (·.id)).Nodup) (hrow : row ∈ tokens) :
    tokens.byId row.id = some row := by
  obtain ⟨found, hfound⟩ : ∃ found, tokens.byId row.id = some found := by
    rw [← Option.isSome_iff_exists, byId, List.find?_isSome]
    exact ⟨row, hrow, by simp⟩
  have hid : found.id = row.id := by simpa using List.find?_some hfound
  have heq := List.inj_on_of_nodup_map hids (List.mem_of_find?_eq_some hfound) hrow hid
  rw [hfound, heq]

end ShareTable

/-! ## snapshots -/

/-- `ConfigVersionSnapshot`. -/
structure ConfigVersionSnapshot where
  configId : ConfigId
  profile : ConfigProfile
  name : String
  version : Nat
  port : Int
  publicKey : String
  certFingerprint : String
  configData : PyVal
  sharePublicHost : Option String

/-- `get_version_snapshot`: also for a deleted config. -/
def getVersionSnapshot (db : Db) (c : ConfigId) (v : Nat) : Option ConfigVersionSnapshot :=
  match db.getModel c, db.versions c v with
  | some config, some row => some {
      configId := c
      profile := config.profile
      name := config.name
      version := v
      port := row.port
      publicKey := row.publicKey
      certFingerprint := row.certFingerprint
      configData := row.configData
      sharePublicHost := config.sharePublicHost.filter (· ≠ "") }
  | _, _ => none

theorem configId_of_getVersionSnapshot {db : Db} {c : ConfigId} {v : Nat}
    {snapshot : ConfigVersionSnapshot} (h : getVersionSnapshot db c v = some snapshot) :
    snapshot.configId = c := by
  unfold getVersionSnapshot at h
  split at h
  · rw [← Option.some.inj h]
  · contradiction

/-- `list_current_version_snapshots`; `order` are the ids of `vpn_configs` by
`created_at`. -/
def listCurrentVersionSnapshots (db : Db) (order : List ConfigId) : List ConfigVersionSnapshot :=
  order.filterMap fun c =>
    match db.getActive c with
    | some config =>
        if config.status = .active then
          config.currentVersion.bind fun v => getVersionSnapshot db c v
        else none
    | none => none

/-! ## creating links -/

def configNotShareable (msg : String) : PyErr := ⟨.other "ConfigNotShareable", msg⟩

/-- `hash_share_token`. -/
def hashShareToken (ctx : Ctx) (rawToken : String) : String := ctx.sha256Hex rawToken

/-- The row a link starts with. -/
def shareRow (ctx : Ctx) (now : Nat) (id : ShareId) (rawToken : String) (req : ShareRequest)
    (expiration : ShareExpiration) (pinned : Option (ConfigId × Nat)) : ShareTokenModel where
  id := id
  tokenHash := hashShareToken ctx rawToken
  configId := pinned.map Prod.fst
  configVersion := pinned.map Prod.snd
  secure := req.secure
  isPermanent := expiration.isPermanent
  expiresAt := expiration.expiresAt
  createdAt := now

/-- `CreateShareLinkUseCase.execute` up to the row it inserts. -/
def createShareLink (ctx : Ctx) (now : Nat) (db : Db) (id : ShareId) (rawToken : String)
    (c : ConfigId) (req : ShareRequest) : Except PyErr ShareTokenModel := do
  let expiration ← resolveShareExpiration now req
  match db.getActive c with
  | none => .error ⟨.other "ConfigNotFound", ""⟩
  | some config =>
      match config.currentVersion with
      | none => .error (configNotShareable "Config is not ready for sharing")
      | some version =>
          if config.status ≠ .active then
            .error (configNotShareable "Config is not ready for sharing")
          else .ok (shareRow ctx now id rawToken req expiration (some (c, version)))

/-- `CreateAllShareLinksUseCase.execute` up to the row it inserts. -/
def createAllShareLinks (ctx : Ctx) (now : Nat) (db : Db) (order : List ConfigId) (id : ShareId)
    (rawToken : String) (req : ShareRequest) : Except PyErr ShareTokenModel := do
  let expiration ← resolveShareExpiration now req
  if (listCurrentVersionSnapshots db order).isEmpty then
    .error (configNotShareable "No active configs available for sharing")
  else .ok (shareRow ctx now id rawToken req expiration none)

/-- `revoke_by_token_hash` and `revoke_by_id` on the row they found: the id to
write, unless the link is not there or is revoked. -/
def revocable (found : Option ShareTokenModel) : Option ShareId :=
  match found with
  | none => none
  | some row => if row.revokedAt.isSome then none else some row.id

end VpnPanel
