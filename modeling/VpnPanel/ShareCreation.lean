import VpnPanel.ShareLinks
import VpnPanel.Lifecycle

/-!
# VpnPanel.ShareCreation

A request for a share link, from the schema that lets it through to the row that
is stored or the exception that is raised.

* `createLink` — `execute` of `create_share_link.py` and `create_all_share_link.py`
  with the `INSERT` of `ShareTokenRepository.create`;
* `LinkOutcome` — what a request may come to: a link that is permanent or ends in the
  future, or one of the errors the routes answer, with nothing stored;
* `resolveShareExpiration_eq_ok_iff` — the requests that give a time;
* `linkOutcome_iff` — the requests that come to one of these.
-/

namespace VpnPanel

/-- `CreateShareLinkRequest` as its schema lets it through: `ttl_seconds` is
positive. -/
structure CreateShareLinkRequest extends ShareRequest where
  ttl_pos : ∀ ttl ∈ ttlSeconds, 0 < ttl

/-- What a link is asked for: one config, or all of them. -/
inductive ShareTarget where
  | config (c : ConfigId)
  /-- `order` are the ids of `vpn_configs` by `created_at`. -/
  | all (order : List ConfigId)
  deriving DecidableEq, Repr

/-- The database driver: the instants it sends as a `timestamptz`.  It counts them
in UTC, where those up to `datetime.max` have a `datetime`. -/
structure TimestampDriver where
  accepts : Int → Bool
  accepts_of_le : ∀ utc, 0 ≤ utc → utc ≤ datetimeMax → accepts utc = true

/-- The row a request is answered with. -/
def targetRow (ctx : Ctx) (now : Nat) (db : Db) (id : ShareId) (rawToken : String)
    (req : ShareRequest) : ShareTarget → Except PyErr ShareTokenModel
  | .config c => createShareLink ctx now db id rawToken c req
  | .all order => createAllShareLinks ctx now db order id rawToken req

/-- `ShareTokenRepository.create`. -/
def storeRow (driver : TimestampDriver) (tokens : ShareTable) (row : ShareTokenModel) :
    Except PyErr ShareTable :=
  if row.expiresAt.all driver.accepts then tokens.insert row
  else .error ⟨.databaseError, "invalid input for query argument"⟩

/-- `CreateShareLinkUseCase.execute` and `CreateAllShareLinksUseCase.execute`. -/
def createLink (ctx : Ctx) (driver : TimestampDriver) (now : Nat) (db : Db) (id : ShareId)
    (rawToken : String) (target : ShareTarget) (req : ShareRequest) :
    Eff ShareTable PyErr ShareTokenModel := do
  let row ← Eff.ofExcept (targetRow ctx now db id rawToken req target)
  let tokens ← Eff.read
  let tokens ← Eff.ofExcept (storeRow driver tokens row)
  Eff.update fun _ => tokens
  pure row

/-! ## what a request may come to -/

/-- The exceptions the routes have an answer for. -/
def isShareError (e : PyErr) : Bool :=
  e.kind = .other "InvalidShareRequest" || e.kind = .other "ConfigNotFound" ||
    e.kind = .other "ConfigNotShareable"

/-- A link that is permanent, or ends in the future. -/
def ShareTokenModel.Timed (now : Nat) (row : ShareTokenModel) : Prop :=
  row.isPermanent = true ∧ row.expiresAt = none ∨
    row.isPermanent = false ∧ ∃ utc, row.expiresAt = some utc ∧ (now : Int) < utc

/-- One token is stored, or an error the routes answer is raised and none is. -/
def LinkOutcome (now : Nat) (tokens : ShareTable) :
    Except PyErr ShareTokenModel × ShareTable → Prop
  | (.ok row, tokens') => tokens' = tokens ++ [row] ∧ row.Timed now
  | (.error e, tokens') => tokens' = tokens ∧ isShareError e = true

/-! ## the time a request asks for -/

/-- The expiration a request asks for, in one of the three ways there are. -/
inductive AsksFor (now : Nat) (req : ShareRequest) : ShareExpiration → Prop where
  | permanent (httl : req.ttlSeconds = none) (hperm : req.isPermanent = true)
      (hexp : req.expiresAt = none) : AsksFor now req ⟨true, none⟩
  | ttl (s : Int) (httl : req.ttlSeconds = some s) (hpos : 0 < s) (hperm : req.isPermanent = false)
      (hexp : req.expiresAt = none) (hle : now + s * 1000000 ≤ datetimeMax) :
      AsksFor now req ⟨false, some (now + s * 1000000)⟩
  | upTo (utc : Int) (httl : req.ttlSeconds = none) (hperm : req.isPermanent = false)
      (hexp : req.expiresAt = some (.aware utc)) (hlt : (now : Int) < utc) :
      AsksFor now req ⟨false, some utc⟩

section Resolve

variable {now : Nat} {req : ShareRequest} {expiration : ShareExpiration}

/-- A lifetime that ends by `datetime.max` is a `timedelta`. -/
theorem timedeltaSeconds_of_le {s : Int} (hle : now + s * 1000000 ≤ datetimeMax) :
    timedeltaSeconds s = .ok (s * 1000000) := by
  have hmax : datetimeMax = 253402300799999999 := rfl
  have hdays : s / 86400 ≤ 2932896 := by omega
  unfold timedeltaSeconds
  rw [if_neg (by omega), if_neg (by omega)]

theorem nowPlus_of_le {s : Int} (hle : now + s * 1000000 ≤ datetimeMax) :
    nowPlus now s = .ok (now + s * 1000000) := by
  unfold nowPlus
  rw [timedeltaSeconds_of_le hle, Except.ok_bind_eq, if_neg (by omega)]

/-- A lifetime that ends later raises, in one of three places. -/
theorem nowPlus_of_lt {s : Int} (hlt : datetimeMax < now + s * 1000000) :
    ∃ msg, nowPlus now s = .error (overflowError msg) := by
  unfold nowPlus timedeltaSeconds
  dsimp only
  split
  · exact ⟨_, rfl⟩
  · split
    · exact ⟨_, rfl⟩
    · rw [Except.ok_bind_eq, if_pos hlt]
      exact ⟨_, rfl⟩

/-- **The requests that give a time.** -/
theorem resolveShareExpiration_eq_ok_iff :
    resolveShareExpiration now req = .ok expiration ↔ AsksFor now req expiration := by
  obtain ⟨isPermanent, expiresAt, ttlSeconds, secure⟩ := req
  constructor
  · intro h
    unfold resolveShareExpiration at h
    cases ttlSeconds with
    | some s =>
        by_cases hpos : s ≤ 0
        · simp [hpos] at h
        · cases expiresAt with
          | some expires => simp [hpos] at h
          | none =>
              cases isPermanent with
              | true => simp [hpos] at h
              | false =>
                  by_cases hle : now + s * 1000000 ≤ datetimeMax
                  · have heq : (⟨false, some (now + s * 1000000)⟩ : ShareExpiration) =
                        expiration := by
                      simpa [hpos, nowPlus_of_le hle] using h
                    rw [← heq]
                    exact .ttl s rfl (by omega) rfl rfl hle
                  · have hlt : datetimeMax < now + s * 1000000 := by omega
                    obtain ⟨msg, hraise⟩ := nowPlus_of_lt hlt
                    simp [hpos, hraise] at h
    | none =>
        cases isPermanent with
        | true =>
            cases expiresAt with
            | some expires => simp at h
            | none =>
                have heq : (⟨true, none⟩ : ShareExpiration) = expiration := by simpa using h
                rw [← heq]
                exact .permanent rfl rfl rfl
        | false =>
            cases expiresAt with
            | none => simp at h
            | some expires =>
                cases expires with
                | naive wall => simp at h
                | aware utc =>
                    by_cases hle : utc ≤ now
                    · simp [hle] at h
                    · have heq : (⟨false, some utc⟩ : ShareExpiration) = expiration := by
                        simpa [hle] using h
                      rw [← heq]
                      exact .upTo utc rfl rfl rfl (by omega)
  · intro h
    cases h with
    | permanent httl hperm hexp =>
        simp only at httl hperm hexp
        simp [resolveShareExpiration, httl, hperm, hexp]
    | ttl s httl hpos hperm hexp hle =>
        simp only at httl hperm hexp
        have hneg : ¬ s ≤ 0 := by omega
        simp [resolveShareExpiration, httl, hperm, hexp, hneg, nowPlus_of_le hle]
    | upTo utc httl hperm hexp hlt =>
        simp only at httl hperm hexp
        have hneg : ¬ utc ≤ now := by omega
        simp [resolveShareExpiration, httl, hperm, hexp, hneg]

/-- An end without a time zone is compared with one in UTC. -/
theorem resolveShareExpiration_of_naive {wall : Int} (httl : req.ttlSeconds = none)
    (hperm : req.isPermanent = false) (hexp : req.expiresAt = some (.naive wall)) :
    ∃ msg, resolveShareExpiration now req = .error ⟨.typeError, msg⟩ := by
  unfold resolveShareExpiration
  simp [httl, hperm, hexp]

theorem resolveShareExpiration_of_lt {s : Int} (httl : req.ttlSeconds = some s) (hpos : 0 < s)
    (hperm : req.isPermanent = false) (hexp : req.expiresAt = none)
    (hlt : datetimeMax < now + s * 1000000) :
    ∃ msg, resolveShareExpiration now req = .error (overflowError msg) := by
  obtain ⟨msg, hraise⟩ := nowPlus_of_lt hlt
  have hneg : ¬ s ≤ 0 := by omega
  exact ⟨msg, by simp [resolveShareExpiration, httl, hperm, hexp, hneg, hraise]⟩

/-- Any other request that gives no time is refused as such. -/
theorem resolveShareExpiration_error {e : PyErr} (h : resolveShareExpiration now req = .error e)
    (hzoned : req.ttlSeconds = none → req.isPermanent = false →
      ∀ wall, req.expiresAt ≠ some (.naive wall))
    (hrange : ∀ s, req.ttlSeconds = some s → req.isPermanent = false → req.expiresAt = none →
      now + s * 1000000 ≤ datetimeMax) :
    e.kind = .other "InvalidShareRequest" := by
  unfold resolveShareExpiration at h
  split at h
  · next s httl =>
    split at h
    · rw [← Except.error.inj h]
      rfl
    · split at h
      · rw [← Except.error.inj h]
        rfl
      · next hexp =>
        split at h
        · rw [← Except.error.inj h]
          rfl
        · next hperm =>
          have hle := hrange s httl (by simpa using hperm) (by simpa using hexp)
          rw [nowPlus_of_le hle] at h
          contradiction
  · next httl =>
    split at h
    · split at h
      · rw [← Except.error.inj h]
        rfl
      · contradiction
    · next hperm =>
      split at h
      · rw [← Except.error.inj h]
        rfl
      · next wall hexp => exact absurd hexp (hzoned httl (by simpa using hperm) wall)
      · split at h
        · rw [← Except.error.inj h]
          rfl
        · contradiction

end Resolve

/-! ## the outcome -/

/-- There is something to share. -/
def ShareTarget.Available (db : Db) : ShareTarget → Prop
  | .config c => ∃ config version, db.getActive c = some config ∧
      config.currentVersion = some version ∧ config.status = .active
  | .all order => listCurrentVersionSnapshots db order ≠ []

/-- The id and the hash that were drawn are no link's. -/
def Fresh (ctx : Ctx) (tokens : ShareTable) (id : ShareId) (rawToken : String) : Prop :=
  ∀ old ∈ tokens, old.id ≠ id ∧ old.tokenHash ≠ hashShareToken ctx rawToken

/-- What a request needs in order to come to one of the outcomes. -/
structure Answerable (ctx : Ctx) (driver : TimestampDriver) (now : Nat) (db : Db)
    (tokens : ShareTable) (id : ShareId) (rawToken : String) (target : ShareTarget)
    (req : ShareRequest) : Prop where
  /-- The end of a link that is to have one is given with a time zone. -/
  zoned : req.ttlSeconds = none → req.isPermanent = false →
    ∀ wall, req.expiresAt ≠ some (.naive wall)
  /-- A lifetime ends by `datetime.max`. -/
  inRange : ∀ s, req.ttlSeconds = some s → req.isPermanent = false → req.expiresAt = none →
    now + s * 1000000 ≤ datetimeMax
  /-- The driver sends the end of a link that is to be stored. -/
  sent : target.Available db → ∀ utc : Int, req.ttlSeconds = none → req.isPermanent = false →
    req.expiresAt = some (.aware utc) → now < utc → driver.accepts utc = true
  /-- A link that is to be stored is drawn a new token. -/
  fresh : target.Available db → (∃ expiration, AsksFor now req expiration) →
    Fresh ctx tokens id rawToken

section Create

variable {ctx : Ctx} {driver : TimestampDriver} {now : Nat} {db : Db} {tokens : ShareTable}
  {id : ShareId} {rawToken : String} {target : ShareTarget} {req : ShareRequest}

/-- The config or configs a request names. -/
def ShareTarget.pinned (db : Db) : ShareTarget → Option (ConfigId × Nat)
  | .config c => ((db.getActive c).bind VpnConfigModel.currentVersion).map fun v => (c, v)
  | .all _ => none

theorem targetRow_of_error {e : PyErr} (h : resolveShareExpiration now req = .error e) :
    targetRow ctx now db id rawToken req target = .error e := by
  cases target with
  | config c => simp [targetRow, createShareLink, h]
  | all order => simp [targetRow, createAllShareLinks, h]

theorem targetRow_of_available {expiration : ShareExpiration}
    (h : resolveShareExpiration now req = .ok expiration) (hshare : target.Available db) :
    targetRow ctx now db id rawToken req target =
      .ok (shareRow ctx now id rawToken req expiration (target.pinned db)) := by
  cases target with
  | config c =>
      obtain ⟨config, version, hactive, hversion, hstatus⟩ := hshare
      simp [targetRow, createShareLink, h, hactive, hversion, hstatus, ShareTarget.pinned]
  | all order =>
      have hsome : (listCurrentVersionSnapshots db order).isEmpty = false :=
        List.isEmpty_eq_false_iff.mpr hshare
      simp [targetRow, createAllShareLinks, h, hsome, ShareTarget.pinned]

/-- A request for what cannot be shared is refused as such. -/
theorem targetRow_of_not_available {expiration : ShareExpiration}
    (h : resolveShareExpiration now req = .ok expiration) (hshare : ¬ target.Available db) :
    ∃ e, targetRow ctx now db id rawToken req target = .error e ∧ isShareError e = true := by
  cases target with
  | config c =>
      show ∃ e, createShareLink ctx now db id rawToken c req = .error e ∧ isShareError e = true
      unfold createShareLink
      rw [h, Except.ok_bind_eq]
      split
      · exact ⟨_, rfl, rfl⟩
      · next config hactive =>
        split
        · exact ⟨_, rfl, rfl⟩
        · next version hversion =>
          split
          · exact ⟨_, rfl, rfl⟩
          · next hstatus =>
            exact absurd ⟨config, version, hactive, hversion, by simpa using hstatus⟩ hshare
  | all order =>
      have hnone : (listCurrentVersionSnapshots db order).isEmpty = true := by
        simpa [ShareTarget.Available] using hshare
      exact ⟨configNotShareable "No active configs available for sharing",
        by simp [targetRow, createAllShareLinks, h, hnone], rfl⟩

theorem insert_of_fresh {row : ShareTokenModel} (hid : row.id = id)
    (hhash : row.tokenHash = hashShareToken ctx rawToken) (h : Fresh ctx tokens id rawToken) :
    tokens.insert row = .ok (tokens ++ [row]) := by
  unfold ShareTable.insert
  rw [if_neg]
  simp only [List.any_eq_true, Bool.or_eq_true, decide_eq_true_eq, not_exists, not_and, not_or]
  intro old hold
  rw [hid, hhash]
  exact h old hold

theorem storeRow_eq_ok_iff {row : ShareTokenModel} {tokens' : ShareTable} :
    storeRow driver tokens row = .ok tokens' ↔
      row.expiresAt.all driver.accepts = true ∧ tokens.insert row = .ok tokens' := by
  unfold storeRow
  split <;> simp [*]

theorem storeRow_error {row : ShareTokenModel} {e : PyErr}
    (h : storeRow driver tokens row = .error e) : isShareError e = false := by
  have hkind : e.kind = .databaseError := by
    unfold storeRow ShareTable.insert at h
    split at h
    · split at h
      · rw [← Except.error.inj h]
      · contradiction
    · rw [← Except.error.inj h]
  simp [isShareError, hkind]

/-! ### the request by its row -/

theorem createLink_of_error {e : PyErr}
    (h : targetRow ctx now db id rawToken req target = .error e) :
    (createLink ctx driver now db id rawToken target req).exec tokens = (.error e, tokens) := by
  unfold createLink
  rw [h]
  rfl

theorem createLink_of_row {row : ShareTokenModel}
    (h : targetRow ctx now db id rawToken req target = .ok row) :
    (createLink ctx driver now db id rawToken target req).exec tokens =
      match storeRow driver tokens row with
      | .ok tokens' => (.ok row, tokens')
      | .error e => (.error e, tokens) := by
  unfold createLink
  rw [h, Eff.ofExcept_ok_bind, Eff.exec_bind_ok (Eff.exec_read tokens)]
  cases hstore : storeRow driver tokens row with
  | ok tokens' => rfl
  | error e => rfl

/-- A request that comes to an outcome, for something that can be shared, has its
row stored. -/
theorem stored_of_outcome {expiration : ShareExpiration}
    (h : LinkOutcome now tokens ((createLink ctx driver now db id rawToken target req).exec tokens))
    (hask : AsksFor now req expiration) (hshare : target.Available db) :
    expiration.expiresAt.all driver.accepts = true ∧ Fresh ctx tokens id rawToken := by
  have hres : resolveShareExpiration now req = .ok expiration :=
    resolveShareExpiration_eq_ok_iff.mpr hask
  rw [createLink_of_row (targetRow_of_available hres hshare)] at h
  cases hstore : storeRow driver tokens
      (shareRow ctx now id rawToken req expiration (target.pinned db)) with
  | error e =>
      rw [hstore] at h
      have herror := h.2
      rw [storeRow_error hstore] at herror
      contradiction
  | ok tokens' =>
      obtain ⟨hsent, hins⟩ := storeRow_eq_ok_iff.mp hstore
      exact ⟨hsent, (ShareTable.of_insert hins).2⟩

theorem answerable_of_outcome (hpos : ∀ s ∈ req.ttlSeconds, 0 < s)
    (h : LinkOutcome now tokens
      ((createLink ctx driver now db id rawToken target req).exec tokens)) :
    Answerable ctx driver now db tokens id rawToken target req where
  zoned httl hperm wall hexp := by
    obtain ⟨msg, hraise⟩ : ∃ msg, resolveShareExpiration now req = .error ⟨.typeError, msg⟩ :=
      resolveShareExpiration_of_naive httl hperm hexp
    rw [createLink_of_error (targetRow_of_error hraise)] at h
    simpa [isShareError, overflowError] using h.2
  inRange s httl hperm hexp := by
    by_contra hlt
    have hover : datetimeMax < now + s * 1000000 := by omega
    obtain ⟨msg, hraise⟩ := resolveShareExpiration_of_lt httl (hpos s httl) hperm hexp hover
    rw [createLink_of_error (targetRow_of_error hraise)] at h
    simpa [isShareError, overflowError] using h.2
  sent hshare utc httl hperm hexp hlt := by
    have hsent := (stored_of_outcome h (.upTo utc httl hperm hexp hlt) hshare).1
    simpa using hsent
  fresh hshare hask := by
    obtain ⟨expiration, hask⟩ := hask
    exact (stored_of_outcome h hask hshare).2

/-- The row of a request that asks for a time ends at it. -/
theorem timed_shareRow {expiration : ShareExpiration} {pinned : Option (ConfigId × Nat)}
    (h : AsksFor now req expiration) :
    (shareRow ctx now id rawToken req expiration pinned).Timed now := by
  cases h with
  | permanent httl hperm hexp => exact .inl ⟨rfl, rfl⟩
  | ttl s httl hpos hperm hexp hle => exact .inr ⟨rfl, _, rfl, by omega⟩
  | upTo utc httl hperm hexp hlt => exact .inr ⟨rfl, utc, rfl, hlt⟩

theorem outcome_of_answerable
    (h : Answerable ctx driver now db tokens id rawToken target req) :
    LinkOutcome now tokens
      ((createLink ctx driver now db id rawToken target req).exec tokens) := by
  cases hres : resolveShareExpiration now req with
  | error e =>
      have hkind := resolveShareExpiration_error hres h.zoned h.inRange
      rw [createLink_of_error (targetRow_of_error hres)]
      exact ⟨rfl, by simp [isShareError, hkind]⟩
  | ok expiration =>
      by_cases hshare : target.Available db
      · have hask := resolveShareExpiration_eq_ok_iff.mp hres
        have hsent : expiration.expiresAt.all driver.accepts = true := by
          cases hask with
          | permanent httl hperm hexp => rfl
          | ttl s httl hpos hperm hexp hle =>
              simpa using driver.accepts_of_le _ (by omega) hle
          | upTo utc httl hperm hexp hlt =>
              simpa using h.sent hshare utc httl hperm hexp hlt
        generalize hrow : shareRow ctx now id rawToken req expiration (target.pinned db) = row
        have hins : tokens.insert row = .ok (tokens ++ [row]) :=
          insert_of_fresh (by rw [← hrow]; rfl) (by rw [← hrow]; rfl)
            (h.fresh hshare ⟨expiration, hask⟩)
        have hsends : row.expiresAt.all driver.accepts = true := by
          rw [← hrow]
          exact hsent
        rw [createLink_of_row (targetRow_of_available hres hshare), hrow,
          storeRow_eq_ok_iff.mpr ⟨hsends, hins⟩, ← hrow]
        exact ⟨rfl, timed_shareRow hask⟩
      · obtain ⟨e, hrow, hshared⟩ : ∃ e, targetRow ctx now db id rawToken req target = .error e ∧
            isShareError e = true := targetRow_of_not_available hres hshare
        rw [createLink_of_error hrow]
        exact ⟨rfl, hshared⟩

end Create

/-- **The requests that are answered.**  A request the schema lets through stores one
token, permanent or ending in the future, or raises an error the routes answer and
stores none, exactly when an end it is to have is given with a time zone the driver can
send, a lifetime ends by `datetime.max`, and the token drawn is new. -/
theorem linkOutcome_iff (ctx : Ctx) (driver : TimestampDriver) (now : Nat) (db : Db)
    (tokens : ShareTable) (id : ShareId) (rawToken : String) (target : ShareTarget)
    (req : CreateShareLinkRequest) :
    LinkOutcome now tokens
        ((createLink ctx driver now db id rawToken target req.toShareRequest).exec tokens) ↔
      Answerable ctx driver now db tokens id rawToken target req.toShareRequest := by
  constructor
  · exact answerable_of_outcome req.ttl_pos
  · exact outcome_of_answerable

/-- A driver for UTC, up to `datetime.max`. -/
def TimestampDriver.sample : TimestampDriver where
  accepts utc := utc ≤ datetimeMax
  accepts_of_le utc _ hle := by simpa using hle

/-- A link that is to end at `2030-01-01T00:00:00`, without a time zone, and one that is
to live for ten thousand years, raise what no route answers. -/
theorem not_linkOutcome_of_naive :
    ¬ LinkOutcome 0 []
        ((createLink Ctx.sample TimestampDriver.sample 0 Db.empty 0 "t" (.config 0)
          { isPermanent := false, expiresAt := some (.naive 1893456000000000) }).exec []) ∧
      ¬ LinkOutcome 0 []
        ((createLink Ctx.sample TimestampDriver.sample 0 Db.empty 0 "t" (.config 0)
          { isPermanent := false, ttlSeconds := some 315360000000 }).exec []) := by
  constructor
  · intro h
    exact absurd h.2 (by decide)
  · intro h
    exact absurd h.2 (by decide)

end VpnPanel
