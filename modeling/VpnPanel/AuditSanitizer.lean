import VpnPanel.Lib.PyLower
import VpnPanel.Lib.Redact

/-!
# VpnPanel.AuditSanitizer

What the audit log keeps of a payload: `sanitizer.py` and `AuditService.log`.

A payload is sanitized by redaction, with the keys `_is_sensitive_key` tells as the
hidden ones.
-/

namespace VpnPanel

open PyVal (AgreeBut KeptIn redact redact_eq_redact_iff keptIn_redact redact_redact)

/-- `REDACTED`. -/
def redacted : PyVal := .str "[REDACTED]"

/-- `_SENSITIVE_KEYS`. -/
def sensitiveKeys : List String :=
  ["password", "private_key", "secret", "api_key", "secret_key", "encryption_key",
    "access_token", "authorization", "raw_token", "cert_pem", "key_pem"]

/-- `_is_sensitive_key`. -/
def isSensitiveKey (u : Unicode) (key : String) : Bool :=
  let lower := PyStr.lower u key
  if sensitiveKeys.contains lower then true
  else if lower = "token" then true
  else if "_token".toList.isSuffixOf lower.toList && lower ≠ "token_hash" then true
  else false

/-- `sanitize_audit_payload`. -/
def sanitizeAuditPayload (u : Unicode) (value : PyVal) : PyVal :=
  redact (isSensitiveKey u) redacted value

/-- A row of `audit_logs`. -/
structure AuditLogModel where
  userId : Option Nat
  eventType : String
  payload : PyVal
  deriving DecidableEq, Repr

/-- `AuditService.log`; `enabled` is `audit.enabled`. -/
def auditLog (u : Unicode) (enabled : Bool) (eventType : String) (payload : PyVal)
    (userId : Option Nat) (rows : List AuditLogModel) : List AuditLogModel :=
  if enabled then rows ++ [⟨userId, eventType, sanitizeAuditPayload u payload⟩] else rows

/-- **Audit redaction.**  Payloads are sanitized to the same one exactly when they differ
in nothing but values of sensitive keys; all else is kept; and a sanitized payload is
sanitized already. -/
theorem sanitizeAuditPayload_redacts (u : Unicode) :
    (∀ v w, sanitizeAuditPayload u v = sanitizeAuditPayload u w ↔
      AgreeBut (isSensitiveKey u) v w) ∧
    (∀ v, KeptIn (isSensitiveKey u) v (sanitizeAuditPayload u v)) ∧
    ∀ v, sanitizeAuditPayload u (sanitizeAuditPayload u v) = sanitizeAuditPayload u v := by
  refine ⟨fun v w => redact_eq_redact_iff, keptIn_redact, fun v => ?_⟩
  exact redact_redact (isSensitiveKey u) redacted v

/-- What the log says of two payloads is the same when they differ in nothing but values of
sensitive keys. -/
theorem auditLog_of_agreeBut {u : Unicode} {v w : PyVal} (h : AgreeBut (isSensitiveKey u) v w)
    (enabled : Bool) (eventType : String) (userId : Option Nat) (rows : List AuditLogModel) :
    auditLog u enabled eventType v userId rows = auditLog u enabled eventType w userId rows := by
  have hsame : sanitizeAuditPayload u v = sanitizeAuditPayload u w := redact_eq_redact_iff.mpr h
  rw [auditLog, auditLog, hsame]

/-- A secret below a key in capitals, and a hash that is none. -/
example : sanitizeAuditPayload ⟨fun _ c _ => [c], fun _ c _ h _ => ⟨c, by simp, h⟩⟩
    (.dict [("Access_Token", .list [.int 1]), ("token_hash", .str "abc")]) =
    .dict [("Access_Token", redacted), ("token_hash", .str "abc")] := by decide

end VpnPanel
