import VpnPanel.Lib.PyVal

/-!
# VpnPanel.PortPicker

The choice of a port: `port_picker.py`.

`is_port_available` binds a socket, so its answers are an argument, and so is
the position `random.choice` draws.
-/

namespace VpnPanel

/-- `random.choice`, with the position it draws. -/
def randomChoice {α : Type} (draw : Nat) (xs : List α) : Option α := xs[draw % xs.length]?

theorem randomChoice_mem {α : Type} {draw : Nat} {xs : List α} {x : α}
    (h : randomChoice draw xs = some x) : x ∈ xs := List.mem_of_getElem? h

theorem exists_randomChoice {α : Type} (draw : Nat) {xs : List α} (h : xs ≠ []) :
    ∃ x, randomChoice draw xs = some x := by
  have hlt : draw % xs.length < xs.length := Nat.mod_lt _ (List.length_pos_iff.mpr h)
  exact ⟨xs[draw % xs.length], List.getElem?_eq_getElem hlt⟩

/-- `str` of a list of integers. -/
def intListStr (xs : List Int) : String := "[" ++ String.intercalate ", " (xs.map toString) ++ "]"

/-- `PortUnavailableError`, a `ValueError`. -/
def portUnavailable (candidates : List Nat) (blocked : List Int) (udp : Bool) : PyErr :=
  ⟨.valueError, "No free " ++ (if udp then "UDP" else "TCP") ++ " port among candidates " ++
    intListStr (candidates.map fun port : Nat => (port : Int)) ++
    (if blocked.isEmpty then ""
      else " (excluded in DB: " ++ intListStr (blocked.dedup.mergeSort fun a b => a ≤ b) ++ ")")⟩

/-- `pick_port`. -/
def pickPort (available : Nat → Bool) (draw : Nat) (candidates : List Nat) (exclude : List Int)
    (udp : Bool) (preferred : Option Int) : Except PyErr Nat :=
  if candidates.isEmpty then .error ⟨.valueError, "port_candidates must not be empty"⟩
  else
    match candidates.find? fun port : Nat => preferred = some (port : Int) with
    | some port => .ok port
    | none =>
        let pool := candidates.filter fun port : Nat => !exclude.contains (port : Int)
        let pool := if pool.isEmpty then candidates else pool
        match randomChoice draw (pool.filter available) with
        | some port => .ok port
        | none => .error (portUnavailable candidates exclude udp)

/-- The port that is picked: the preferred one, which is not checked, or an
available one, not blocked unless all are. -/
theorem pickPort_spec {available : Nat → Bool} {draw : Nat} {candidates : List Nat}
    {exclude : List Int} {udp : Bool} {preferred : Option Int} {port : Nat}
    (h : pickPort available draw candidates exclude udp preferred = .ok port) :
    port ∈ candidates ∧ (preferred = some (port : Int) ∨ available port = true ∧
      ((port : Int) ∉ exclude ∨ ∀ q ∈ candidates, (q : Int) ∈ exclude)) := by
  unfold pickPort at h
  split at h
  · contradiction
  · split at h
    · next q hq =>
      obtain rfl : q = port := Except.ok.inj h
      exact ⟨List.mem_of_find?_eq_some hq, Or.inl (by simpa using List.find?_some hq)⟩
    · simp only at h
      split at h
      · next q hq =>
        obtain rfl : q = port := Except.ok.inj h
        obtain ⟨hpool, havailable⟩ := List.mem_filter.mp (randomChoice_mem hq)
        split at hpool
        · next hall =>
          refine ⟨hpool, Or.inr ⟨havailable, Or.inr fun p hp => ?_⟩⟩
          have hnone := List.filter_eq_nil_iff.mp (List.isEmpty_iff.mp hall) p hp
          simpa using hnone
        · obtain ⟨hmem, hfree⟩ := List.mem_filter.mp hpool
          exact ⟨hmem, Or.inr ⟨havailable, Or.inl (by simpa using hfree)⟩⟩
      · contradiction

/-- A preferred port that is a candidate is picked. -/
theorem pickPort_preferred {available : Nat → Bool} {draw : Nat} {candidates : List Nat}
    {exclude : List Int} {udp : Bool} {port : Nat} (h : port ∈ candidates) :
    pickPort available draw candidates exclude udp (some (port : Int)) = .ok port := by
  have hne : candidates.isEmpty = false := by
    cases candidates <;> simp at h ⊢
  obtain ⟨q, hq⟩ :
      ∃ q, candidates.find? (fun q : Nat => some (port : Int) = some (q : Int)) = some q := by
    rw [← Option.isSome_iff_exists, List.find?_isSome]
    exact ⟨port, h, by simp⟩
  have hsame : q = port := by
    have hfound := List.find?_some hq
    simp only [Option.some.injEq, decide_eq_true_eq] at hfound
    omega
  unfold pickPort
  rw [hne]
  simp only [Bool.false_eq_true, if_false, hq, hsame]

end VpnPanel
