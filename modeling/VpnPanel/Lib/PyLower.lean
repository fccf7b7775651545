import VpnPanel.Lib.PyVal

/-!
# VpnPanel.Lib.PyLower

`str.lower`.  ASCII letters have their ASCII lower case, and so has one letter outside
ASCII, the Kelvin sign; what any other character becomes, the interpreter's Unicode
tables say.

* `PyStr.lowerFrom_of_plain` — a text of characters with an ASCII lower case, character
  by character;
* `PyStr.plain_of_lowerFrom` — a lower case that is all ASCII comes from such a text.
-/

/-- `K`, whose lower case is the ASCII `k`. -/
def kelvinSign : Char := '\u212A'

/-- The lower-case mapping of the interpreter's Unicode tables outside ASCII.  It sees
what stands before a character, from the nearest on, and after it, as a final sigma
needs; but for the Kelvin sign no character becomes an ASCII text. -/
structure Unicode where
  lower : (before : List Char) → Char → (after : List Char) → List Char
  lower_wide : ∀ before c after, 128 ≤ c.toNat → c ≠ kelvinSign →
    ∃ d ∈ lower before c after, 128 ≤ d.toNat

namespace PyStr

/-- The lower case of one character. -/
def lowerAt (u : Unicode) (before : List Char) (c : Char) (after : List Char) : List Char :=
  if c.toNat < 128 then [c.toLower]
  else if c = kelvinSign then ['k']
  else u.lower before c after

/-- The lower case of a text, with what stands before it. -/
def lowerFrom (u : Unicode) (before : List Char) : List Char → List Char
  | [] => []
  | c :: after => lowerAt u before c after ++ lowerFrom u (c :: before) after

/-- `str.lower()`. -/
def lower (u : Unicode) (s : String) : String := String.ofList (lowerFrom u [] s.toList)

/-! ## characters with an ASCII lower case -/

/-- The characters with an ASCII lower case. -/
def Plain (c : Char) : Prop := c.toNat < 128 ∨ c = kelvinSign

/-- The lower case of such a character. -/
def plainLower (c : Char) : Char := if c = kelvinSign then 'k' else c.toLower

theorem toNat_toLower (c : Char) :
    c.toLower.toNat = if 65 ≤ c.toNat ∧ c.toNat ≤ 90 then c.toNat + 32 else c.toNat := by
  unfold Char.toLower
  by_cases hupper : c.val ≥ 'A'.val ∧ c.val ≤ 'Z'.val
  · have hnat : 65 ≤ c.toNat ∧ c.toNat ≤ 90 := hupper
    have hsum : (c.val + ('a'.val - 'A'.val)).toNat = (c.toNat + 32) % 2 ^ 32 := rfl
    rw [dif_pos hupper, if_pos hnat]
    show (c.val + ('a'.val - 'A'.val)).toNat = c.toNat + 32
    omega
  · have hnat : ¬ (65 ≤ c.toNat ∧ c.toNat ≤ 90) := hupper
    rw [dif_neg hupper, if_neg hnat]

theorem toNat_plainLower (c : Char) :
    (plainLower c).toNat =
      if c = kelvinSign then 107
      else if 65 ≤ c.toNat ∧ c.toNat ≤ 90 then c.toNat + 32 else c.toNat := by
  unfold plainLower
  split
  · rfl
  · exact toNat_toLower c

/-- The lower case of a character is no ASCII capital. -/
theorem plainLower_not_upper (c : Char) :
    ¬ (65 ≤ (plainLower c).toNat ∧ (plainLower c).toNat ≤ 90) := by
  rw [toNat_plainLower]
  split
  · omega
  · split <;> omega

/-- Only a letter has another character for its lower case. -/
theorem eq_of_plainLower {c d : Char} (h : plainLower c = d)
    (hletter : ¬ (97 ≤ d.toNat ∧ d.toNat ≤ 122)) : c = d := by
  have hnat := toNat_plainLower c
  rw [h] at hnat
  split at hnat
  · omega
  · split at hnat
    · omega
    · exact Char.toNat_inj.mp hnat.symm

theorem plainLower_self {c : Char} (hplain : c.toNat < 128)
    (hupper : ¬ (65 ≤ c.toNat ∧ c.toNat ≤ 90)) : plainLower c = c := by
  have hkelvin : c ≠ kelvinSign := by
    rintro rfl
    exact absurd hplain (by decide)
  apply Char.toNat_inj.mp
  rw [toNat_plainLower, if_neg hkelvin, if_neg hupper]

/-! ## texts with an ASCII lower case -/

variable {u : Unicode}

theorem lowerAt_of_plain {c : Char} (h : Plain c) (before after : List Char) :
    lowerAt u before c after = [plainLower c] := by
  unfold lowerAt plainLower
  split
  · next hascii =>
    have hkelvin : c ≠ kelvinSign := by
      rintro rfl
      exact absurd hascii (by decide)
    rw [if_neg hkelvin]
  · next hwide =>
    have hkelvin : c = kelvinSign := h.resolve_left hwide
    rw [if_pos hkelvin, if_pos hkelvin]

/-- **Character by character.** -/
theorem lowerFrom_of_plain {cs : List Char} (h : ∀ c ∈ cs, Plain c) (before : List Char) :
    lowerFrom u before cs = cs.map plainLower := by
  induction cs generalizing before with
  | nil => rfl
  | cons c cs ih =>
      rw [lowerFrom, lowerAt_of_plain (h c (by simp)), ih fun d hd => h d (by simp [hd])]
      rfl

/-- **A text whose lower case is ASCII.** -/
theorem plain_of_lowerFrom {cs : List Char} {before : List Char}
    (h : ∀ d ∈ lowerFrom u before cs, d.toNat < 128) : ∀ c ∈ cs, Plain c := by
  induction cs generalizing before with
  | nil => simp
  | cons c cs ih =>
      have hascii : ∀ d ∈ lowerFrom u (c :: before) cs, d.toNat < 128 := by
        intro d hd
        exact h d (by simp [lowerFrom, hd])
      have hrest := ih hascii
      have hhead : Plain c := by
        by_contra hplain
        obtain ⟨hascii, hkelvin⟩ := not_or.mp hplain
        obtain ⟨d, hd, hwide⟩ := u.lower_wide before c cs (by omega) hkelvin
        have hascii' := h d (by
          rw [lowerFrom, lowerAt, if_neg hascii, if_neg hkelvin]
          exact List.mem_append_left _ hd)
        omega
      simpa using ⟨hhead, hrest⟩

end PyStr
