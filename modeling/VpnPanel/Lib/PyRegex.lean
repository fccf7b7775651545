import Mathlib.Computability.Language
import Mathlib.Data.List.Basic

/-!
# VpnPanel.Lib.PyRegex

Patterns of Python's `re` as far as one asks whether a text matches: anchors,
character classes, sequences, counted and unbounded repetition, and look-around.

* `PyRegex.ends` — the places a pattern can end at, by running it;
* `PyRegex.isMatch` — `re.match` is not `None`;
* `Advances` — a pattern moves forward over the text;
* `Reads` — a pattern that looks at nothing but what it reads reads a language, with
  one rule for each way to build it.

`$` stands at the end of the text and before a line feed that ends it.
-/

/-- A place in a text: what stands before it, from the nearest character on, and what
stands after it. -/
structure Cursor where
  before : List Char
  after : List Char
  deriving DecidableEq, Repr

/-- A pattern. -/
inductive PyRegex where
  /-- `^` -/
  | bos
  /-- `$` -/
  | eos
  /-- a character, `.` or a class -/
  | char (p : Char → Bool)
  | seq (r s : PyRegex)
  /-- `r{lo,hi}` -/
  | rep (r : PyRegex) (lo hi : Nat)
  /-- `r*` -/
  | star (r : PyRegex)
  /-- `(?=r)` -/
  | look (r : PyRegex)
  /-- `(?!r)` -/
  | notLook (r : PyRegex)
  /-- `(?<!c)` for a character or a class -/
  | notBehind (p : Char → Bool)

namespace PyRegex

/-! ## running a pattern -/

/-- Where `n` steps one after the other can end. -/
def times (f : Cursor → List Cursor) : Nat → Cursor → List Cursor
  | 0, t => [t]
  | n + 1, t => (f t).flatMap (times f n)

/-- Where up to `n` steps can end. -/
def upTo (f : Cursor → List Cursor) : Nat → Cursor → List Cursor
  | 0, t => [t]
  | n + 1, t => t :: (f t).flatMap (upTo f n)

/-- The places a pattern can end at, from a place on.  A repetition without a bound needs
no more rounds than there are characters left. -/
def ends : PyRegex → Cursor → List Cursor
  | bos, t => if t.before = [] then [t] else []
  | eos, t => if t.after = [] ∨ t.after = ['\n'] then [t] else []
  | char p, t => match t.after with
      | [] => []
      | c :: rest => if p c then [⟨c :: t.before, rest⟩] else []
  | seq r s, t => (ends r t).flatMap (ends s)
  | rep r lo hi, t => (times (ends r) lo t).flatMap (upTo (ends r) (hi - lo))
  | star r, t => upTo (ends r) t.after.length t
  | look r, t => if ends r t = [] then [] else [t]
  | notLook r, t => if ends r t = [] then [t] else []
  | notBehind p, t => match t.before with
      | [] => [t]
      | c :: _ => if p c then [] else [t]

/-- `re.match(r, text)` finds a match. -/
def isMatch (r : PyRegex) (text : List Char) : Bool := !(ends r ⟨[], text⟩).isEmpty

theorem isMatch_iff {r : PyRegex} {text : List Char} :
    isMatch r text = true ↔ ∃ u, u ∈ ends r ⟨[], text⟩ := by
  rw [isMatch, Bool.not_eq_true', List.isEmpty_eq_false_iff_exists_mem]

theorem mem_seq_iff {r s : PyRegex} {t u : Cursor} :
    u ∈ ends (seq r s) t ↔ ∃ v ∈ ends r t, u ∈ ends s v := by
  rw [ends, List.mem_flatMap]

/-! ## patterns that read nothing -/

section Anchors

variable {r : PyRegex} {p : Char → Bool} {t u : Cursor}

theorem mem_bos_iff : u ∈ ends bos t ↔ u = t ∧ t.before = [] := by
  unfold ends
  split <;> simp [*]

theorem mem_eos_iff : u ∈ ends eos t ↔ u = t ∧ (t.after = [] ∨ t.after = ['\n']) := by
  unfold ends
  split <;> simp [*]

theorem mem_look_iff : u ∈ ends (look r) t ↔ u = t ∧ ∃ v, v ∈ ends r t := by
  rw [← List.isEmpty_eq_false_iff_exists_mem, List.isEmpty_eq_false_iff]
  show u ∈ (if ends r t = [] then [] else [t]) ↔ _
  split <;> simp [*]

theorem mem_notLook_char_iff :
    u ∈ ends (notLook (char p)) t ↔ u = t ∧ ∀ c, t.after.head? = some c → p c = false := by
  obtain ⟨before, after⟩ := t
  cases after with
  | nil => simp [ends]
  | cons c rest => by_cases hp : p c = true <;> simp [ends, hp]

theorem mem_notBehind_iff :
    u ∈ ends (notBehind p) t ↔ u = t ∧ ∀ c, t.before.head? = some c → p c = false := by
  obtain ⟨before, after⟩ := t
  cases before with
  | nil => simp [ends]
  | cons c rest => by_cases hp : p c = true <;> simp [ends, hp]

end Anchors

/-! ## repetition -/

section Repetition

variable {f : Cursor → List Cursor} {t u : Cursor} {m n : Nat}

theorem mem_times_succ : u ∈ times f (n + 1) t ↔ ∃ v ∈ f t, u ∈ times f n v := by
  simp [times]

theorem mem_times_add : u ∈ times f (m + n) t ↔ ∃ v ∈ times f m t, u ∈ times f n v := by
  induction m generalizing t with
  | zero => simp [times]
  | succ m ih =>
      rw [Nat.add_right_comm, mem_times_succ]
      simp only [mem_times_succ, ih]
      constructor
      · rintro ⟨v, hv, w, hw, hu⟩
        exact ⟨w, ⟨v, hv, hw⟩, hu⟩
      · rintro ⟨w, ⟨v, hv, hw⟩, hu⟩
        exact ⟨v, hv, w, hw, hu⟩

theorem mem_upTo_iff : u ∈ upTo f n t ↔ ∃ k ≤ n, u ∈ times f k t := by
  induction n generalizing t with
  | zero =>
      constructor
      · intro h
        exact ⟨0, le_refl 0, h⟩
      · rintro ⟨k, hk, h⟩
        obtain rfl : k = 0 := by omega
        exact h
  | succ n ih =>
      rw [upTo, List.mem_cons, List.mem_flatMap]
      constructor
      · rintro (rfl | ⟨v, hv, hu⟩)
        · exact ⟨0, by omega, by simp [times]⟩
        · obtain ⟨k, hk, h⟩ := ih.mp hu
          exact ⟨k + 1, by omega, mem_times_succ.mpr ⟨v, hv, h⟩⟩
      · rintro ⟨k, hk, h⟩
        cases k with
        | zero => exact .inl (by simpa [times] using h)
        | succ k =>
            obtain ⟨v, hv, hu⟩ := mem_times_succ.mp h
            exact .inr ⟨v, hv, ih.mpr ⟨k, by omega, hu⟩⟩

theorem mem_rep_iff {r : PyRegex} {lo hi : Nat} (hle : lo ≤ hi) :
    u ∈ ends (rep r lo hi) t ↔ ∃ k, lo ≤ k ∧ k ≤ hi ∧ u ∈ times (ends r) k t := by
  simp only [ends, List.mem_flatMap, mem_upTo_iff]
  constructor
  · rintro ⟨v, hv, k, hk, hu⟩
    exact ⟨lo + k, by omega, by omega, mem_times_add.mpr ⟨v, hv, hu⟩⟩
  · rintro ⟨k, hlo, hhi, hu⟩
    obtain ⟨d, rfl⟩ := Nat.exists_eq_add_of_le hlo
    obtain ⟨v, hv, hu⟩ := mem_times_add.mp hu
    exact ⟨v, hv, d, by omega, hu⟩

end Repetition

/-! ## moving forward -/

/-- `u` is `t` after some characters. -/
def Advances (t u : Cursor) : Prop :=
  ∃ cs, t.after = cs ++ u.after ∧ u.before = cs.reverse ++ t.before

theorem Advances.refl (t : Cursor) : Advances t t := ⟨[], rfl, rfl⟩

theorem Advances.trans {t u v : Cursor} (h : Advances t u) (h' : Advances u v) : Advances t v := by
  obtain ⟨cs, hafter, hbefore⟩ := h
  obtain ⟨ds, hafter', hbefore'⟩ := h'
  refine ⟨cs ++ ds, ?_, ?_⟩
  · rw [hafter, hafter', List.append_assoc]
  · rw [hbefore', hbefore, List.reverse_append, List.append_assoc]

theorem Advances.length_le {t u : Cursor} (h : Advances t u) :
    u.after.length ≤ t.after.length := by
  obtain ⟨cs, hafter, -⟩ := h
  rw [hafter, List.length_append]
  omega

/-- A step over no character stays where it is. -/
theorem Advances.eq_of_length {t u : Cursor} (h : Advances t u)
    (hlen : t.after.length ≤ u.after.length) : u = t := by
  obtain ⟨cs, hafter, hbefore⟩ := h
  have hnil : cs = [] := by
    rw [hafter, List.length_append] at hlen
    exact List.eq_nil_of_length_eq_zero (by omega)
  subst hnil
  cases t
  cases u
  simp_all

theorem advances_of_times {f : Cursor → List Cursor} (hf : ∀ t, ∀ u ∈ f t, Advances t u)
    {n : Nat} {t u : Cursor} (h : u ∈ times f n t) : Advances t u := by
  induction n generalizing t with
  | zero =>
      obtain rfl : u = t := by simpa [times] using h
      exact .refl u
  | succ n ih =>
      obtain ⟨v, hv, hu⟩ := mem_times_succ.mp h
      exact (hf t v hv).trans (ih hu)

/-- **A pattern moves forward.** -/
theorem advances_of_mem_ends (r : PyRegex) {t u : Cursor} (h : u ∈ ends r t) : Advances t u := by
  induction r generalizing t u with
  | bos =>
      unfold ends at h
      split at h
      · obtain rfl := List.mem_singleton.mp h
        exact .refl u
      · exact absurd h List.not_mem_nil
  | eos =>
      unfold ends at h
      split at h
      · obtain rfl := List.mem_singleton.mp h
        exact .refl u
      · exact absurd h List.not_mem_nil
  | char p =>
      unfold ends at h
      split at h
      · exact absurd h List.not_mem_nil
      · next c rest hafter =>
        split at h
        · obtain rfl := List.mem_singleton.mp h
          exact ⟨[c], hafter, rfl⟩
        · exact absurd h List.not_mem_nil
  | seq r s ihr ihs =>
      obtain ⟨v, hv, hu⟩ := List.mem_flatMap.mp h
      exact (ihr hv).trans (ihs hu)
  | rep r lo hi ih =>
      obtain ⟨v, hv, hu⟩ := List.mem_flatMap.mp h
      obtain ⟨k, -, hu⟩ := mem_upTo_iff.mp hu
      exact (advances_of_times (fun _ _ => ih) hv).trans (advances_of_times (fun _ _ => ih) hu)
  | star r ih =>
      obtain ⟨k, -, hu⟩ := mem_upTo_iff.mp h
      exact advances_of_times (fun _ _ => ih) hu
  | look r ih =>
      unfold ends at h
      split at h
      · exact absurd h List.not_mem_nil
      · obtain rfl := List.mem_singleton.mp h
        exact .refl u
  | notLook r ih =>
      unfold ends at h
      split at h
      · obtain rfl := List.mem_singleton.mp h
        exact .refl u
      · exact absurd h List.not_mem_nil
  | notBehind p =>
      unfold ends at h
      split at h
      · obtain rfl := List.mem_singleton.mp h
        exact .refl u
      · split at h
        · exact absurd h List.not_mem_nil
        · obtain rfl := List.mem_singleton.mp h
          exact .refl u

/-- Rounds that read nothing can be left out: as many as there are characters left are
enough. -/
theorem exists_times_le {f : Cursor → List Cursor} (hf : ∀ t, ∀ u ∈ f t, Advances t u)
    {n : Nat} {t u : Cursor} (h : u ∈ times f n t) : ∃ k ≤ t.after.length, u ∈ times f k t := by
  induction n generalizing t with
  | zero => exact ⟨0, by omega, h⟩
  | succ n ih =>
      obtain ⟨v, hv, hu⟩ := mem_times_succ.mp h
      obtain ⟨k, hk, hu⟩ := ih hu
      have hadv := hf t v hv
      by_cases hlen : t.after.length ≤ v.after.length
      · rw [hadv.eq_of_length hlen] at hk hu
        exact ⟨k, hk, hu⟩
      · exact ⟨k + 1, by omega, mem_times_succ.mpr ⟨v, hv, hu⟩⟩

/-- **An unbounded repetition is any number of rounds.** -/
theorem mem_star_iff {r : PyRegex} {t u : Cursor} :
    u ∈ ends (star r) t ↔ ∃ k, u ∈ times (ends r) k t := by
  rw [ends, mem_upTo_iff]
  constructor
  · rintro ⟨k, -, hu⟩
    exact ⟨k, hu⟩
  · rintro ⟨k, hu⟩
    exact exists_times_le (fun _ _ => advances_of_mem_ends r) hu

/-! ## patterns that read a language -/

/-- From any place on, a pattern can read the texts of `L` that stand there, and nothing
else. -/
def Reads (r : PyRegex) (L : Language Char) : Prop :=
  ∀ t u, u ∈ ends r t ↔ ∃ cs ∈ L, t.after = cs ++ u.after ∧ u.before = cs.reverse ++ t.before

/-- The texts of one character of a class. -/
def ofClass (p : Char → Bool) : Language Char := {cs | ∃ c, p c = true ∧ cs = [c]}

theorem Reads.char (p : Char → Bool) : Reads (.char p) (ofClass p) := by
  intro t u
  obtain ⟨before, after⟩ := t
  obtain ⟨before', after'⟩ := u
  cases after with
  | nil =>
      simp only [ends, List.not_mem_nil, false_iff]
      rintro ⟨_, ⟨c, -, rfl⟩, hafter, -⟩
      simp at hafter
  | cons c rest =>
      by_cases hp : p c = true
      · simp only [ends, hp, if_true, List.mem_singleton, Cursor.mk.injEq]
        constructor
        · rintro ⟨rfl, rfl⟩
          exact ⟨[c], ⟨c, hp, rfl⟩, rfl, rfl⟩
        · rintro ⟨_, ⟨d, -, rfl⟩, hafter, hbefore⟩
          obtain ⟨rfl, rfl⟩ := List.cons.inj hafter
          exact ⟨hbefore, rfl⟩
      · simp only [ends, hp, Bool.false_eq_true, if_false, List.not_mem_nil, false_iff]
        rintro ⟨_, ⟨d, hd, rfl⟩, hafter, -⟩
        obtain ⟨rfl, -⟩ := List.cons.inj hafter
        exact hp hd

theorem Reads.seq {r s : PyRegex} {L M : Language Char} (hr : Reads r L) (hs : Reads s M) :
    Reads (.seq r s) (L * M) := by
  intro t u
  simp only [ends, List.mem_flatMap, hr _ _, hs _ _]
  constructor
  · rintro ⟨v, ⟨cs, hcs, hafter, hbefore⟩, ds, hds, hafter', hbefore'⟩
    refine ⟨cs ++ ds, Language.append_mem_mul hcs hds, ?_, ?_⟩
    · rw [hafter, hafter', List.append_assoc]
    · rw [hbefore', hbefore, List.reverse_append, List.append_assoc]
  · rintro ⟨es, hes, hafter, hbefore⟩
    obtain ⟨cs, hcs, ds, hds, rfl⟩ := Language.mem_mul.mp hes
    refine ⟨⟨cs.reverse ++ t.before, ds ++ u.after⟩, ⟨cs, hcs, ?_, rfl⟩, ds, hds, rfl, ?_⟩
    · rw [hafter, List.append_assoc]
    · rw [hbefore, List.reverse_append, List.append_assoc]

/-- Rounds of a pattern that reads a language read its texts one after the other. -/
theorem Reads.times {r : PyRegex} {L : Language Char} (hr : Reads r L) (n : Nat) (t u : Cursor) :
    u ∈ times (ends r) n t ↔ ∃ css : List (List Char), css.length = n ∧ (∀ cs ∈ css, cs ∈ L) ∧
      t.after = css.flatten ++ u.after ∧ u.before = css.flatten.reverse ++ t.before := by
  induction n generalizing t with
  | zero =>
      constructor
      · intro h
        obtain rfl : u = t := by simpa [PyRegex.times] using h
        exact ⟨[], rfl, by simp, rfl, rfl⟩
      · rintro ⟨css, hlen, -, hafter, hbefore⟩
        obtain rfl := List.eq_nil_of_length_eq_zero hlen
        cases t
        cases u
        simp_all [PyRegex.times]
  | succ n ih =>
      rw [mem_times_succ]
      simp only [hr _ _, ih]
      constructor
      · rintro ⟨v, ⟨cs, hcs, hafter, hbefore⟩, css, hlen, hall, hafter', hbefore'⟩
        refine ⟨cs :: css, by simp [hlen], ?_, ?_, ?_⟩
        · simpa using ⟨hcs, hall⟩
        · rw [hafter, hafter', List.flatten_cons, List.append_assoc]
        · rw [hbefore', hbefore, List.flatten_cons, List.reverse_append, List.append_assoc]
      · rintro ⟨css, hlen, hall, hafter, hbefore⟩
        cases css with
        | nil => simp at hlen
        | cons cs css =>
            refine ⟨⟨cs.reverse ++ t.before, css.flatten ++ u.after⟩,
              ⟨cs, hall cs (by simp), ?_, rfl⟩, css, by simpa using hlen,
              fun ds hds => hall ds (by simp [hds]), rfl, ?_⟩
            · rw [hafter, List.flatten_cons, List.append_assoc]
            · rw [hbefore, List.flatten_cons, List.reverse_append, List.append_assoc]

theorem Reads.rep {r : PyRegex} {L : Language Char} (hr : Reads r L) {lo hi : Nat}
    (hle : lo ≤ hi) :
    Reads (.rep r lo hi)
      {cs | ∃ css : List (List Char), cs = css.flatten ∧ lo ≤ css.length ∧ css.length ≤ hi ∧
        ∀ cs ∈ css, cs ∈ L} := by
  intro t u
  rw [mem_rep_iff hle]
  simp only [hr.times]
  constructor
  · rintro ⟨k, hlo, hhi, css, rfl, hall, hafter, hbefore⟩
    exact ⟨_, ⟨css, rfl, hlo, hhi, hall⟩, hafter, hbefore⟩
  · rintro ⟨_, ⟨css, rfl, hlo, hhi, hall⟩, hafter, hbefore⟩
    exact ⟨_, hlo, hhi, css, rfl, hall, hafter, hbefore⟩

open scoped Computability in
theorem Reads.star {r : PyRegex} {L : Language Char} (hr : Reads r L) : Reads (.star r) (L∗) := by
  intro t u
  rw [mem_star_iff]
  simp only [hr.times, Language.mem_kstar]
  constructor
  · rintro ⟨k, css, -, hall, hafter, hbefore⟩
    exact ⟨_, ⟨css, rfl, hall⟩, hafter, hbefore⟩
  · rintro ⟨_, ⟨css, rfl, hall⟩, hafter, hbefore⟩
    exact ⟨_, css, rfl, hall, hafter, hbefore⟩

/-- A counted class reads as many of its characters. -/
theorem Reads.rep_char (p : Char → Bool) {lo hi : Nat} (hle : lo ≤ hi) :
    Reads (.rep (.char p) lo hi)
      {cs | lo ≤ cs.length ∧ cs.length ≤ hi ∧ ∀ c ∈ cs, p c = true} := by
  intro t u
  rw [Reads.rep (Reads.char p) hle t u]
  have hflat (cs : List Char) : (cs.map fun c => [c]).flatten = cs := by
    rw [← List.flatMap_def, List.flatMap_singleton']
  have hsingle (css : List (List Char)) (hall : ∀ cs ∈ css, ∃ c, p c = true ∧ cs = [c]) :
      ∃ cs : List Char, css = cs.map (fun c => [c]) ∧ ∀ c ∈ cs, p c = true := by
    induction css with
    | nil => exact ⟨[], rfl, by simp⟩
    | cons ds css ih =>
        obtain ⟨c, hc, rfl⟩ := hall ds (by simp)
        obtain ⟨cs, rfl, hcs⟩ := ih fun es hes => hall es (by simp [hes])
        exact ⟨c :: cs, rfl, by simpa using ⟨hc, hcs⟩⟩
  constructor
  · rintro ⟨_, ⟨css, rfl, hlo, hhi, hall⟩, hafter, hbefore⟩
    obtain ⟨cs, rfl, hp⟩ := hsingle css hall
    rw [hflat] at hafter hbefore
    exact ⟨cs, ⟨by simpa using hlo, by simpa using hhi, hp⟩, hafter, hbefore⟩
  · rintro ⟨cs, ⟨hlo, hhi, hp⟩, hafter, hbefore⟩
    refine ⟨cs, ⟨cs.map fun c => [c], (hflat cs).symm, by simpa using hlo, by simpa using hhi,
      ?_⟩, hafter, hbefore⟩
    intro ds hds
    obtain ⟨c, hc, rfl⟩ := List.mem_map.mp hds
    exact ⟨c, hp c hc, rfl⟩

end PyRegex
