import Mathlib.Data.List.TakeWhile
import VpnPanel.Lib.PyLower
import VpnPanel.Lib.PyRegex

/-!
# VpnPanel.SharePublicHost

The public host of a config, `share_public_host.py`.

* `normalizeSharePublicHost` — the name as it is stored, or a refusal;
* `Hostname` — labels of letters, digits and hyphens between dots;
* `isMatch_hostRe_iff` — `_HOST_RE` matches a hostname, also before a line feed that
  ends the text: `$` stands there too;
* `normalized_iff` — what is returned is a lower-case hostname that is its own normal
  form, but for the names that reach the pattern with such a line feed.

A line feed at the end of the text is stripped; one before a dot at the end is not, and
stands at the end when the dot is taken off.
-/

namespace VpnPanel

open PyRegex

/-! ## the code -/

/-- `[A-Za-z0-9-]` -/
def hostChar (c : Char) : Bool := c.isUpper || c.isLower || c.isDigit || c = '-'

/-- `(?!-)[A-Za-z0-9-]{1,63}(?<!-)` -/
def labelRe : PyRegex :=
  .seq (.notLook (.char (· = '-'))) (.seq (.rep (.char hostChar) 1 63) (.notBehind (· = '-')))

/-- `_HOST_RE`. -/
def hostRe : PyRegex :=
  .seq .bos <| .seq (.look (.seq (.rep (.char (· ≠ '\n')) 1 253) .eos)) <|
    .seq labelRe <| .seq (.star (.seq (.char (· = '.')) labelRe)) .eos

def invalidSharePublicHost (msg : String) : PyErr := ⟨.other "InvalidSharePublicHost", msg⟩

/-- `value.strip().lower().rstrip(".")` on the characters. -/
def hostOf (u : Unicode) (value : String) : List Char :=
  PyStr.dropRight (· = '.') (PyStr.lowerFrom u [] (PyStr.stripChars value.toList))

/-- `normalize_share_public_host`. -/
def normalizeSharePublicHost (u : Unicode) : Option String → Except PyErr (Option String)
  | none => .ok none
  | some value =>
      let host := hostOf u value
      if host = [] then .ok none
      else if "http://".toList.isPrefixOf host || "https://".toList.isPrefixOf host then
        .error (invalidSharePublicHost
          "Укажите только hostname без схемы (например foo.example.com)")
      else if host.contains '/' || host.contains ':' || host.contains ' ' then
        .error (invalidSharePublicHost "Hostname не должен содержать порт, путь или пробелы")
      else if !hostRe.isMatch host then
        .error (invalidSharePublicHost ("Некорректный hostname: " ++ value))
      else .ok (some (String.ofList host))

/-! ## hostnames -/

/-- A label: 1 to 63 letters, digits and hyphens, with no hyphen at either end. -/
structure HostLabel (cs : List Char) : Prop where
  length_pos : 1 ≤ cs.length
  length_le : cs.length ≤ 63
  chars : ∀ c ∈ cs, hostChar c = true
  head : ∀ c, cs.head? = some c → c ≠ '-'
  last : ∀ c, cs.getLast? = some c → c ≠ '-'

/-- A hostname: up to 253 characters, labels between dots. -/
structure Hostname (cs : List Char) : Prop where
  length_le : cs.length ≤ 253
  labels : ∀ l ∈ cs.splitOn '.', HostLabel l

/-- A hostname without capitals. -/
structure LowerHostname (cs : List Char) : Prop extends Hostname cs where
  lower : ∀ c ∈ cs, c.isUpper = false

theorem HostLabel.ne_nil {l : List Char} (h : HostLabel l) : l ≠ [] := by
  rintro rfl
  simpa using h.length_pos

theorem HostLabel.dot_not_mem {l : List Char} (h : HostLabel l) : '.' ∉ l := by
  intro hmem
  exact absurd (h.chars '.' hmem) (by decide)

/-- Labels put together are taken apart again. -/
theorem splitOn_labels {l : List Char} {ls : List (List Char)} (hl : HostLabel l)
    (hls : ∀ l ∈ ls, HostLabel l) :
    (l ++ ls.flatMap (List.cons '.')).splitOn '.' = l :: ls := by
  induction ls generalizing l with
  | nil => rw [List.flatMap_nil, List.append_nil, List.splitOn_eq_singleton hl.dot_not_mem]
  | cons m ls ih =>
      rw [List.flatMap_cons, List.cons_append,
        List.splitOn_append_cons_self_of_not_mem hl.dot_not_mem,
        ih (hls m (by simp)) fun l hl => hls l (by simp [hl])]

theorem intercalate_labels (l : List Char) (ls : List (List Char)) :
    ['.'].intercalate (l :: ls) = l ++ ls.flatMap (List.cons '.') := by
  induction ls generalizing l with
  | nil => simp
  | cons m ls ih => rw [List.intercalate_cons_cons, ih m, List.flatMap_cons]; simp

/-- A hostname is a first label and the others after their dots. -/
theorem Hostname.exists_labels {name : List Char} (h : Hostname name) :
    ∃ (l : List Char) (ls : List (List Char)), HostLabel l ∧ (∀ l ∈ ls, HostLabel l) ∧
      name = l ++ ls.flatMap (List.cons '.') := by
  cases hsplit : name.splitOn '.' with
  | nil => exact absurd hsplit (List.splitOn_ne_nil '.' name)
  | cons l ls =>
      have hlabels := h.labels
      rw [hsplit] at hlabels
      refine ⟨l, ls, hlabels l (by simp), fun m hm => hlabels m (by simp [hm]), ?_⟩
      rw [← intercalate_labels, ← hsplit, List.intercalate_splitOn]

theorem Hostname.chars {name : List Char} (h : Hostname name) :
    ∀ c ∈ name, c = '.' ∨ hostChar c = true := by
  obtain ⟨l, ls, hl, hls, rfl⟩ := h.exists_labels
  intro c hc
  obtain hc | hc := List.mem_append.mp hc
  · exact .inr (hl.chars c hc)
  · obtain ⟨m, hm, hc⟩ := List.mem_flatMap.mp hc
    obtain rfl | hc := List.mem_cons.mp hc
    · exact .inl rfl
    · exact .inr ((hls m hm).chars c hc)

/-- A hostname ends with the last character of a label. -/
theorem Hostname.exists_getLast? {name : List Char} (h : Hostname name) :
    ∃ c, name.getLast? = some c ∧ hostChar c = true := by
  obtain ⟨l, ls, hl, hls, rfl⟩ := h.exists_labels
  have hlabel {m : List Char} (hm : HostLabel m) : ∃ c, m.getLast? = some c ∧ hostChar c = true :=
    ⟨m.getLast hm.ne_nil, List.getLast?_eq_some_getLast hm.ne_nil,
      hm.chars _ (List.getLast_mem hm.ne_nil)⟩
  cases hlast : ls.getLast? with
  | none =>
      obtain rfl := List.getLast?_eq_none_iff.mp hlast
      simpa using hlabel hl
  | some m =>
      obtain ⟨init, rfl⟩ := List.getLast?_eq_some_iff.mp hlast
      have hm := hls m (by simp)
      obtain ⟨c, hc, hchar⟩ := hlabel hm
      refine ⟨c, ?_, hchar⟩
      have hne := hm.ne_nil
      simp [List.getLast?_append, List.getLast?_cons, hc]

/-! ## the pattern -/

/-- The labels of hostnames. -/
def hostLabels : Language Char := {cs | HostLabel cs}

/-- The label of `_HOST_RE` reads labels. -/
theorem reads_labelRe : Reads labelRe hostLabels := by
  intro t u
  have hrep := Reads.rep_char hostChar (show 1 ≤ 63 by omega)
  simp only [labelRe, mem_seq_iff]
  constructor
  · rintro ⟨v, hv, w, hw, hu⟩
    obtain ⟨rfl, hhead⟩ := mem_notLook_char_iff.mp hv
    obtain ⟨rfl, hlast⟩ := mem_notBehind_iff.mp hu
    obtain ⟨cs, ⟨hpos, hle, hchars⟩, hafter, hbefore⟩ := (hrep v u).mp hw
    refine ⟨cs, ⟨hpos, hle, hchars, ?_, ?_⟩, hafter, hbefore⟩
    · intro c hc
      simpa using hhead c (by rw [hafter, List.head?_append, hc]; rfl)
    · intro c hc
      simpa using hlast c (by rw [hbefore, List.head?_append, List.head?_reverse, hc]; rfl)
  · rintro ⟨cs, hlabel, hafter, hbefore⟩
    refine ⟨t, mem_notLook_char_iff.mpr ⟨rfl, ?_⟩, u,
      (hrep t u).mpr ⟨cs, ⟨hlabel.length_pos, hlabel.length_le, hlabel.chars⟩, hafter, hbefore⟩,
      mem_notBehind_iff.mpr ⟨rfl, ?_⟩⟩
    · intro c hc
      rw [hafter, List.head?_append_of_ne_nil _ hlabel.ne_nil] at hc
      simpa using hlabel.head c hc
    · intro c hc
      have hne : cs.reverse ≠ [] := by simpa using hlabel.ne_nil
      rw [hbefore, List.head?_append_of_ne_nil _ hne, List.head?_reverse] at hc
      simpa using hlabel.last c hc

open scoped Computability in
/-- The rest of `_HOST_RE` reads labels after dots. -/
theorem mem_star_labels {cs : List Char} :
    cs ∈ (ofClass (· = '.') * hostLabels)∗ ↔
      ∃ ls : List (List Char), (∀ l ∈ ls, HostLabel l) ∧ cs = ls.flatMap (List.cons '.') := by
  rw [Language.mem_kstar]
  constructor
  · rintro ⟨css, rfl, hall⟩
    induction css with
    | nil => exact ⟨[], by simp, rfl⟩
    | cons ds css ih =>
        obtain ⟨_, ⟨d, hd, rfl⟩, l, hl, rfl⟩ := Language.mem_mul.mp (hall ds (by simp))
        obtain rfl : d = '.' := by simpa using hd
        obtain ⟨ls, hls, hflat⟩ := ih fun es hes => hall es (by simp [hes])
        refine ⟨l :: ls, by simpa using ⟨hl, hls⟩, ?_⟩
        rw [List.flatten_cons, hflat, List.flatMap_cons, List.cons_append, List.nil_append,
          List.cons_append]
  · rintro ⟨ls, hls, rfl⟩
    refine ⟨ls.map (List.cons '.'), rfl, ?_⟩
    intro ds hds
    obtain ⟨l, hl, rfl⟩ := List.mem_map.mp hds
    have hdot : ['.'] ∈ ofClass (· = '.') := ⟨'.', by simp, rfl⟩
    exact Language.append_mem_mul hdot (hls l hl)

/-- A hostname has no line feed in it. -/
theorem Hostname.feed_not_mem {name : List Char} (h : Hostname name) : '\n' ∉ name := by
  intro hmem
  obtain hdot | hchar := h.chars '\n' hmem
  · exact absurd hdot (by decide)
  · exact absurd hchar (by decide)

/-- The length `_HOST_RE` looks ahead for. -/
theorem mem_look_length_iff {t u : Cursor} :
    u ∈ ends (.look (.seq (.rep (.char (· ≠ '\n')) 1 253) .eos)) t ↔
      u = t ∧ ∃ cs rest, t.after = cs ++ rest ∧ 1 ≤ cs.length ∧ cs.length ≤ 253 ∧ '\n' ∉ cs ∧
        (rest = [] ∨ rest = ['\n']) := by
  have hrep := Reads.rep_char (fun c => decide (c ≠ '\n')) (show 1 ≤ 253 by omega)
  rw [mem_look_iff]
  simp only [mem_seq_iff, mem_eos_iff]
  constructor
  · rintro ⟨rfl, _, v, hv, rfl, hend⟩
    obtain ⟨cs, ⟨hpos, hle, hne⟩, hafter, -⟩ := (hrep u _).mp hv
    have hfeed : '\n' ∉ cs := by
      intro hmem
      simpa using hne _ hmem
    exact ⟨rfl, cs, _, hafter, hpos, hle, hfeed, hend⟩
  · rintro ⟨rfl, cs, rest, hafter, hpos, hle, hfeed, hend⟩
    refine ⟨rfl, ⟨cs.reverse ++ u.before, rest⟩, _,
      (hrep u _).mpr ⟨cs, ⟨hpos, hle, ?_⟩, hafter, rfl⟩, rfl, hend⟩
    intro c hc
    simpa using fun heq : c = '\n' => hfeed (heq ▸ hc)

/-- **`_HOST_RE` matches a hostname, and a hostname before a line feed that ends the
text.** -/
theorem isMatch_hostRe_iff {text : List Char} :
    hostRe.isMatch text = true ↔
      ∃ name, Hostname name ∧ (text = name ∨ text = name ++ ['\n']) := by
  have hstar := (Reads.seq (Reads.char (· = '.')) reads_labelRe).star
  rw [isMatch_iff, hostRe]
  simp only [mem_seq_iff, mem_bos_iff, mem_look_length_iff, mem_eos_iff]
  constructor
  · rintro ⟨w, _, ⟨rfl, -⟩, _, ⟨rfl, cs, rest, htext, -, hle, hfeed, hrest⟩, v, hv, _, hw, rfl,
      hend⟩
    obtain ⟨l, hl, hafter, -⟩ := (reads_labelRe _ v).mp hv
    obtain ⟨ds, hds, hafter', -⟩ := (hstar v w).mp hw
    obtain ⟨ls, hls, rfl⟩ := mem_star_labels.mp hds
    have hsplit := splitOn_labels hl hls
    generalize hname : l ++ ls.flatMap (List.cons '.') = name at hsplit
    have hname_text : text = name ++ w.after := by
      rw [← hname, List.append_assoc, ← hafter']
      exact hafter
    have hfeed_name : '\n' ∉ name := by
      rw [← hname]
      intro hmem
      obtain hmem | hmem := List.mem_append.mp hmem
      · exact absurd (hl.chars _ hmem) (by decide)
      · obtain ⟨m, hm, hmem⟩ := List.mem_flatMap.mp hmem
        obtain heq | hmem := List.mem_cons.mp hmem
        · exact absurd heq (by decide)
        · exact absurd ((hls m hm).chars _ hmem) (by decide)
    -- both cut the text before the line feed that may end it
    have hcut : cs = name := by
      have heq : cs ++ rest = name ++ w.after := htext.symm.trans hname_text
      obtain rfl | rfl := hrest <;> obtain hw | hw := hend <;> rw [hw] at heq
      · simpa using heq
      · have hcs : cs = name ++ ['\n'] := by simpa using heq
        exact absurd (by simp [hcs]) hfeed
      · have hcs : cs ++ ['\n'] = name := by simpa using heq
        exact absurd (by simp [← hcs]) hfeed_name
      · exact List.append_cancel_right heq
    refine ⟨name, ⟨hcut ▸ hle, ?_⟩, ?_⟩
    · rw [hsplit]
      simpa using ⟨hl, hls⟩
    · obtain hw | hw := hend
      · exact .inl (by rw [hname_text, hw, List.append_nil])
      · exact .inr (by rw [hname_text, hw])
  · rintro ⟨name, hname, htext⟩
    obtain ⟨rest, hrest, htext⟩ : ∃ rest, (rest = [] ∨ rest = ['\n']) ∧ text = name ++ rest := by
      obtain rfl | rfl := htext
      · exact ⟨[], .inl rfl, by simp⟩
      · exact ⟨['\n'], .inr rfl, rfl⟩
    obtain ⟨c, hlast, -⟩ := hname.exists_getLast?
    obtain ⟨l, ls, hl, hls, hlabels⟩ := hname.exists_labels
    have hpos : 1 ≤ name.length := by
      cases name with
      | nil => simp at hlast
      | cons d ds => simp
    refine ⟨⟨name.reverse, rest⟩, _, ⟨rfl, trivial⟩, _, ⟨rfl, name, rest, htext, hpos,
      hname.length_le, hname.feed_not_mem, hrest⟩, ⟨l.reverse, ls.flatMap (List.cons '.') ++ rest⟩,
      (reads_labelRe _ _).mpr ⟨l, hl, ?_, by simp⟩, ⟨name.reverse, rest⟩,
      (hstar _ _).mpr ⟨_, mem_star_labels.mpr ⟨ls, hls, rfl⟩, rfl, ?_⟩, rfl, hrest⟩
    · rw [htext, hlabels, List.append_assoc]
    · rw [hlabels, List.reverse_append]

/-! ## characters of a hostname -/

theorem isUpper_iff {c : Char} : c.isUpper = true ↔ 65 ≤ c.toNat ∧ c.toNat ≤ 90 := by
  have hdef : c.isUpper = decide ('A'.val ≤ c.val ∧ c.val ≤ 'Z'.val) := rfl
  simp [hdef, UInt32.le_iff_toNat_le]

theorem isLower_iff {c : Char} : c.isLower = true ↔ 97 ≤ c.toNat ∧ c.toNat ≤ 122 := by
  have hdef : c.isLower = (decide ('a'.val ≤ c.val) && decide (c.val ≤ 'z'.val)) := rfl
  simp [hdef, UInt32.le_iff_toNat_le]

theorem toNat_of_hostChar {c : Char} (h : hostChar c = true) :
    65 ≤ c.toNat ∧ c.toNat ≤ 90 ∨ 97 ≤ c.toNat ∧ c.toNat ≤ 122 ∨ 48 ≤ c.toNat ∧ c.toNat ≤ 57 ∨
      c.toNat = 45 := by
  simp only [hostChar, Bool.or_eq_true, decide_eq_true_eq] at h
  obtain ((h | h) | h) | rfl := h
  · exact Or.inl (isUpper_iff.mp h)
  · exact Or.inr (Or.inl (isLower_iff.mp h))
  · right; right; left
    simpa [Char.isDigit, UInt32.le_iff_toNat_le] using h
  · right; right; right
    rfl

/-- The characters of a hostname are ASCII letters, digits, hyphens and dots. -/
theorem Hostname.toNat {name : List Char} (h : Hostname name) :
    ∀ c ∈ name, 65 ≤ c.toNat ∧ c.toNat ≤ 90 ∨ 97 ≤ c.toNat ∧ c.toNat ≤ 122 ∨
      48 ≤ c.toNat ∧ c.toNat ≤ 57 ∨ c.toNat = 45 ∨ c.toNat = 46 := by
  intro c hc
  obtain rfl | hchar := h.chars c hc
  · decide
  · have hnat := toNat_of_hostChar hchar
    omega

theorem Hostname.not_mem {name : List Char} (h : Hostname name) {d : Char}
    (hd : d.toNat = 32 ∨ d.toNat = 47 ∨ d.toNat = 58) : d ∉ name := by
  intro hmem
  have hnat := h.toNat d hmem
  omega

theorem Hostname.not_isSpace {name : List Char} (h : Hostname name) :
    ∀ c ∈ name, PyStr.isSpace c = false := by
  intro c hc
  have hnat := h.toNat c hc
  simp only [PyStr.isSpace, Bool.or_eq_false_iff, Bool.and_eq_false_iff, decide_eq_false_iff_not]
  omega

/-! ## dots at the end -/

theorem dropRight_append {p : Char → Bool} {cs tail : List Char}
    (htail : ∀ c ∈ tail, p c = true) (hlast : ∀ c, cs.getLast? = some c → p c = false) :
    PyStr.dropRight p (cs ++ tail) = cs := by
  have hrev : ∀ c ∈ tail.reverse, p c = true := by simpa using htail
  rw [PyStr.dropRight, List.reverse_append, List.dropWhile_append_of_pos hrev,
    PyStr.dropWhile_eq_self_of_head, List.reverse_reverse]
  intro c hc
  exact hlast c (by simpa using hc)

theorem exists_dropRight (p : Char → Bool) (cs : List Char) :
    ∃ tail, cs = PyStr.dropRight p cs ++ tail ∧ ∀ c ∈ tail, p c = true := by
  refine ⟨(cs.reverse.takeWhile p).reverse, ?_, ?_⟩
  · rw [PyStr.dropRight, ← List.reverse_append, List.takeWhile_append_dropWhile,
      List.reverse_reverse]
  · intro c hc
    exact List.mem_takeWhile_imp (by simpa using hc)

/-! ## the normal form -/

section Normal

variable {u : Unicode} {value : String} {name : List Char}

/-- A text without capitals is its own lower case. -/
theorem LowerHostname.lowerFrom (h : LowerHostname name) : PyStr.lowerFrom u [] name = name := by
  have hself : ∀ c ∈ name, PyStr.Plain c ∧ PyStr.plainLower c = c := by
    intro c hc
    have hnat := h.toNat c hc
    have hupper : ¬ (65 ≤ c.toNat ∧ c.toNat ≤ 90) := by
      rw [← isUpper_iff, h.lower c hc]
      simp
    exact ⟨.inl (by omega), PyStr.plainLower_self (by omega) hupper⟩
  rw [PyStr.lowerFrom_of_plain fun c hc => (hself c hc).1]
  exact (List.map_congr_left fun c hc => (hself c hc).2).trans (List.map_id' name)

/-- A lower-case hostname is what it is looked up as. -/
theorem hostOf_of_hostname (h : LowerHostname name) : hostOf u (String.ofList name) = name := by
  have hspace := h.not_isSpace
  have hstrip : PyStr.stripChars name = name :=
    PyStr.stripChars_eq_self (fun c hc => hspace c (List.mem_of_mem_head? hc))
      (fun c hc => hspace c (List.mem_of_getLast? hc))
  have hdots : PyStr.dropRight (· = '.') (name ++ []) = name := by
    apply dropRight_append
    · simp
    · intro c hc
      obtain ⟨d, hd, hchar⟩ := h.exists_getLast?
      obtain rfl : d = c := Option.some.inj (hd.symm.trans hc)
      have hne : d ≠ '.' := by
        rintro rfl
        exact absurd hchar (by decide)
      simpa using hne
  rw [List.append_nil] at hdots
  rw [hostOf, String.toList_ofList, hstrip, h.lowerFrom, hdots]

/-- What `_HOST_RE` matches passes the checks before it. -/
theorem normalize_of_isMatch (h : hostRe.isMatch (hostOf u value) = true) :
    normalizeSharePublicHost u (some value) = .ok (some (String.ofList (hostOf u value))) := by
  obtain ⟨name, hname, htext⟩ := isMatch_hostRe_iff.mp h
  have hmem : ∀ c ∈ hostOf u value, c ∈ name ∨ c = '\n' := by
    obtain htext | htext := htext <;> rw [htext]
    · exact fun c hc => .inl hc
    · intro c hc
      simpa using hc
  have habsent {d : Char} (hd : d.toNat = 32 ∨ d.toNat = 47 ∨ d.toNat = 58) :
      d ∉ hostOf u value := by
    intro hdmem
    obtain hdname | rfl := hmem d hdmem
    · exact hname.not_mem hd hdname
    · exact absurd hd (by decide)
  have hne : hostOf u value ≠ [] := by
    obtain ⟨c, hc, -⟩ := hname.exists_getLast?
    obtain htext | htext := htext <;> rw [htext]
    · rintro rfl
      simp at hc
    · simp
  have hprefix {scheme : List Char} (hslash : '/' ∈ scheme) :
      scheme.isPrefixOf (hostOf u value) = false := by
    rw [Bool.eq_false_iff, ne_eq, List.isPrefixOf_iff_prefix]
    intro hpre
    exact habsent (.inr (.inl rfl)) (hpre.subset hslash)
  have hcontains {d : Char} (hd : d.toNat = 32 ∨ d.toNat = 47 ∨ d.toNat = 58) :
      (hostOf u value).contains d = false := by
    rw [Bool.eq_false_iff, ne_eq, List.contains_iff_mem]
    exact habsent hd
  have hhttp : "http://".toList.isPrefixOf (hostOf u value) = false := hprefix (by decide)
  have hhttps : "https://".toList.isPrefixOf (hostOf u value) = false := hprefix (by decide)
  have hslash : (hostOf u value).contains '/' = false := hcontains (by decide)
  have hcolon : (hostOf u value).contains ':' = false := hcontains (by decide)
  have hspace : (hostOf u value).contains ' ' = false := hcontains (by decide)
  unfold normalizeSharePublicHost
  simp only [if_neg hne, hhttp, hhttps, hslash, hcolon, hspace, h, Bool.or_self, Bool.not_true,
    Bool.false_eq_true, if_false]

theorem normalize_of_not_isMatch (h : hostRe.isMatch (hostOf u value) = false) :
    normalizeSharePublicHost u (some value) = .ok none ∨
      ∃ msg, normalizeSharePublicHost u (some value) = .error (invalidSharePublicHost msg) := by
  unfold normalizeSharePublicHost
  dsimp only
  split
  · exact .inl rfl
  · split
    · exact .inr ⟨_, rfl⟩
    · split
      · exact .inr ⟨_, rfl⟩
      · rw [h]
        exact .inr ⟨_, rfl⟩

/-! ## line feeds -/

/-- Without the white space around it and then the dots at its end, a value is a
hostname and a line feed. -/
def EndsLine (u : Unicode) (value : String) : Prop :=
  ∃ name, Hostname (PyStr.lowerFrom u [] name) ∧
    PyStr.dropRight (· = '.') (PyStr.stripChars value.toList) = name ++ ['\n']

theorem Hostname.ascii (h : Hostname name) : ∀ c ∈ name, c.toNat < 128 := by
  intro c hc
  have hnat := h.toNat c hc
  omega

/-- **Lower-casing leaves the line feed where it is.** -/
theorem endsLine_iff :
    EndsLine u value ↔ ∃ name, Hostname name ∧ hostOf u value = name ++ ['\n'] := by
  have hfeed (cs : List Char) : ∀ c, (cs ++ ['\n']).getLast? = some c →
      decide (c = '.') = false := by
    intro c hc
    obtain rfl : '\n' = c := by simpa using hc
    rfl
  unfold EndsLine hostOf
  generalize PyStr.stripChars value.toList = text
  constructor
  · rintro ⟨name, hname, htext⟩
    have hplain := PyStr.plain_of_lowerFrom hname.ascii
    obtain ⟨tail, happend, htail⟩ := exists_dropRight (· = '.') text
    rw [htext] at happend
    have hplains : ∀ c ∈ name ++ ['\n'] ++ tail, PyStr.Plain c := by
      intro c hc
      simp only [List.mem_append, List.mem_singleton] at hc
      obtain (hc | rfl) | hc := hc
      · exact hplain c hc
      · exact .inl (by decide)
      · obtain rfl : c = '.' := by simpa using htail c hc
        exact .inl (by decide)
    have htails : ∀ c ∈ tail.map PyStr.plainLower, decide (c = '.') = true := by
      intro c hc
      obtain ⟨d, hd, rfl⟩ := List.mem_map.mp hc
      obtain rfl : d = '.' := by simpa using htail d hd
      decide
    refine ⟨name.map PyStr.plainLower, ?_, ?_⟩
    · rwa [← PyStr.lowerFrom_of_plain hplain []]
    · rw [happend, PyStr.lowerFrom_of_plain hplains, List.map_append, List.map_append]
      exact dropRight_append htails (hfeed _)
  · rintro ⟨name, hname, htext⟩
    obtain ⟨tail, happend, htail⟩ := exists_dropRight (· = '.') (PyStr.lowerFrom u [] text)
    rw [htext] at happend
    have hascii : ∀ c ∈ PyStr.lowerFrom u [] text, c.toNat < 128 := by
      rw [happend]
      intro c hc
      simp only [List.mem_append, List.mem_singleton] at hc
      obtain (hc | rfl) | hc := hc
      · exact hname.ascii c hc
      · decide
      · obtain rfl : c = '.' := by simpa using htail c hc
        decide
    have hplain := PyStr.plain_of_lowerFrom hascii
    rw [PyStr.lowerFrom_of_plain hplain] at happend
    obtain ⟨front, dots, rfl, hfront, hdots⟩ := List.map_eq_append_iff.mp happend
    obtain ⟨given, feed, rfl, hgiven, hfeeds⟩ := List.map_eq_append_iff.mp hfront
    obtain ⟨c, rfl, hc⟩ := List.map_eq_singleton_iff.mp hfeeds
    obtain rfl : c = '\n' := PyStr.eq_of_plainLower hc (by decide)
    refine ⟨given, ?_, dropRight_append ?_ (hfeed given)⟩
    · rwa [PyStr.lowerFrom_of_plain fun d hd => hplain d (by simp [hd]), hgiven]
    · intro d hd
      have hdot : PyStr.plainLower d = '.' := by
        have hmem := List.mem_map_of_mem (f := PyStr.plainLower) hd
        rw [hdots] at hmem
        simpa using htail _ hmem
      simpa using PyStr.eq_of_plainLower hdot (by decide)

/-- A lower case has no capitals. -/
theorem lower_of_hostOf (h : Hostname name) (htext : hostOf u value = name) :
    LowerHostname name := by
  refine ⟨h, ?_⟩
  obtain ⟨tail, happend, htail⟩ := exists_dropRight (· = '.')
    (PyStr.lowerFrom u [] (PyStr.stripChars value.toList))
  have hname : PyStr.dropRight (· = '.')
      (PyStr.lowerFrom u [] (PyStr.stripChars value.toList)) = name := htext
  rw [hname] at happend
  have hascii : ∀ c ∈ PyStr.lowerFrom u [] (PyStr.stripChars value.toList), c.toNat < 128 := by
    rw [happend]
    intro c hc
    obtain hc | hc := List.mem_append.mp hc
    · exact h.ascii c hc
    · obtain rfl : c = '.' := by simpa using htail c hc
      decide
  have hplain := PyStr.plain_of_lowerFrom hascii
  rw [PyStr.lowerFrom_of_plain hplain] at happend
  intro c hc
  obtain ⟨d, -, rfl⟩ := List.mem_map.mp
    (show c ∈ (PyStr.stripChars value.toList).map PyStr.plainLower by simp [happend, hc])
  rw [Bool.eq_false_iff, ne_eq, isUpper_iff]
  exact PyStr.plainLower_not_upper d

end Normal

/-- What `normalize_share_public_host` is to return or raise: nothing, a lower-case
hostname that is its own normal form, or a refusal. -/
def Normalized (u : Unicode) : Except PyErr (Option String) → Prop
  | .ok none => True
  | .ok (some host) => LowerHostname host.toList ∧
      normalizeSharePublicHost u (some host) = .ok (some host)
  | .error e => e.kind = .other "InvalidSharePublicHost"

section

variable {u : Unicode}

theorem normalized_none_iff : Normalized u (.ok none) ↔ True := Iff.rfl

theorem normalized_some_iff {host : String} :
    Normalized u (.ok (some host)) ↔ LowerHostname host.toList ∧
      normalizeSharePublicHost u (some host) = .ok (some host) := Iff.rfl

theorem normalized_error_iff {e : PyErr} :
    Normalized u (.error e) ↔ e.kind = .other "InvalidSharePublicHost" := Iff.rfl

end

/-- A lower-case hostname is its own normal form. -/
theorem normalize_of_hostname {u : Unicode} {name : List Char} (h : LowerHostname name) :
    normalizeSharePublicHost u (some (String.ofList name)) = .ok (some (String.ofList name)) := by
  have hhost : hostOf u (String.ofList name) = name := hostOf_of_hostname h
  have hmatch : hostRe.isMatch (hostOf u (String.ofList name)) = true :=
    isMatch_hostRe_iff.mpr ⟨name, h.toHostname, .inl hhost⟩
  rw [normalize_of_isMatch hmatch, hhost]

/-- **Normal forms.**  What is returned for a value is a lower-case hostname that is
returned for itself, or nothing is, or the value is refused, exactly when the value is not
a hostname with a line feed before the dots it ends with. -/
theorem normalized_iff (u : Unicode) (value : Option String) :
    Normalized u (normalizeSharePublicHost u value) ↔ ∀ v ∈ value, ¬ EndsLine u v := by
  cases value with
  | none =>
      rw [show normalizeSharePublicHost u none = .ok none from rfl, normalized_none_iff]
      simp
  | some v =>
      have hvalue : (∀ w ∈ some v, ¬ EndsLine u w) ↔ ¬ EndsLine u v := by simp
      rw [hvalue, endsLine_iff]
      cases hmatch : hostRe.isMatch (hostOf u v) with
      | false =>
          have hnot : ¬ ∃ name, Hostname name ∧ hostOf u v = name ++ ['\n'] := by
            rintro ⟨name, hname, htext⟩
            rw [isMatch_hostRe_iff.mpr ⟨name, hname, .inr htext⟩] at hmatch
            simp at hmatch
          obtain h | ⟨msg, h⟩ := normalize_of_not_isMatch hmatch
          · simp only [h, normalized_none_iff, hnot, not_false_eq_true]
          · rw [h, normalized_error_iff]
            exact ⟨fun _ => hnot, fun _ => rfl⟩
      | true =>
          rw [normalize_of_isMatch hmatch, normalized_some_iff, String.toList_ofList]
          constructor
          · rintro ⟨hlower, -⟩ ⟨name, -, htext⟩
            rw [htext] at hlower
            exact hlower.feed_not_mem (by simp)
          · intro hends
            obtain ⟨name, hname, htext⟩ := isMatch_hostRe_iff.mp hmatch
            have htext : hostOf u v = name := by
              obtain htext | htext := htext
              · exact htext
              · exact absurd ⟨name, hname, htext⟩ hends
            have hlower := lower_of_hostOf hname htext
            rw [htext]
            exact ⟨hlower, normalize_of_hostname hlower⟩

/-- Tables that leave everything outside ASCII as it is. -/
def Unicode.sample : Unicode where
  lower _ c _ := [c]
  lower_wide _ c _ h _ := ⟨c, by simp, h⟩

/-- A value as a form may send it is returned without its edges. -/
example : normalizeSharePublicHost Unicode.sample (some "  Foo.Example. ") =
    .ok (some "foo.example") := by decide

/-- A line feed before the dot at the end is returned, and not when asked again. -/
theorem not_normalized_of_feed :
    normalizeSharePublicHost Unicode.sample (some "a.b\n.") = .ok (some "a.b\n") ∧
      normalizeSharePublicHost Unicode.sample (some "a.b\n") = .ok (some "a.b") ∧
      ¬ Normalized Unicode.sample (normalizeSharePublicHost Unicode.sample (some "a.b\n.")) := by
  have hfeed : normalizeSharePublicHost Unicode.sample (some "a.b\n.") = .ok (some "a.b\n") := by
    decide
  have hagain : normalizeSharePublicHost Unicode.sample (some "a.b\n") = .ok (some "a.b") := by
    decide
  refine ⟨hfeed, hagain, ?_⟩
  rw [hfeed, normalized_some_iff, hagain]
  rintro ⟨-, hself⟩
  exact absurd hself (by decide)

end VpnPanel
