import Mathlib.Data.List.TakeWhile

/-!
# VpnPanel.Lib.UnitConf

How systemd reads a unit file: `read_line`, the loop of `config_parse` and
`parse_line`.  A line ends at a line feed, a carriage return or a NUL, or at
different ones of them in a row; a backslash at its end continues it, comments
in between are skipped.  `parse` is what the file says, section by section and
directive by directive; a line without an equals sign is ignored, a broken
section header refuses the file.

* `readLines` — the lines of a text;
* `Joiner` — the lines joined at their backslashes;
* `parseLine`, `parse` — what they say.
-/

namespace UnitConf

/-- What a unit file says. -/
inductive Event where
  | header (name : String)
  | assignment (key value : String)
  deriving DecidableEq, Repr

/-! ## lines -/

inductive Eol where
  | feed | ret | nul
  deriving DecidableEq, Repr

def eolOf (c : Char) : Option Eol :=
  if c = '\n' then some .feed
  else if c = '\r' then some .ret
  else if c = Char.ofNat 0 then some .nul
  else none

/-- The lines of a text, after the characters `cur` (the last first) of a line
and the ends `ends` of it. -/
def readLines (cur : List Char) (ends : List Eol) : List Char → List (List Char)
  | [] => if cur = [] ∧ ends = [] then [] else [cur.reverse]
  | c :: cs =>
      match eolOf c with
      | none =>
          if ends = [] then readLines (c :: cur) [] cs
          else cur.reverse :: readLines [c] [] cs
      | some e =>
          if e ∈ ends ∨ .nul ∈ ends then cur.reverse :: readLines [] [e] cs
          else readLines cur (e :: ends) cs

/-- A text that goes on in a line of its own after a line feed. -/
def StartsLine (tail : List Char) : Prop :=
  tail.head? ≠ some '\r' ∧ tail.head? ≠ some (Char.ofNat 0)

theorem readLines_feed {cur tail : List Char} (h : StartsLine tail) :
    readLines cur [.feed] tail = cur.reverse :: readLines [] [] tail := by
  cases tail with
  | nil => simp [readLines]
  | cons c cs =>
      obtain ⟨hret, hnul⟩ : c ≠ '\r' ∧ c ≠ Char.ofNat 0 := by
        simpa [StartsLine] using h
      by_cases hfeed : c = '\n'
      · simp [readLines, eolOf, hfeed]
      · have hnone : eolOf c = none := by simp [eolOf, hfeed, hret, hnul]
        simp [readLines, hnone]

theorem startsLine_line {cs tail : List Char} (h : ∀ c ∈ cs, eolOf c = none) :
    StartsLine (cs ++ '\n' :: tail) := by
  cases cs with
  | nil => exact ⟨by simp, by simp [show '\n' ≠ Char.ofNat 0 by decide]⟩
  | cons c cs =>
      have hc := h c List.mem_cons_self
      constructor
      · rintro heq
        obtain rfl : c = '\r' := by simpa using heq
        cases hc
      · rintro heq
        obtain rfl : c = Char.ofNat 0 := by simpa using heq
        cases hc

/-- The lines of a text and those after it. -/
theorem readLines_append {cur tail cs : List Char} {ends : List Eol} {last : Char}
    (hlast : eolOf last = none) (h : StartsLine tail) :
    readLines cur ends (cs ++ last :: '\n' :: tail) =
      readLines cur ends (cs ++ [last]) ++ readLines [] [] tail := by
  induction cs generalizing cur ends with
  | nil =>
      have hfeed : eolOf '\n' = some .feed := rfl
      by_cases hends : ends = []
      · simp [readLines, hlast, hfeed, hends, readLines_feed h]
      · simp [readLines, hlast, hfeed, hends, readLines_feed h]
  | cons c cs ih =>
      rw [List.cons_append, List.cons_append, readLines, readLines]
      cases eolOf c with
      | none => by_cases hends : ends = [] <;> simp [hends, ih]
      | some e => by_cases he : e ∈ ends ∨ .nul ∈ ends <;> simp [he, ih]

/-- Characters of a line. -/
theorem readLines_plain {cs : List Char} (hcs : ∀ c ∈ cs, eolOf c = none) (cur tail : List Char) :
    readLines cur [] (cs ++ tail) = readLines (cs.reverse ++ cur) [] tail := by
  induction cs generalizing cur with
  | nil => rfl
  | cons c cs ih =>
      have hrest := ih (fun d hd => hcs d (List.mem_cons_of_mem _ hd)) (c :: cur)
      simp [readLines, hcs c List.mem_cons_self, hrest]

/-- A line without an end in it. -/
theorem readLines_line {cs tail : List Char} (hcs : ∀ c ∈ cs, eolOf c = none)
    (h : StartsLine tail) :
    readLines [] [] (cs ++ '\n' :: tail) = cs :: readLines [] [] tail := by
  have hfeed : eolOf '\n' = some .feed := rfl
  simp [readLines_plain hcs, readLines, hfeed, readLines_feed h]

/-- The last line, without an end. -/
theorem readLines_last {cs : List Char} (hne : cs ≠ []) (hcs : ∀ c ∈ cs, eolOf c = none) :
    readLines [] [] cs = [cs] := by
  have h := readLines_plain hcs [] []
  simpa [readLines, hne] using h

/-- What has been read is in the first line. -/
theorem readLines_cur {cur : List Char} (hcur : cur ≠ []) (ends : List Eol) (cs : List Char) :
    ∃ l rest, readLines cur ends cs = (cur.reverse ++ l) :: rest := by
  induction cs generalizing cur ends with
  | nil => exact ⟨[], [], by simp [readLines, hcur]⟩
  | cons c cs ih =>
      rw [readLines]
      cases eolOf c with
      | none =>
          by_cases hends : ends = []
          · obtain ⟨l, rest, heq⟩ := ih (List.cons_ne_nil c cur) []
            exact ⟨c :: l, rest, by simp [hends, heq]⟩
          · exact ⟨[], readLines [c] [] cs, by simp [hends]⟩
      | some e =>
          by_cases he : e ∈ ends ∨ .nul ∈ ends
          · exact ⟨[], readLines [] [e] cs, by simp [he]⟩
          · obtain ⟨l, rest, heq⟩ := ih hcur (e :: ends)
            exact ⟨l, rest, by simp [he, heq]⟩

/-- A text without the end of a line begins the first line. -/
theorem readLines_prefix {cs tail : List Char} (hne : cs ≠ []) (hcs : ∀ c ∈ cs, eolOf c = none) :
    ∃ l rest, readLines [] [] (cs ++ tail) = (cs ++ l) :: rest := by
  rw [readLines_plain hcs, List.append_nil]
  have hcur : cs.reverse ≠ [] := by simpa using hne
  obtain ⟨l, rest, heq⟩ := readLines_cur hcur [] tail
  exact ⟨l, rest, by rw [heq, List.reverse_reverse]⟩

/-- No end of a line is in a line. -/
theorem eolOf_of_mem_readLines {cs : List Char} {cur : List Char} {ends : List Eol}
    (hcur : ∀ c ∈ cur, eolOf c = none) :
    ∀ line ∈ readLines cur ends cs, ∀ c ∈ line, eolOf c = none := by
  induction cs generalizing cur ends with
  | nil =>
      intro line hline c hc
      rw [readLines] at hline
      split at hline
      · cases hline
      · obtain rfl := List.mem_singleton.mp hline
        exact hcur c (List.mem_reverse.mp hc)
  | cons d cs ih =>
      intro line hline c hc
      rw [readLines] at hline
      cases hd : eolOf d with
      | none =>
          have hself : ∀ c ∈ d :: cur, eolOf c = none := by simpa [hd] using hcur
          simp only [hd] at hline
          split at hline
          · exact ih hself line hline c hc
          · obtain rfl | hrest := List.mem_cons.mp hline
            · exact hcur c (List.mem_reverse.mp hc)
            · exact ih (by simpa using hd) line hrest c hc
      | some e =>
          simp only [hd] at hline
          split at hline
          · obtain rfl | hrest := List.mem_cons.mp hline
            · exact hcur c (List.mem_reverse.mp hc)
            · exact ih (by simp) line hrest c hc
          · exact ih hcur line hline c hc

/-! ## joined lines -/

def isBlank (c : Char) : Bool := c = ' ' || c = '\t' || c = '\n' || c = '\r'

/-- A text without the blanks around it. -/
def strip (cs : List Char) : List Char :=
  ((cs.dropWhile isBlank).reverse.dropWhile isBlank).reverse

/-- A backslash that escapes nothing is the last character. -/
def endsEscaped (cs : List Char) : Bool :=
  cs.foldl (fun escaped c => !escaped && c = '\\') false

/-- The byte order mark. -/
def bom : Char := Char.ofNat 0xfeff

def isComment (line : List Char) : Bool :=
  match (line.dropWhile isBlank).head? with
  | some c => c = '#' || c = ';'
  | none => false

theorem isComment_cons {c : Char} (hblank : isBlank c = false) (hhash : c ≠ '#')
    (hsemicolon : c ≠ ';') (cs : List Char) : isComment (c :: cs) = false := by
  simp [isComment, hblank, hhash, hsemicolon]

/-- The lines so far: one that is continued, and the complete ones, the last
first. -/
structure Joiner where
  pending : Option (List Char) := none
  bomSeen : Bool := false
  done : List (List Char) := []
  deriving DecidableEq, Repr

namespace Joiner

/-- A line that is not a comment, without a byte order mark. -/
def add (j : Joiner) (line : List Char) : Joiner :=
  let text := j.pending.getD [] ++ line
  if endsEscaped text then { j with pending := some (text.dropLast ++ [' ']) }
  else { j with pending := none, done := text :: j.done }

/-- One line. -/
def step (j : Joiner) (line : List Char) : Joiner :=
  if isComment line then j
  else if !j.bomSeen && line.head? = some bom then { j with bomSeen := true }.add line.tail
  else j.add line

/-- The joined lines at the end of the file. -/
def logical (j : Joiner) : List (List Char) :=
  (match j.pending with
    | some p => p :: j.done
    | none => j.done).reverse

end Joiner

/-! ## what a line says -/

/-- `parse_line`: `none` refuses the file. -/
def parseLine (cs : List Char) : Option (List Event) :=
  match strip cs with
  | [] => some []
  | c :: rest =>
      if c = '[' then
        if rest.getLast? = some ']' then some [.header (String.ofList rest.dropLast)] else none
      else if '=' ∈ c :: rest then
        some [.assignment (String.ofList (strip ((c :: rest).takeWhile (· ≠ '='))))
          (String.ofList (strip ((c :: rest).dropWhile (· ≠ '=')).tail))]
      else some []

/-- Joined lines. -/
def parseLines : List (List Char) → Option (List Event)
  | [] => some []
  | l :: ls => do
      let events ← parseLine l
      let rest ← parseLines ls
      some (events ++ rest)

/-- A whole file. -/
def parse (text : String) : Option (List Event) :=
  parseLines ((readLines [] [] text.toList).foldl Joiner.step {}).logical

theorem parseLines_append (ls ls' : List (List Char)) :
    parseLines (ls ++ ls') = (do
      let events ← parseLines ls
      let rest ← parseLines ls'
      some (events ++ rest)) := by
  induction ls with
  | nil => cases h : parseLines ls' <;> simp [parseLines, h]
  | cons l ls ih =>
      rw [List.cons_append, parseLines, parseLines, ih]
      cases parseLine l with
      | none => rfl
      | some events =>
          cases parseLines ls with
          | none => rfl
          | some rest =>
              cases parseLines ls' with
              | none => rfl
              | some rest' => simp

theorem parseLines_append_eq_some {ls ls' : List (List Char)} {events : List Event} :
    parseLines (ls ++ ls') = some events ↔
      ∃ es es', parseLines ls = some es ∧ parseLines ls' = some es' ∧ events = es ++ es' := by
  rw [parseLines_append]
  cases parseLines ls with
  | none => simp
  | some es =>
      cases parseLines ls' with
      | none => simp
      | some es' => simp [eq_comm]

theorem parseLines_cons_eq_some {l : List Char} {ls : List (List Char)} {events : List Event} :
    parseLines (l :: ls) = some events ↔
      ∃ es es', parseLine l = some es ∧ parseLines ls = some es' ∧ events = es ++ es' := by
  rw [parseLines]
  cases parseLine l with
  | none => simp
  | some es =>
      cases parseLines ls with
      | none => simp
      | some es' => simp [eq_comm]

/-! ## blanks -/

/-- A text without the blanks after it. -/
def rstrip (cs : List Char) : List Char := (cs.reverse.dropWhile isBlank).reverse

theorem strip_eq (cs : List Char) : strip cs = rstrip (cs.dropWhile isBlank) := rfl

theorem rstrip_cons (c : Char) (cs : List Char) :
    rstrip (c :: cs) = if rstrip cs = [] ∧ isBlank c = true then [] else c :: rstrip cs := by
  rw [rstrip, List.reverse_cons, List.dropWhile_append]
  by_cases hnil : cs.reverse.dropWhile isBlank = []
  · by_cases hc : isBlank c = true
    · simp [rstrip, hnil, hc]
    · simp [rstrip, hnil, hc]
  · simp [rstrip, hnil]

theorem rstrip_rstrip (cs : List Char) : rstrip (rstrip cs) = rstrip cs := by
  induction cs with
  | nil => rfl
  | cons c cs ih =>
      rw [rstrip_cons]
      split
      · rfl
      · next h => rw [rstrip_cons, ih, if_neg h]

/-- Blanks at the end do not matter. -/
theorem strip_rstrip (cs : List Char) : strip (rstrip cs) = strip cs := by
  rw [strip_eq, strip_eq]
  induction cs with
  | nil => rfl
  | cons c cs ih =>
      rw [rstrip_cons]
      by_cases hc : isBlank c = true
      · by_cases hnil : rstrip cs = []
        · rw [hnil] at ih
          simpa [hc, hnil] using ih
        · simpa [hc, hnil] using ih
      · rw [if_neg fun h => hc h.2, List.dropWhile_cons_of_neg hc, List.dropWhile_cons_of_neg hc,
          rstrip_cons, rstrip_cons, rstrip_rstrip]

/-- Nor do blanks at the beginning. -/
theorem strip_append {blanks cs : List Char} (h : ∀ c ∈ blanks, isBlank c = true) :
    strip (blanks ++ cs) = strip cs := by
  rw [strip, List.dropWhile_append_of_pos h, strip]

theorem rstrip_append {cs ds : List Char} (h : rstrip ds ≠ []) :
    rstrip (cs ++ ds) = cs ++ rstrip ds := by
  induction cs with
  | nil => rfl
  | cons c cs ih =>
      have hne : rstrip (cs ++ ds) ≠ [] := by simp [ih, h]
      rw [List.cons_append, rstrip_cons, if_neg fun hnil => hne hnil.1, ih, List.cons_append]

theorem rstrip_eq_nil_iff {cs : List Char} : rstrip cs = [] ↔ ∀ c ∈ cs, isBlank c = true := by
  rw [rstrip, List.reverse_eq_nil_iff, List.dropWhile_eq_nil_iff]
  simp

theorem mem_dropWhile_of_not_blank {cs : List Char} {c : Char} (h : c ∈ cs)
    (hc : isBlank c = false) : c ∈ cs.dropWhile isBlank := by
  rw [← List.takeWhile_append_dropWhile (p := isBlank) (l := cs)] at h
  obtain hmem | hmem := List.mem_append.mp h
  · simp [List.mem_takeWhile_imp hmem] at hc
  · exact hmem

/-- A character that is no blank is not stripped. -/
theorem mem_strip_of_not_blank {cs : List Char} {c : Char} (h : c ∈ cs) (hc : isBlank c = false) :
    c ∈ strip cs := by
  rw [strip, List.mem_reverse]
  refine mem_dropWhile_of_not_blank ?_ hc
  exact List.mem_reverse.mpr (mem_dropWhile_of_not_blank h hc)

theorem mem_of_mem_rstrip {cs : List Char} {c : Char} (h : c ∈ rstrip cs) : c ∈ cs := by
  rw [rstrip, List.mem_reverse] at h
  exact List.mem_reverse.mp ((List.dropWhile_sublist isBlank).subset h)

theorem mem_of_mem_strip {cs : List Char} {c : Char} (h : c ∈ strip cs) : c ∈ cs :=
  (List.dropWhile_sublist isBlank).subset (mem_of_mem_rstrip h)

/-- Blanks before a character that is none are stripped, and no more. -/
theorem strip_append_cons {c : Char} (hc : isBlank c = false) (cs ds : List Char) :
    strip (cs ++ c :: ds) = cs.dropWhile isBlank ++ rstrip (c :: ds) := by
  have hrstrip : rstrip (c :: ds) ≠ [] := by
    rw [Ne, rstrip_eq_nil_iff]
    exact fun h => by simp [h c List.mem_cons_self] at hc
  have hself : (c :: ds).dropWhile isBlank = c :: ds :=
    List.dropWhile_cons_of_neg (by simp [hc])
  rw [strip_eq, List.dropWhile_append]
  split
  · next hempty =>
    rw [hself, List.isEmpty_iff.mp hempty, List.nil_append]
  · rw [rstrip_append hrstrip]

theorem length_rstrip_le (cs : List Char) : (rstrip cs).length ≤ cs.length := by
  rw [rstrip, List.length_reverse]
  exact (List.dropWhile_sublist isBlank).length_le.trans (by simp)

theorem length_strip_le (cs : List Char) : (strip cs).length ≤ cs.length :=
  (length_rstrip_le _).trans (List.dropWhile_sublist isBlank).length_le

/-! ## one directive -/

/-- A key as it stands in the file. -/
structure PlainKey (key : List Char) : Prop where
  head : ∃ c rest, key = c :: rest ∧ isBlank c = false ∧ c ≠ '['
  noEq : '=' ∉ key
  stripped : strip key = key

theorem rstrip_directive (key value : List Char) :
    rstrip (key ++ '=' :: value) = key ++ '=' :: rstrip value := by
  have heq : rstrip ('=' :: value) = '=' :: rstrip value := by
    rw [rstrip_cons, if_neg]
    rintro ⟨-, hb⟩
    simp [isBlank] at hb
  rw [rstrip_append (by simp [heq]), heq]

/-- A directive. -/
theorem parseLine_assignment {key value : List Char} (h : PlainKey key) :
    parseLine (key ++ '=' :: value) =
      some [.assignment (String.ofList key) (String.ofList (strip value))] := by
  obtain ⟨c, rest, rfl, hblank, hbracket⟩ := h.head
  have hstrip : strip (c :: rest ++ '=' :: value) = c :: rest ++ '=' :: rstrip value := by
    rw [strip_eq, List.cons_append, List.dropWhile_cons_of_neg (by simp [hblank]),
      ← List.cons_append, rstrip_directive]
  have hkey : ∀ d ∈ c :: rest, (d ≠ '=' : Bool) = true := by
    intro d hd
    have hne : d ≠ '=' := by
      rintro rfl
      exact h.noEq hd
    simpa using hne
  rw [parseLine, hstrip]
  simp only [List.cons_append, hbracket, if_false]
  rw [← List.cons_append, if_pos (by simp), List.takeWhile_append_of_pos hkey,
    List.dropWhile_append_of_pos hkey]
  simp [h.stripped, strip_rstrip]

/-- The text of a directive that is continued by another line. -/
theorem dropLast_directive {key value : List Char} (h : value ≠ []) (line : List Char) :
    (key ++ '=' :: value).dropLast ++ [' '] ++ line =
      key ++ '=' :: (value.dropLast ++ [' '] ++ line) := by
  rw [List.dropLast_append_of_ne_nil (by simp), List.dropLast_cons_of_ne_nil h]
  simp

/-- A line with an equals sign says one thing, if it is not refused. -/
theorem length_of_parseLine {cs : List Char} {events : List Event} (heq : '=' ∈ cs)
    (h : parseLine cs = some events) : events.length = 1 := by
  have hmem : '=' ∈ strip cs := mem_strip_of_not_blank heq rfl
  unfold parseLine at h
  split at h
  · next hnil =>
    rw [hnil] at hmem
    cases hmem
  · next c rest hcons =>
    rw [hcons] at hmem
    split at h
    · split at h
      · obtain rfl := Option.some.inj h
        rfl
      · cases h
    · obtain rfl := Option.some.inj h
      rfl

theorem parseLine_congr {cs ds : List Char} (h : strip cs = strip ds) :
    parseLine cs = parseLine ds := by
  rw [parseLine, parseLine, h]

/-- A line that says nothing. -/
theorem parseLine_eq_nil_iff {cs : List Char} :
    parseLine cs = some [] ↔ strip cs = [] ∨ '=' ∉ strip cs ∧ (strip cs).head? ≠ some '[' := by
  unfold parseLine
  split
  · next hnil => simp [hnil]
  · next c rest hcons =>
    rw [hcons]
    by_cases hc : c = '['
    · by_cases hclose : rest.getLast? = some ']' <;> simp [hc, hclose]
    · by_cases heq : '=' ∈ c :: rest <;> simp [hc, heq]

/-- A directive with blanks only before it. -/
theorem blank_of_parseLine {p key value : List Char} (h : PlainKey key)
    (hparse : parseLine (p ++ (key ++ '=' :: value)) =
      some [.assignment (String.ofList key) (String.ofList (strip value))]) :
    ∀ c ∈ p, isBlank c = true := by
  obtain ⟨k, krest, hkey, hblank, -⟩ := h.head
  rw [← List.dropWhile_eq_nil_iff]
  by_contra hne
  have hstrip : strip (p ++ (key ++ '=' :: value)) =
      p.dropWhile isBlank ++ (key ++ '=' :: rstrip value) := by
    rw [← rstrip_directive]
    subst hkey
    exact strip_append_cons hblank _ _
  obtain ⟨c, rest, hcons⟩ := List.exists_cons_of_ne_nil hne
  have hc : isBlank c = false := by
    have hhead := List.head_dropWhile_not isBlank hne
    simpa [hcons] using hhead
  rw [hcons] at hstrip
  rw [parseLine, hstrip] at hparse
  simp only [List.cons_append] at hparse
  by_cases hbracket : c = '['
  · rw [if_pos hbracket] at hparse
    split at hparse
    · simp at hparse
    · cases hparse
  · rw [if_neg hbracket, if_pos (by simp)] at hparse
    simp only [Option.some.injEq, List.cons.injEq, Event.assignment.injEq, String.ofList_inj,
      and_true] at hparse
    obtain ⟨hkeyEq, hvalueEq⟩ := hparse
    by_cases hmem : '=' ∈ c :: rest
    · -- the value is longer than what it is to be
      have hdrop : (c :: rest).dropWhile (· ≠ '=') ≠ [] := by
        rw [Ne, List.dropWhile_eq_nil_iff]
        exact fun hall => by simpa using hall '=' hmem
      have hvalue : strip (((c :: rest).dropWhile (· ≠ '=')).tail ++ (key ++ '=' :: rstrip value)) =
          strip value := by
        rw [← hvalueEq, ← List.cons_append, List.dropWhile_append, if_neg (by simpa using hdrop),
          List.tail_append_of_ne_nil hdrop]
      have hlength := congrArg List.length hvalue
      have hle := length_strip_le (rstrip value)
      rw [hkey, List.cons_append, strip_append_cons hblank, ← List.cons_append, ← hkey,
        rstrip_directive, ← strip_rstrip value, rstrip_rstrip] at hlength
      simp only [List.length_append, List.length_cons] at hlength
      omega
    · -- the key is longer
      have hall : ∀ d ∈ c :: rest ++ key, (d ≠ '=' : Bool) = true := by
        intro d hd
        have hne : d ≠ '=' := by
          rintro rfl
          obtain hd | hd := List.mem_append.mp hd
          · exact hmem hd
          · exact h.noEq hd
        simpa using hne
      have hself : rstrip key = key := by
        have hstripped := h.stripped
        rw [strip_eq, hkey, List.dropWhile_cons_of_neg (by simp [hblank])] at hstripped
        rw [hkey, hstripped]
      rw [← List.cons_append, ← List.append_assoc, List.takeWhile_append_of_pos hall, hkey,
        List.takeWhile_cons_of_neg (by simp), List.append_nil, strip_append_cons hblank, ← hkey,
        hself, List.dropWhile_cons_of_neg (by simp [hc])] at hkeyEq
      have hlength := congrArg List.length hkeyEq
      simp only [List.length_append, List.length_cons] at hlength
      omega

/-- The value of a directive is taken from its line. -/
theorem mem_of_mem_value {cs : List Char} {events : List Event} {key value : String}
    (h : parseLine cs = some events) (hmem : .assignment key value ∈ events) {c : Char}
    (hc : c ∈ value.toList) : c ∈ cs := by
  unfold parseLine at h
  split at h
  · obtain rfl := Option.some.inj h
    cases hmem
  · next d rest hcons =>
    split at h
    · split at h
      · obtain rfl := Option.some.inj h
        simp at hmem
      · cases h
    · split at h
      · obtain rfl := Option.some.inj h
        obtain ⟨-, rfl⟩ := Event.assignment.inj (List.mem_singleton.mp hmem)
        rw [String.toList_ofList] at hc
        have htail := (List.tail_sublist _).subset (mem_of_mem_strip hc)
        have hdrop := (List.dropWhile_sublist _).subset htail
        rw [← hcons] at hdrop
        exact mem_of_mem_strip hdrop
      · obtain rfl := Option.some.inj h
        cases hmem

/-! ## joining -/

theorem endsEscaped_append {cs ds : List Char} (h : endsEscaped cs = false) :
    endsEscaped (cs ++ ds) = endsEscaped ds := by
  rw [endsEscaped, List.foldl_append, ← endsEscaped, h, endsEscaped]

theorem endsEscaped_concat_blank (cs : List Char) : endsEscaped (cs ++ [' ']) = false := by
  simp [endsEscaped]

namespace Joiner

/-- A line that is neither a comment nor continued. -/
structure PlainLine (line : List Char) : Prop where
  notComment : isComment line = false
  noBom : line.head? ≠ some bom
  complete : endsEscaped line = false

variable {j : Joiner} {line : List Char}

/-- The text of a continued line ends in a blank. -/
def Continued (j : Joiner) : Prop := ∀ p, j.pending = some p → endsEscaped p = false

theorem Continued.withDone (h : j.Continued) (done : List (List Char)) :
    Continued { j with done := done } := h

theorem continued_step (h : j.Continued) (line : List Char) : (j.step line).Continued := by
  have hadd (j : Joiner) (line : List Char) : (j.add line).Continued := by
    intro p hp
    rw [add] at hp
    split at hp
    · rw [← Option.some.inj hp]
      exact endsEscaped_concat_blank _
    · cases hp
  rw [step]
  split
  · exact h
  · split
    · exact hadd _ _
    · exact hadd _ _

theorem continued_fold (h : j.Continued) (lines : List (List Char)) :
    (lines.foldl step j).Continued := by
  induction lines generalizing j with
  | nil => exact h
  | cons line lines ih => exact ih (continued_step h line)

theorem step_of_plain (h : PlainLine line) (hj : j.Continued) :
    j.step line = { j with pending := none, done := (j.pending.getD [] ++ line) :: j.done } := by
  have hcomplete : endsEscaped (j.pending.getD [] ++ line) = false := by
    cases hp : j.pending with
    | none => exact h.complete
    | some p =>
        rw [Option.getD_some, endsEscaped_append (hj p hp)]
        exact h.complete
  rw [step, if_neg (by simp [h.notComment]), if_neg (by simp [h.noBom]), add]
  simp [hcomplete]

theorem fold_of_plain {lines : List (List Char)} (h : ∀ line ∈ lines, PlainLine line)
    (hnone : j.pending = none) :
    lines.foldl step j = { j with done := lines.reverse ++ j.done } := by
  induction lines generalizing j with
  | nil => rfl
  | cons line lines ih =>
      have hstep := step_of_plain (h line List.mem_cons_self) (j := j) (by simp [Continued, hnone])
      rw [List.foldl_cons, hstep, ih (fun l hl => h l (List.mem_cons_of_mem _ hl)) rfl]
      simp [hnone]

/-- A line that begins with a letter, say. -/
theorem step_cons {c : Char} (hblank : isBlank c = false) (hhash : c ≠ '#') (hsemicolon : c ≠ ';')
    (hbom : c ≠ bom) (rest : List Char) : j.step (c :: rest) = j.add (c :: rest) := by
  rw [step, isComment_cons hblank hhash hsemicolon]
  simp [hbom]

/-- The lines before stay where they are. -/
theorem step_done (j : Joiner) (before : List (List Char)) (line : List Char) :
    { j with done := j.done ++ before }.step line =
      { j.step line with done := (j.step line).done ++ before } := by
  have hadd (j : Joiner) (line : List Char) : { j with done := j.done ++ before }.add line =
      { j.add line with done := (j.add line).done ++ before } := by
    by_cases hescaped : endsEscaped (j.pending.getD [] ++ line) = true
    · simp [add, hescaped]
    · simp [add, hescaped]
  rw [step, step]
  split
  · rfl
  · split
    · exact hadd { j with bomSeen := true } line.tail
    · exact hadd j line

theorem fold_done (j : Joiner) (before : List (List Char)) (lines : List (List Char)) :
    lines.foldl step { j with done := j.done ++ before } =
      { lines.foldl step j with done := (lines.foldl step j).done ++ before } := by
  induction lines generalizing j with
  | nil => rfl
  | cons line lines ih => rw [List.foldl_cons, List.foldl_cons, step_done, ih]

/-- The first joined line, complete or not, is a directive of this key. -/
def Begins (key : List Char) (j : Joiner) : Prop :=
  (∃ value rest, j.done.reverse = (key ++ '=' :: value) :: rest) ∨
    j.done = [] ∧ ∃ value, j.pending = some (key ++ '=' :: value)

/-- The text of a directive, complete or not. -/
theorem begins_add {key : List Char} (value : List Char) (hdone : j.done = [])
    (htext : j.pending.getD [] ++ line = key ++ '=' :: value) : (j.add line).Begins key := by
  rw [add, htext]
  by_cases hescaped : endsEscaped (key ++ '=' :: value) = true
  · have hvalue : value ≠ [] := by
      rintro rfl
      simp [endsEscaped] at hescaped
    refine Or.inr ⟨by simp [hescaped, hdone], value.dropLast ++ [' '], ?_⟩
    simp [hescaped, List.dropLast_append_of_ne_nil, List.dropLast_cons_of_ne_nil hvalue]
  · exact Or.inl ⟨value, [], by simp [hescaped, hdone]⟩

theorem begins_step {key : List Char} (h : j.Begins key) (line : List Char) :
    (j.step line).Begins key := by
  have hadd {j : Joiner} (h : j.Begins key) (line : List Char) : (j.add line).Begins key := by
    obtain ⟨value, rest, hdone⟩ | ⟨hdone, value, hpending⟩ := h
    · rw [add]
      by_cases hescaped : endsEscaped (j.pending.getD [] ++ line) = true
      · exact Or.inl ⟨value, rest, by simp [hescaped, hdone]⟩
      · exact Or.inl ⟨value, rest ++ [j.pending.getD [] ++ line], by simp [hescaped, hdone]⟩
    · exact begins_add (value ++ line) hdone (by simp [hpending])
  rw [step]
  split
  · exact h
  · split
    · exact hadd (j := { j with bomSeen := true }) h line.tail
    · exact hadd h line

theorem begins_fold {key : List Char} (h : j.Begins key) (lines : List (List Char)) :
    (lines.foldl step j).Begins key := by
  induction lines generalizing j with
  | nil => exact h
  | cons line lines ih => exact ih (begins_step h line)

/-- What holds of every character so far. -/
structure Within (q : Char → Prop) (j : Joiner) : Prop where
  pending : ∀ p, j.pending = some p → ∀ c ∈ p, q c
  done : ∀ l ∈ j.done, ∀ c ∈ l, q c

/-- Joining adds blanks only. -/
theorem within_step {q : Char → Prop} (hblank : q ' ') (hline : ∀ c ∈ line, q c)
    (h : j.Within q) : (j.step line).Within q := by
  have hadd {j : Joiner} {line : List Char} (hline : ∀ c ∈ line, q c) (h : j.Within q) :
      (j.add line).Within q := by
    have htext : ∀ c ∈ j.pending.getD [] ++ line, q c := by
      intro c hc
      obtain hc | hc := List.mem_append.mp hc
      · cases hp : j.pending with
        | none => simp [hp] at hc
        | some p => exact h.pending p hp c (by simpa [hp] using hc)
      · exact hline c hc
    rw [add]
    split
    · refine ⟨fun p hp c hc => ?_, h.done⟩
      rw [← Option.some.inj hp] at hc
      obtain hc | hc := List.mem_append.mp hc
      · exact htext c (List.dropLast_subset _ hc)
      · rw [List.mem_singleton.mp hc]
        exact hblank
    · refine ⟨fun p hp => (by cases hp), fun l hl => ?_⟩
      obtain rfl | hl := List.mem_cons.mp hl
      · exact htext
      · exact h.done l hl
  rw [step]
  split
  · exact h
  · split
    · exact hadd (fun c hc => hline c (List.mem_of_mem_tail hc)) ⟨h.pending, h.done⟩
    · exact hadd hline h

theorem within_fold {q : Char → Prop} (hblank : q ' ') {lines : List (List Char)}
    (hlines : ∀ line ∈ lines, ∀ c ∈ line, q c) (h : j.Within q) :
    (lines.foldl step j).Within q := by
  induction lines generalizing j with
  | nil => exact h
  | cons line lines ih =>
      exact ih (fun l hl => hlines l (List.mem_cons_of_mem _ hl))
        (within_step hblank (hlines line List.mem_cons_self) h)

theorem Within.logical {q : Char → Prop} (h : j.Within q) : ∀ l ∈ j.logical, ∀ c ∈ l, q c := by
  intro l hl
  rw [Joiner.logical, List.mem_reverse] at hl
  cases hp : j.pending with
  | none =>
      rw [hp] at hl
      exact h.done l hl
  | some p =>
      rw [hp] at hl
      obtain rfl | hl := List.mem_cons.mp hl
      · exact h.pending l hp
      · exact h.done l hl

end Joiner

theorem mem_of_parseLines {ls : List (List Char)} {events : List Event} {e : Event}
    (h : parseLines ls = some events) (he : e ∈ events) :
    ∃ l ∈ ls, ∃ es, parseLine l = some es ∧ e ∈ es := by
  induction ls generalizing events with
  | nil =>
      obtain rfl := Option.some.inj h
      cases he
  | cons l ls ih =>
      obtain ⟨es, es', hl, hls, rfl⟩ := parseLines_cons_eq_some.mp h
      obtain he | he := List.mem_append.mp he
      · exact ⟨l, List.mem_cons_self, es, hl, he⟩
      · obtain ⟨l', hl', hrest⟩ := ih hls he
        exact ⟨l', List.mem_cons_of_mem _ hl', hrest⟩

/-- No value of a file has the end of a line in it. -/
theorem eolOf_of_parse {text : String} {events : List Event} {key value : String}
    (h : parse text = some events) (hmem : .assignment key value ∈ events) :
    ∀ c ∈ value.toList, eolOf c = none := by
  intro c hc
  obtain ⟨l, hl, es, hes, hmem⟩ := mem_of_parseLines h hmem
  have hlines : ∀ line ∈ readLines [] [] text.toList, ∀ c ∈ line, eolOf c = none :=
    eolOf_of_mem_readLines (by simp)
  have hstart : Joiner.Within (fun c => eolOf c = none) {} :=
    ⟨fun p hp => (by cases hp), fun l hl => (by cases hl)⟩
  have hwithin := Joiner.within_fold (q := fun c => eolOf c = none) rfl hlines hstart
  exact hwithin.logical l hl c (mem_of_mem_value hes hmem hc)

end UnitConf
