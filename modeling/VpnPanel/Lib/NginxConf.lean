import Mathlib.Data.List.Basic

/-!
# VpnPanel.Lib.NginxConf

How nginx reads a configuration file: the states of `ngx_conf_read_token` and
the depth that `ngx_conf_parse` keeps.  What the reader hands to the handlers
of directives is a list of `Event`s; `read` is `none` where nginx reports a
syntax error.  Limits on the length of a word are not modelled.

* `step` — one character;
* `read` — a whole file;
* `feed_pair` — a directive of two plain words is read as that directive.
-/

namespace NginxConf

/-- What the reader has found, in order. -/
inductive Event where
  | directive (args : List String)
  | blockStart (args : List String)
  | blockEnd
  deriving DecidableEq, Repr

/-- What the last character of a word means for the next one. -/
inductive Last where
  | other | backslash | dollar
  deriving DecidableEq, Repr

/-- Where the reader stands.  The characters of a word are kept in reverse,
with its escapes. -/
inductive Mode where
  | space
  | comment
  | word (quote : Option Char) (raw : List Char) (last : Last)
  /-- After a closing quote. -/
  | needSpace
  deriving DecidableEq, Repr

/-- The reader: the words of the directive it is in, the blocks that are open
and what it has found, the last first. -/
structure State where
  mode : Mode := .space
  args : List String := []
  depth : Nat := 0
  events : List Event := []
  deriving DecidableEq, Repr

def doubleQuote : Char := Char.ofNat 34

def singleQuote : Char := Char.ofNat 39

def backslash : Char := Char.ofNat 92

def openBrace : Char := Char.ofNat 123

def closeBrace : Char := Char.ofNat 125

def isBlank (c : Char) : Bool := c = ' ' || c = '\t' || c = '\n' || c = '\r'

/-- The escapes a word may hold. -/
def unescape : List Char → List Char
  | [] => []
  | [c] => [c]
  | c :: d :: cs =>
      if c = backslash then
        if d = doubleQuote || d = singleQuote || d = backslash then d :: unescape cs
        else if d = 't' then '\t' :: unescape cs
        else if d = 'r' then '\r' :: unescape cs
        else if d = 'n' then '\n' :: unescape cs
        else c :: unescape (d :: cs)
      else c :: unescape (d :: cs)

namespace State

/-- The end of a word. -/
def endWord (s : State) (mode : Mode) (raw : List Char) : State :=
  { s with mode := mode, args := s.args ++ [String.ofList (unescape raw.reverse)] }

/-- A semicolon. -/
def endDirective (s : State) : Option State :=
  if s.args = [] then none
  else some { s with mode := .space, args := [], events := .directive s.args :: s.events }

/-- An opening brace. -/
def startBlock (s : State) : Option State :=
  if s.args = [] then none
  else some { s with
    mode := .space, args := [], depth := s.depth + 1, events := .blockStart s.args :: s.events }

/-- A closing brace. -/
def endBlock (s : State) : Option State :=
  if s.args = [] ∧ s.depth ≠ 0 then
    some { s with depth := s.depth - 1, events := .blockEnd :: s.events }
  else none

/-- A character between two words. -/
def stepSpace (s : State) (c : Char) : Option State :=
  if isBlank c then some s
  else if c = ';' then s.endDirective
  else if c = openBrace then s.startBlock
  else if c = closeBrace then s.endBlock
  else if c = '#' then some { s with mode := .comment }
  else if c = backslash then some { s with mode := .word none [c] .backslash }
  else if c = doubleQuote || c = singleQuote then some { s with mode := .word (some c) [] .other }
  else if c = '$' then some { s with mode := .word none [c] .dollar }
  else some { s with mode := .word none [c] .other }

/-- A character in a word. -/
def stepWord (s : State) (quote : Option Char) (raw : List Char) (last : Last) (c : Char) :
    Option State :=
  if last = .backslash then some { s with mode := .word quote (c :: raw) .other }
  else if last = .dollar && c = openBrace then
    some { s with mode := .word quote (c :: raw) .dollar }
  else if c = backslash then some { s with mode := .word quote (c :: raw) .backslash }
  else if c = '$' then some { s with mode := .word quote (c :: raw) .dollar }
  else match quote with
    | some q =>
        if c = q then some (s.endWord .needSpace raw)
        else some { s with mode := .word quote (c :: raw) .other }
    | none =>
        if isBlank c then some (s.endWord .space raw)
        else if c = ';' then (s.endWord .space raw).endDirective
        else if c = openBrace then (s.endWord .space raw).startBlock
        else some { s with mode := .word quote (c :: raw) .other }

/-- A character after a closing quote. -/
def stepNeedSpace (s : State) (c : Char) : Option State :=
  if isBlank c then some { s with mode := .space }
  else if c = ';' then s.endDirective
  else if c = openBrace then s.startBlock
  else if c = ')' then some { s with mode := .word none [c] .other }
  else none

end State

/-- One character. -/
def step (s : State) (c : Char) : Option State :=
  match s.mode with
  | .space => s.stepSpace c
  | .comment => some (if c = '\n' then { s with mode := .space } else s)
  | .word quote raw last => s.stepWord quote raw last c
  | .needSpace => s.stepNeedSpace c

/-- The end of the file: no directive and no block may be open. -/
def State.finish (s : State) : Option (List Event) :=
  if (s.mode = .space ∨ s.mode = .comment) ∧ s.args = [] ∧ s.depth = 0 then
    some s.events.reverse
  else none

/-- A text. -/
def feed (s : State) (text : String) : Option State := text.toList.foldlM step s

/-- A whole file. -/
def read (text : String) : Option (List Event) := (feed {} text).bind State.finish

theorem feed_append (s : State) (text text' : String) :
    feed s (text ++ text') = (feed s text).bind fun s => feed s text' := by
  rw [feed, String.toList_append, List.foldlM_append]
  rfl

/-! ## plain words -/

/-- A character that stands for itself, wherever it is in a word. -/
def isPlain (c : Char) : Bool :=
  !(isBlank c) && c ≠ ';' && c ≠ openBrace && c ≠ closeBrace && c ≠ '#' && c ≠ backslash &&
    c ≠ doubleQuote && c ≠ singleQuote && c ≠ '$'

/-- A word that is read as it stands. -/
def PlainWord (w : String) : Prop := w ≠ "" ∧ ∀ c ∈ w.toList, isPlain c = true

theorem unescape_of_plain {cs : List Char} (h : ∀ c ∈ cs, isPlain c = true) : unescape cs = cs := by
  induction cs with
  | nil => rfl
  | cons c cs ih =>
      have hc : c ≠ backslash := by
        have hplain := h c List.mem_cons_self
        simp only [isPlain, Bool.and_eq_true, decide_eq_true_eq] at hplain
        grind
      have hrest := ih fun d hd => h d (List.mem_cons_of_mem _ hd)
      cases cs with
      | nil => rfl
      | cons d cs => rw [unescape, if_neg hc, hrest]

variable {s : State}

theorem step_word_of_plain {raw : List Char} {c : Char}
    (hmode : s.mode = .word none raw .other) (h : isPlain c = true) :
    step s c = some { s with mode := .word none (c :: raw) .other } := by
  simp only [isPlain, Bool.and_eq_true, Bool.not_eq_true', decide_eq_true_eq] at h
  obtain ⟨⟨⟨⟨⟨⟨⟨⟨hblank, hsemi⟩, hopen⟩, hclose⟩, hhash⟩, hback⟩, hdouble⟩, hsingle⟩, hdollar⟩ := h
  rw [step, hmode]
  simp [State.stepWord, hblank, hsemi, hopen, hback, hdollar]

theorem step_space_of_plain {c : Char} (hmode : s.mode = .space) (h : isPlain c = true) :
    step s c = some { s with mode := .word none [c] .other } := by
  simp only [isPlain, Bool.and_eq_true, Bool.not_eq_true', decide_eq_true_eq] at h
  obtain ⟨⟨⟨⟨⟨⟨⟨⟨hblank, hsemi⟩, hopen⟩, hclose⟩, hhash⟩, hback⟩, hdouble⟩, hsingle⟩, hdollar⟩ := h
  rw [step, hmode]
  simp [State.stepSpace, hblank, hsemi, hopen, hclose, hhash, hback, hdouble, hsingle, hdollar]

/-- The rest of a plain word. -/
theorem fold_plain {raw cs : List Char} (hmode : s.mode = .word none raw .other)
    (h : ∀ c ∈ cs, isPlain c = true) :
    cs.foldlM step s = some { s with mode := .word none (cs.reverse ++ raw) .other } := by
  induction cs generalizing s raw with
  | nil =>
      obtain ⟨mode, args, depth, events⟩ := s
      cases hmode
      rfl
  | cons c cs ih =>
      rw [List.foldlM_cons, step_word_of_plain hmode (h c List.mem_cons_self)]
      have hrest := ih (s := { s with mode := .word none (c :: raw) .other }) rfl
        fun d hd => h d (List.mem_cons_of_mem _ hd)
      simpa using hrest

/-- A plain word after a blank. -/
theorem fold_word {w : String} (hmode : s.mode = .space) (h : PlainWord w) :
    w.toList.foldlM step s = some { s with mode := .word none w.toList.reverse .other } := by
  obtain ⟨hne, hplain⟩ := h
  cases hw : w.toList with
  | nil => exact absurd (String.toList_eq_nil_iff.mp hw) hne
  | cons c cs =>
      rw [hw] at hplain
      rw [List.foldlM_cons, step_space_of_plain hmode (hplain c List.mem_cons_self)]
      have hrest := fold_plain (s := { s with mode := .word none [c] .other }) rfl
        fun d hd => hplain d (List.mem_cons_of_mem _ hd)
      simpa using hrest

/-- A plain word and a blank. -/
theorem fold_word_blank {w : String} (hmode : s.mode = .space) (h : PlainWord w) :
    (w.toList ++ [' ']).foldlM step s = some { s with args := s.args ++ [w] } := by
  rw [List.foldlM_append, fold_word hmode h]
  simp [step, State.stepWord, State.endWord, isBlank, unescape_of_plain h.2, backslash, hmode]

/-- A plain word and a semicolon. -/
theorem fold_word_semicolon {w : String} (hmode : s.mode = .space) (h : PlainWord w) :
    (w.toList ++ [';']).foldlM step s =
      some { s with args := [], events := .directive (s.args ++ [w]) :: s.events } := by
  rw [List.foldlM_append, fold_word hmode h]
  simp [step, State.stepWord, State.endWord, State.endDirective, isBlank, unescape_of_plain h.2,
    backslash, hmode]

/-- A comment up to the end of its line. -/
theorem fold_comment {cs : List Char} (hmode : s.mode = .comment) (h : '\n' ∉ cs) :
    (cs ++ ['\n']).foldlM step s = some { s with mode := .space } := by
  induction cs with
  | nil => simp [step, hmode]
  | cons c cs ih =>
      obtain ⟨hc, hcs⟩ : '\n' ≠ c ∧ '\n' ∉ cs := by simpa using h
      rw [List.cons_append, List.foldlM_cons, step, hmode]
      simpa [hc.symm] using ih hcs

/-! ## lines -/

/-- A line that is a comment. -/
theorem feed_comment {text : String} (hmode : s.mode = .space) (h : '\n' ∉ text.toList) :
    feed s ("#" ++ text ++ "\n") = some s := by
  have hsplit : ("#" ++ text ++ "\n").toList = '#' :: (text.toList ++ ['\n']) := by simp
  have hstart : step s '#' = some { s with mode := .comment } := by
    rw [step, hmode]
    rfl
  rw [feed, hsplit, List.foldlM_cons, hstart]
  have hrest := fold_comment (s := { s with mode := .comment }) rfl h
  obtain ⟨mode, args, depth, events⟩ := s
  cases hmode
  exact hrest

/-- A directive of two plain words. -/
theorem feed_pair {k v : String} (hmode : s.mode = .space) (hargs : s.args = [])
    (hk : PlainWord k) (hv : PlainWord v) :
    feed s (k ++ " " ++ v ++ ";") = some { s with events := .directive [k, v] :: s.events } := by
  have hsplit : (k ++ " " ++ v ++ ";").toList = (k.toList ++ [' ']) ++ (v.toList ++ [';']) := by
    simp
  rw [feed, hsplit, List.foldlM_append, fold_word_blank hmode hk]
  have hrest := fold_word_semicolon (s := { s with args := s.args ++ [k] }) hmode hv
  simpa [hargs] using hrest

end NginxConf
