import Mathlib.Data.List.Basic
import Mathlib.Data.List.Infix

/-!
# VpnPanel.Lib.FileTree

Directories, files and symbolic links, and two ways to follow a path in them.
The kernel needs every name but the last to lead to a directory.
`realpath` goes on without what is missing, and takes a dot-dot part
from the names.  A `Place` is the names that lead to it from the root, the
innermost first.

* `resolve_of_place` — where the kernel gets to, `realpath` gets to;
* `lookup_replace_iff` — what the kernel finds once a file was written, by what
  was there before;
* `lookup_replace` — the files that were found are still found.
-/

namespace FileTree

abbrev Place := List String

/-- A path without empty and dot parts. -/
structure Path where
  absolute : Bool
  parts : List String
  deriving DecidableEq, Repr

namespace Path

/-- `Path(text)`. -/
def parse (text : String) : Path where
  absolute := text.toList.head? = some '/'
  parts := ((text.toList.splitOn '/').filter fun p => p ≠ [] ∧ p ≠ ['.']).map String.ofList

/-- `p / q`. -/
def join (p q : Path) : Path := if q.absolute then q else ⟨p.absolute, p.parts ++ q.parts⟩

/-- `path.name`. -/
def name (p : Path) : String := p.parts.getLastD ""

end Path

/-- `suffix` of a name: from its last dot on, unless the name starts or ends with
it. -/
def suffix (name : String) : String :=
  let extension := (name.toList.reverse.takeWhile (· ≠ '.')).reverse
  if extension ≠ [] ∧ extension.length + 1 < name.toList.length then
    String.ofList ('.' :: extension)
  else ""

inductive Node where
  | dir
  | file (text : String)
  | link (target : Path)
  deriving DecidableEq, Repr

/-- Every node stands in a directory. -/
structure Tree where
  node : Place → Option Node
  root : node [] = some .dir
  parent : ∀ name place, node (name :: place) ≠ none → node place = some .dir

/-- What a path can go on from: a directory, or a link to its target. -/
inductive Turn where
  | into
  | follow (target : Path)
  deriving DecidableEq, Repr

def Tree.turn (t : Tree) (q : Place) : Option Turn :=
  match t.node q with
  | some .dir => some .into
  | some (.link target) => some (.follow target)
  | _ => none

def Tree.file? (t : Tree) (q : Place) : Option String :=
  match t.node q with
  | some (.file text) => some text
  | _ => none

/-! ## following a path -/

/-- Where the parts of a path lead before the next link. -/
inductive Stop where
  | reached (place : Place)
  | link (place : Place) (parts : List String)
  | missing
  deriving DecidableEq, Repr

variable {turn turn' : Place → Option Turn} {strict : Bool}

/-- The parts up to a link.  With `strict` only the last one may lead to
something that is no directory. -/
def steps (turn : Place → Option Turn) (strict : Bool) : Place → List String → Stop
  | d, [] => .reached d
  | d, p :: ps =>
      if p = ".." then steps turn strict d.tail ps
      else match turn (p :: d) with
        | some .into => steps turn strict (p :: d) ps
        | some (.follow target) => .link (if target.absolute then [] else d) (target.parts ++ ps)
        | none => if strict ∧ ps ≠ [] then .missing else steps turn strict (p :: d) ps

/-- The parts, through at most `links` links. -/
def follow (turn : Place → Option Turn) (strict : Bool) (links : Nat) (d : Place)
    (ps : List String) : Option Place :=
  match steps turn strict d ps, links with
  | .reached q, _ => some q
  | .link d' ps', links + 1 => follow turn strict links d' ps'
  | _, _ => none

/-- What paths are read with: the working directory, the links the kernel follows
and how many more `realpath` does. -/
structure World where
  cwd : Place
  links : Nat
  moreLinks : Nat

namespace World

variable (w : World)

def start (p : Path) : Place := if p.absolute then [] else w.cwd

/-- The place a path leads the kernel to, with or without a file there. -/
def place (turn : Place → Option Turn) (p : Path) : Option Place :=
  follow turn true w.links (w.start p) p.parts

/-- The file a path leads to. -/
def lookup (t : Tree) (p : Path) : Option Place :=
  (w.place t.turn p).filter fun q => (t.file? q).isSome

/-- `path.resolve()`; `none` is a loop. -/
def resolve (t : Tree) (p : Path) : Option Place :=
  follow t.turn false (w.links + w.moreLinks) (w.start p) p.parts

end World

theorem steps_lax {d : Place} {ps : List String} (h : steps turn true d ps ≠ .missing) :
    steps turn false d ps = steps turn true d ps := by
  induction ps generalizing d with
  | nil => rfl
  | cons p ps ih =>
      unfold steps at h ⊢
      by_cases hp : p = ".."
      · rw [if_pos hp] at h
        rw [if_pos hp, if_pos hp, ih h]
      · rw [if_neg hp] at h
        rw [if_neg hp, if_neg hp]
        cases hturn : turn (p :: d) with
        | none =>
            rw [hturn] at h
            by_cases hps : ps = []
            · subst hps
              rfl
            · simp [hps] at h
        | some next =>
            rw [hturn] at h
            cases next with
            | into => exact ih h
            | follow target => rfl

theorem follow_reached {links : Nat} {d q : Place} {ps : List String}
    (h : steps turn strict d ps = .reached q) : follow turn strict links d ps = some q := by
  unfold follow
  rw [h]

/-- Where a path was followed to, at once or after a link. -/
theorem follow_cases {links : Nat} {d q : Place} {ps : List String}
    (h : follow turn strict links d ps = some q) :
    steps turn strict d ps = .reached q ∨
      ∃ d' ps' fewer, steps turn strict d ps = .link d' ps' ∧ links = fewer + 1 ∧
        follow turn strict fewer d' ps' = some q := by
  unfold follow at h
  cases hsteps : steps turn strict d ps with
  | reached q' =>
      rw [hsteps] at h
      exact Or.inl (by rw [Option.some.inj h])
  | missing =>
      rw [hsteps] at h
      cases h
  | link d' ps' =>
      rw [hsteps] at h
      cases links with
      | zero => cases h
      | succ fewer => exact Or.inr ⟨d', ps', fewer, rfl, rfl, h⟩

theorem follow_link {links : Nat} {d d' : Place} {ps ps' : List String}
    (h : steps turn strict d ps = .link d' ps') :
    follow turn strict (links + 1) d ps = follow turn strict links d' ps' := by
  conv_lhs => unfold follow
  rw [h]

theorem follow_lax {links : Nat} (more : Nat) {d q : Place} {ps : List String}
    (h : follow turn true links d ps = some q) :
    follow turn false (links + more) d ps = some q := by
  induction links generalizing d ps with
  | zero =>
      obtain hreached | ⟨_, _, fewer, _, hlinks, _⟩ := follow_cases h
      · have hlax := steps_lax (by rw [hreached]; simp)
        rw [hreached] at hlax
        exact follow_reached hlax
      · cases hlinks
  | succ links ih =>
      obtain hreached | ⟨d', ps', fewer, hlink, hlinks, hrest⟩ := follow_cases h
      · have hlax := steps_lax (by rw [hreached]; simp)
        rw [hreached] at hlax
        exact follow_reached hlax
      · obtain rfl := Nat.succ.inj hlinks
        have hlax := steps_lax (by rw [hlink]; simp)
        rw [hlink] at hlax
        have hsucc : links + 1 + more = (links + more) + 1 := by omega
        rw [hsucc, follow_link hlax]
        exact ih hrest

variable {w : World} {t : Tree} {p : Path} {q : Place}

/-- **Where the kernel gets to**, `realpath` gets to. -/
theorem resolve_of_place (h : w.place t.turn p = some q) : w.resolve t p = some q :=
  follow_lax w.moreLinks h

theorem lookup_eq_some_iff :
    w.lookup t p = some q ↔ w.place t.turn p = some q ∧ (t.file? q).isSome = true := by
  rw [World.lookup, Option.filter_eq_some_iff]

/-! ## writing a file -/

/-- With the directories above a place. -/
def withDirs (turn : Place → Option Turn) (q : Place) (q' : Place) : Option Turn :=
  if q' <:+ q ∧ q' ≠ q then some .into else turn q'

/-- Whether a file can be put at a place: nothing but a file stands there, and
the directories above it exist or can be made. -/
structure Tree.Writable (t : Tree) (q : Place) : Prop where
  turn : t.turn q = none
  above : ∀ q', q' <:+ q → q' ≠ q → t.node q' = none ∨ t.node q' = some .dir

/-- A file at a place, and the directories above it. -/
def Tree.replace (t : Tree) (q : Place) (text : String) (h : t.Writable q) : Tree where
  node q' :=
    if q' = q then some (.file text) else if q' <:+ q then some .dir else t.node q'
  root := by
    by_cases hq : [] = q
    · -- the root is a directory, so no file can be put there
      have hroot := h.turn
      rw [← hq, Tree.turn, t.root] at hroot
      cases hroot
    · rw [if_neg hq, if_pos List.nil_suffix]
  parent name place hnode := by
    have hsuffix : place <:+ name :: place := List.suffix_cons name place
    by_cases hq : place = q
    · -- nothing stands below what is no directory
      exfalso
      subst hq
      have hlong (hle : name :: place <:+ place) : False := by
        have hlen := hle.length_le
        rw [List.length_cons] at hlen
        omega
      have hself : name :: place ≠ place := List.cons_ne_self name place
      rw [if_neg hself, if_neg hlong] at hnode
      have hturn := h.turn
      rw [Tree.turn, t.parent name place hnode] at hturn
      cases hturn
    · rw [if_neg hq]
      by_cases habove : place <:+ q
      · rw [if_pos habove]
      · have hname : ¬ name :: place <:+ q := fun hs => habove (hsuffix.trans hs)
        have hne : name :: place ≠ q := fun heq => habove (heq ▸ hsuffix)
        rw [if_neg hne, if_neg hname] at hnode
        rw [if_neg habove]
        exact t.parent name place hnode

variable {text : String} {h : t.Writable q} {q' : Place}

theorem turn_replace : (t.replace q text h).turn = withDirs t.turn q := by
  funext q'
  unfold Tree.turn Tree.replace withDirs
  by_cases hq : q' = q
  · subst hq
    have hturn := h.turn
    rw [Tree.turn] at hturn
    simp [hturn]
  · by_cases habove : q' <:+ q
    · simp [hq, habove]
    · simp [hq, habove]

theorem file?_replace_self : (t.replace q text h).file? q = some text := by
  simp [Tree.file?, Tree.replace]

theorem file?_replace_of_ne (hq : q' ≠ q) : (t.replace q text h).file? q' = t.file? q' := by
  unfold Tree.file? Tree.replace
  by_cases habove : q' <:+ q
  · obtain hnone | hdir := h.above q' habove hq
    · simp [hq, habove, hnone]
    · simp [hq, habove, hdir]
  · simp [hq, habove]

/-- **What is found once a file was written**, by what was there before. -/
theorem lookup_replace_iff :
    w.lookup (t.replace q text h) p = some q' ↔
      w.place (withDirs t.turn q) p = some q' ∧ (q' = q ∨ (t.file? q').isSome = true) := by
  rw [lookup_eq_some_iff, turn_replace]
  refine and_congr_right fun _ => ?_
  by_cases hq : q' = q
  · subst hq
    simp [file?_replace_self]
  · rw [file?_replace_of_ne hq, or_iff_right hq]

/-- More directories do not change where a path leads, unless that is one of
them. -/
theorem steps_of_le (hle : ∀ d next, turn d = some next → turn' d = some next) {d : Place}
    {ps : List String} {stop : Stop} (hstop : steps turn true d ps = stop) (hne : stop ≠ .missing)
    (hq : ∀ q, stop = .reached q → turn' q = none) : steps turn' true d ps = stop := by
  induction ps generalizing d with
  | nil => exact hstop
  | cons p ps ih =>
      unfold steps at hstop ⊢
      by_cases hp : p = ".."
      · rw [if_pos hp] at hstop ⊢
        exact ih hstop
      · rw [if_neg hp] at hstop ⊢
        cases hturn : turn (p :: d) with
        | some next =>
            rw [hturn] at hstop
            rw [hle _ _ hturn]
            cases next with
            | into => exact ih hstop
            | follow target => exact hstop
        | none =>
            rw [hturn] at hstop
            by_cases hps : ps = []
            · subst hps
              have hlast := hq (p :: d) (by rw [← hstop]; rfl)
              rw [hlast]
              exact hstop
            · rw [← hstop] at hne
              simp [hps] at hne

theorem follow_of_le (hle : ∀ d next, turn d = some next → turn' d = some next) {links : Nat}
    {d q : Place} {ps : List String} (hq : turn' q = none)
    (hfollow : follow turn true links d ps = some q) : follow turn' true links d ps = some q := by
  induction links generalizing d ps with
  | zero =>
      obtain hreached | ⟨_, _, fewer, _, hlinks, _⟩ := follow_cases hfollow
      · refine follow_reached (steps_of_le hle hreached (by simp) fun q' hq' => ?_)
        rw [← Stop.reached.inj hq', hq]
      · cases hlinks
  | succ links ih =>
      obtain hreached | ⟨d', ps', fewer, hlink, hlinks, hrest⟩ := follow_cases hfollow
      · refine follow_reached (steps_of_le hle hreached (by simp) fun q' hq' => ?_)
        rw [← Stop.reached.inj hq', hq]
      · obtain rfl := Nat.succ.inj hlinks
        have hlink' := steps_of_le hle hlink (by simp) (by simp)
        rw [follow_link hlink']
        exact ih hrest

theorem turn_eq_none_of_file? (hfile : (t.file? q).isSome = true) : t.turn q = none := by
  unfold Tree.file? at hfile
  unfold Tree.turn
  cases hnode : t.node q with
  | none => rfl
  | some node => cases node <;> simp_all

/-- The directories above a writable place replace no directory and no link. -/
theorem withDirs_of_turn (h : t.Writable q) {d : Place} {next : Turn}
    (hturn : t.turn d = some next) : withDirs t.turn q d = some next := by
  unfold withDirs
  split
  · rename_i habove
    obtain hnone | hdir := h.above d habove.1 habove.2
    · simp [Tree.turn, hnone] at hturn
    · simpa [Tree.turn, hdir] using hturn
  · exact hturn

/-- **The files that were found** are still found. -/
theorem lookup_replace (hlookup : w.lookup t p = some q') :
    w.lookup (t.replace q text h) p = some q' := by
  obtain ⟨hplace, hfile⟩ := lookup_eq_some_iff.mp hlookup
  refine lookup_replace_iff.mpr ⟨?_, Or.inr hfile⟩
  have hle : ∀ d next, t.turn d = some next → withDirs t.turn q d = some next :=
    fun d next hturn => withDirs_of_turn h hturn
  have hlast : withDirs t.turn q q' = none := by
    by_cases hq : q' = q
    · rw [hq, withDirs, if_neg (by simp), h.turn]
    · have hkept := turn_eq_none_of_file? (t := t.replace q text h) (q := q')
      rw [turn_replace] at hkept
      exact hkept (by rw [file?_replace_of_ne hq, hfile])
  exact follow_of_le hle hlast hplace

/-! ## paths without dot-dot parts -/

def NoDots (ps : List String) : Prop := ∀ p ∈ ps, p ≠ ".."

/-- Nothing stands below what is no directory. -/
theorem node_below {d : Place} (hd : t.node d ≠ some .dir) (names : List String)
    (hne : names ≠ []) : t.node (names ++ d) = none := by
  induction names with
  | nil => exact absurd rfl hne
  | cons name names ih =>
      by_contra hnode
      have hparent := t.parent name (names ++ d) hnode
      cases names with
      | nil => exact hd hparent
      | cons name' names =>
          rw [ih (by simp)] at hparent
          cases hparent

/-- Without directories `realpath` appends the names. -/
theorem steps_below {d : Place} {ps : List String} (hps : NoDots ps)
    (hd : t.node d ≠ some .dir) : steps t.turn false d ps = .reached (ps.reverse ++ d) := by
  induction ps generalizing d with
  | nil => rfl
  | cons p ps ih =>
      obtain ⟨hp, hps⟩ := List.forall_mem_cons.mp hps
      have hnode : t.node (p :: d) = none := node_below hd [p] (by simp)
      have hturn : t.turn (p :: d) = none := by simp [Tree.turn, hnode]
      unfold steps
      rw [if_neg hp, hturn]
      simp only [Bool.false_eq_true, false_and, if_false]
      rw [ih hps (by simp [hnode])]
      simp

/-- With the directories above a place the kernel gets there. -/
theorem steps_withDirs_below (h : t.turn q = none) {d : Place} {ps : List String}
    (hps : NoDots ps) (hq : q = ps.reverse ++ d) :
    steps (withDirs t.turn q) true d ps = .reached q := by
  induction ps generalizing d with
  | nil => rw [hq]; rfl
  | cons p ps ih =>
      obtain ⟨hp, hps⟩ := List.forall_mem_cons.mp hps
      have hq' : q = ps.reverse ++ p :: d := by simp [hq]
      unfold steps
      rw [if_neg hp]
      by_cases hnil : ps = []
      · subst hnil
        have hlast : withDirs t.turn q (p :: d) = none := by
          rw [withDirs, if_neg (by simp [hq'])]
          simpa [hq'] using h
        rw [hlast, hq']
        rfl
      · have habove : p :: d <:+ q ∧ p :: d ≠ q := by
          refine ⟨hq' ▸ List.suffix_append _ _, fun heq => hnil ?_⟩
          rw [hq'] at heq
          simpa using heq
        rw [withDirs, if_pos habove]
        exact ih hps hq'

theorem steps_withDirs (h : t.Writable q) {d : Place} {ps : List String} {stop : Stop}
    (hps : NoDots ps) (hstop : steps t.turn false d ps = stop)
    (hq : ∀ q', stop = .reached q' → q' = q) : steps (withDirs t.turn q) true d ps = stop := by
  induction ps generalizing d with
  | nil => exact hstop
  | cons p ps ih =>
      have hps' := List.forall_mem_cons.mp hps
      cases hturn : t.turn (p :: d) with
      | some next =>
          unfold steps at hstop ⊢
          rw [if_neg hps'.1, hturn] at hstop
          rw [if_neg hps'.1, withDirs_of_turn h hturn]
          cases next with
          | into => exact ih hps'.2 hstop
          | follow target => exact hstop
      | none =>
          have hnode : t.node (p :: d) ≠ some .dir := by
            intro hdir
            simp [Tree.turn, hdir] at hturn
          have hlax : steps t.turn false d (p :: ps) = steps t.turn false (p :: d) ps := by
            conv_lhs => unfold steps
            rw [if_neg hps'.1, hturn]
            simp
          rw [hlax, steps_below hps'.2 hnode] at hstop
          have heq := hq _ hstop.symm
          rw [← hstop, heq]
          exact steps_withDirs_below h.turn hps (by simp [← heq])

/-- A link to a path without dot-dot parts leaves none. -/
theorem noDots_of_link
    (hlinks : ∀ d target, turn d = some (.follow target) → NoDots target.parts) {d d' : Place}
    {ps ps' : List String} (hps : NoDots ps) (hstop : steps turn strict d ps = .link d' ps') :
    NoDots ps' := by
  induction ps generalizing d with
  | nil => cases hstop
  | cons p ps ih =>
      obtain ⟨hp, hps⟩ := List.forall_mem_cons.mp hps
      unfold steps at hstop
      rw [if_neg hp] at hstop
      cases hturn : turn (p :: d) with
      | none =>
          rw [hturn] at hstop
          by_cases hmissing : strict = true ∧ ps ≠ []
          · simp [hmissing] at hstop
          · simp only [hmissing, if_false] at hstop
            exact ih hps hstop
      | some next =>
          rw [hturn] at hstop
          cases next with
          | into => exact ih hps hstop
          | follow target =>
              obtain ⟨-, rfl⟩ := Stop.link.inj hstop
              exact List.forall_mem_append.mpr ⟨hlinks _ target hturn, hps⟩

/-- **Without dot-dot parts** the kernel gets where `realpath` does, once the
directories are there. -/
theorem follow_withDirs (h : t.Writable q)
    (hlinks : ∀ d target, t.turn d = some (.follow target) → NoDots target.parts) {links : Nat}
    {d : Place} {ps : List String} (hps : NoDots ps)
    (hfollow : follow t.turn false links d ps = some q) :
    follow (withDirs t.turn q) true links d ps = some q := by
  induction links generalizing d ps with
  | zero =>
      obtain hreached | ⟨_, _, fewer, _, hzero, _⟩ := follow_cases hfollow
      · exact follow_reached
          (steps_withDirs h hps hreached fun q' hq' => (Stop.reached.inj hq').symm)
      · cases hzero
  | succ links ih =>
      obtain hreached | ⟨d', ps', fewer, hlink, hsucc, hrest⟩ := follow_cases hfollow
      · exact follow_reached
          (steps_withDirs h hps hreached fun q' hq' => (Stop.reached.inj hq').symm)
      · obtain rfl := Nat.succ.inj hsucc
        rw [follow_link (steps_withDirs h hps hlink (by simp))]
        exact ih (noDots_of_link hlinks hps hlink) hrest

/-- Below what is no directory a path leads to its names, or nowhere. -/
theorem steps_withDirs_missing {d : Place} {ps : List String} (hps : NoDots ps)
    (hd : t.node d ≠ some .dir) :
    steps (withDirs t.turn q) true d ps = .missing ∨
      steps (withDirs t.turn q) true d ps = .reached (ps.reverse ++ d) := by
  induction ps generalizing d with
  | nil => exact Or.inr rfl
  | cons p ps ih =>
      obtain ⟨hp, hps⟩ := List.forall_mem_cons.mp hps
      have hnode : t.node (p :: d) = none := node_below hd [p] (by simp)
      have hrest := ih hps (d := p :: d) (by simp [hnode])
      rw [List.reverse_cons, List.append_assoc, List.singleton_append]
      unfold steps
      rw [if_neg hp]
      cases hturn : withDirs t.turn q (p :: d) with
      | none =>
          dsimp only
          split
          · exact Or.inl rfl
          · exact hrest
      | some next =>
          have hinto : next = .into := by
            unfold withDirs at hturn
            split at hturn
            · exact (Option.some.inj hturn).symm
            · simp [Tree.turn, hnode] at hturn
          subst hinto
          exact hrest

/-- What exists was reached without the directories that are new. -/
theorem steps_of_withDirs (h : t.Writable q) {d : Place} {ps : List String} {stop : Stop}
    (hps : NoDots ps) (hstop : steps (withDirs t.turn q) true d ps = stop) (hne : stop ≠ .missing)
    (hnode : ∀ q', stop = .reached q' → t.node q' ≠ none) : steps t.turn true d ps = stop := by
  induction ps generalizing d with
  | nil => exact hstop
  | cons p ps ih =>
      obtain ⟨hp, hps⟩ := List.forall_mem_cons.mp hps
      unfold steps at hstop ⊢
      rw [if_neg hp] at hstop ⊢
      cases hturn : t.turn (p :: d) with
      | some next =>
          rw [withDirs_of_turn h hturn] at hstop
          cases next with
          | into => exact ih hps hstop
          | follow target => exact hstop
      | none =>
          by_cases habove : p :: d <:+ q ∧ p :: d ≠ q
          · -- a new directory, with nothing below it
            have hempty : t.node (p :: d) = none := by
              obtain hnone | hdir := h.above _ habove.1 habove.2
              · exact hnone
              · simp [Tree.turn, hdir] at hturn
            have hnodir : t.node (p :: d) ≠ some .dir := by simp [hempty]
            rw [withDirs, if_pos habove] at hstop
            obtain hmissing | hreached :
                steps (withDirs t.turn q) true (p :: d) ps = .missing ∨
                  steps (withDirs t.turn q) true (p :: d) ps = .reached (ps.reverse ++ p :: d) :=
              steps_withDirs_missing hps hnodir
            · exact absurd (hstop.symm.trans hmissing) hne
            · have hexists := hnode _ (hstop.symm.trans hreached)
              by_cases hnil : ps = []
              · exact absurd (by simpa [hnil] using hempty) hexists
              · exact absurd (node_below hnodir ps.reverse (by simpa using hnil)) hexists
          · rw [withDirs, if_neg habove, hturn] at hstop
            dsimp only at hstop ⊢
            split at hstop
            · exact absurd hstop.symm hne
            · rename_i hlast
              rw [if_neg hlast]
              exact ih hps hstop

theorem follow_of_withDirs (h : t.Writable q)
    (hlinks : ∀ d target, t.turn d = some (.follow target) → NoDots target.parts) {links : Nat}
    {d q' : Place} {ps : List String} (hps : NoDots ps) (hnode : t.node q' ≠ none)
    (hfollow : follow (withDirs t.turn q) true links d ps = some q') :
    follow t.turn true links d ps = some q' := by
  have hend {d : Place} {ps : List String} (hps : NoDots ps)
      (hreached : steps (withDirs t.turn q) true d ps = .reached q') :
      steps t.turn true d ps = .reached q' :=
    steps_of_withDirs h hps hreached (by simp) fun q'' hq'' => Stop.reached.inj hq'' ▸ hnode
  induction links generalizing d ps with
  | zero =>
      obtain hreached | ⟨_, _, fewer, _, hzero, _⟩ := follow_cases hfollow
      · exact follow_reached (hend hps hreached)
      · cases hzero
  | succ links ih =>
      obtain hreached | ⟨d', ps', fewer, hlink, hsucc, hrest⟩ := follow_cases hfollow
      · exact follow_reached (hend hps hreached)
      · obtain rfl := Nat.succ.inj hsucc
        have hlink' := steps_of_withDirs h hps hlink (by simp) (by simp)
        rw [follow_link hlink']
        exact ih (noDots_of_link hlinks hps hlink') hrest

/-- **Without dot-dot parts** a write lets no other file be found. -/
theorem lookup_of_replace
    (hlinks : ∀ d target, t.turn d = some (.follow target) → NoDots target.parts)
    (hp : NoDots p.parts) (hlookup : w.lookup (t.replace q text h) p = some q') (hne : q' ≠ q) :
    w.lookup t p = some q' := by
  obtain ⟨hplace, hfile⟩ := lookup_replace_iff.mp hlookup
  have hsome := hfile.resolve_left hne
  have hnode : t.node q' ≠ none := by
    intro hnone
    simp [Tree.file?, hnone] at hsome
  exact lookup_eq_some_iff.mpr ⟨follow_of_withDirs h hlinks hp hnode hplace, hsome⟩

end FileTree
