import Mathlib.Data.List.TakeWhile

/-!
# VpnPanel.Lib.PosixPath

Lexical normalization of paths.  A directory is the list of its names, the
innermost first; `walk` follows the segments of a path from a directory: empty
and dot segments stay, a dot-dot segment goes to the parent (the root is its
own), any other enters.

* `walk_slash` — a path is walked in parts;
* `walk_child` — the last segment of a path that ends in a long enough suffix
  is a child of where the others lead.
-/

namespace PosixPath

/-- The names of a directory, the innermost first. -/
abbrev Dir := List (List Char)

/-- One segment. -/
def enter (dir : Dir) (segment : List Char) : Dir :=
  if segment = [] ∨ segment = ['.'] then dir
  else if segment = ['.', '.'] then dir.tail
  else segment :: dir

/-- The segments of a path, from a directory. -/
def walk (dir : Dir) (path : List Char) : Dir := (path.splitOn '/').foldl enter dir

/-- The directory or file of an absolute path. -/
def normalize (path : List Char) : Dir := walk [] path

/-- What stands after the last slash. -/
def basename (path : List Char) : List Char := (path.reverse.takeWhile (· ≠ '/')).reverse

/-- What stands before it, and the slash. -/
def dirPart (path : List Char) : List Char := (path.reverse.dropWhile (· ≠ '/')).reverse

theorem dirPart_append_basename (path : List Char) : dirPart path ++ basename path = path := by
  have h := congrArg List.reverse
    (List.takeWhile_append_dropWhile (p := (· ≠ '/')) (l := path.reverse))
  rwa [List.reverse_append, List.reverse_reverse] at h

theorem slash_not_mem_basename (path : List Char) : '/' ∉ basename path := by
  intro h
  simpa using List.mem_takeWhile_imp (List.mem_reverse.mp h)

/-- There is nothing before the last slash, or the slash. -/
theorem dirPart_cases (path : List Char) :
    dirPart path = [] ∨ ∃ d, dirPart path = d ++ ['/'] := by
  cases h : path.reverse.dropWhile (· ≠ '/') with
  | nil => exact Or.inl (by rw [dirPart, h, List.reverse_nil])
  | cons c rest =>
      have hc : c = '/' := by
        have hhead := List.head?_dropWhile_not (fun c => decide (c ≠ '/')) path.reverse
        rw [h] at hhead
        simpa using hhead
      exact Or.inr ⟨rest.reverse, by rw [dirPart, h, List.reverse_cons, hc]⟩

/-! ## walking -/

theorem walk_slash (dir : Dir) (path rest : List Char) :
    walk dir (path ++ '/' :: rest) = walk (walk dir path) rest := by
  rw [walk, List.splitOn_append_cons_self, List.foldl_append]
  rfl

theorem walk_segment {segment : List Char} (h : '/' ∉ segment) (dir : Dir) :
    walk dir segment = enter dir segment := by
  rw [walk, List.splitOn_eq_singleton h]
  rfl

theorem walk_nil (dir : Dir) : walk dir [] = dir := rfl

/-- A path is what stands before its last slash, and a segment. -/
theorem walk_basename (dir : Dir) (path : List Char) :
    walk dir path = enter (walk dir (dirPart path)) (basename path) := by
  have hpath := dirPart_append_basename path
  have hsegment := walk_segment (slash_not_mem_basename path)
  obtain hnil | ⟨d, hd⟩ := dirPart_cases path
  · rw [hnil, List.nil_append] at hpath
    rw [hnil, walk_nil, ← hsegment, hpath]
  · have hsplit : path = d ++ '/' :: basename path := by
      rw [hd, List.append_assoc] at hpath
      exact hpath.symm
    have hdir : walk dir (d ++ ['/']) = walk dir d := by rw [walk_slash, walk_nil]
    rw [hd, hdir, ← hsegment]
    calc walk dir path = walk dir (d ++ '/' :: basename path) := congrArg (walk dir) hsplit
      _ = walk (walk dir d) (basename path) := walk_slash dir d _

/-! ## suffixes -/

variable {suffix : List Char}

theorem no_slash_reverse (h : '/' ∉ suffix) : ∀ c ∈ suffix.reverse, decide (c ≠ '/') = true := by
  intro c hc
  have hne : c ≠ '/' := fun heq => h (heq ▸ List.mem_reverse.mp hc)
  simpa using hne

theorem basename_append (h : '/' ∉ suffix) (path : List Char) :
    basename (path ++ suffix) = basename path ++ suffix := by
  rw [basename, List.reverse_append, List.takeWhile_append_of_pos (no_slash_reverse h),
    List.reverse_append, List.reverse_reverse, basename]

theorem dirPart_append (h : '/' ∉ suffix) (path : List Char) :
    dirPart (path ++ suffix) = dirPart path := by
  rw [dirPart, List.reverse_append, List.dropWhile_append_of_pos (no_slash_reverse h), dirPart]

/-- A segment longer than two dots enters. -/
theorem enter_of_length {segment : List Char} (h : 2 < segment.length) (dir : Dir) :
    enter dir segment = segment :: dir := by
  have hne : segment ≠ [] ∧ segment ≠ ['.'] ∧ segment ≠ ['.', '.'] := by
    constructor
    · rintro rfl
      simp at h
    · constructor
      · rintro rfl
        simp at h
      · rintro rfl
        simp at h
  simp [enter, hne]

/-- **A path with a suffix** is a child of where its other segments lead. -/
theorem walk_child (hslash : '/' ∉ suffix) (hlength : 2 < suffix.length) (dir : Dir)
    (path : List Char) :
    walk dir (path ++ suffix) = (basename path ++ suffix) :: walk dir (dirPart path) := by
  have hsegment : 2 < (basename path ++ suffix).length := by
    rw [List.length_append]
    omega
  rw [walk_basename, basename_append hslash, dirPart_append hslash, enter_of_length hsegment]

/-- A path without a slash has no other segments. -/
theorem dirPart_of_not_mem {path : List Char} (h : '/' ∉ path) : dirPart path = [] :=
  dirPart_append h []

theorem basename_of_not_mem {path : List Char} (h : '/' ∉ path) : basename path = path := by
  have happend := basename_append h []
  rwa [List.nil_append, show basename [] = [] from rfl, List.nil_append] at happend

end PosixPath
