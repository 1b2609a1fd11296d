/-!
Paths of files, as texts.

A path is joined to a directory with one separator; an absolute path stands for itself.  The directory
of a path is what is left without its last component, and repeated separators and steps to the same
directory at the end do not count as components.  The directory of a path is shorter than the path, so
that only finitely many directories are above one.

Main exports: Path.join, Path.directory, Path.components
-/

namespace DartBindings.Path

/-- Whether a path begins at the root. -/
def isAbsolute (path : String) : Bool :=
  path.toList.head? == some '/'

/-- A path as seen from where its directory is named. -/
def join (directory path : String) : String :=
  if isAbsolute path || directory.isEmpty then path
  else if directory.toList.getLast? = some '/' then directory ++ path
  else directory ++ "/" ++ path

/-- A reversed path without what does not count at its end. -/
def dropTail : List Char → List Char
  | ['/'] => ['/']
  | '/' :: rest => dropTail rest
  | '.' :: '/' :: rest => dropTail ('/' :: rest)
  | path => path

/-- The directory of a path; empty when the path has one component or none. -/
def directory (path : String) : String :=
  let last := dropTail path.toList.reverse
  if last = ['/'] then ""
  else String.ofList (dropTail (last.dropWhile (· != '/'))).reverse

theorem length_dropTail_le (path : List Char) : (dropTail path).length ≤ path.length := by
  fun_induction dropTail path with
  | case1 => exact Nat.le_refl _
  | case2 rest _ ih => exact Nat.le_succ_of_le ih
  | case3 rest ih => exact Nat.le_succ_of_le ih
  | case4 path => exact Nat.le_refl _

/-- Only the root ends in a separator once its tail is dropped. -/
theorem eq_nil_of_dropTail_eq_cons {path rest : List Char} (h : dropTail path = '/' :: rest) :
    rest = [] := by
  fun_induction dropTail path with
  | case1 => simpa using h.symm
  | case2 _ _ ih => exact ih h
  | case3 _ ih => exact ih h
  | case4 path _ noSeparator => exact absurd h (noSeparator rest)

theorem length_directory_lt {path : String} (h : path ≠ "") :
    (directory path).length < path.length := by
  have positive : 0 < path.toList.length := by
    cases hp : path.toList with
    | nil => exact absurd (String.toList_eq_nil_iff.mp hp) h
    | cons _ _ => exact Nat.succ_pos _
  have bound := length_dropTail_le path.toList.reverse
  rw [List.length_reverse] at bound
  rw [← String.length_toList, ← String.length_toList]
  unfold directory
  cases hlast : dropTail path.toList.reverse with
  | nil => simpa [dropTail] using positive
  | cons c rest =>
    rw [hlast, List.length_cons] at bound
    by_cases hc : c = '/'
    · subst hc
      rw [eq_nil_of_dropTail_eq_cons hlast]
      simpa using positive
    · have shorter := (List.dropWhile_sublist (l := rest) (· != '/')).length_le
      have dropped := length_dropTail_le (rest.dropWhile (· != '/'))
      simp only [List.cons.injEq, hc, false_and, if_false, List.dropWhile_cons, bne_iff_ne, ne_eq,
        not_false_eq_true, if_true, String.toList_ofList, List.length_reverse]
      omega

/-- A path and the directories above it, from the inside out.  The directory that paths start from is
left out. -/
def ancestors (path : String) : List String :=
  if h : path = "" then []
  else
    have := length_directory_lt h
    path :: ancestors (directory path)
termination_by path.length

/-- The parts of a path between separators. -/
def components (path : String) : List String :=
  (path.toList.splitOn '/').map String.ofList

end DartBindings.Path
