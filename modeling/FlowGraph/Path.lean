/-!
Paths of files as they are written: names with slashes between them. A single
dot names the directory it stands in, two dots the one above it.
-/

namespace FlowGraph.Path

/-- The names between the slashes, empty ones among them. -/
def split : List Char → List (List Char)
  | [] => [[]]
  | c :: cs =>
    if c = '/' then [] :: split cs
    else
      match split cs with
      | [] => [[c]]
      | name :: names => (c :: name) :: names

def isAbsolute (path : String) : Bool :=
  path.toList.head? = some '/'

/-- A path as seen from a base; an absolute path stays as it is. -/
def join (base path : String) : String :=
  if isAbsolute path || base.isEmpty then path
  else if base.toList.getLast? = some '/' then base ++ path
  else base ++ "/" ++ path

/-- A path from its last character to its first, without the slashes and dots at
its end that say nothing. -/
def trimReversed : List Char → List Char
  | [] => []
  | ['/'] => ['/']
  | '/' :: cs => trimReversed cs
  | '.' :: '/' :: cs => trimReversed ('/' :: cs)
  | cs => cs

def reversed (path : String) : List Char :=
  trimReversed path.toList.reverse

def isRootOrEmpty (cs : List Char) : Bool :=
  cs.isEmpty || cs = ['/']

/-- The last name of a path, unless that is a dot or two. -/
def fileName? (path : String) : Option (List Char) :=
  let name := ((reversed path).takeWhile (· ≠ '/')).reverse
  if name.isEmpty || name = ['.'] || name = ['.', '.'] then none else some name

/-- The directory that a path leads to before its last name. -/
def parent? (path : String) : Option String :=
  let cs := reversed path
  if isRootOrEmpty cs then none
  else some (String.ofList (trimReversed (cs.dropWhile (· ≠ '/'))).reverse)

theorem length_trimReversed_le (cs : List Char) : (trimReversed cs).length ≤ cs.length := by
  fun_induction trimReversed cs with
  | case1 => exact Nat.le_refl _
  | case2 => exact Nat.le_refl _
  | case3 cs _ ih =>
    rw [List.length_cons]
    omega
  | case4 cs ih =>
    rw [List.length_cons] at ih ⊢
    rw [List.length_cons]
    omega
  | case5 => exact Nat.le_refl _

/-- A trimmed path ends in a slash only if it is the root. -/
theorem head?_trimReversed_ne (cs : List Char) (h : isRootOrEmpty (trimReversed cs) = false) :
    (trimReversed cs).head? ≠ some '/' := by
  fun_induction trimReversed cs with
  | case1 => cases h
  | case2 => cases h
  | case3 cs _ ih => exact ih h
  | case4 cs ih => exact ih h
  | case5 cs _ _ hslash _ =>
    intro hhead
    obtain ⟨rest, rfl⟩ := List.head?_eq_some_iff.mp hhead
    exact hslash rest rfl

theorem length_parent?_lt {path parent : String} (h : parent? path = some parent) :
    parent.length < path.length := by
  unfold parent? at h
  dsimp only at h
  split at h
  · cases h
  next hroot =>
  obtain rfl := Option.some.inj h
  have hfirst := head?_trimReversed_ne path.toList.reverse (Bool.eq_false_iff.mpr hroot)
  have htrimmed := length_trimReversed_le path.toList.reverse
  cases hcs : trimReversed path.toList.reverse with
  | nil =>
    rw [reversed, hcs] at hroot
    exact absurd rfl hroot
  | cons c cs =>
    have hc : c ≠ '/' := by
      intro heq
      apply hfirst
      rw [hcs, heq]
      rfl
    have hrest := length_trimReversed_le (cs.dropWhile (· ≠ '/'))
    have hshorter := (List.dropWhile_suffix (fun c => decide (c ≠ '/')) (l := cs)).length_le
    rw [hcs, List.length_cons, List.length_reverse, String.length_toList] at htrimmed
    rw [reversed, hcs, List.dropWhile_cons_of_pos (by simpa using hc), String.length_ofList,
      List.length_reverse]
    omega

/-- A path without the slashes at its end, unless slashes are all of it. -/
def withoutSlashes (path : String) : String :=
  match path.toList.reverse.dropWhile (· = '/') with
  | [] => if path.isEmpty then "" else "/"
  | cs => String.ofList cs.reverse

/-- A name before and after its last dot. A dot at the start divides nothing. -/
def divide (name : List Char) : List Char × Option (List Char) :=
  let after := (name.reverse.takeWhile (· ≠ '.')).reverse
  let before := name.take (name.length - after.length - 1)
  if name.contains '.' && !before.isEmpty then (before, some after) else (name, none)

def stem (name : List Char) : List Char :=
  (divide name).1

def extension? (path : String) : Option (List Char) :=
  (fileName? path).bind fun name => (divide name).2

/-- The path with another extension, if it ends with a name. -/
def withExtension (path extension : String) : String :=
  match fileName? path with
  | none => path
  | some name =>
    let before := ((reversed path).dropWhile (· ≠ '/')).reverse
    String.ofList (before ++ stem name) ++ "." ++ extension

end FlowGraph.Path
