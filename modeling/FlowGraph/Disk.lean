import FlowGraph.Path

/-!
Disks: directories and files by the names that lead to them from the root. The
names of a path are followed one after the other, and each but the last has to
lead to a directory. An absolute path is followed from the root, any other from
the directory that a program works in.

All names are texts in UTF-8, and all there is are plain files and directories,
without links. Operations fail because of what their paths meet on the disk; none fails
for lack of permission or of space, and a file is written as a whole or not at
all.
-/

namespace FlowGraph

inductive FileError where
  | notFound
  | exists
  | notDirectory
  | isDirectory
  | notText
  | badName
  | nameTooLong
  | other (text : String)
deriving DecidableEq, Repr

def FileError.message : FileError → String
  | .notFound => "No such file or directory (os error 2)"
  | .exists => "File exists (os error 17)"
  | .notDirectory => "Not a directory (os error 20)"
  | .isDirectory => "Is a directory (os error 21)"
  | .notText => "stream did not contain valid UTF-8"
  | .badName => "file name contained an unexpected NUL byte"
  | .nameTooLong => "File name too long (os error 36)"
  | .other text => text

inductive FileKind where
  | file
  | directory
deriving DecidableEq, Repr

/-- What a file holds: a text, or bytes that are none. -/
inductive Content where
  | text (s : String)
  | bytes (list : List UInt8)
deriving DecidableEq, Repr

inductive DiskEntry where
  | file (content : Content)
  | directory
deriving DecidableEq, Repr

/-- The names that lead to a place from the root. -/
abbrev Place := List String

/-- Everything on a disk: one entry for each place, in the order of the places.
The root is a directory, and every other place is in one. -/
structure Disk where
  entries : List (Place × DiskEntry)
  ordered : entries.Pairwise fun a b => a.1 < b.1
  rooted : entries.lookup [] = some .directory
  nested : ∀ pair ∈ entries, entries.lookup pair.1.dropLast = some .directory
deriving DecidableEq, Repr

namespace Disk

/-- The directory that programs work in if none is named. -/
def home : Place := ["work"]

def empty : Disk where
  entries := [([], .directory), (home, .directory)]
  ordered := by decide
  rooted := by decide
  nested := by decide

def get? (d : Disk) (place : Place) : Option DiskEntry :=
  d.entries.lookup place

theorem mem_entries_of_get? {d : Disk} {place : Place} {entry : DiskEntry}
    (h : d.get? place = some entry) : (place, entry) ∈ d.entries := by
  obtain ⟨before, after, hentries, -⟩ := List.lookup_eq_some_iff.mp h
  rw [hentries]
  exact List.mem_append_right before List.mem_cons_self

/-- What is on a disk is in a directory. -/
theorem get?_dropLast {d : Disk} {place : Place} {entry : DiskEntry}
    (h : d.get? place = some entry) : d.get? place.dropLast = some .directory :=
  d.nested (place, entry) (mem_entries_of_get? h)

section Insert

variable {place : Place} {entry : DiskEntry} {entries : List (Place × DiskEntry)}

def insert (place : Place) (entry : DiskEntry) : List (Place × DiskEntry) → List (Place × DiskEntry)
  | [] => [(place, entry)]
  | (p, e) :: rest =>
    if place = p then (place, entry) :: rest
    else if place < p then (place, entry) :: (p, e) :: rest
    else (p, e) :: insert place entry rest

theorem lookup_cons (p other : Place) (e : DiskEntry) (rest : List (Place × DiskEntry)) :
    ((p, e) :: rest).lookup other = if other = p then some e else rest.lookup other := by
  rw [List.lookup_cons]
  by_cases h : other = p
  · rw [beq_iff_eq.mpr h, if_pos h]
  · rw [beq_eq_false_iff_ne.mpr h, if_neg h]

theorem lookup_insert (place other : Place) (entry : DiskEntry)
    (entries : List (Place × DiskEntry)) :
    (insert place entry entries).lookup other =
      if other = place then some entry else entries.lookup other := by
  induction entries with
  | nil => exact lookup_cons place other entry []
  | cons pair rest ih =>
    obtain ⟨p, e⟩ := pair
    rw [insert]
    by_cases hp : place = p
    · subst hp
      rw [if_pos rfl, lookup_cons, lookup_cons]
      by_cases h : other = place <;> simp [h]
    · rw [if_neg hp]
      split
      · exact lookup_cons place other entry _
      · rw [lookup_cons, lookup_cons, ih]
        by_cases h : other = p
        · have hne : other ≠ place := fun heq => hp (heq.symm.trans h)
          rw [if_pos h, if_neg hne, if_pos h]
        · rw [if_neg h, if_neg h]

theorem mem_insert {pair : Place × DiskEntry} (h : pair ∈ insert place entry entries) :
    pair = (place, entry) ∨ pair ∈ entries := by
  induction entries with
  | nil => exact Or.inl (List.mem_singleton.mp h)
  | cons first rest ih =>
    obtain ⟨p, e⟩ := first
    rw [insert] at h
    split at h
    · exact (List.mem_cons.mp h).imp_right (List.mem_cons_of_mem _)
    split at h
    · exact List.mem_cons.mp h
    · rcases List.mem_cons.mp h with hfirst | hrest
      · exact Or.inr (List.mem_cons.mpr (Or.inl hfirst))
      · exact (ih hrest).imp_right (List.mem_cons_of_mem _)

theorem pairwise_insert (h : entries.Pairwise fun a b => a.1 < b.1) :
    (insert place entry entries).Pairwise fun a b => a.1 < b.1 := by
  induction entries with
  | nil => exact List.pairwise_singleton _ _
  | cons first rest ih =>
    obtain ⟨p, e⟩ := first
    obtain ⟨hfirst, hrest⟩ := List.pairwise_cons.mp h
    rw [insert]
    by_cases heq : place = p
    · subst heq
      rw [if_pos rfl]
      exact List.pairwise_cons.mpr ⟨hfirst, hrest⟩
    rw [if_neg heq]
    by_cases hlt : place < p
    · rw [if_pos hlt]
      refine List.pairwise_cons.mpr ⟨?_, h⟩
      intro pair hpair
      rcases List.mem_cons.mp hpair with rfl | hpair
      · exact hlt
      · exact List.lt_trans hlt (hfirst pair hpair)
    · rw [if_neg hlt]
      refine List.pairwise_cons.mpr ⟨?_, ih hrest⟩
      intro pair hpair
      rcases mem_insert hpair with rfl | hpair
      · refine Classical.byContradiction fun hge => heq ?_
        exact List.le_antisymm (List.not_lt.mp hge) (List.not_lt.mp hlt)
      · exact hfirst pair hpair

end Insert

/-- An entry can be put in a directory, and a file only where no directory is. -/
def Admits (d : Disk) (place : Place) (entry : DiskEntry) : Prop :=
  d.get? place.dropLast = some .directory ∧
    (entry = .directory ∨ d.get? place ≠ some .directory)

instance (d : Disk) (place : Place) (entry : DiskEntry) : Decidable (d.Admits place entry) :=
  inferInstanceAs (Decidable (_ ∧ _))

theorem Admits.rooted {d : Disk} {place : Place} {entry : DiskEntry} (h : d.Admits place entry) :
    (insert place entry d.entries).lookup [] = some .directory := by
  rw [lookup_insert]
  by_cases heq : [] = place
  · subst heq
    rw [if_pos rfl, h.2.resolve_right fun hnot => hnot d.rooted]
  · rw [if_neg heq]
    exact d.rooted

theorem Admits.nested {d : Disk} {place : Place} {entry : DiskEntry} (h : d.Admits place entry) :
    ∀ pair ∈ insert place entry d.entries,
      (insert place entry d.entries).lookup pair.1.dropLast = some .directory := by
  intro pair hpair
  have hparent : d.get? pair.1.dropLast = some .directory := by
    rcases mem_insert hpair with rfl | hold
    · exact h.1
    · exact d.nested pair hold
  rw [lookup_insert]
  by_cases heq : pair.1.dropLast = place
  · rw [heq] at hparent
    rw [if_pos heq, h.2.resolve_right fun hnot => hnot hparent]
  · rw [if_neg heq]
    exact hparent

/-- The disk with an entry at a place, if it can be put there. -/
def set (d : Disk) (place : Place) (entry : DiskEntry) : Disk :=
  if h : d.Admits place entry then
    { entries := insert place entry d.entries
      ordered := pairwise_insert d.ordered
      rooted := h.rooted
      nested := h.nested }
  else d

/-- The number of bytes that no name exceeds. -/
def maxNameSize : Nat := 255

/-- The number of bytes that no path exceeds. -/
def maxPathSize : Nat := 4095

/-- Follows names from a place on, as long as directories lead there. -/
def follow (d : Disk) (place : Place) : List String → Except FileError Place
  | [] => .ok place
  | name :: names =>
    match d.get? place with
    | none => .error .notFound
    | some (.file _) => .error .notDirectory
    | some .directory =>
      if name = "" || name = "." then d.follow place names
      else if name = ".." then d.follow place.dropLast names
      else if maxNameSize < name.utf8ByteSize then .error .nameTooLong
      else d.follow (place ++ [name]) names

/-- Where a path starts: at the root if it is absolute. -/
def start (path : String) (cwd : Place) : Place :=
  if Path.isAbsolute path then [] else cwd

/-- The place that a path leads to; nothing need be there. -/
def place (d : Disk) (path : String) (cwd : Place := home) : Except FileError Place :=
  if path.toList.contains (Char.ofNat 0) then .error .badName
  else if path.isEmpty then .error .notFound
  else if maxPathSize < path.utf8ByteSize then .error .nameTooLong
  else d.follow (start path cwd) ((Path.split path.toList).map String.ofList)

def entryAt (d : Disk) (path : String) (cwd : Place := home) : Except FileError DiskEntry :=
  match d.place path cwd with
  | .error e => .error e
  | .ok place =>
    match d.get? place with
    | none => .error .notFound
    | some entry => .ok entry

def kind? (d : Disk) (path : String) (cwd : Place := home) : Option FileKind :=
  match d.entryAt path cwd with
  | .ok (.file _) => some .file
  | .ok .directory => some .directory
  | .error _ => none

def readText (d : Disk) (path : String) (cwd : Place := home) : Except FileError String :=
  match d.entryAt path cwd with
  | .error e => .error e
  | .ok .directory => .error .isDirectory
  | .ok (.file (.bytes _)) => .error .notText
  | .ok (.file (.text s)) => .ok s

/-- The place of a file to write. No file can be made where a slash says that
there is a directory. -/
def placeToWrite (d : Disk) (path : String) (cwd : Place := home) : Except FileError Place :=
  match d.place (Path.withoutSlashes path) cwd with
  | .error e => .error e
  | .ok place =>
    match d.get? place with
    | some .directory => .error .isDirectory
    | entry =>
      if path.toList.getLast? = some '/' then
        .error (if entry.isSome then .notDirectory else .isDirectory)
      else .ok place

def writeText (d : Disk) (path text : String) (cwd : Place := home) : Except FileError Disk :=
  match d.placeToWrite path cwd with
  | .error e => .error e
  | .ok place => .ok (d.set place (.file (.text text)))

/-- Makes one directory in one that is there. -/
def makeDir (d : Disk) (path : String) (cwd : Place := home) : Except FileError Disk :=
  match d.place (Path.withoutSlashes path) cwd with
  | .error e => .error e
  | .ok place =>
    if (d.get? place).isSome then .error .exists else .ok (d.set place .directory)

/-- Makes a directory, unless it is there already. -/
def ensureDir (d : Disk) (path : String) (cwd : Place := home) : Except FileError Disk :=
  match d.makeDir path cwd with
  | .ok made => .ok made
  | .error e => if d.kind? path cwd = some .directory then .ok d else .error e

end Disk

/-- Why an operation stopped half-way, and what the disk was by then. -/
structure Halt where
  error : FileError
  disk : Disk

namespace Disk

/-- Makes a directory, and before it the one that its path goes through if that
is missing. Those that were made stay if one of them cannot be made. -/
def makeDirs (d : Disk) (path : String) (cwd : Place := home) : Except Halt Disk :=
  if path.isEmpty then .ok d
  else
    match d.ensureDir path cwd with
    | .ok made => .ok made
    | .error .notFound =>
      match _ : Path.parent? path with
      | none => .error ⟨.notFound, d⟩
      | some parent =>
        match makeDirs d parent cwd with
        | .error halt => .error halt
        | .ok made => (made.ensureDir path cwd).mapError (⟨·, made⟩)
    | .error e => .error ⟨e, d⟩
termination_by path.length
decreasing_by exact Path.length_parent?_lt ‹_›

/-- The paths of all files in a directory and the directories in it, by name. -/
def filesBelow (d : Disk) (path : String) (cwd : Place := home) :
    Except FileError (List String) :=
  match d.place path cwd with
  | .error e => .error e
  | .ok place =>
    .ok (d.entries.filterMap fun (p, entry) =>
      match entry with
      | .directory => none
      | .file _ =>
        if place.isPrefixOf p then some ((p.drop place.length).foldl Path.join path) else none)

/-- The last name on the way from the root to an existing place. -/
def realName (d : Disk) (path : String) (cwd : Place := home) :
    Except FileError (Option String) :=
  match d.place path cwd with
  | .error e => .error e
  | .ok place => if (d.get? place).isSome then .ok place.getLast? else .error .notFound

end Disk

end FlowGraph
