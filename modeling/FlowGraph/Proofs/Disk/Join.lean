import FlowGraph.Proofs.Disk

/-!
Paths below a directory. A path that is joined to that of a directory leads on from the
place of the directory by its own names, unless the two together are too long; and it can
be written to unless a directory is there.
-/

namespace FlowGraph

namespace Path

def names (path : String) : List String :=
  (split path.toList).map String.ofList

/-- A name that leads on to a place of that name. -/
def PlainName (name : String) : Prop :=
  name ≠ "" ∧ name ≠ "." ∧ name ≠ ".." ∧ name.utf8ByteSize ≤ Disk.maxNameSize

instance (name : String) : Decidable (PlainName name) :=
  inferInstanceAs (Decidable (_ ∧ _))

def Plain (path : String) : Prop :=
  Char.ofNat 0 ∉ path.toList ∧ ∀ name ∈ names path, PlainName name

instance (path : String) : Decidable (Plain path) :=
  inferInstanceAs (Decidable (_ ∧ _))

variable {dir path : String}

theorem names_ne_nil (path : String) : names path ≠ [] := by
  simpa [names] using split_ne_nil path.toList

theorem not_isAbsolute_of_plain (hpath : Plain path) : isAbsolute path = false := by
  rw [isAbsolute, decide_eq_false_iff_not]
  intro hhead
  obtain ⟨cs, hcs⟩ := List.head?_eq_some_iff.mp hhead
  have hempty : "" ∈ names path := by
    simp [names, hcs, split]
  exact (hpath.2 "" hempty).1 rfl

theorem getLast?_ne_slash_of_plain (hpath : Plain path) : path.toList.getLast? ≠ some '/' := by
  intro hlast
  obtain ⟨before, hbefore⟩ := List.getLast?_eq_some_iff.mp hlast
  have hempty : "" ∈ names path := by
    rw [names, hbefore, split_append_slash]
    simp [split]
  exact (hpath.2 "" hempty).1 rfl

theorem ne_empty_of_plain (hpath : Plain path) : path ≠ "" := by
  intro hempty
  subst hempty
  exact (hpath.2 "" (by decide)).1 rfl

/-- Joined to a path, another stands behind it and a slash. -/
theorem toList_join (hdir : dir ≠ "") (hpath : isAbsolute path = false) :
    ∃ front, (join dir path).toList = front ++ '/' :: path.toList ∧
      (dir.toList = front ∨ dir.toList = front ++ ['/']) := by
  have hne : dir.isEmpty = false := by
    simpa using hdir
  unfold join
  rw [hpath, hne, Bool.or_self, if_neg Bool.false_ne_true]
  by_cases hlast : dir.toList.getLast? = some '/'
  · obtain ⟨front, hfront⟩ := List.getLast?_eq_some_iff.mp hlast
    refine ⟨front, ?_, Or.inr hfront⟩
    rw [if_pos hlast]
    simp [hfront]
  · refine ⟨dir.toList, ?_, Or.inl rfl⟩
    rw [if_neg hlast]
    simp

theorem join_ne_empty (hdir : dir ≠ "") (hpath : isAbsolute path = false) : join dir path ≠ "" := by
  obtain ⟨front, hjoin, -⟩ := toList_join hdir hpath
  intro hempty
  rw [hempty] at hjoin
  simp at hjoin

theorem utf8ByteSize_le_join (hdir : dir ≠ "") (hpath : isAbsolute path = false) :
    dir.utf8ByteSize ≤ (join dir path).utf8ByteSize := by
  have hne : dir.isEmpty = false := by
    simpa using hdir
  unfold join
  rw [hpath, hne, Bool.or_self, if_neg Bool.false_ne_true]
  split
  · rw [String.utf8ByteSize_append]
    omega
  · rw [String.utf8ByteSize_append, String.utf8ByteSize_append]
    omega

theorem getLast?_join_ne_slash (hdir : dir ≠ "") (hpath : Plain path) :
    (join dir path).toList.getLast? ≠ some '/' := by
  obtain ⟨front, hjoin, -⟩ := toList_join hdir (not_isAbsolute_of_plain hpath)
  have hne : path.toList ≠ [] := by
    simpa using ne_empty_of_plain hpath
  have hlast : (join dir path).toList.getLast? = path.toList.getLast? := by
    simp [hjoin, List.getLast?_append, List.getLast?_cons, List.getLast?_eq_some_getLast hne]
  rw [hlast]
  exact getLast?_ne_slash_of_plain hpath

/-- A path below a directory starts where that of the directory does. -/
theorem isAbsolute_join (hdir : dir ≠ "") (hpath : isAbsolute path = false) :
    isAbsolute (join dir path) = isAbsolute dir := by
  obtain ⟨front, hjoin, hfront⟩ := toList_join hdir hpath
  cases front with
  | nil =>
    rcases hfront with hnil | hroot
    · exact absurd (String.toList_eq_nil_iff.mp hnil) hdir
    · simp [isAbsolute, hjoin, hroot]
  | cons c cs =>
    rcases hfront with hcs | hcs
    all_goals simp [isAbsolute, hjoin, hcs]

theorem usable_join (hdir : Usable dir) (hpath : Plain path)
    (hshort : (join dir path).utf8ByteSize ≤ Disk.maxPathSize) : Usable (join dir path) := by
  obtain ⟨front, hjoin, hfront⟩ := toList_join hdir.nonempty (not_isAbsolute_of_plain hpath)
  have hnul : Char.ofNat 0 ∉ front := by
    intro hmem
    apply hdir.noNul
    rcases hfront with h | h
    · rwa [h]
    · rw [h]
      exact List.mem_append_left _ hmem
  refine ⟨?_, join_ne_empty hdir.nonempty (not_isAbsolute_of_plain hpath), hshort⟩
  rw [hjoin, List.mem_append, List.mem_cons, not_or, not_or]
  exact ⟨hnul, by decide, hpath.1⟩

/-- The path of the directory can be followed if that of a place in it can. -/
theorem usable_of_join (hdir : dir ≠ "") (hpath : Plain path) (hjoin : Usable (join dir path)) :
    Usable dir := by
  have hsize := utf8ByteSize_le_join hdir (not_isAbsolute_of_plain hpath)
  obtain ⟨front, htext, hfront⟩ := toList_join hdir (not_isAbsolute_of_plain hpath)
  have hnul := hjoin.noNul
  rw [htext, List.mem_append, List.mem_cons, not_or, not_or] at hnul
  refine ⟨?_, hdir, Nat.le_trans hsize hjoin.short⟩
  rcases hfront with h | h
  · rw [h]
    exact hnul.1
  · rw [h, List.mem_append, List.mem_singleton, not_or]
    exact ⟨hnul.1, hnul.2.1⟩

end Path

namespace Disk

variable {d : Disk} {dir path : String} {cwd root place : Place}

theorem start_join (hdir : dir ≠ "") (hpath : Path.isAbsolute path = false) :
    start (Path.join dir path) cwd = start dir cwd := by
  rw [start, start, Path.isAbsolute_join hdir hpath]

theorem follow_empty_cons (p : Place) (name : String) (names : List String) :
    d.follow p ("" :: name :: names) = d.follow p (name :: names) := by
  cases hentry : d.get? p with
  | none => simp [follow, hentry]
  | some entry => cases entry <;> simp [follow, hentry]

/-- First the names of the directory lead on, then those of the path below it. -/
theorem followText_join (hdir : dir ≠ "") (hpath : Path.isAbsolute path = false) (first : Place) :
    d.followText first (Path.join dir path).toList =
      d.followText first dir.toList >>= fun p => d.follow p (Path.names path) := by
  obtain ⟨front, hjoin, hfront | hslash⟩ := Path.toList_join hdir hpath
  · rw [hjoin, followText_append_slash, hfront]
    rfl
  · -- The slash at the end of the directory leads nowhere else.
    rw [hjoin, hslash, followText_append_slash, followText_append_slash]
    cases d.followText first front with
    | error e => rfl
    | ok p =>
      obtain ⟨name, more, hnames⟩ := List.exists_cons_of_ne_nil (Path.names_ne_nil path)
      change d.follow p (Path.names path) =
        d.follow p [""] >>= fun p => d.follow p (Path.names path)
      rw [← follow_append, hnames]
      exact (follow_empty_cons p name more).symm

/-- The path of a directory and one below it, where that leads. -/
theorem place_join (hdir : d.place dir cwd = .ok root) (hpath : Path.Plain path)
    (hshort : (Path.join dir path).utf8ByteSize ≤ maxPathSize) :
    d.place (Path.join dir path) cwd = d.follow root (Path.names path) := by
  have husable := usable_of_place hdir
  have hrelative := Path.not_isAbsolute_of_plain hpath
  rw [place_of_usable (Path.usable_join husable hpath hshort),
    start_join husable.nonempty hrelative, followText_join husable.nonempty hrelative,
    followText_of_place hdir]
  rfl

/-- A path below a directory leads through it. -/
theorem directory_of_place_join (hdir : dir ≠ "") (hpath : Path.Plain path)
    (hplace : d.place (Path.join dir path) cwd = .ok place) :
    ∃ root, d.place dir cwd = .ok root ∧ d.get? root = some .directory := by
  have husable := Path.usable_of_join hdir hpath (usable_of_place hplace)
  have hrelative := Path.not_isAbsolute_of_plain hpath
  have hfollow := followText_of_place hplace
  rw [start_join hdir hrelative, followText_join hdir hrelative] at hfollow
  obtain ⟨root, hroot, hbelow⟩ := bind_eq_ok.mp hfollow
  obtain ⟨name, more, hnames⟩ := List.exists_cons_of_ne_nil (Path.names_ne_nil path)
  rw [hnames] at hbelow
  exact ⟨root, (place_of_usable husable).trans hroot, directory_of_follow d hbelow⟩

theorem follow_plainName {name : String} (hname : Path.PlainName name)
    (hroot : d.get? root = some .directory) (names : List String) :
    d.follow root (name :: names) = d.follow (root ++ [name]) names := by
  obtain ⟨hempty, hdot, hdots, hsize⟩ := hname
  have hstill : (name = "" || name = ".") = false := by
    simp [hempty, hdot]
  rw [follow, hroot]
  dsimp only
  rw [hstill, if_neg Bool.false_ne_true, if_neg hdots, if_neg (Nat.not_lt.mpr hsize)]

-- By induction on the names: each was followed from a directory.
/-- Names of places lead to the place that they spell. -/
theorem eq_append_of_follow {names : List String} (hnames : ∀ name ∈ names, Path.PlainName name)
    (hfollow : d.follow root names = .ok place) : place = root ++ names := by
  induction names generalizing root with
  | nil =>
    rw [List.append_nil]
    exact (Except.ok.inj hfollow).symm
  | cons name names ih =>
    obtain ⟨hname, hmore⟩ := List.forall_mem_cons.mp hnames
    rw [follow_plainName hname (directory_of_follow d hfollow)] at hfollow
    have hplace := ih hmore hfollow
    rw [hplace, List.append_assoc, List.singleton_append]

theorem eq_append_of_place_join (hdir : d.place dir cwd = .ok root) (hpath : Path.Plain path)
    (hplace : d.place (Path.join dir path) cwd = .ok place) : place = root ++ Path.names path := by
  rw [place_join hdir hpath (usable_of_place hplace).short] at hplace
  exact eq_append_of_follow hpath.2 hplace

section Change

variable {e : Disk} {text : String}

theorem kind?_eq_none_iff :
    d.kind? path cwd = none ↔ ∀ place, d.place path cwd = .ok place → d.get? place = none := by
  unfold kind? entryAt
  cases d.place path cwd with
  | error fault => simp
  | ok place =>
    cases hentry : d.get? place with
    | none => simp [hentry]
    | some entry => cases entry <;> simp [hentry]

/-- A path is that of a directory if it leads to one. -/
theorem kind?_eq_directory_iff :
    d.kind? path cwd = some .directory ↔
      ∃ place, d.place path cwd = .ok place ∧ d.get? place = some .directory := by
  unfold kind? entryAt
  cases d.place path cwd with
  | error fault => simp
  | ok place =>
    cases hentry : d.get? place with
    | none => simp [hentry]
    | some entry => cases entry <;> simp [hentry]

/-- What is there stays there. -/
theorem Grows.kind?_eq_none (h : Grows d e) (hnone : e.kind? path cwd = none) :
    d.kind? path cwd = none := by
  rw [kind?_eq_none_iff] at hnone ⊢
  intro place hplace
  have hfree := hnone place (h.keepsDirectories.place_eq_ok hplace)
  rcases h place with hsame | ⟨hfirst, -⟩
  · rw [← hsame, hfree]
  · exact hfirst

theorem directory_of_makeDir (hlast : path.toList.getLast? ≠ some '/')
    (h : d.makeDir path cwd = .ok e) : e.kind? path cwd = some .directory := by
  have hgrows := grows_makeDir h
  obtain ⟨place, hplace, -, hget⟩ := makeDir_eq_ok h
  rw [Path.withoutSlashes_eq hlast] at hplace
  refine kind?_eq_directory_iff.mpr ⟨place, hgrows.keepsDirectories.place_eq_ok hplace, ?_⟩
  rw [hget, if_pos rfl]

theorem directory_of_ensureDir (hlast : path.toList.getLast? ≠ some '/')
    (h : d.ensureDir path cwd = .ok e) : e.kind? path cwd = some .directory := by
  unfold ensureDir at h
  split at h
  · next made hmade =>
    cases h
    exact directory_of_makeDir hlast hmade
  · split at h
    · next hthere =>
      cases h
      exact hthere
    · cases h

/-- Where directories could be made, the last of them is the one that the path leads to. -/
theorem directory_of_makeDirs (hne : path ≠ "") (hlast : path.toList.getLast? ≠ some '/')
    (h : d.makeDirs path cwd = .ok e) : e.kind? path cwd = some .directory := by
  rw [makeDirs] at h
  split at h
  · next hempty => exact absurd (by simpa using hempty) hne
  split at h
  · next made hmade =>
    cases h
    exact directory_of_ensureDir hlast hmade
  · split at h
    · cases h
    · split at h
      · cases h
      · next made _ =>
        cases hmade : made.ensureDir path cwd with
        | error fault =>
          rw [hmade] at h
          cases h
        | ok last =>
          rw [hmade] at h
          cases h
          exact directory_of_ensureDir hlast hmade
  · cases h

/-- Where no slash is last, only a directory prevents that a file is written. -/
theorem directory_of_writeText_error (hlast : path.toList.getLast? ≠ some '/')
    (hplace : d.place path cwd = .ok place) {fault : FileError}
    (h : d.writeText path text cwd = .error fault) : d.get? place = some .directory := by
  unfold writeText placeToWrite at h
  rw [Path.withoutSlashes_eq hlast, hplace] at h
  dsimp only at h
  cases hentry : d.get? place with
  | none => simp [hentry, hlast] at h
  | some entry =>
    cases entry with
    | file content => simp [hentry, hlast] at h
    | directory => rfl

end Change

end Disk

end FlowGraph
