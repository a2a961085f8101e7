import FlowGraph.Disk
import FlowGraph.Proofs.Except
import FlowGraph.Proofs.Path

/-!
What disks keep. Writing a file changes the one place that its path leads to, and making
directories changes only places where nothing was. A path leads to a place with the last
name of the path, and it goes on to do so as long as directories stay directories.
-/

namespace FlowGraph

structure Path.Usable (path : String) : Prop where
  noNul : Char.ofNat 0 ∉ path.toList
  nonempty : path ≠ ""
  short : path.utf8ByteSize ≤ Disk.maxPathSize

namespace Disk

/-- An entry that can be put at a place is there, and all else is as it was. -/
theorem get?_set {d : Disk} {place : Place} {entry : DiskEntry} (h : d.Admits place entry)
    (other : Place) :
    (d.set place entry).get? other = if other = place then some entry else d.get? other := by
  unfold set
  rw [dif_pos h]
  exact lookup_insert place other entry d.entries

section Follow

variable (d : Disk)

theorem follow_append (place : Place) (names more : List String) :
    d.follow place (names ++ more) = d.follow place names >>= fun p => d.follow p more := by
  induction names generalizing place with
  | nil => rfl
  | cons name names ih =>
    rw [List.cons_append, follow, follow]
    split
    · rfl
    · rfl
    · split
      · exact ih place
      split
      · exact ih place.dropLast
      split
      · rfl
      · exact ih (place ++ [name])

/-- One name leads on from a directory only. -/
theorem directory_of_follow {place p : Place} {name : String} {names : List String}
    (h : d.follow place (name :: names) = .ok p) : d.get? place = some .directory := by
  rw [follow] at h
  split at h
  · cases h
  · cases h
  · assumption

/-- An empty name and a single dot lead nowhere else. -/
theorem follow_still {place : Place} {name : String} (hname : name = "" ∨ name = ".")
    (h : d.get? place = some .directory) : d.follow place [name] = .ok place := by
  have hstill : (name = "" || name = ".") = true := by simpa using hname
  rw [follow, h]
  simp only [hstill, if_true, follow]

theorem follow_proper {place p : Place} {name : List Char} (hname : Path.Proper name)
    (h : d.follow place [String.ofList name] = .ok p) : p = place ++ [String.ofList name] := by
  have hne : String.ofList name ≠ "" ∧ String.ofList name ≠ "." ∧ String.ofList name ≠ ".." := by
    refine ⟨?_, ?_, ?_⟩
    all_goals
      intro heq
      have hlist := congrArg String.toList heq
      rw [String.toList_ofList] at hlist
    · exact hname.nonempty hlist
    · exact hname.notDot hlist
    · exact hname.notDots hlist
  rw [follow, directory_of_follow d h] at h
  simp only [hne, decide_false, Bool.or_self, Bool.false_eq_true, if_false] at h
  split at h
  · cases h
  · exact (Except.ok.inj h).symm

/-- Following names leads to a place that is in a directory. -/
theorem directory_of_follow_eq_ok {start place : Place} {names : List String}
    (hstart : d.get? start = some .directory) (h : d.follow start names = .ok place) :
    d.get? place.dropLast = some .directory := by
  induction names generalizing start with
  | nil =>
    obtain rfl := Except.ok.inj h
    exact get?_dropLast hstart
  | cons name names ih =>
    rw [follow, hstart] at h
    dsimp only at h
    split at h
    · exact ih hstart h
    split at h
    · exact ih (get?_dropLast hstart) h
    split at h
    · cases h
    · -- Nothing need be at the place of the name itself, if it is the last one.
      cases names with
      | nil =>
        obtain rfl := Except.ok.inj h
        rw [List.dropLast_concat]
        exact hstart
      | cons next names => exact ih (directory_of_follow d h) h

def followText (start : Place) (cs : List Char) : Except FileError Place :=
  d.follow start ((Path.split cs).map String.ofList)

variable {d} {cwd : Place}

theorem place_of_usable {path : String} (hpath : Path.Usable path) :
    d.place path cwd = d.followText (start path cwd) path.toList := by
  have hnul := hpath.noNul
  have hne := hpath.nonempty
  have hshort := Nat.not_lt.mpr hpath.short
  simp [Disk.place, followText, hnul, hne, hshort]

/-- Whether a path can be followed at all does not hang on the disk. -/
theorem usable_of_place {path : String} {place : Place} (h : d.place path cwd = .ok place) :
    Path.Usable path := by
  unfold Disk.place at h
  split at h
  · cases h
  next hnul =>
  split at h
  · cases h
  next hne =>
  split at h
  · cases h
  next hshort =>
  exact ⟨by simpa using hnul, by simpa using hne, Nat.le_of_not_lt hshort⟩

theorem followText_of_place {path : String} {place : Place} (h : d.place path cwd = .ok place) :
    d.followText (start path cwd) path.toList = .ok place :=
  place_of_usable (usable_of_place h) ▸ h

theorem directory_of_followText {start place : Place} {cs : List Char}
    (h : d.followText start cs = .ok place) : d.get? place.dropLast = some .directory := by
  obtain ⟨name, names, hnames⟩ := List.exists_cons_of_ne_nil (Path.split_ne_nil cs)
  have hstart : d.get? start = some .directory := by
    rw [followText, hnames] at h
    exact directory_of_follow d h
  exact directory_of_follow_eq_ok d hstart h

/-- Where a path leads there is a directory that the place is in. -/
theorem directory_of_place {path : String} {place : Place} (h : d.place path cwd = .ok place) :
    d.get? place.dropLast = some .directory :=
  directory_of_followText (followText_of_place h)

theorem followText_append_slash {start : Place} {cs ds : List Char} :
    d.followText start (cs ++ '/' :: ds) =
      d.followText start cs >>= fun p => d.follow p ((Path.split ds).map String.ofList) := by
  rw [followText, Path.split_append_slash, List.map_append, follow_append]
  rfl

/-- The last name of a text is that of the place. -/
theorem followText_last {start place : Place} {cs name : List Char}
    (h : d.followText start cs = .ok place) (hends : Path.EndsWith cs name)
    (hname : Path.Proper name) :
    ∃ parent, place = parent ++ [String.ofList name] := by
  obtain ⟨names, hnames⟩ := hends.split_eq
  rw [followText, hnames, List.map_append, follow_append] at h
  obtain ⟨parent, -, hlast⟩ := bind_eq_ok.mp h
  exact ⟨parent, follow_proper d hname hlast⟩

/-- Slashes and single dots at the end of a text change nothing of where it leads. -/
theorem followText_trimReversed {start place : Place} {cs : List Char}
    (h : d.followText start cs.reverse = .ok place) :
    d.followText start (Path.trimReversed cs).reverse = .ok place := by
  fun_induction Path.trimReversed cs with
  | case1 => exact h
  | case2 => exact h
  | case3 cs _ ih =>
    apply ih
    rw [List.reverse_cons, followText_append_slash] at h
    obtain ⟨p, hfollow, hlast⟩ := bind_eq_ok.mp h
    have hstill := follow_still d (Or.inl rfl) (directory_of_follow d hlast)
    rw [hfollow, ← hstill]
    exact hlast
  | case4 cs ih =>
    apply ih
    rw [List.reverse_cons, List.reverse_cons, List.append_assoc, List.singleton_append,
      followText_append_slash] at h
    rw [List.reverse_cons, followText_append_slash]
    obtain ⟨p, hfollow, hlast⟩ := bind_eq_ok.mp h
    have hdirectory := directory_of_follow d hlast
    have hdot := follow_still d (Or.inr rfl) hdirectory
    refine bind_eq_ok.mpr ⟨p, hfollow, ?_⟩
    exact (follow_still d (Or.inl rfl) hdirectory).trans (hdot.symm.trans hlast)
  | case5 => exact h

theorem place_last {path : String} {name : List Char} {place : Place}
    (h : d.place path cwd = .ok place) (hends : Path.EndsWith path.toList name)
    (hname : Path.Proper name) : ∃ parent, place = parent ++ [String.ofList name] :=
  followText_last (followText_of_place h) hends hname

theorem place_fileName {path : String} {name : List Char} {place : Place}
    (h : d.place path cwd = .ok place) (hname : Path.fileName? path = some name) :
    ∃ parent, place = parent ++ [String.ofList name] := by
  obtain ⟨hproper, hends⟩ := Path.fileName?_eq_some hname
  have hwhole : d.followText (start path cwd) path.toList.reverse.reverse = .ok place := by
    rw [List.reverse_reverse]
    exact followText_of_place h
  exact followText_last (followText_trimReversed hwhole) hends hproper

end Follow

section Write

variable {d e : Disk} {cwd : Place}

/-- A file is written to the place of its path, and not in place of a directory. -/
theorem place_of_placeToWrite {path : String} {place : Place}
    (h : d.placeToWrite path cwd = .ok place) :
    d.place path cwd = .ok place ∧ d.get? place ≠ some .directory := by
  unfold placeToWrite at h
  split at h
  · cases h
  next p hp =>
  split at h
  · cases h
  next hentry =>
  split at h
  · cases h
  next hlast =>
  cases h
  rw [Path.withoutSlashes_eq hlast] at hp
  exact ⟨hp, hentry⟩

theorem admits_of_placeToWrite {path : String} {place : Place}
    (h : d.placeToWrite path cwd = .ok place) (content : Content) :
    d.Admits place (.file content) := by
  obtain ⟨hplace, hfree⟩ := place_of_placeToWrite h
  exact ⟨directory_of_place hplace, Or.inr hfree⟩

theorem writeText_eq_ok_iff {path text : String} :
    d.writeText path text cwd = .ok e ↔
      ∃ place, d.placeToWrite path cwd = .ok place ∧ e = d.set place (.file (.text text)) := by
  unfold writeText
  cases d.placeToWrite path cwd with
  | error fault => simp
  | ok place => simp [eq_comm]

def Grows (d e : Disk) : Prop :=
  ∀ place, e.get? place = d.get? place ∨ d.get? place = none ∧ e.get? place = some .directory

theorem Grows.refl (d : Disk) : Grows d d :=
  fun _ => Or.inl rfl

theorem Grows.trans {f : Disk} (hde : Grows d e) (hef : Grows e f) : Grows d f := by
  intro place
  rcases hef place with hf | ⟨hnone, hf⟩
  · rw [hf]
    exact hde place
  · rcases hde place with he | ⟨-, he⟩
    · exact Or.inr ⟨he ▸ hnone, hf⟩
    · rw [he] at hnone
      cases hnone

/-- A directory is made at the place that its path leads to, where nothing was. -/
theorem makeDir_eq_ok {path : String} (h : d.makeDir path cwd = .ok e) :
    ∃ place, d.place (Path.withoutSlashes path) cwd = .ok place ∧ d.get? place = none ∧
      ∀ other, e.get? other = if other = place then some .directory else d.get? other := by
  unfold makeDir at h
  split at h
  · cases h
  next place hplace =>
  split at h
  · cases h
  next hnone =>
  cases h
  exact ⟨place, hplace, by simpa using hnone, get?_set ⟨directory_of_place hplace, Or.inl rfl⟩⟩

/-- Making directories loses nothing: a place has what it had, or is a directory where nothing
was. -/
theorem grows_makeDir {path : String} (h : d.makeDir path cwd = .ok e) : Grows d e := by
  obtain ⟨place, -, hnone, hget⟩ := makeDir_eq_ok h
  intro other
  rw [hget]
  by_cases hother : other = place
  · subst hother
    rw [if_pos rfl]
    exact Or.inr ⟨hnone, rfl⟩
  · rw [if_neg hother]
    exact Or.inl rfl

theorem grows_ensureDir {path : String} (h : d.ensureDir path cwd = .ok e) : Grows d e := by
  unfold ensureDir at h
  split at h
  · next made hmade =>
    cases h
    exact grows_makeDir hmade
  · split at h
    · cases h
      exact Grows.refl d
    · cases h

def remaining : Except Halt Disk → Disk
  | .ok made => made
  | .error halt => halt.disk

/-- All directories are made, or those up to one that cannot be made. -/
theorem grows_makeDirs (d : Disk) (path : String) (cwd : Place) :
    Grows d (remaining (d.makeDirs path cwd)) := by
  fun_induction makeDirs d path cwd with
  | case1 => exact Grows.refl d
  | case2 path _ made hmade => exact grows_ensureDir hmade
  | case3 => exact Grows.refl d
  | case4 path _ _ parent _ halt hhalt ih =>
    rw [hhalt] at ih
    exact ih
  | case5 path _ _ parent _ made hmade ih =>
    -- the directories above it are made first, and then the one that was missing
    rw [hmade] at ih
    cases hlast : made.ensureDir path cwd with
    | error fault => exact ih
    | ok last => exact Grows.trans ih (grows_ensureDir hlast)
  | case6 => exact Grows.refl d

theorem grows_of_makeDirs {path : String} (h : d.makeDirs path cwd = .ok e) : Grows d e := by
  have hgrows := grows_makeDirs d path cwd
  rw [h] at hgrows
  exact hgrows

theorem grows_of_halt {path : String} {halt : Halt} (h : d.makeDirs path cwd = .error halt) :
    Grows d halt.disk := by
  have hgrows := grows_makeDirs d path cwd
  rw [h] at hgrows
  exact hgrows

def KeepsDirectories (d e : Disk) : Prop :=
  ∀ place, d.get? place = some .directory → e.get? place = some .directory

theorem KeepsDirectories.refl (d : Disk) : KeepsDirectories d d :=
  fun _ h => h

theorem KeepsDirectories.trans {f : Disk} (hde : KeepsDirectories d e)
    (hef : KeepsDirectories e f) : KeepsDirectories d f :=
  fun place h => hef place (hde place h)

theorem Grows.keepsDirectories (h : Grows d e) : KeepsDirectories d e := by
  intro place hplace
  rcases h place with hsame | ⟨hnone, -⟩
  · rw [hsame, hplace]
  · rw [hnone] at hplace
    cases hplace

/-- Directories stay directories, since a file takes the place of none. -/
theorem Admits.keepsDirectories {place : Place} {content : Content}
    (h : d.Admits place (.file content)) : KeepsDirectories d (d.set place (.file content)) := by
  intro other hother
  have hne : other ≠ place := by
    intro heq
    exact h.2.resolve_left nofun (heq ▸ hother)
  rw [get?_set h, if_neg hne, hother]

-- By induction on the names: each is followed from a directory, which is one on both disks.
theorem KeepsDirectories.follow_eq_ok (h : KeepsDirectories d e) {start place : Place}
    {names : List String} (hfollow : d.follow start names = .ok place) :
    e.follow start names = .ok place := by
  induction names generalizing start with
  | nil => exact hfollow
  | cons name names ih =>
    have hstart := directory_of_follow d hfollow
    rw [follow, hstart] at hfollow
    rw [follow, h start hstart]
    dsimp only at hfollow ⊢
    by_cases hstill : (name = "" || name = ".") = true
    · rw [if_pos hstill] at hfollow ⊢
      exact ih hfollow
    rw [if_neg hstill] at hfollow ⊢
    by_cases hup : name = ".."
    · rw [if_pos hup] at hfollow ⊢
      exact ih hfollow
    rw [if_neg hup] at hfollow ⊢
    by_cases hlong : maxNameSize < name.utf8ByteSize
    · rw [if_pos hlong] at hfollow
      cases hfollow
    rw [if_neg hlong] at hfollow ⊢
    exact ih hfollow

/-- A path that leads somewhere goes on to lead there. -/
theorem KeepsDirectories.place_eq_ok (h : KeepsDirectories d e) {path : String} {place : Place}
    (hplace : d.place path cwd = .ok place) : e.place path cwd = .ok place := by
  rw [place_of_usable (usable_of_place hplace)]
  exact h.follow_eq_ok (followText_of_place hplace)

theorem entryAt_eq_ok_iff {path : String} {entry : DiskEntry} :
    d.entryAt path cwd = .ok entry ↔
      ∃ place, d.place path cwd = .ok place ∧ d.get? place = some entry := by
  unfold entryAt
  cases d.place path cwd with
  | error fault => simp
  | ok place =>
    dsimp only
    cases hget : d.get? place <;> simp [hget]

/-- No file is lost where nothing is. -/
theorem Grows.entryAt_file (h : Grows d e) {path : String} {content : Content}
    (hfile : d.entryAt path cwd = .ok (.file content)) :
    e.entryAt path cwd = .ok (.file content) := by
  obtain ⟨place, hplace, hget⟩ := entryAt_eq_ok_iff.mp hfile
  refine entryAt_eq_ok_iff.mpr ⟨place, h.keepsDirectories.place_eq_ok hplace, ?_⟩
  rcases h place with hsame | ⟨hnone, -⟩
  · rw [hsame, hget]
  · rw [hget] at hnone
    cases hnone

theorem readText_of_entryAt {path text : String}
    (h : d.entryAt path cwd = .ok (.file (.text text))) : d.readText path cwd = .ok text := by
  unfold readText
  rw [h]

end Write

end Disk

end FlowGraph
