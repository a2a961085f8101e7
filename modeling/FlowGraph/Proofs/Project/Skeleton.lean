import FlowGraph.Proofs.Disk.Join
import FlowGraph.Proofs.Project.Turns

/-!
Starting a project. First directories are made and the configuration is looked for; then
the files are written one after the other. Where one of them cannot be written the command
stops, and those before it stay.
-/

namespace FlowGraph

namespace Project

open Machine Disk

inductive Writes (dir : String) (cwd : Place) : Disk → List (String × String) → Disk → Prop
  | nil (d : Disk) : Writes dir cwd d [] d
  | cons {d e f : Disk} {path text : String} {rest : List (String × String)} :
      d.writeText (Path.join dir path) text cwd = .ok e → Writes dir cwd e rest f →
      Writes dir cwd d ((path, text) :: rest) f

def StuckAt (dir : String) (cwd : Place) (d : Disk) (later : List (String × String)) : Prop :=
  ∃ path text rest fault, later = (path, text) :: rest ∧
    d.writeText (Path.join dir path) text cwd = .error fault

section Writes

variable {dir : String} {d e : Disk} {cwd root : Place} {files : List (String × String)}

/-- Files are written one after the other, up to the first that cannot be written. -/
theorem writeAll_run (dir : String) (files : List (String × String)) (w : Machine) :
    ∃ r w' written later, (writeAll dir files : StateM Machine _) w = (r, w') ∧ w'.cwd = w.cwd ∧
      files = written ++ later ∧ Writes dir w.cwd w.disk written w'.disk ∧
      (r = .ok () ↔ later = []) ∧ (later ≠ [] → StuckAt dir w.cwd w'.disk later) := by
  induction files generalizing w with
  | nil => exact ⟨_, w, [], [], rfl, rfl, rfl, .nil _, by simp, fun hne => absurd rfl hne⟩
  | cons file rest ih =>
    obtain ⟨path, text⟩ := file
    rw [writeAll, bind_run]
    cases hwrite : w.disk.writeText (Path.join dir path) text w.cwd with
    | error fault =>
      rw [writeText_error hwrite]
      exact ⟨_, w, [], _, rfl, rfl, rfl, .nil _, by simp,
        fun _ => ⟨path, text, rest, fault, rfl, hwrite⟩⟩
    | ok disk =>
      rw [writeText_ok hwrite]
      obtain ⟨r, w', written, later, hrun, hcwd, hrest, hwrites, hend⟩ := ih { w with disk }
      refine ⟨r, w', (path, text) :: written, later, hrun, hcwd, ?_, .cons hwrite hwrites, hend⟩
      rw [hrest, List.cons_append]

theorem keepsDirectories_writeText {path text : String}
    (hwrite : d.writeText path text cwd = .ok e) : KeepsDirectories d e := by
  obtain ⟨place, hplace, rfl⟩ := writeText_eq_ok_iff.mp hwrite
  exact (admits_of_placeToWrite hplace _).keepsDirectories

/-- A file below a directory is written to the place that its names lead to from there. -/
theorem get?_writeText {path text : String} (hdir : d.place dir cwd = .ok root)
    (hpath : Path.Plain path) (hwrite : d.writeText (Path.join dir path) text cwd = .ok e)
    (place : Place) :
    e.get? place =
      if place = root ++ Path.names path then some (.file (.text text)) else d.get? place := by
  obtain ⟨written, hplace, rfl⟩ := writeText_eq_ok_iff.mp hwrite
  have hjoin := (place_of_placeToWrite hplace).1
  rw [get?_set (admits_of_placeToWrite hplace _), eq_append_of_place_join hdir hpath hjoin]

theorem Writes.keepsDirectories (hwrites : Writes dir cwd d files e) : KeepsDirectories d e := by
  induction hwrites with
  | nil => exact KeepsDirectories.refl _
  | cons hwrite _ ih => exact (keepsDirectories_writeText hwrite).trans ih

/-- Places that no file is written to stay as they are. -/
theorem Writes.get?_eq (hwrites : Writes dir cwd d files e) (hdir : d.place dir cwd = .ok root)
    (hplain : ∀ file ∈ files, Path.Plain file.1) {place : Place}
    (hplace : ∀ file ∈ files, place ≠ root ++ Path.names file.1) : e.get? place = d.get? place := by
  induction hwrites with
  | nil => rfl
  | cons hwrite _ ih =>
    obtain ⟨hpath, hmore⟩ := List.forall_mem_cons.mp hplain
    obtain ⟨hother, hothers⟩ := List.forall_mem_cons.mp hplace
    have hstill := (keepsDirectories_writeText hwrite).place_eq_ok hdir
    rw [ih hstill hmore hothers, get?_writeText hdir hpath hwrite, if_neg hother]

/-- No later file is written over an earlier one. -/
theorem Writes.get?_file (hwrites : Writes dir cwd d files e) (hdir : d.place dir cwd = .ok root)
    (hplain : ∀ file ∈ files, Path.Plain file.1)
    (hnodup : (files.map fun file => Path.names file.1).Nodup) :
    ∀ file ∈ files, e.get? (root ++ Path.names file.1) = some (.file (.text file.2)) := by
  induction hwrites with
  | nil =>
    intro file hfile
    cases hfile
  | @cons _ _ _ path text rest hwrite hrest ih =>
    obtain ⟨hpath, hmore⟩ := List.forall_mem_cons.mp hplain
    obtain ⟨hfresh, hnodup⟩ := List.nodup_cons.mp hnodup
    have hstill := (keepsDirectories_writeText hwrite).place_eq_ok hdir
    have hother : ∀ file ∈ rest, root ++ Path.names path ≠ root ++ Path.names file.1 := by
      intro file hmem heq
      exact hfresh (List.mem_map.mpr ⟨file, hmem, (List.append_cancel_left heq).symm⟩)
    refine List.forall_mem_cons.mpr ⟨?_, ih hstill hmore hnodup⟩
    rw [hrest.get?_eq hstill hmore hother, get?_writeText hdir hpath hwrite, if_pos rfl]

theorem Writes.short (hwrites : Writes dir cwd d files e) :
    ∀ file ∈ files, (Path.join dir file.1).utf8ByteSize ≤ maxPathSize := by
  induction hwrites with
  | nil =>
    intro file hfile
    cases hfile
  | cons hwrite _ ih =>
    obtain ⟨place, hplace, -⟩ := writeText_eq_ok_iff.mp hwrite
    have hfirst := (usable_of_place (place_of_placeToWrite hplace).1).short
    exact List.forall_mem_cons.mpr ⟨hfirst, ih⟩

end Writes

def paths : List String :=
  [configFile, "workflows/hello.flow", ".gitignore"]

theorem map_fst_skeleton (name : String) : (skeleton name).map Prod.fst = paths :=
  rfl

theorem mem_paths_of_mem_skeleton {name : String} {file : String × String}
    (hfile : file ∈ skeleton name) : file.1 ∈ paths := by
  rw [← map_fst_skeleton name]
  exact List.mem_map_of_mem hfile

theorem plain_of_mem_paths : ∀ path ∈ paths, Path.Plain path := by
  decide

theorem nodup_paths : (paths.map Path.names).Nodup := by
  decide

section Skeleton

variable {name : String} {written later : List (String × String)}
  (hskeleton : skeleton name = written ++ later)

include hskeleton

theorem plain_of_skeleton : ∀ file ∈ written, Path.Plain file.1 := by
  intro file hfile
  have hmem : file ∈ skeleton name := by
    rw [hskeleton]
    exact List.mem_append_left _ hfile
  exact plain_of_mem_paths _ (mem_paths_of_mem_skeleton hmem)

theorem nodup_of_skeleton : (written.map fun file => Path.names file.1).Nodup := by
  have hall := nodup_paths
  rw [← map_fst_skeleton name, hskeleton, List.map_append, List.map_append, List.map_map] at hall
  exact (List.nodup_append.mp hall).1

end Skeleton

section Create

variable {dir : String} {d ready : Disk} {cwd root : Place} {w : Machine}

/-- The disk is ready for the files of a project: the directories are there, and nothing else
is new. No configuration was found, so that none is written over. -/
structure Prepares (d : Disk) (dir : String) (cwd root : Place) (ready : Disk) : Prop where
  grows : Grows d ready
  place : ready.place dir cwd = .ok root
  directory : ready.get? root = some .directory
  workflows : ready.get? (root ++ ["workflows"]) = some .directory
  unconfigured : d.kind? (Path.join dir configFile) cwd = none
  free : (Path.join dir configFile).utf8ByteSize ≤ maxPathSize →
    d.get? (root ++ [configFile]) = none

/-- Directories are made at most, and none if a configuration is found. -/
theorem makeMissing_run (dir : String) (w : Machine) :
    ∃ r w', (makeMissing dir : StateM Machine _) w = (r, w') ∧ w'.cwd = w.cwd ∧
      Grows w.disk w'.disk ∧
      (w.disk.kind? (Path.join dir configFile) w.cwd ≠ none → w'.disk = w.disk) := by
  unfold makeMissing
  rw [bind_run, kind?_run]
  cases hkind : w.disk.kind? dir w.cwd with
  | some kind => exact ⟨_, w, rfl, rfl, Grows.refl _, fun _ => rfl⟩
  | none =>
    dsimp only
    rw [bind_run]
    by_cases hdir : dir = ""
    · have hmade : w.disk.makeDirs dir w.cwd = .ok w.disk := by
        rw [hdir, makeDirs]
        rfl
      rw [makeDirs_ok hmade]
      exact ⟨_, _, rfl, rfl, Grows.refl _, fun _ => rfl⟩
    -- The configuration would be in the directory, which is missing.
    have hunconfigured : w.disk.kind? (Path.join dir configFile) w.cwd = none := by
      rw [kind?_eq_none_iff]
      intro place hplace
      obtain ⟨root, hroot, hdirectory⟩ := directory_of_place_join hdir (by decide) hplace
      rw [kind?_eq_none_iff] at hkind
      rw [hkind root hroot] at hdirectory
      cases hdirectory
    cases hmade : w.disk.makeDirs dir w.cwd with
    | error halt =>
      rw [makeDirs_error hmade]
      exact ⟨_, _, rfl, rfl, grows_of_halt hmade, fun hne => absurd hunconfigured hne⟩
    | ok disk =>
      rw [makeDirs_ok hmade]
      exact ⟨_, _, rfl, rfl, grows_of_makeDirs hmade, fun hne => absurd hunconfigured hne⟩

theorem realName_run (path : String) (w : Machine) :
    (Shell.realName path : StateM Machine _) w = (w.disk.realName path w.cwd, w) :=
  rfl

theorem exists_place_of_realName {found : Option String} (h : d.realName dir cwd = .ok found) :
    ∃ root, d.place dir cwd = .ok root ∧ d.get? root ≠ none := by
  unfold realName at h
  split at h
  · cases h
  next root hroot =>
  refine ⟨root, hroot, ?_⟩
  intro hnone
  rw [hnone] at h
  cases h

theorem exampleName_run (dir : String) (name : Option String) (w : Machine) :
    ∃ r, (exampleName dir name : StateM Machine _) w = (r, w) ∧
      ∀ chosen, r = .ok chosen → (∀ given, name = some given → chosen = given) ∧
        ∃ root, w.disk.place dir w.cwd = .ok root ∧ w.disk.get? root ≠ none := by
  unfold exampleName
  rw [bind_run, realName_run]
  cases hreal : w.disk.realName dir w.cwd with
  | error fault => exact ⟨_, rfl, fun chosen hr => nomatch hr⟩
  | ok found =>
    have hroot := exists_place_of_realName hreal
    dsimp only
    cases hname : name <|> found with
    | none => exact ⟨_, rfl, fun chosen hr => nomatch hr⟩
    | some some' =>
      refine ⟨_, rfl, ?_⟩
      intro chosen hr
      obtain rfl := Except.ok.inj hr
      refine ⟨?_, hroot⟩
      intro given hgiven
      subst hgiven
      exact (Option.some.inj hname).symm

/-- Once both directories could be made, the disk is ready for the files. -/
theorem prepares_of_makeDirs {made : Disk} (hgrows : Grows d made)
    (hplace : made.place dir cwd = .ok root) (hthere : made.get? root ≠ none)
    (hconfig : made.kind? (Path.join dir configFile) cwd = none)
    (hworkflows : made.makeDirs (Path.join dir "workflows") cwd = .ok ready) :
    Prepares d dir cwd root ready := by
  have hdir := (usable_of_place hplace).nonempty
  have hplain : Path.Plain "workflows" := by
    decide
  have hready := grows_of_makeDirs hworkflows
  have hstill := hready.keepsDirectories.place_eq_ok hplace
  have hne := Path.join_ne_empty hdir (Path.not_isAbsolute_of_plain hplain)
  obtain ⟨inside, hinside, hdirectory⟩ := kind?_eq_directory_iff.mp
    (directory_of_makeDirs hne (Path.getLast?_join_ne_slash hdir hplain) hworkflows)
  obtain rfl := eq_append_of_place_join hstill hplain hinside
  rw [place_join hstill hplain (usable_of_place hinside).short] at hinside
  have hroot : ready.get? root = some .directory := directory_of_follow ready hinside
  refine ⟨hgrows.trans hready, hstill, hroot, hdirectory, hgrows.kind?_eq_none hconfig, ?_⟩
  intro hshort
  have hrootMade : made.get? root = some .directory := by
    rcases hready root with hsame | ⟨hnone, -⟩
    · rw [← hsame, hroot]
    · exact absurd hnone hthere
  have hconfigPlace : made.place (Path.join dir configFile) cwd = .ok (root ++ [configFile]) := by
    rw [place_join hplace (by decide) hshort]
    exact follow_plainName (by decide) hrootMade []
  have hfree := kind?_eq_none_iff.mp hconfig _ hconfigPlace
  rcases hgrows (root ++ [configFile]) with hsame | ⟨hnone, -⟩
  · rw [← hsame, hfree]
  · exact hnone

/-- How starting a project ends: before the first file, or with the files up to one that
cannot be written. -/
theorem create_run (dir : String) (name : Option String) (w : Machine) :
    ∃ r w', (create dir name : StateM Machine _) w = (r, w') ∧ w'.cwd = w.cwd ∧
      (r ≠ .ok () ∧ Grows w.disk w'.disk ∧
          (w.disk.kind? (Path.join dir configFile) w.cwd ≠ none → w'.disk = w.disk) ∨
        ∃ root chosen ready written later, (∀ given, name = some given → chosen = given) ∧
          Prepares w.disk dir w.cwd root ready ∧ skeleton chosen = written ++ later ∧
          Writes dir w.cwd ready written w'.disk ∧ (r = .ok () ↔ later = []) ∧
          (later ≠ [] → StuckAt dir w.cwd w'.disk later)) := by
  obtain ⟨made, w₁, hmake, hcwd, hgrows, hsame⟩ := makeMissing_run dir w
  rw [← hcwd] at hsame ⊢
  unfold create
  rw [bind_run, hmake]
  cases made with
  | error fault => exact ⟨_, w₁, rfl, rfl, Or.inl ⟨nofun, hgrows, hsame⟩⟩
  | ok done =>
    obtain ⟨named, hname, hchosen⟩ := exampleName_run dir name w₁
    dsimp only
    rw [bind_run, hname]
    cases named with
    | error fault => exact ⟨_, w₁, rfl, rfl, Or.inl ⟨nofun, hgrows, hsame⟩⟩
    | ok chosen =>
      obtain ⟨hgiven, root, hroot, hthere⟩ := hchosen chosen rfl
      dsimp only
      rw [bind_run, kind?_run]
      cases hconfig : w₁.disk.kind? (Path.join dir configFile) w₁.cwd with
      | some kind => exact ⟨_, w₁, rfl, rfl, Or.inl ⟨nofun, hgrows, hsame⟩⟩
      | none =>
        have hunconfigured := hgrows.kind?_eq_none hconfig
        dsimp only
        rw [bind_run]
        cases hworkflows : w₁.disk.makeDirs (Path.join dir "workflows") w₁.cwd with
        | error halt =>
          rw [makeDirs_error hworkflows]
          exact ⟨_, _, rfl, rfl, Or.inl ⟨nofun, hgrows.trans (grows_of_halt hworkflows),
            fun hne => absurd hunconfigured hne⟩⟩
        | ok ready =>
          rw [makeDirs_ok hworkflows]
          have hprepares := prepares_of_makeDirs hgrows hroot hthere hconfig hworkflows
          obtain ⟨r, w', written, later, hrun, hcwd, hskeleton, hwrites, hend⟩ :=
            writeAll_run dir (skeleton chosen) { w₁ with disk := ready }
          exact ⟨r, w', hrun, hcwd, Or.inr ⟨root, chosen, ready, written, later, hgiven, hprepares,
            hskeleton, hwrites, hend⟩⟩

/-- Each file of a project has its place below the directory, which only the length of the
path can put out of reach. -/
theorem Prepares.place_join {e : Disk} (hprepares : Prepares d dir cwd root ready)
    (hkeeps : KeepsDirectories ready e) {path : String} (hpath : path ∈ paths)
    (hshort : (Path.join dir path).utf8ByteSize ≤ maxPathSize) :
    e.place (Path.join dir path) cwd = .ok (root ++ Path.names path) := by
  have hroot := hkeeps root hprepares.directory
  have hworkflows := hkeeps _ hprepares.workflows
  have hdir := hkeeps.place_eq_ok hprepares.place
  simp only [paths, List.mem_cons, List.not_mem_nil, or_false] at hpath
  rcases hpath with rfl | rfl | rfl
  · rw [Disk.place_join hdir (by decide) hshort]
    exact follow_plainName (by decide) hroot []
  · rw [Disk.place_join hdir (by decide) hshort]
    have hfirst : e.follow root ["workflows", "hello.flow"] =
        e.follow (root ++ ["workflows"]) ["hello.flow"] :=
      follow_plainName (by decide) hroot _
    have hsecond : e.follow (root ++ ["workflows"]) ["hello.flow"] =
        .ok (root ++ ["workflows"] ++ ["hello.flow"]) :=
      follow_plainName (by decide) hworkflows []
    rw [List.append_assoc] at hsecond
    exact hfirst.trans hsecond
  · rw [Disk.place_join hdir (by decide) hshort]
    exact follow_plainName (by decide) hroot []

/-- What keeps a file from being written. -/
theorem Prepares.directory_of_stuckAt {e : Disk} (hprepares : Prepares d dir cwd root ready)
    (hkeeps : KeepsDirectories ready e) {name : String} {written later : List (String × String)}
    (hskeleton : skeleton name = written ++ later) (hstuck : StuckAt dir cwd e later)
    {file : String × String} {rest : List (String × String)} (hlater : later = file :: rest) :
    e.get? (root ++ Path.names file.1) = some .directory ∨
      maxPathSize < (Path.join dir file.1).utf8ByteSize := by
  obtain ⟨path, text, more, fault, hfirst, hwrite⟩ := hstuck
  rw [hlater] at hfirst hskeleton
  obtain ⟨rfl, -⟩ := List.cons.inj hfirst
  by_cases hlong : maxPathSize < (Path.join dir path).utf8ByteSize
  · exact Or.inr hlong
  · have hmem : (path, text) ∈ skeleton name := by
      rw [hskeleton]
      exact List.mem_append_right _ List.mem_cons_self
    have hpath : path ∈ paths := mem_paths_of_mem_skeleton hmem
    have hdir := (usable_of_place hprepares.place).nonempty
    have hlast := Path.getLast?_join_ne_slash hdir (plain_of_mem_paths path hpath)
    have hplace := hprepares.place_join hkeeps hpath (Nat.le_of_not_lt hlong)
    exact Or.inl (directory_of_writeText_error hlast hplace hwrite)

/-- What was there before the files is still there, but for the places that they are
written to. -/
theorem Prepares.frame {e : Disk} (hprepares : Prepares d dir cwd root ready)
    {written : List (String × String)} (hplain : ∀ file ∈ written, Path.Plain file.1)
    (hwrites : Writes dir cwd ready written e) {place : Place}
    (hplace : ∀ file ∈ written, place ≠ root ++ Path.names file.1) :
    e.get? place = d.get? place ∨ d.get? place = none ∧ e.get? place = some .directory := by
  rw [hwrites.get?_eq hprepares.place hplain hplace]
  exact hprepares.grows place

/-- The first file that is written is the configuration, and nothing was in its place. -/
theorem Prepares.free_of_writes {e : Disk} (hprepares : Prepares d dir cwd root ready)
    {name : String} {written later : List (String × String)}
    (hskeleton : skeleton name = written ++ later) (hwrites : Writes dir cwd ready written e)
    (hwritten : written ≠ []) : d.get? (root ++ [configFile]) = none := by
  obtain ⟨first, rest, rfl⟩ := List.exists_cons_of_ne_nil hwritten
  obtain ⟨hfirst, -⟩ := List.cons.inj hskeleton
  have hshort := hwrites.short first List.mem_cons_self
  rw [← hfirst] at hshort
  exact hprepares.free hshort

end Create

end Project

namespace Command

open Project Disk Machine

/-- The exit code tells whether a project was started. -/
theorem run_init {argv : List String} {i : Invocation} {dir : String} {name : Option String}
    (hi : Invocation.ofArgs argv = .ok i) (hinit : i.request = .init dir name) {w w₁ : Machine}
    {r : Except CommandError Unit} (hcreate : (create dir name : StateM Machine _) w = (r, w₁)) :
    ∃ code w', (run argv : StateM Machine Nat) w = (code, w') ∧ w'.disk = w₁.disk ∧
      w'.cwd = w₁.cwd ∧ code ≤ 1 ∧ (code = 0 ↔ r = .ok ()) := by
  have hinvocation : (i.run : StateM Machine _) w = (r, w₁) := by
    unfold Invocation.run
    rw [hinit]
    exact hcreate
  unfold run
  rw [hi]
  dsimp only
  rw [bind_run, hinvocation]
  cases r with
  | ok done => exact ⟨0, w₁, rfl, rfl, rfl, by omega, by simp⟩
  | error fault => exact ⟨1, _, rfl, rfl, rfl, by omega, by simp⟩

/-- The files of a project are written in order, up to one in whose place a directory is or
whose path is too long, and they are all that is new but for directories. So files are
written over in two places at most, since none was in the place of the configuration; and
where that is found, nothing changes. The disk is one of plain files and directories, where a
write fails because of its path and not for lack of permission or space. -/
theorem run_init_frame {argv : List String} {i : Invocation} {dir : String} {name : Option String}
    (hi : Invocation.ofArgs argv = .ok i) (hinit : i.request = .init dir name) (w : Machine) :
    ∃ code w' root chosen written later, (run argv : StateM Machine Nat) w = (code, w') ∧
      skeleton chosen = written ++ later ∧ (∀ given, name = some given → chosen = given) ∧
      code ≤ 1 ∧ (code = 0 ↔ later = []) ∧
      (∀ file ∈ written,
        w'.disk.get? (root ++ Path.names file.1) = some (.file (.text file.2))) ∧
      (∀ place, (∀ file ∈ written, place ≠ root ++ Path.names file.1) →
        w'.disk.get? place = w.disk.get? place ∨
          w.disk.get? place = none ∧ w'.disk.get? place = some .directory) ∧
      (written ≠ [] → w'.disk.place dir w.cwd = .ok root ∧
        w.disk.get? (root ++ [configFile]) = none ∧
        ∀ file rest, later = file :: rest →
          w'.disk.get? (root ++ Path.names file.1) = some .directory ∨
            maxPathSize < (Path.join dir file.1).utf8ByteSize) ∧
      (w.disk.kind? (Path.join dir configFile) w.cwd ≠ none → code = 1 ∧ w'.disk = w.disk) := by
  obtain ⟨r, w₁, hcreate, -, hend⟩ := create_run dir name w
  obtain ⟨code, w', hrun, hdisk, -, hle, hzero⟩ := run_init hi hinit hcreate
  rcases hend with ⟨hr, hgrows, hsame⟩ |
    ⟨root, chosen, ready, written, later, hgiven, hprepares, hskeleton, hwrites, hok, hstuck⟩
  · have hne : code ≠ 0 := fun heq => hr (hzero.mp heq)
    refine ⟨code, w', [], name.getD "", [], skeleton (name.getD ""), hrun, rfl, ?_, hle,
      ⟨fun heq => absurd heq hne, nofun⟩, nofun, ?_, fun hwritten => absurd rfl hwritten, ?_⟩
    · intro given hgiven
      rw [hgiven, Option.getD_some]
    · intro place _
      rw [hdisk]
      exact hgrows place
    · intro hconfigured
      exact ⟨by omega, hdisk.trans (hsame hconfigured)⟩
  · rw [← hdisk] at hwrites hstuck
    have hplain := plain_of_skeleton hskeleton
    have hkeeps := hwrites.keepsDirectories
    refine ⟨code, w', root, chosen, written, later, hrun, hskeleton, hgiven, hle, hzero.trans hok,
      hwrites.get?_file hprepares.place hplain (nodup_of_skeleton hskeleton), ?_, ?_, ?_⟩
    · intro place hplace
      exact hprepares.frame hplain hwrites hplace
    · intro hwritten
      refine ⟨hkeeps.place_eq_ok hprepares.place,
        hprepares.free_of_writes hskeleton hwrites hwritten, ?_⟩
      intro file rest hlater
      have hne : later ≠ [] := by
        rw [hlater]
        exact List.cons_ne_nil _ _
      exact hprepares.directory_of_stuckAt hkeeps hskeleton (hstuck hne) hlater
    · intro hconfigured
      exact absurd hprepares.unconfigured hconfigured

def occupied : Machine where
  disk :=
    { entries := [([], .directory), (["work"], .directory), (["work", "p"], .directory),
        (["work", "p", ".gitignore"], .directory), (["work", "p", "workflows"], .directory),
        (["work", "p", "workflows", "hello.flow"], .file (.text "mine"))]
      ordered := by decide
      rooted := by decide
      nested := by decide }
  env _ := none
  now := "now"
  ids := ⟨⟨0⟩, fun _ => ⟨0⟩, fun _ _ => ⟨0⟩⟩

theorem run_init_frame_occupied :
    Invocation.ofArgs ["init", "/work/p", "--name", "x"] =
        .ok ⟨configFile, .init "/work/p" (some "x")⟩ ∧
      ∃ w' root written later,
        (run ["init", "/work/p", "--name", "x"] : StateM Machine Nat) occupied = (1, w') ∧
        skeleton "x" = written ++ later ∧ written ≠ [] ∧ later ≠ [] ∧
        w'.disk.place "/work/p" = .ok root ∧
        (∀ file ∈ written,
          w'.disk.get? (root ++ Path.names file.1) = some (.file (.text file.2))) ∧
        ∀ place, (∀ file ∈ written, place ≠ root ++ Path.names file.1) →
          w'.disk.get? place = occupied.disk.get? place ∨
            occupied.disk.get? place = none ∧ w'.disk.get? place = some .directory := by
  have hi : Invocation.ofArgs ["init", "/work/p", "--name", "x"] =
      .ok ⟨configFile, .init "/work/p" (some "x")⟩ := rfl
  have hruns : ((run ["init", "/work/p", "--name", "x"] : StateM Machine Nat) occupied).1 = 1 ∧
      occupied.disk.get? ["work", "p", "flowdsl.yaml"] = none ∧
      ((run ["init", "/work/p", "--name", "x"] : StateM Machine Nat) occupied).2.disk.get?
        ["work", "p", "flowdsl.yaml"] ∉ [none, some .directory] := by
    decide +kernel
  obtain ⟨code, w', root, chosen, written, later, hrun, hskeleton, hgiven, -, hzero, hfiles, hframe,
    hplace, -⟩ := run_init_frame hi rfl occupied
  obtain rfl := hgiven "x" rfl
  rw [hrun] at hruns
  obtain ⟨rfl, hbefore, hafter⟩ := hruns
  have hwritten : written ≠ [] := by
    intro hnil
    rw [hnil] at hframe
    apply hafter
    rcases hframe ["work", "p", "flowdsl.yaml"] nofun with hsame | ⟨-, hdirectory⟩
    · rw [hsame, hbefore]
      exact List.mem_cons_self
    · rw [hdirectory]
      exact List.mem_cons_of_mem _ List.mem_cons_self
  refine ⟨hi, w', root, written, later, hrun, hskeleton, hwritten, ?_, (hplace hwritten).1, hfiles,
    hframe⟩
  intro hlater
  exact absurd (hzero.mpr hlater) Nat.one_ne_zero

/-- The run fails at the last file. By then it has made a configuration, and the example that
was there is lost. -/
theorem run_init_overwrites_and_fails :
    ((run ["init", "p", "--name", "x"] : StateM Machine Nat) occupied).1 = 1 ∧
      occupied.disk.kind? "p/flowdsl.yaml" = none ∧
      ((run ["init", "p", "--name", "x"] : StateM Machine Nat) occupied).2.disk.kind?
        "p/flowdsl.yaml" = some .file ∧
      occupied.disk.get? ["work", "p", "workflows", "hello.flow"] = some (.file (.text "mine")) ∧
      ((run ["init", "p", "--name", "x"] : StateM Machine Nat) occupied).2.disk.get?
        ["work", "p", "workflows", "hello.flow"] ≠ some (.file (.text "mine")) := by
  decide +kernel

end Command

end FlowGraph
