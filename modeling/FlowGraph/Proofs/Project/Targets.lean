import Mathlib.Data.List.Dedup
import Mathlib.Tactic.Choose
import FlowGraph.Proofs.Project.Frame

/-!
Which documents are kept when a directory of sources is compiled into one directory. The
name of a document is made from the last name of its source alone, so sources in different
directories can share a file: what is kept is the document of the last source of each name.
-/

namespace FlowGraph

/-- Two ways to name the elements of a list that tell the same ones apart give as many names. -/
theorem length_dedup_map {α β γ : Type} [DecidableEq β] [DecidableEq γ] {f : α → β} {g : α → γ}
    {l : List α} (h : ∀ a ∈ l, ∀ b ∈ l, f a = f b ↔ g a = g b) :
    (l.map f).dedup.length = (l.map g).dedup.length := by
  induction l with
  | nil => rfl
  | cons a l ih =>
    have hmem : f a ∈ l.map f ↔ g a ∈ l.map g := by
      simp only [List.mem_map]
      constructor
      · intro ⟨b, hb, heq⟩
        exact ⟨b, hb, (h b (List.mem_cons_of_mem a hb) a List.mem_cons_self).mp heq⟩
      · intro ⟨b, hb, heq⟩
        exact ⟨b, hb, (h b (List.mem_cons_of_mem a hb) a List.mem_cons_self).mpr heq⟩
    have hrest := ih fun b hb c hc => h b (List.mem_cons_of_mem a hb) c (List.mem_cons_of_mem a hc)
    rw [List.map_cons, List.map_cons]
    by_cases hold : f a ∈ l.map f
    · rw [List.dedup_cons_of_mem hold, List.dedup_cons_of_mem (hmem.mp hold), hrest]
    · rw [List.dedup_cons_of_notMem hold, List.dedup_cons_of_notMem fun hg => hold (hmem.mpr hg),
        List.length_cons, List.length_cons, hrest]

namespace Project

theorem ofOption_directory {output : Option String} {out : String} (hout : output = some out)
    (hfile : out ≠ "-") : Destination.ofOption output true = .directory out := by
  subst hout
  unfold Destination.ofOption
  split
  · contradiction
  · next heq => exact absurd (Option.some.inj heq) hfile
  · next heq =>
    rw [Option.some.inj heq]
    rfl

section Directory

variable {s : Setting} {out : String} {d e : Disk} {turns : List Turn} {t u : Turn}

/-- In one directory sources share a target exactly if they share a name. -/
theorem target?_eq_iff {a b : String} (ha : isSource a = true) (hb : isSource b = true) :
    (Destination.directory out).target? a = (Destination.directory out).target? b ↔
      Path.fileName? a = Path.fileName? b := by
  constructor
  · intro h
    obtain ⟨target, htarget⟩ : ∃ target, (Destination.directory out).target? a = some target :=
      ⟨_, rfl⟩
    obtain ⟨x, hx, hxstem, hxends⟩ := target?_endsWith ha (by simp) htarget
    obtain ⟨y, hy, hystem, hyends⟩ := target?_endsWith hb (by simp) (h ▸ htarget)
    rw [hx, hy, documentName_inj hxstem hystem (hxends.unique hyends)]
  · intro h
    unfold Destination.target?
    obtain ⟨name, hname, -⟩ := name_of_isSource ha
    rw [← h, hname]

theorem Setting.Runs.keepsDirectories_from (h : s.Runs d turns e) (ht : t ∈ turns) :
    Disk.KeepsDirectories t.before e := by
  obtain ⟨earlier, later, rfl⟩ := List.append_of_mem ht
  exact h.split.1.keepsDirectories.trans h.split.2.keepsDirectories

theorem Turn.Taken.get?_of_writes (ht : t.Taken s) {place : Place} {text : String}
    (hwrites : t.Writes s place text) : t.after.get? place = some (.file (.text text)) := by
  rcases ht.get?_after place with ⟨-, hnone⟩ | ⟨other, hother, hget⟩
  · exact absurd hwrites (hnone text)
  · rw [hget, (hother.unique hwrites).2]

theorem Turn.Taken.exists_writes (hout : s.destination = .directory out) (ht : t.Taken s)
    (hsuccess : t.outcome.success = true) : ∃ place text, t.Writes s place text := by
  rcases ht.cases with ⟨hidle, -⟩ | ⟨place, text, hwrites, -⟩
  · rw [hsuccess, hout] at hidle
    simp [Destination.target?] at hidle
  · exact ⟨place, text, hwrites⟩

/-- Turns write to one place exactly if their sources share a name. -/
theorem Setting.Runs.place_eq_iff (hout : s.destination = .directory out) (h : s.Runs d turns e)
    (hsources : ∀ t ∈ turns, isSource t.source = true) (ht : t ∈ turns) (hu : u ∈ turns)
    {p q : Place} {text other : String} (htw : t.Writes s p text) (huw : u.Writes s q other) :
    p = q ↔ Path.fileName? t.source = Path.fileName? u.source := by
  have hfile : ∀ path, s.destination ≠ .file path := by simp [hout]
  constructor
  · intro hpq
    obtain ⟨x, parent, hx, hxstem, hp⟩ := htw.place_last (hsources t ht) hfile
    obtain ⟨y, folder, hy, hystem, hq⟩ := huw.place_last (hsources u hu) hfile
    have hlast : String.ofList (documentName x) = String.ofList (documentName y) := by
      have happend := hp.symm.trans (hpq.trans hq)
      simpa using (List.append_inj' happend rfl).2
    rw [hx, hy, documentName_inj hxstem hystem (String.ofList_injective hlast)]
  · intro hname
    obtain ⟨-, target, -, htarget, hp, -⟩ := htw
    obtain ⟨-, target', -, htarget', hq, -⟩ := huw
    rw [hout] at htarget htarget'
    rw [(target?_eq_iff (hsources t ht) (hsources u hu)).mpr hname, htarget'] at htarget
    cases htarget
    -- one target leads to one place, although the disk has changed between the two turns
    have hpend := (h.keepsDirectories_from ht).place_eq_ok hp
    have hqend := (h.keepsDirectories_from hu).place_eq_ok hq
    exact Except.ok.inj (hpend.symm.trans hqend)

/-- The document of a source is kept if no later source has its name. -/
theorem Setting.Runs.readText_target (hout : s.destination = .directory out)
    {earlier later : List Turn} (h : s.Runs d (earlier ++ t :: later) e)
    (hsources : ∀ u ∈ earlier ++ t :: later, isSource u.source = true)
    (hsuccess : t.outcome.success = true)
    (hlast : ∀ u ∈ later, Path.fileName? u.source ≠ Path.fileName? t.source) :
    ∃ target document, s.destination.target? t.source = some target ∧
      t.outcome.document = some document ∧
      e.readText target s.cwd = .ok (s.fileText document) := by
  have ht : t ∈ earlier ++ t :: later := List.mem_append_right _ List.mem_cons_self
  obtain ⟨htaken, hlater⟩ := h.split
  obtain ⟨place, text, hwrites⟩ := htaken.exists_writes hout hsuccess
  have hget : e.get? place = some (.file (.text text)) := by
    rcases hlater.get?_eq place with ⟨hsame, -⟩ | ⟨other, ⟨before, u, after, rfl, hu, -⟩, -⟩
    · rw [hsame, htaken.get?_of_writes hwrites]
    · have hmem : u ∈ before ++ u :: after := List.mem_append_right _ List.mem_cons_self
      have hall : u ∈ earlier ++ t :: (before ++ u :: after) :=
        List.mem_append_right _ (List.mem_cons_of_mem t hmem)
      have hshared := (h.place_eq_iff hout hsources hall ht hu hwrites).mp rfl
      exact absurd hshared (hlast u hmem)
  obtain ⟨-, target, document, htarget, hplace, hdocument, rfl⟩ := hwrites
  refine ⟨target, document, htarget, hdocument, Disk.readText_of_entryAt ?_⟩
  have hplaceEnd := (h.keepsDirectories_from ht).place_eq_ok hplace
  exact Disk.entryAt_eq_ok_iff.mpr ⟨place, hplaceEnd, hget⟩

/-- A file that turns write to holds what the last of them has written. -/
theorem Setting.Runs.exists_lastWrites (h : s.Runs d turns e) (ht : t ∈ turns) {place : Place}
    {text : String} (hwrites : t.Writes s place text) :
    ∃ last, LastWrites s turns place last ∧ e.get? place = some (.file (.text last)) := by
  rcases h.get?_eq place with ⟨-, hnone⟩ | hlast
  · exact absurd hwrites (hnone t ht text)
  · exact hlast

/-- As many files are written as there are names among the sources. -/
theorem Setting.Runs.exists_places (hout : s.destination = .directory out)
    (h : s.Runs d turns e) (hsources : ∀ t ∈ turns, isSource t.source = true)
    (hsuccess : ∀ t ∈ turns, t.outcome.success = true) :
    ∃ places : List Place, places.Nodup ∧
      (∀ place, place ∈ places ↔ ∃ t ∈ turns, ∃ text, t.Writes s place text) ∧
      places.length = ((turns.map Turn.source).map Path.fileName?).dedup.length := by
  have hwrites : ∀ t : Turn, ∃ place, t ∈ turns → ∃ text, t.Writes s place text := by
    intro t
    by_cases ht : t ∈ turns
    · obtain ⟨place, text, hplace⟩ := (h.taken ht).exists_writes hout (hsuccess t ht)
      exact ⟨place, fun _ => ⟨text, hplace⟩⟩
    · exact ⟨[], fun hmem => absurd hmem ht⟩
  choose placeOf hplaceOf using hwrites
  have htell : ∀ t ∈ turns, ∀ u ∈ turns,
      placeOf t = placeOf u ↔ Path.fileName? t.source = Path.fileName? u.source := by
    intro t ht u hu
    obtain ⟨text, htext⟩ := hplaceOf t ht
    obtain ⟨other, hother⟩ := hplaceOf u hu
    exact h.place_eq_iff hout hsources ht hu htext hother
  refine ⟨(turns.map placeOf).dedup, List.nodup_dedup _, ?_, ?_⟩
  · intro place
    rw [List.mem_dedup, List.mem_map]
    constructor
    · rintro ⟨t, ht, rfl⟩
      exact ⟨t, ht, hplaceOf t ht⟩
    · rintro ⟨t, ht, text, hplace⟩
      obtain ⟨other, hother⟩ := hplaceOf t ht
      exact ⟨t, ht, (h.place_eq_iff hout hsources ht ht hother hplace).mpr rfl⟩
  · rw [length_dedup_map htell, List.map_map]
    rfl

end Directory

end Project

namespace Command

open Project

/-- A run over a directory that exits with 0 has compiled every source. Sources share a
target if they share a name; of those that do, the last one has its document in the file,
and as many files are written as there are names. The disk is one of plain files and
directories, and all names on it are texts in UTF-8. -/
theorem run_compile_keeps_last_of_name {argv : List String} {i : Invocation} {args : CompileArgs}
    {out : String} {w w' : Machine} (hi : Invocation.ofArgs argv = .ok i)
    (hargs : i.request = .compile args) (hout : args.output = some out) (hfile : out ≠ "-")
    (hkind : w.disk.kind? args.path w.cwd = some .directory)
    (hrun : (run argv : StateM Machine Nat) w = (0, w')) :
    ∃ s sources made turns, Starts w i.config args s sources made ∧
      s.destination = .directory out ∧ s.Runs made turns w'.disk ∧
      turns.map Turn.source = sources ∧ (∀ t ∈ turns, t.outcome.success = true) ∧
      (∀ a ∈ sources, ∀ b ∈ sources,
        s.destination.target? a = s.destination.target? b ↔ Path.fileName? a = Path.fileName? b) ∧
      (∀ earlier t later, turns = earlier ++ t :: later →
        (∀ u ∈ later, Path.fileName? u.source ≠ Path.fileName? t.source) →
        ∃ target document, s.destination.target? t.source = some target ∧
          t.outcome.document = some document ∧
          w'.disk.readText target w.cwd = .ok (s.fileText document)) ∧
      ∃ places : List Place, places.Nodup ∧
        (∀ place, place ∈ places ↔ ∃ t ∈ turns, ∃ text, t.Writes s place text) ∧
        (∀ place ∈ places, ∃ text, LastWrites s turns place text ∧
          w'.disk.get? place = some (.file (.text text))) ∧
        places.length = (sources.map Path.fileName?).dedup.length := by
  obtain ⟨code, w₁, hrun', hend⟩ := run_compile hi hargs w
  rw [hrun] at hrun'
  cases hrun'
  rcases hend with ⟨hcode, -⟩ | ⟨s, sources, made, turns, hstarts, hruns, hend⟩
  · cases hcode
  rcases hend with ⟨rfl, hcode⟩ | ⟨hcode, -⟩
  swap
  · cases hcode
  have hsuccess : ∀ t ∈ turns, t.outcome.success = true := by
    by_contra hfailed
    rw [if_neg fun hall => hfailed (List.all_eq_true.mp hall)] at hcode
    cases hcode
  have hdirectory : s.destination = .directory out := by
    obtain ⟨loaded, -, rfl⟩ := hstarts.config
    have hseveral := decide_eq_true hkind
    unfold Setting.ofArgs
    rw [hseveral]
    exact ofOption_directory hout hfile
  have hflow : ∀ a ∈ turns.map Turn.source, isSource a = true := fun a ha =>
    isSource_of_mem_sources hkind hstarts.sources ha
  have hsources : ∀ t ∈ turns, isSource t.source = true := fun t ht =>
    hflow t.source (List.mem_map_of_mem ht)
  refine ⟨s, _, made, turns, hstarts, hdirectory, hruns, rfl, hsuccess, ?_, ?_, ?_⟩
  · intro a ha b hb
    rw [hdirectory]
    exact target?_eq_iff (hflow a ha) (hflow b hb)
  · rintro earlier t later rfl hlast
    have ht : t ∈ earlier ++ t :: later := List.mem_append_right _ List.mem_cons_self
    rw [← hstarts.cwd_eq]
    exact hruns.readText_target hdirectory hsources (hsuccess t ht) hlast
  · obtain ⟨places, hnodup, hmem, hlength⟩ := hruns.exists_places hdirectory hsources hsuccess
    refine ⟨places, hnodup, hmem, ?_, hlength⟩
    intro place hplace
    obtain ⟨t, ht, text, hwrites⟩ := (hmem place).mp hplace
    exact hruns.exists_lastWrites ht hwrites

def twins : Machine where
  disk :=
    { entries := [([], .directory), (["work"], .directory), (["work", "w"], .directory),
        (["work", "w", "a.flow"],
          .file (.text "workflow \"a\" \x7b node n \"noop\" \x7b\x7d \x7d")),
        (["work", "w", "s"], .directory),
        (["work", "w", "s", "a.flow"],
          .file (.text "workflow \"twin\" \x7b node n \"noop\" \x7b\x7d \x7d")),
        (["work", "w", "s", "b.flow"],
          .file (.text "workflow \"b\" \x7b node n \"noop\" \x7b\x7d \x7d"))]
      ordered := by decide
      rooted := by decide
      nested := by decide }
  env _ := none
  now := "now"
  ids := ⟨⟨0⟩, fun _ => ⟨0⟩, fun _ _ => ⟨0⟩⟩

theorem run_compile_keeps_last_twin :
    ∃ w' s sources made turns,
      (run ["compile", "/work/w", "-o", "/out", "--compact"] : StateM Machine Nat) twins =
        (0, w') ∧
      Starts twins configFile { path := "/work/w", output := some "/out", compact := true } s
        sources made ∧
      s.Runs made turns w'.disk ∧
      sources = ["/work/w/a.flow", "/work/w/s/a.flow", "/work/w/s/b.flow"] ∧
      w'.disk.get? ["out", "a.json"] = some (.file (.text (loneEntryText "twin"))) ∧
      ∃ places : List Place, places.Nodup ∧
        (∀ place, place ∈ places ↔ ∃ t ∈ turns, ∃ text, t.Writes s place text) ∧
        places.length = 2 := by
  have hi : Invocation.ofArgs ["compile", "/work/w", "-o", "/out", "--compact"] =
      .ok ⟨configFile,
        .compile { path := "/work/w", output := some "/out", compact := true }⟩ := rfl
  have hruns :
      ((run ["compile", "/work/w", "-o", "/out", "--compact"] : StateM Machine Nat) twins).1 = 0 ∧
      ((run ["compile", "/work/w", "-o", "/out", "--compact"] : StateM Machine Nat)
        twins).2.disk.get? ["out", "a.json"] = some (.file (.text (loneEntryText "twin"))) := by
    decide +kernel
  have hfound : twins.sources "/work/w" =
      .ok ["/work/w/a.flow", "/work/w/s/a.flow", "/work/w/s/b.flow"] := by
    decide +kernel
  obtain ⟨w', hrun⟩ : ∃ w',
      (run ["compile", "/work/w", "-o", "/out", "--compact"] : StateM Machine Nat) twins =
        (0, w') := ⟨_, Prod.ext hruns.1 rfl⟩
  obtain ⟨s, sources, made, turns, hstarts, -, hturns, -, -, -, -, places, hnodup, hmem, -,
    hlength⟩ := run_compile_keeps_last_of_name hi rfl rfl (by decide) (by decide) hrun
  have hsources : sources = ["/work/w/a.flow", "/work/w/s/a.flow", "/work/w/s/b.flow"] :=
    Except.ok.inj (hstarts.sources.symm.trans hfound)
  have hwritten := hruns.2
  rw [hrun] at hwritten
  refine ⟨w', s, sources, made, turns, hrun, hstarts, hturns, hsources, hwritten, places, hnodup,
    hmem, ?_⟩
  rw [hlength, hsources]
  decide

/-- The run exits with 0 although the document of a source is lost. -/
theorem run_compile_loses_twin :
    ((run ["compile", "w", "-o", "out", "--compact"] : StateM Machine Nat) twins).1 = 0 ∧
      twins.sources "w" = .ok ["w/a.flow", "w/s/a.flow", "w/s/b.flow"] ∧
      (Destination.directory "out").target? "w/a.flow" =
        (Destination.directory "out").target? "w/s/a.flow" ∧
      ((run ["compile", "w", "-o", "out", "--compact"] : StateM Machine Nat)
        twins).2.disk.filesBelow "out" = .ok ["out/a.json", "out/b.json"] := by
  decide +kernel

end Command

end FlowGraph
