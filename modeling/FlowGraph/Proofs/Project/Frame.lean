import FlowGraph.Proofs.Project.Turns

/-!
What the compile command does to a disk. A place that differs after a run is a directory
made for the documents, or has the document of the last source that was written there; and
that source had compiled. No source in a directory is written to, since documents have
another extension than sources.
-/

namespace FlowGraph

namespace Project

theorem Destination.Prepares.grows {destination : Destination} {cwd : Place} {d e : Disk}
    (h : destination.Prepares cwd d e) : Disk.Grows d e := by
  cases destination with
  | directory dir => exact Disk.grows_of_makeDirs h
  | alongside | stdout | file =>
    cases h
    exact Disk.Grows.refl d

def Turn.Writes (s : Setting) (t : Turn) (place : Place) (text : String) : Prop :=
  t.outcome.success = true ∧ ∃ target document,
    s.destination.target? t.source = some target ∧ t.before.place target s.cwd = .ok place ∧
    t.outcome.document = some document ∧ text = s.fileText document

def LastWrites (s : Setting) (turns : List Turn) (place : Place) (text : String) : Prop :=
  ∃ earlier t later, turns = earlier ++ t :: later ∧ t.Writes s place text ∧
    ∀ u ∈ later, ∀ other, ¬ u.Writes s place other

section Places

variable {s : Setting} {t : Turn} {d e : Disk} {turns : List Turn}

/-- A turn writes one text to one place. -/
theorem Turn.Writes.unique {p q : Place} {text other : String} (h : t.Writes s p text)
    (h' : t.Writes s q other) : p = q ∧ text = other := by
  obtain ⟨-, target, document, htarget, hplace, hdocument, rfl⟩ := h
  obtain ⟨-, target', document', htarget', hplace', hdocument', rfl⟩ := h'
  rw [htarget] at htarget'
  cases htarget'
  rw [hdocument] at hdocument'
  cases hdocument'
  rw [hplace] at hplace'
  cases hplace'
  exact ⟨rfl, rfl⟩

/-- All that a turn can do to a disk: nothing, or one file that takes no directory's place. -/
theorem Turn.Taken.cases (ht : t.Taken s) :
    ((t.outcome.success = false ∨ s.destination.target? t.source = none) ∧
        t.after = t.before) ∨
      ∃ place text, t.Writes s place text ∧ t.before.Admits place (.file (.text text)) ∧
        t.after = t.before.set place (.file (.text text)) := by
  cases hsuccess : t.outcome.success with
  | false => exact Or.inl ⟨Or.inl rfl, ht.blocked hsuccess⟩
  | true =>
    obtain ⟨document, hdocument, hdelivers⟩ := ht.delivered hsuccess
    unfold Setting.Delivers at hdelivers
    cases htarget : s.destination.target? t.source with
    | none =>
      rw [htarget] at hdelivers
      exact Or.inl ⟨Or.inr rfl, hdelivers⟩
    | some target =>
      rw [htarget] at hdelivers
      obtain ⟨place, hwritten, hafter⟩ := Disk.writeText_eq_ok_iff.mp hdelivers
      have hplace := (Disk.place_of_placeToWrite hwritten).1
      exact Or.inr ⟨place, _, ⟨hsuccess, target, document, htarget, hplace, hdocument, rfl⟩,
        Disk.admits_of_placeToWrite hwritten _, hafter⟩

/-- A turn changes the one place that it writes to. -/
theorem Turn.Taken.get?_after (ht : t.Taken s) (place : Place) :
    (t.after.get? place = t.before.get? place ∧ ∀ text, ¬ t.Writes s place text) ∨
      ∃ text, t.Writes s place text ∧ t.after.get? place = some (.file (.text text)) := by
  rcases ht.cases with ⟨hidle, hsame⟩ | ⟨written, text, hwrites, hadmits, hafter⟩
  · rw [hsame]
    refine Or.inl ⟨rfl, ?_⟩
    intro text hwrites
    obtain ⟨hsuccess, target, -, htarget, -⟩ := hwrites
    rw [hsuccess, htarget] at hidle
    simp at hidle
  · rw [hafter, Disk.get?_set hadmits]
    by_cases heq : place = written
    · subst heq
      exact Or.inr ⟨text, hwrites, if_pos rfl⟩
    · rw [if_neg heq]
      exact Or.inl ⟨rfl, fun other hother => heq (hother.unique hwrites).1⟩

theorem Turn.Taken.keepsDirectories (ht : t.Taken s) : Disk.KeepsDirectories t.before t.after := by
  rcases ht.cases with ⟨-, hsame⟩ | ⟨place, text, -, hadmits, hafter⟩
  · rw [hsame]
    exact Disk.KeepsDirectories.refl _
  · rw [hafter]
    exact hadmits.keepsDirectories

theorem Setting.Runs.keepsDirectories (h : s.Runs d turns e) : Disk.KeepsDirectories d e := by
  induction h with
  | nil d => exact Disk.KeepsDirectories.refl d
  | cons ht _ ih => exact ht.keepsDirectories.trans ih

/-- After turns a place has what it had, or what the last turn that writes there writes. -/
theorem Setting.Runs.get?_eq (h : s.Runs d turns e) (place : Place) :
    (e.get? place = d.get? place ∧ ∀ t ∈ turns, ∀ text, ¬ t.Writes s place text) ∨
      ∃ text, LastWrites s turns place text ∧ e.get? place = some (.file (.text text)) := by
  induction h with
  | nil d => exact Or.inl ⟨rfl, fun t ht => nomatch ht⟩
  | @cons t later e ht _ ih =>
    -- what the first turn writes stays only if no later turn writes there
    rcases ih with ⟨hkept, hnone⟩ | ⟨text, ⟨earlier, u, rest, hlater, hwrites, hlast⟩, hget⟩
    · rcases ht.get?_after place with ⟨hsame, hnot⟩ | ⟨text, hwrites, hafter⟩
      · refine Or.inl ⟨hkept.trans hsame, ?_⟩
        intro u hu
        rcases List.mem_cons.mp hu with rfl | hu
        · exact hnot
        · exact hnone u hu
      · exact Or.inr ⟨text, ⟨[], t, later, rfl, hwrites, hnone⟩, hkept.trans hafter⟩
    · refine Or.inr ⟨text, ⟨t :: earlier, u, rest, ?_, hwrites, hlast⟩, hget⟩
      rw [hlater, List.cons_append]

theorem Setting.Runs.split {earlier later : List Turn}
    (h : s.Runs d (earlier ++ t :: later) e) : t.Taken s ∧ s.Runs t.after later e := by
  induction earlier generalizing d with
  | nil =>
    cases h with
    | cons ht hruns => exact ⟨ht, hruns⟩
  | cons u earlier ih =>
    cases h with
    | cons _ hruns => exact ih hruns

theorem Setting.Runs.taken (h : s.Runs d turns e) (ht : t ∈ turns) : t.Taken s := by
  obtain ⟨earlier, later, rfl⟩ := List.append_of_mem ht
  exact h.split.1

/-- A file that no turn writes to stays as it is, from turn to turn. -/
theorem Setting.Runs.entryAt_file (h : s.Runs d turns e) {path : String} {content : Content}
    (hfile : d.entryAt path s.cwd = .ok (.file content))
    (hnone : ∀ t ∈ turns, ∀ place text, t.before.place path s.cwd = .ok place →
      ¬ t.Writes s place text) :
    (∀ t ∈ turns, t.before.entryAt path s.cwd = .ok (.file content) ∧
        t.after.entryAt path s.cwd = .ok (.file content)) ∧
      e.entryAt path s.cwd = .ok (.file content) := by
  induction h with
  | nil d => exact ⟨fun t ht => (nomatch ht), hfile⟩
  | @cons t later e ht _ ih =>
    have hafter : t.after.entryAt path s.cwd = .ok (.file content) := by
      obtain ⟨place, hplace, hget⟩ := Disk.entryAt_eq_ok_iff.mp hfile
      refine Disk.entryAt_eq_ok_iff.mpr ⟨place, ht.keepsDirectories.place_eq_ok hplace, ?_⟩
      rcases ht.get?_after place with ⟨hsame, -⟩ | ⟨text, hwrites, -⟩
      · rw [hsame, hget]
      · exact absurd hwrites (hnone t List.mem_cons_self place text hplace)
    obtain ⟨hall, hend⟩ := ih hafter fun u hu => hnone u (List.mem_cons_of_mem t hu)
    refine ⟨?_, hend⟩
    intro u hu
    rcases List.mem_cons.mp hu with rfl | hu
    · exact ⟨hfile, hafter⟩
    · exact hall u hu

end Places

section Names

variable {s : Setting} {source : String}

def documentName (name : List Char) : List Char :=
  Path.stem name ++ ".json".toList

theorem proper_documentName (name : List Char) : Path.Proper (documentName name) := by
  have hlength : 5 ≤ (documentName name).length := by
    rw [documentName, List.length_append]
    exact Nat.le_add_left 5 _
  refine ⟨?_, ?_, ?_⟩
  all_goals
    intro heq
    rw [heq] at hlength
    exact absurd hlength (by decide)

theorem name_of_isSource (h : isSource source = true) :
    ∃ name, Path.fileName? source = some name ∧ name = Path.stem name ++ ".flow".toList ∧
      '/' ∉ documentName name := by
  have hextension : Path.extension? source = some sourceExtension.toList := of_decide_eq_true h
  unfold Path.extension? at hextension
  obtain ⟨name, hname, hdivide⟩ := Option.bind_eq_some_iff.mp hextension
  have hstem := Path.eq_stem_append hdivide
  refine ⟨name, hname, hstem, ?_⟩
  have hslash : '/' ∉ name := (Path.fileName?_eq_some hname).2.1
  rw [documentName, List.mem_append, not_or]
  constructor
  · intro hmem
    apply hslash
    rw [hstem]
    exact List.mem_append_left _ hmem
  · decide

/-- Documents have one name only if their sources have. -/
theorem documentName_inj {a b : List Char} (ha : a = Path.stem a ++ ".flow".toList)
    (hb : b = Path.stem b ++ ".flow".toList) (h : documentName a = documentName b) : a = b := by
  have hstem : Path.stem a = Path.stem b := List.append_cancel_right h
  rw [ha, hb, hstem]

/-- A directory of sources has its documents in files with names of their own. -/
theorem target?_endsWith {destination : Destination} {target : String}
    (hsource : isSource source = true) (hfile : ∀ path, destination ≠ .file path)
    (htarget : destination.target? source = some target) :
    ∃ name, Path.fileName? source = some name ∧ name = Path.stem name ++ ".flow".toList ∧
      Path.EndsWith target.toList (documentName name) := by
  obtain ⟨name, hname, hstem, hslash⟩ := name_of_isSource hsource
  refine ⟨name, hname, hstem, ?_⟩
  unfold Destination.target? at htarget
  cases destination with
  | alongside =>
    cases htarget
    have hpart : '/' ∉ Path.stem name := fun hmem => hslash (List.mem_append_left _ hmem)
    exact Path.endsWith_withExtension hname hpart (by decide)
  | stdout => cases htarget
  | file path => exact absurd rfl (hfile path)
  | directory dir =>
    dsimp only at htarget
    rw [hname] at htarget
    rw [← Option.some.inj htarget]
    have hends := Path.endsWith_join dir hslash (proper_documentName name).nonempty
    rwa [documentName, String.ofList_append] at hends

theorem ofOption_ne_file (output : Option String) (path : String) :
    Destination.ofOption output true ≠ .file path := by
  unfold Destination.ofOption
  split <;> simp

/-- The place that a turn writes to has the name of the document. -/
theorem Turn.Writes.place_last {t : Turn} {place : Place} {text : String}
    (hsource : isSource t.source = true) (hfile : ∀ path, s.destination ≠ .file path)
    (h : t.Writes s place text) :
    ∃ name parent, Path.fileName? t.source = some name ∧
      name = Path.stem name ++ ".flow".toList ∧
      place = parent ++ [String.ofList (documentName name)] := by
  obtain ⟨-, target, -, htarget, hplace, -⟩ := h
  obtain ⟨name, hname, hstem, hends⟩ := target?_endsWith hsource hfile htarget
  obtain ⟨parent, hparent⟩ := Disk.place_last hplace hends (proper_documentName name)
  exact ⟨name, parent, hname, hstem, hparent⟩

/-- No turn writes to a source. -/
theorem Turn.Writes.place_ne {t : Turn} {place : Place} {text : String}
    (hturn : isSource t.source = true) (hfile : ∀ path, s.destination ≠ .file path)
    (h : t.Writes s place text) {d : Disk} {cwd : Place} (hsource : isSource source = true) :
    d.place source cwd ≠ .ok place := by
  intro hplace
  obtain ⟨name, parent, -, -, hwritten⟩ := h.place_last hturn hfile
  obtain ⟨own, hown, hstem, -⟩ := name_of_isSource hsource
  obtain ⟨folder, hread⟩ := Disk.place_fileName hplace hown
  have hlast : String.ofList (documentName name) = String.ofList own := by
    have happend := hwritten.symm.trans hread
    simpa using (List.append_inj' happend rfl).2
  -- one of them ends in the extension of documents, the other in that of sources
  have hends : (documentName name).getLast? = own.getLast? :=
    congrArg List.getLast? (String.ofList_injective hlast)
  rw [hstem, documentName, List.getLast?_append, List.getLast?_append] at hends
  exact absurd hends (by simp)

end Names

section Courses

variable {w : Machine} {config : String} {args : CompileArgs} {s : Setting}
  {sources : List String} {turns : List Turn} {made after : Disk}

theorem Starts.cwd_eq (hstarts : Starts w config args s sources made) : s.cwd = w.cwd := by
  obtain ⟨loaded, -, rfl⟩ := hstarts.config
  rfl

theorem Starts.ne_file (hstarts : Starts w config args s sources made)
    (hkind : w.disk.kind? args.path w.cwd = some .directory) (path : String) :
    s.destination ≠ .file path := by
  obtain ⟨loaded, -, rfl⟩ := hstarts.config
  have hseveral := decide_eq_true hkind
  unfold Setting.ofArgs
  rw [hseveral]
  exact ofOption_ne_file args.output path

/-- The sources in a directory stay as they are, from turn to turn. -/
theorem Starts.kept (hstarts : Starts w config args s sources made)
    (hruns : s.Runs made turns after) (hturns : ∀ t ∈ turns, t.source ∈ sources)
    (hkind : w.disk.kind? args.path w.cwd = some .directory) {source : String}
    (hsource : source ∈ sources) {content : Content}
    (hfile : w.disk.entryAt source w.cwd = .ok (.file content)) :
    (∀ t ∈ turns, t.before.entryAt source w.cwd = .ok (.file content) ∧
        t.after.entryAt source w.cwd = .ok (.file content)) ∧
      after.entryAt source w.cwd = .ok (.file content) := by
  have hmade := hstarts.prepares.grows.entryAt_file hfile
  rw [← hstarts.cwd_eq] at hmade ⊢
  have hflow : ∀ path ∈ sources, isSource path = true := fun path hpath =>
    isSource_of_mem_sources hkind hstarts.sources hpath
  refine hruns.entryAt_file hmade ?_
  intro t ht place text hplace hwrites
  have hturn := hflow t.source (hturns t ht)
  exact hwrites.place_ne hturn (hstarts.ne_file hkind) (hflow source hsource) hplace

end Courses

end Project

namespace Command

open Project

def loneEntryText (name : String) : String :=
  "\x7b\"nodes\":[\x7b\"id\":\"00000000-0000-4000-8000-000000000000\",\"name\":\"n\"," ++
    "\"type\":\"n8n-nodes-base.noOp\",\"position\":[0.0,0.0],\"parameters\":\x7b\x7d," ++
    "\"typeVersion\":1.0\x7d],\"connections\":\x7b\x7d,\"meta\":\x7b" ++
    "\"instanceId\":\"00000000-0000-4000-8000-000000000000\"\x7d,\"name\":\"" ++ name ++
    "\",\"active\":false,\"settings\":\x7b\"executionOrder\":\"v1\"\x7d\x7d\n"

end Command

end FlowGraph
