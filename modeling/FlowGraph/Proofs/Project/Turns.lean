import FlowGraph.Command
import FlowGraph.Proofs.Compile
import FlowGraph.Proofs.Disk

/-!
The compile command as a series of turns. Reading the configuration and collecting the
sources leave the machine as it is; then each source has its turn, which starts from the
disk that the turn before it left. The command takes all turns, or stops at a source that
cannot be read or whose document cannot be written.
-/

namespace FlowGraph

theorem exists_document_of_success {h : Host} {ids : IdSource} {o : CompileOptions}
    {source : String} (hsuccess : (compile h ids o source).success = true) :
    ∃ document, (compile h ids o source).document = some document := by
  have herrors := ((success_compile_iff h ids o source).mp hsuccess).1
  rcases compile_cases h ids o source with ⟨hne, hc⟩ | ⟨-, w, -, ⟨e, -, hc⟩ | ⟨d, -, hc⟩⟩
  · rw [hc] at herrors
    exact absurd herrors hne
  · rw [hc] at herrors
    exact absurd herrors (List.cons_ne_nil _ _)
  · rw [hc]
    exact ⟨d, rfl⟩

namespace Machine

variable {α β : Type}

def Quiet (x : StateM Machine α) : Prop :=
  ∀ w, (x w).2 = w

theorem quiet_pure (a : α) : Quiet (pure a) :=
  fun _ => rfl

theorem Quiet.bind {x : StateM Machine α} {f : α → StateM Machine β} (hx : Quiet x)
    (hf : ∀ a, Quiet (f a)) : Quiet (x >>= f) :=
  fun w => (hf (x w).1 (x w).2).trans (hx w)

theorem Quiet.run_eq {x : StateM Machine α} (hx : Quiet x) (w : Machine) : x w = ((x w).1, w) :=
  Prod.ext rfl (hx w)

theorem bind_run (x : StateM Machine α) (f : α → StateM Machine β) (w : Machine) :
    (x >>= f) w = f (x w).1 (x w).2 :=
  rfl

theorem kind?_run (path : String) (w : Machine) :
    (Shell.kind? path : StateM Machine _) w = (w.disk.kind? path w.cwd, w) :=
  rfl

theorem readText_run (path : String) (w : Machine) :
    (Shell.readText path : StateM Machine _) w = (w.disk.readText path w.cwd, w) :=
  rfl

theorem filesBelow_run (path : String) (w : Machine) :
    (Shell.filesBelow path : StateM Machine _) w = (w.disk.filesBelow path w.cwd, w) :=
  rfl

theorem update_ok {change : Disk → Except Halt Disk} {w : Machine} {disk : Disk}
    (h : change w.disk = .ok disk) : update change w = (.ok (), { w with disk }) := by
  unfold update
  rw [h]

/-- Where a change comes to a halt, what it has done by then stays done. -/
theorem update_error {change : Disk → Except Halt Disk} {w : Machine} {halt : Halt}
    (h : change w.disk = .error halt) :
    update change w = (.error halt.error, { w with disk := halt.disk }) := by
  unfold update
  rw [h]

theorem writeText_ok {w : Machine} {path text : String} {disk : Disk}
    (h : w.disk.writeText path text w.cwd = .ok disk) :
    (Shell.writeText path text : StateM Machine _) w = (.ok (), { w with disk }) :=
  update_ok (congrArg (Except.mapError _) h)

theorem writeText_error {w : Machine} {path text : String} {e : FileError}
    (h : w.disk.writeText path text w.cwd = .error e) :
    (Shell.writeText path text : StateM Machine _) w = (.error e, w) := by
  change update (fun disk => (disk.writeText path text w.cwd).mapError (Halt.mk · disk)) w = _
  unfold update
  dsimp only
  rw [h]
  rfl

theorem makeDirs_ok {w : Machine} {path : String} {disk : Disk}
    (h : w.disk.makeDirs path w.cwd = .ok disk) :
    (Shell.makeDirs path : StateM Machine _) w = (.ok (), { w with disk }) :=
  update_ok h

theorem makeDirs_error {w : Machine} {path : String} {halt : Halt}
    (h : w.disk.makeDirs path w.cwd = .error halt) :
    (Shell.makeDirs path : StateM Machine _) w =
      (.error halt.error, { w with disk := halt.disk }) :=
  update_error h

def config (w : Machine) (path : String) : Except CommandError Config :=
  ((Project.configFor path : StateM Machine _) w).1

def sources (w : Machine) (path : String) : Except CommandError (List String) :=
  ((Project.sourcesAt path : StateM Machine _) w).1

end Machine

namespace Project

open Machine

theorem quiet_configPlace (path : String) :
    Quiet (configPlace path : StateM Machine (String × String)) := by
  refine Quiet.bind (fun _ => rfl) fun kind => ?_
  split <;> exact quiet_pure _

theorem quiet_loadConfig (path : String) :
    Quiet (loadConfig path : StateM Machine (Except ConfigError Loaded)) := by
  refine (quiet_configPlace path).bind fun place => ?_
  refine Quiet.bind (fun _ => rfl) fun kind => ?_
  split
  · exact quiet_pure _
  · refine Quiet.bind (fun _ => rfl) fun text => ?_
    split
    · exact quiet_pure _
    · split <;> exact quiet_pure _

/-- Reading the configuration changes nothing. -/
theorem configFor_run (path : String) (w : Machine) :
    (configFor path : StateM Machine _) w = (w.config path, w) := by
  have hquiet : Quiet (configFor path : StateM Machine _) := by
    refine Quiet.bind ?_ fun loaded => ?_
    · refine (quiet_loadConfig path).bind fun loaded => ?_
      split
      · exact (quiet_configPlace path).bind fun _ => quiet_pure _
      · exact quiet_pure _
    · split <;> exact quiet_pure _
  exact hquiet.run_eq w

/-- Collecting the sources changes nothing. -/
theorem sourcesAt_run (path : String) (w : Machine) :
    (sourcesAt path : StateM Machine _) w = (w.sources path, w) := by
  have hquiet : Quiet (sourcesAt path : StateM Machine _) := by
    refine Quiet.bind (fun _ => rfl) fun kind => ?_
    split
    · exact quiet_pure _
    · exact quiet_pure _
    · refine Quiet.bind (fun _ => rfl) fun files => ?_
      split
      · exact quiet_pure _
      · split <;> exact quiet_pure _
  exact hquiet.run_eq w

/-- In a directory only sources are collected. -/
theorem isSource_of_mem_sources {w : Machine} {path : String} {sources : List String}
    (hkind : w.disk.kind? path w.cwd = some .directory) (h : w.sources path = .ok sources)
    {source : String} (hmem : source ∈ sources) : isSource source = true := by
  unfold Machine.sources sourcesAt at h
  rw [bind_run, kind?_run, hkind] at h
  dsimp only at h
  rw [bind_run, filesBelow_run] at h
  cases hfiles : w.disk.filesBelow path w.cwd with
  | error e =>
    rw [hfiles] at h
    cases h
  | ok files =>
    rw [hfiles] at h
    dsimp only at h
    cases hfound : files.filter isSource with
    | nil =>
      rw [hfound] at h
      cases h
    | cons first more =>
      rw [hfound] at h
      cases h
      rw [← hfound] at hmem
      exact (List.mem_filter.mp hmem).2

structure Setting where
  cwd : Place
  env : String → Option String
  now : String
  ids : IdSource
  options : CompileOptions
  destination : Destination
  pretty : Bool

namespace Setting

def ofArgs (w : Machine) (config : Config) (args : CompileArgs) : Setting where
  cwd := w.cwd
  env := w.env
  now := w.now
  ids := w.ids
  options := args.options config
  destination := .ofOption args.output (w.disk.kind? args.path w.cwd = some .directory)
  pretty := !args.compact

def outcome (s : Setting) (disk : Disk) (source text : String) : Outcome :=
  let base := (Path.parent? source).getD "."
  let files path := (disk.readText (Path.join base path) s.cwd).mapError FileError.message
  compile { env := s.env, now := s.now, files := some files } s.ids s.options text

/-- What a file holds that a document is written to. -/
def fileText (s : Setting) (document : Document) : String :=
  if s.pretty then document.toJson.pretty ++ "\n" else document.toJson.compact ++ "\n"

/-- A file holds the document as data, indented or not, and a line break. -/
theorem text_append_newline (s : Setting) (document : Document) :
    document.text s.pretty ++ "\n" = s.fileText document := by
  unfold Document.text fileText
  split <;> rfl

structure Suits (s : Setting) (w : Machine) : Prop where
  cwd : w.cwd = s.cwd
  env : w.env = s.env
  now : w.now = s.now
  ids : w.ids = s.ids

def Delivers (s : Setting) (source : String) (document : Document) (before after : Disk) : Prop :=
  match s.destination.target? source with
  | none => after = before
  | some target => before.writeText target (s.fileText document) s.cwd = .ok after

def Stuck (s : Setting) (disk : Disk) (source : String) : Prop :=
  (∃ e, disk.readText source s.cwd = .error e) ∨
    ∃ text document target e, disk.readText source s.cwd = .ok text ∧
      (s.outcome disk source text).success = true ∧
      (s.outcome disk source text).document = some document ∧
      s.destination.target? source = some target ∧
      disk.writeText target (s.fileText document) s.cwd = .error e

end Setting

def Destination.Prepares (destination : Destination) (cwd : Place) (before after : Disk) : Prop :=
  match destination with
  | .directory dir => before.makeDirs dir cwd = .ok after
  | _ => after = before

/-- Everything that comes before the first turn succeeds: there are a configuration and
sources, and the directory for the documents can be made. -/
structure Starts (w : Machine) (config : String) (args : CompileArgs) (s : Setting)
    (sources : List String) (made : Disk) : Prop where
  config : ∃ loaded, w.config config = .ok loaded ∧ s = .ofArgs w loaded args
  sources : w.sources args.path = .ok sources
  prepares : s.destination.Prepares w.cwd w.disk made

/-- How the command ends before the first turn, and the disk that it leaves. -/
inductive Unstarted (w : Machine) (config : String) (args : CompileArgs) : Disk → Prop
  | config {e : CommandError} (h : w.config config = .error e) : Unstarted w config args w.disk
  | sources {loaded : Config} {e : CommandError} (hconfig : w.config config = .ok loaded)
      (h : w.sources args.path = .error e) : Unstarted w config args w.disk
  | directory {loaded : Config} {sources : List String} {dir : String} {halt : Halt}
      (hconfig : w.config config = .ok loaded) (hsources : w.sources args.path = .ok sources)
      (hdir : (Setting.ofArgs w loaded args).destination = .directory dir)
      (h : w.disk.makeDirs dir w.cwd = .error halt) : Unstarted w config args halt.disk

section Unstarted

variable {w : Machine} {config : String} {args : CompileArgs} {after : Disk}

/-- Before the first turn a disk gets new directories at most. -/
theorem Unstarted.grows (h : Unstarted w config args after) : Disk.Grows w.disk after := by
  cases h with
  | config => exact Disk.Grows.refl w.disk
  | sources => exact Disk.Grows.refl w.disk
  | directory _ _ _ hhalt => exact Disk.grows_of_halt hhalt

/-- The command cannot end before the first turn where it can start with it. -/
theorem Unstarted.not_starts (h : Unstarted w config args after) (s : Setting)
    (sources : List String) (made : Disk) : ¬ Starts w config args s sources made := by
  intro hstarts
  obtain ⟨loaded, hloaded, hs⟩ := hstarts.config
  cases h with
  | config hconfig =>
    rw [hconfig] at hloaded
    cases hloaded
  | sources _ hsources =>
    have hfound := hstarts.sources
    rw [hsources] at hfound
    cases hfound
  | directory hconfig _ hdir hhalt =>
    rw [hconfig] at hloaded
    cases hloaded
    have hmade := hstarts.prepares
    rw [hs, hdir] at hmade
    exact nomatch hhalt.symm.trans hmade

end Unstarted

structure Turn where
  source : String
  before : Disk
  outcome : Outcome
  after : Disk

namespace Turn

/-- The turn goes as it has to: the source is compiled as it is on the disk, and the disk
changes only by a document that succeeds. -/
structure Taken (s : Setting) (t : Turn) : Prop where
  outcome : ∃ text, t.before.readText t.source s.cwd = .ok text ∧
    t.outcome = s.outcome t.before t.source text
  blocked : t.outcome.success = false → t.after = t.before
  delivered : t.outcome.success = true → ∃ document, t.outcome.document = some document ∧
    s.Delivers t.source document t.before t.after

section Taken

variable {s : Setting} {source text : String} {disk after : Disk}

theorem taken_of_failure (hread : disk.readText source s.cwd = .ok text)
    (hfailed : (s.outcome disk source text).success = false) :
    Taken s ⟨source, disk, s.outcome disk source text, disk⟩ where
  outcome := ⟨text, hread, rfl⟩
  blocked _ := rfl
  delivered hsuccess := nomatch hfailed.symm.trans hsuccess

theorem taken_of_success {document : Document} (hread : disk.readText source s.cwd = .ok text)
    (hsuccess : (s.outcome disk source text).success = true)
    (hdocument : (s.outcome disk source text).document = some document)
    (hdelivers : s.Delivers source document disk after) :
    Taken s ⟨source, disk, s.outcome disk source text, after⟩ where
  outcome := ⟨text, hread, rfl⟩
  blocked hfailed := nomatch hfailed.symm.trans hsuccess
  delivered _ := ⟨document, hdocument, hdelivers⟩

end Taken

end Turn

inductive Setting.Runs (s : Setting) : Disk → List Turn → Disk → Prop
  | nil (d : Disk) : Runs s d [] d
  | cons {t : Turn} {later : List Turn} {d : Disk} (taken : t.Taken s)
      (runs : Runs s t.after later d) : Runs s t.before (t :: later) d

def Setting.StopsAfter (s : Setting) (turns : List Turn) (sources : List String)
    (disk : Disk) : Prop :=
  ∃ source later, sources = turns.map Turn.source ++ source :: later ∧ s.Stuck disk source

section Steps

variable {s : Setting} {w : Machine}

theorem report_run (source : String) (ds : List Diagnostic) (w : Machine) :
    ∃ stderr, (report source ds : StateM Machine Unit) w = ((), { w with stderr }) := by
  induction ds generalizing w with
  | nil => exact ⟨w.stderr, rfl⟩
  | cons d ds ih => exact ih { w with stderr := w.stderr ++ (source ++ ": " ++ d.display ++ "\n") }

theorem compileText_run (hs : s.Suits w) (source text : String) :
    (compileText s.options source text : StateM Machine Outcome) w =
      (s.outcome w.disk source text, w) := by
  unfold Setting.outcome
  rw [← hs.cwd, ← hs.env, ← hs.now, ← hs.ids]
  rfl

/-- A document is delivered, or the file for it cannot be written and nothing changes. -/
theorem deliver_run (hs : s.Suits w) (source : String) (document : Document) :
    ∃ r w', (deliver s.destination source (document.text s.pretty) : StateM Machine _) w = (r, w') ∧
      s.Suits w' ∧
      ((r = .ok () ∧ s.Delivers source document w.disk w'.disk) ∨
        ∃ e target fault, r = .error e ∧ w'.disk = w.disk ∧
          s.destination.target? source = some target ∧
          w.disk.writeText target (s.fileText document) s.cwd = .error fault) := by
  unfold deliver Setting.Delivers
  cases s.destination.target? source with
  | none => exact ⟨_, _, rfl, ⟨hs.cwd, hs.env, hs.now, hs.ids⟩, Or.inl ⟨rfl, rfl⟩⟩
  | some target =>
    dsimp only
    rw [bind_run, s.text_append_newline document]
    cases hwrite : w.disk.writeText target (s.fileText document) s.cwd with
    | ok disk =>
      rw [writeText_ok (hs.cwd ▸ hwrite)]
      exact ⟨_, _, rfl, ⟨hs.cwd, hs.env, hs.now, hs.ids⟩, Or.inl ⟨rfl, rfl⟩⟩
    | error fault =>
      rw [writeText_error (hs.cwd ▸ hwrite)]
      exact ⟨_, _, rfl, hs, Or.inr ⟨_, target, fault, rfl, rfl, rfl, hwrite⟩⟩

/-- One source has its turn, or the command is stuck at it and the disk stays as it is. -/
theorem compileSource_run (hs : s.Suits w) (source : String) :
    ∃ r w', (compileSource s.options s.destination s.pretty source : StateM Machine _) w =
        (r, w') ∧ s.Suits w' ∧
      ((∃ outcome, r = .ok outcome.success ∧ Turn.Taken s ⟨source, w.disk, outcome, w'.disk⟩) ∨
        ∃ e, r = .error e ∧ w'.disk = w.disk ∧ s.Stuck w.disk source) := by
  unfold compileSource
  rw [bind_run, readText_run, hs.cwd]
  dsimp only
  cases hread : w.disk.readText source s.cwd with
  | error e => exact ⟨_, _, rfl, hs, Or.inr ⟨_, rfl, rfl, Or.inl ⟨e, hread⟩⟩⟩
  | ok text =>
    obtain ⟨stderr, hreport⟩ := report_run source (s.outcome w.disk source text).diagnostics w
    -- the report goes to the machine before the document does, and leaves the disk alone
    have hs' : s.Suits { w with stderr } := ⟨hs.cwd, hs.env, hs.now, hs.ids⟩
    dsimp only
    rw [bind_run, compileText_run hs]
    dsimp only
    rw [bind_run, hreport]
    dsimp only
    cases hsuccess : (s.outcome w.disk source text).success with
    | false =>
      have htaken := Turn.taken_of_failure hread hsuccess
      exact ⟨_, _, rfl, hs', Or.inl ⟨_, congrArg Except.ok hsuccess.symm, htaken⟩⟩
    | true =>
      obtain ⟨document, hdocument⟩ : ∃ d, (s.outcome w.disk source text).document = some d :=
        exists_document_of_success hsuccess
      rw [hdocument]
      dsimp only
      obtain ⟨r, w', hrun, hsuits, hend⟩ := deliver_run hs' source document
      rw [bind_run, hrun]
      rcases hend with ⟨rfl, hdelivers⟩ | ⟨e, target, fault, rfl, hdisk, htarget, hwrite⟩
      · have htaken := Turn.taken_of_success hread hsuccess hdocument hdelivers
        exact ⟨_, _, rfl, hsuits, Or.inl ⟨_, congrArg Except.ok hsuccess.symm, htaken⟩⟩
      · have hstuck : s.Stuck w.disk source := Or.inr
          ⟨text, document, target, fault, hread, hsuccess, hdocument, htarget, hwrite⟩
        exact ⟨_, _, rfl, hsuits, Or.inr ⟨_, rfl, hdisk, hstuck⟩⟩

/-- The sources have their turns in order, all of them or those before one at which the
command is stuck. -/
theorem failures_run (hs : s.Suits w) (sources : List String) :
    ∃ r w' turns,
      (failures (compileSource s.options s.destination s.pretty) sources : StateM Machine _) w =
        (r, w') ∧ s.Runs w.disk turns w'.disk ∧
      ((turns.map Turn.source = sources ∧
          r = .ok (turns.countP fun t => !t.outcome.success)) ∨
        ∃ e, r = .error e ∧ s.StopsAfter turns sources w'.disk) := by
  induction sources generalizing w with
  | nil => exact ⟨_, _, [], rfl, .nil w.disk, Or.inl ⟨rfl, rfl⟩⟩
  | cons source rest ih =>
    unfold failures
    obtain ⟨r, w₁, hrun, hs₁, ⟨outcome, rfl, htaken⟩ | ⟨e, rfl, hdisk, hstuck⟩⟩ :=
      compileSource_run hs source
    · obtain ⟨r, w₂, turns, hrest, hruns, hend⟩ := ih hs₁
      rw [bind_run, hrun]
      dsimp only
      rw [bind_run, hrest]
      have hall := Setting.Runs.cons htaken hruns
      rcases hend with ⟨hsources, rfl⟩ | ⟨e, rfl, last, later, hsources, hstuck⟩
      · refine ⟨_, w₂, _, rfl, hall, Or.inl ⟨?_, ?_⟩⟩
        · rw [List.map_cons, hsources]
        · rw [List.countP_cons]
          cases outcome.success <;> rfl
      · refine ⟨_, w₂, _, rfl, hall, Or.inr ⟨e, rfl, last, later, ?_, hstuck⟩⟩
        rw [List.map_cons, hsources, List.cons_append]
    · rw [bind_run, hrun]
      refine ⟨_, w₁, [], rfl, ?_, Or.inr ⟨e, rfl, source, rest, rfl, hdisk ▸ hstuck⟩⟩
      rw [hdisk]
      exact .nil w.disk

/-- The directory for the documents is there, or it could not be made. -/
theorem prepare_run (destination : Destination) (w : Machine) :
    ∃ r w', (prepare destination : StateM Machine _) w = (r, w') ∧ w' = { w with disk := w'.disk } ∧
      ((r = .ok () ∧ destination.Prepares w.cwd w.disk w'.disk) ∨
        ∃ e dir halt, r = .error e ∧ destination = .directory dir ∧
          w.disk.makeDirs dir w.cwd = .error halt ∧ w'.disk = halt.disk) := by
  unfold prepare Destination.Prepares
  cases destination with
  | directory dir =>
    dsimp only
    rw [bind_run]
    cases hmade : w.disk.makeDirs dir w.cwd with
    | ok made =>
      rw [makeDirs_ok hmade]
      exact ⟨_, _, rfl, rfl, Or.inl ⟨rfl, rfl⟩⟩
    | error halt =>
      rw [makeDirs_error hmade]
      exact ⟨_, _, rfl, rfl, Or.inr ⟨_, dir, halt, rfl, rfl, hmade, rfl⟩⟩
  | alongside | stdout | file => exact ⟨_, w, rfl, rfl, Or.inl ⟨rfl, rfl⟩⟩

def Setting.compileSources (s : Setting) (sources : List String) :
    StateM Machine (Except CommandError Unit) := do
  match ← prepare s.destination with
  | .error e => return .error e
  | .ok _ =>
    match ← failures (compileSource s.options s.destination s.pretty) sources with
    | .error e => return .error e
    | .ok failed => return summary "failed to compile" sources failed

theorem compileAll_eq {config : String} {args : CompileArgs} {loaded : Config}
    {sources : List String} (hconfig : w.config config = .ok loaded)
    (hsources : w.sources args.path = .ok sources) :
    (compileAll config args : StateM Machine _) w =
      (Setting.ofArgs w loaded args).compileSources sources w := by
  unfold compileAll
  rw [bind_run, configFor_run, hconfig]
  dsimp only
  rw [bind_run, sourcesAt_run, hsources]
  rfl

theorem summary_eq_ok_iff {verdict : String} {sources : List String} {failed : Nat} :
    summary verdict sources failed = .ok () ↔ failed = 0 := by
  unfold summary
  split <;> simp [*]

/-- The directory for the documents is made first, and then the sources have their turns. -/
theorem compileSources_run (hs : s.Suits w) (sources : List String) :
    ∃ r w', s.compileSources sources w = (r, w') ∧
      ((∃ e dir halt, r = .error e ∧ s.destination = .directory dir ∧
          w.disk.makeDirs dir w.cwd = .error halt ∧ w'.disk = halt.disk) ∨
        ∃ made turns, s.destination.Prepares w.cwd w.disk made ∧ s.Runs made turns w'.disk ∧
          ((turns.map Turn.source = sources ∧
              (r = .ok () ↔ ∀ t ∈ turns, t.outcome.success = true)) ∨
            ∃ e, r = .error e ∧ s.StopsAfter turns sources w'.disk)) := by
  unfold Setting.compileSources
  rw [bind_run]
  obtain ⟨r, w₁, hprepare, hw₁, ⟨rfl, hprepares⟩ | ⟨e, dir, halt, rfl, hdir, hhalt, hdisk⟩⟩ :=
    prepare_run s.destination w
  · rw [hprepare]
    have hs₁ : s.Suits w₁ := by
      rw [hw₁]
      exact ⟨hs.cwd, hs.env, hs.now, hs.ids⟩
    obtain ⟨r, w₂, turns, hfailures, hruns, ⟨hsources, rfl⟩ | ⟨e, rfl, hstops⟩⟩ :=
      failures_run hs₁ sources
    · dsimp only
      rw [bind_run, hfailures]
      refine ⟨_, w₂, rfl, Or.inr ⟨w₁.disk, turns, hprepares, hruns, Or.inl ⟨hsources, ?_⟩⟩⟩
      rw [summary_eq_ok_iff, List.countP_eq_zero]
      simp
    · dsimp only
      rw [bind_run, hfailures]
      exact ⟨_, w₂, rfl, Or.inr ⟨w₁.disk, turns, hprepares, hruns, Or.inr ⟨e, rfl, hstops⟩⟩⟩
  · rw [hprepare]
    exact ⟨_, w₁, rfl, Or.inl ⟨e, dir, halt, rfl, hdir, hhalt, hdisk⟩⟩

/-- How the command ends: before the first turn, after the turns of all sources, or stuck at
a source. -/
theorem compileAll_run (config : String) (args : CompileArgs) (w : Machine) :
    ∃ r w', (compileAll config args : StateM Machine _) w = (r, w') ∧
      ((∃ e, r = .error e ∧ Unstarted w config args w'.disk) ∨
        ∃ s sources made turns, Starts w config args s sources made ∧
          s.Runs made turns w'.disk ∧
          ((turns.map Turn.source = sources ∧
              (r = .ok () ↔ ∀ t ∈ turns, t.outcome.success = true)) ∨
            ∃ e, r = .error e ∧ s.StopsAfter turns sources w'.disk)) := by
  cases hconfig : w.config config with
  | error e =>
    unfold compileAll
    rw [bind_run, configFor_run, hconfig]
    exact ⟨_, w, rfl, Or.inl ⟨e, rfl, .config hconfig⟩⟩
  | ok loaded =>
    cases hsources : w.sources args.path with
    | error e =>
      unfold compileAll
      rw [bind_run, configFor_run, hconfig]
      dsimp only
      rw [bind_run, sourcesAt_run, hsources]
      exact ⟨_, w, rfl, Or.inl ⟨e, rfl, .sources hconfig hsources⟩⟩
    | ok sources =>
      rw [compileAll_eq hconfig hsources]
      have hs : (Setting.ofArgs w loaded args).Suits w := ⟨rfl, rfl, rfl, rfl⟩
      obtain ⟨r, w', hrun, ⟨e, dir, halt, rfl, hdir, hhalt, hdisk⟩ |
        ⟨made, turns, hprepares, hruns, hend⟩⟩ := compileSources_run hs sources
      · refine ⟨_, w', hrun, Or.inl ⟨e, rfl, ?_⟩⟩
        rw [hdisk]
        exact .directory hconfig hsources hdir hhalt
      · exact ⟨r, w', hrun, Or.inr ⟨_, sources, made, turns,
          ⟨⟨loaded, hconfig, rfl⟩, hsources, hprepares⟩, hruns, hend⟩⟩

end Steps

end Project

namespace Command

open Machine Project

/-- The exit code of a command for sources tells how it ends. -/
theorem run_compile {argv : List String} {i : Invocation} {args : CompileArgs}
    (hi : Invocation.ofArgs argv = .ok i) (hargs : i.request = .compile args) (w : Machine) :
    ∃ code w', (run argv : StateM Machine Nat) w = (code, w') ∧
      ((code = 1 ∧ Unstarted w i.config args w'.disk) ∨
        ∃ s sources made turns, Starts w i.config args s sources made ∧
          s.Runs made turns w'.disk ∧
          ((turns.map Turn.source = sources ∧
              code = if turns.all (·.outcome.success) then 0 else 1) ∨
            code = 1 ∧ s.StopsAfter turns sources w'.disk)) := by
  obtain ⟨r, w', hrun, hend⟩ := compileAll_run i.config args w
  have hinvocation : (i.run : StateM Machine _) w = (r, w') := by
    unfold Invocation.run
    rw [hargs]
    exact hrun
  unfold run
  rw [hi]
  dsimp only
  rw [bind_run, hinvocation]
  rcases hend with ⟨e, rfl, hunstarted⟩ | ⟨s, sources, made, turns, hstarts, hruns, hend⟩
  · exact ⟨1, _, rfl, Or.inl ⟨rfl, hunstarted⟩⟩
  rcases hend with ⟨hsources, hok⟩ | ⟨e, rfl, hstops⟩
  · cases r with
    | ok u =>
      refine ⟨0, w', rfl, Or.inr ⟨s, sources, made, turns, hstarts, hruns, Or.inl ⟨hsources, ?_⟩⟩⟩
      rw [if_pos (List.all_eq_true.mpr (hok.mp rfl))]
    | error e =>
      refine ⟨1, _, rfl, Or.inr ⟨s, sources, made, turns, hstarts, hruns, Or.inl ⟨hsources, ?_⟩⟩⟩
      have hfailed : ¬ turns.all (·.outcome.success) = true := by
        intro hall
        cases hok.mpr (List.all_eq_true.mp hall)
      rw [if_neg hfailed]
  · exact ⟨1, _, rfl, Or.inr ⟨s, sources, made, turns, hstarts, hruns, Or.inr ⟨rfl, hstops⟩⟩⟩

end Command

end FlowGraph
