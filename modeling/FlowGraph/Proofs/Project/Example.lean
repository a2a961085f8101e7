import FlowGraph.Proofs.Document.SelfContained
import FlowGraph.Proofs.Project.Skeleton
import FlowGraph.Proofs.Token.Verbatim

/-!
The example of a new project. Its name is put between double quotes as it was given, and all
else in it is fixed. So the example compiles under the name exactly if the name stands for
itself between the quotes; then a line break in it moves the declarations further down.
-/

namespace FlowGraph

namespace Project

open Lexeme Grammar FlowGraph.Parser

section Opening

variable {rest text : List Char} (ls : List Lexeme)

def opening : List Lexeme :=
  [.lineComment " Example workflow".toList, .blank '\n', .word 'w' "orkflow".toList, .blank ' ']

theorem toList_exampleBefore : exampleBefore.toList = opening.flatMap Lexeme.source ++ ['"'] := by
  decide +kernel

/-- The fixed start of the example is cut off before the quote that opens the name. -/
theorem tiles_opening (h : Tiles rest ls ('"' :: text)) :
    Tiles rest (opening ++ ls) (exampleBefore.toList ++ text) := by
  have hcomment : '\n' ∉ " Example workflow".toList := by
    decide +kernel
  have hstart : isWordStart 'w' = true := by
    decide
  have hword : "orkflow".toList.all isWordChar = true := by
    decide +kernel
  have hblank : EndsBefore (.word 'w' "orkflow".toList) (' ' :: '"' :: text) := by
    intro c hc
    cases hc
    decide
  have hbreak : EndsBefore (.lineComment " Example workflow".toList)
      ('\n' :: ("workflow".toList ++ ' ' :: '"' :: text)) := by
    intro c hc
    cases hc
    rfl
  have hnewline : '\n' ∈ [' ', '\t', '\r', '\n'] := by
    decide
  rw [toList_exampleBefore, List.append_assoc]
  exact .cons hcomment hbreak (.cons hnewline trivial
    (.cons ⟨hstart, List.all_eq_true.mp hword⟩ hblank (.cons List.mem_cons_self trivial h)))

theorem lexemes_opening (text : List Char) : lexemes (exampleBefore.toList ++ text) =
    (opening ++ (lexemes ('"' :: text)).1, (lexemes ('"' :: text)).2) := by
  have htiles : Tiles ('"' :: text) (opening ++ []) (exampleBefore.toList ++ text) :=
    tiles_opening [] .nil
  rw [List.append_nil] at htiles
  exact htiles.lexemes_eq

theorem placed_opening :
    placed .start (opening ++ ls) = placed .start opening ++ placed ⟨2, 10⟩ ls := by
  have hend : Position.start.after (opening.flatMap Lexeme.source) = ⟨2, 10⟩ := by
    decide +kernel
  rw [placed_append, hend]

theorem tokens_opening :
    (placed .start opening).filterMap placedToken? = [⟨.workflow, "workflow", ⟨2, 1⟩⟩] := by
  decide +kernel

theorem warnings_opening : (placed .start opening).filterMap placedWarning? = [] := by
  decide +kernel

end Opening

section Quoted

variable (name : String)

def quoted : List Lexeme :=
  [.string '"' name.toList, .blank ' ', .symbol .lbrace '{' []]

theorem warnings_quoted (p : Position) : (placed p (quoted name)).filterMap placedWarning? = [] :=
  rfl

variable {name}

/-- A name that stands for itself is the text of its token. -/
theorem tokens_quoted (hname : Verbatim name.toList) (p : Position) :
    ∃ brace, brace.kind = .lbrace ∧
      (placed p (quoted name)).filterMap placedToken? = [⟨.string, name, p⟩, brace] := by
  have htoken : placedToken? (.string '"' name.toList, p) = some ⟨.string, name, p⟩ := by
    simp [placedToken?, token?, hname.unescape_eq]
  refine ⟨⟨.lbrace, "\x7b", (p.after (Lexeme.source (.string '"' name.toList))).step ' '⟩, rfl, ?_⟩
  rw [quoted, placed, List.filterMap_cons_some htoken]
  rfl

theorem tiles_quoted (hname : Verbatim name.toList) :
    Tiles [] (quoted name) ('"' :: (name.toList ++ ['"', ' ', '{'])) := by
  have hmore : Tiles [] [.blank ' ', .symbol .lbrace '{' []] [' ', '{'] :=
    .cons List.mem_cons_self trivial (.cons (Or.inl ⟨rfl, rfl⟩) trivial .nil)
  have hcons : Tiles [] (quoted name) (Lexeme.source (.string '"' name.toList) ++ [' ', '{']) :=
    .cons ⟨List.mem_cons_self, hname.quoted⟩ (by simp [EndsBefore]) hmore
  simpa [Lexeme.source] using hcons

end Quoted

section Body

def tokensOf (cs : List Char) : List Token :=
  (placed .start (lexemes cs).1).filterMap placedToken?

theorem kind_ne_eof_of_mem_tokensOf {cs : List Char} : ∀ t ∈ tokensOf cs, t.kind ≠ .eof :=
  kind_ne_eof_of_mem_placed fun _ => whole_of_mem_lexemes

def heading : List Token :=
  [⟨.workflow, "workflow", .start⟩, ⟨.string, "", .start⟩, ⟨.lbrace, "\x7b", .start⟩]

def isSound (w : Workflow) : Bool :=
  w.report.isEmpty && w.selfContained && w.entries.length = 5

/-- What stands below the heading of the example. -/
structure Body (cs : List Char) : Prop where
  toList_exampleAfter : exampleAfter.toList = '"' :: ' ' :: '{' :: '\n' :: cs
  whole : (lexemes cs).2 = none
  silent : (placed .start (lexemes cs).1).filterMap placedWarning? = []
  quotes : ¬ ['"', '"', '"'] <:+: '"' :: ' ' :: '{' :: '\n' :: cs
  sound : (Workflow.ofTokens (heading ++ tokensOf cs)).toOption.any isSound = true

set_option maxRecDepth 4000 in
/-- What stands below the heading of the example is the same for every name, and in order. -/
theorem exists_body : ∃ cs, Body cs := by
  -- The characters are those of the literal. Computing them from its bytes would take long.
  refine ⟨_, String.toList_ofList, ?_, ?_, ?_, ?_⟩
  all_goals decide +kernel

end Body

section Named

variable {name : String} {cs : List Char} (hbody : Body cs)

include hbody

theorem Body.toList_exampleText (name : String) : (exampleText name).toList =
    exampleBefore.toList ++ (name.toList ++ '"' :: ' ' :: '{' :: '\n' :: cs) := by
  rw [exampleText, String.toList_append, String.toList_append, List.append_assoc,
    hbody.toList_exampleAfter]

theorem Body.plainly : Plainly (' ' :: '{' :: '\n' :: cs) where
  line := ⟨[' '], '{', cs, rfl, by decide, by decide, by decide⟩
  later := hbody.quotes

theorem Body.exists_derives : ∃ w, Derives (heading ++ tokensOf cs) w ∧ isSound w = true := by
  have hsound := hbody.sound
  rw [Option.any_eq_true] at hsound
  obtain ⟨w, hw, hsound⟩ := hsound
  have hall : ∀ t ∈ heading ++ tokensOf cs, t.kind ≠ .eof :=
    List.forall_mem_append.mpr ⟨by decide, kind_ne_eof_of_mem_tokensOf⟩
  refine ⟨w, ?_, hsound⟩
  rw [← Workflow.beforeEnd_eq_self hall, ← ofTokens_eq_ok]
  cases hread : Workflow.ofTokens (heading ++ tokensOf cs) with
  | error fault => simp [hread, Except.toOption] at hw
  | ok found => simpa [hread, Except.toOption] using hw

/-- The second token of the example has the text that was read between the quotes. -/
theorem Body.verbatim_of_scan {found : Scan} {w : Workflow}
    (hscan : scan (exampleText name) = .ok found) (hw : Workflow.ofTokens found.tokens = .ok w)
    (hname : w.name = name) : Verbatim name.toList := by
  have hopening := lexemes_opening (name.toList ++ '"' :: ' ' :: '{' :: '\n' :: cs)
  rw [scan, hbody.toList_exampleText] at hscan
  rcases hquote : lexemes ('"' :: (name.toList ++ '"' :: ' ' :: '{' :: '\n' :: cs)) with
    ⟨ls, _ | fault⟩
  · rw [hquote] at hopening
    obtain ⟨l, after, hnext, rfl⟩ := exists_next_of_lexemes hquote
    obtain ⟨text, htoken⟩ := exists_token_of_next_quote hnext
    have hplaced : placedToken? (l, ⟨2, 10⟩) = some ⟨.string, text, ⟨2, 10⟩⟩ := by
      rw [placedToken?, htoken]
      rfl
    rw [scanChars_of_none hopening, placed_opening, List.filterMap_append, tokens_opening, placed,
      List.filterMap_cons_some hplaced] at hscan
    obtain rfl := Except.ok.inj hscan
    have htext : w.name = text := name_of_derives (ofTokens_eq_ok.mp hw)
    apply verbatim_of_next hbody.plainly hnext
    rw [htoken, ← htext, hname, String.ofList_toList]
  · rw [hquote] at hopening
    rw [scanChars_of_some hopening] at hscan
    cases hscan

/-- The tokens of the example under a name that stands for itself. -/
theorem Body.scan_of_verbatim (hname : Verbatim name.toList) :
    ∃ n brace last, brace.kind = .lbrace ∧ scan (exampleText name) =
      .ok ⟨⟨.workflow, "workflow", ⟨2, 1⟩⟩ :: ⟨.string, name, ⟨2, 10⟩⟩ :: brace ::
        (tokensOf cs).map (Token.down n) ++ [⟨.eof, "", last⟩], []⟩ := by
  have hwhole : lexemes cs = ((lexemes cs).1, none) := by
    rw [← hbody.whole]
  have hscan := scanChars_newline (tiles_opening _ (tiles_quoted hname)) hwhole rfl
  obtain ⟨brace, hbrace, htokens⟩ := tokens_quoted hname ⟨2, 10⟩
  rw [placed_opening, List.filterMap_append, List.filterMap_append, tokens_opening, htokens,
    warnings_opening, warnings_quoted, hbody.silent] at hscan
  rw [List.append_assoc, List.append_assoc] at hscan
  rw [scan, hbody.toList_exampleText]
  exact ⟨_, brace, _, hbrace, hscan⟩

theorem Body.exists_workflow (hname : Verbatim name.toList) :
    ∃ tokens w, scan (exampleText name) = .ok ⟨tokens, []⟩ ∧ Workflow.ofTokens tokens = .ok w ∧
      w.name = name ∧ w.report = [] ∧ w.selfContained = true ∧ w.entries.length = 5 := by
  obtain ⟨n, brace, last, hbrace, hscan⟩ := hbody.scan_of_verbatim hname
  obtain ⟨w, hderives, hsound⟩ := hbody.exists_derives
  simp only [isSound, Bool.and_eq_true, List.isEmpty_iff, decide_eq_true_eq] at hsound
  obtain ⟨⟨hreport, hself⟩, hcount⟩ := hsound
  have hbelow : Derives (⟨.workflow, "workflow", ⟨2, 1⟩⟩ :: ⟨.string, name, ⟨2, 10⟩⟩ :: brace ::
      (tokensOf cs).map (Token.down n)) { w.down n with name, pos := ⟨2, 1⟩ } :=
    derives_below hderives rfl rfl hbrace
  have hinner : ∀ t ∈ (tokensOf cs).map (Token.down n), t.kind ≠ .eof := by
    intro t ht
    obtain ⟨first, hfirst, rfl⟩ := List.mem_map.mp ht
    exact kind_ne_eof_of_mem_tokensOf first hfirst
  have htokens : ∀ t ∈ ⟨.workflow, "workflow", ⟨2, 1⟩⟩ :: ⟨.string, name, ⟨2, 10⟩⟩ :: brace ::
      (tokensOf cs).map (Token.down n), t.kind ≠ .eof := by
    simpa [hbrace] using hinner
  refine ⟨_, _, hscan, (ofTokens_concat htokens rfl).mpr hbelow, rfl,
    Workflow.report_down n name ⟨2, 1⟩ hreport, Workflow.selfContained_down n name ⟨2, 1⟩ hself, ?_⟩
  rw [Workflow.down, List.length_map, hcount]

end Named

section Compile

variable {name : String}

/-- The example is read under its name only if the name stands for itself. -/
theorem verbatim_of_ofSource {w : Workflow} (hw : Workflow.ofSource (exampleText name) = .ok w)
    (hname : w.name = name) : Verbatim name.toList := by
  obtain ⟨cs, hbody⟩ := exists_body
  unfold Workflow.ofSource tokensOfSource at hw
  cases hscan : scan (exampleText name) with
  | error fault =>
    rw [hscan] at hw
    cases hw
  | ok found =>
    rw [hscan] at hw
    change (Workflow.ofTokens found.tokens).mapError SourceError.parse = .ok w at hw
    cases hread : Workflow.ofTokens found.tokens with
    | error fault =>
      rw [hread] at hw
      cases hw
    | ok read =>
      rw [hread] at hw
      obtain rfl : read = w := Except.ok.inj hw
      exact hbody.verbatim_of_scan hscan hread hname

/-- The example compiles under its name exactly if the name stands for itself. -/
theorem compile_exampleText_iff (h : Host) (ids : IdSource) {o : CompileOptions}
    (hgiven : o.generate.params = []) (hlayout : o.generate.layout.isFiniteFor 5 = true) :
    ((compile h ids o (exampleText name)).success = true ∧
        (compile h ids o (exampleText name)).warnings = [] ∧
        (compile h ids o (exampleText name)).document.map Document.name = some name) ↔
      Verbatim name.toList := by
  constructor
  · intro hcompile
    obtain ⟨-, -, hnamed⟩ := hcompile
    obtain ⟨d, hd, hname⟩ := Option.map_eq_some_iff.mp hnamed
    rcases compile_cases h ids o (exampleText name) with
      ⟨-, hc⟩ | ⟨-, w, hw, ⟨e, -, hc⟩ | ⟨d', hd', hc⟩⟩
    · rw [hc] at hd
      cases hd
    · rw [hc] at hd
      cases hd
    · rw [hc] at hd
      obtain rfl := Option.some.inj hd
      obtain ⟨s, nodes, -, -, -, rfl⟩ := Document.ofWorkflow_eq_ok_iff.mp hd'
      exact verbatim_of_ofSource hw hname
  · intro hname
    obtain ⟨cs, hbody⟩ := exists_body
    obtain ⟨tokens, w, hscan, hw, hnamed, hreport, hself, hcount⟩ := hbody.exists_workflow hname
    have hne : w.entries ≠ [] := by
      intro hnil
      rw [hnil] at hcount
      cases hcount
    obtain ⟨d, hd, hdocument⟩ := compile_of_selfContained hscan hw hreport hself hne hgiven
      (hcount ▸ hlayout) h ids
    rw [hd]
    refine ⟨rfl, rfl, ?_⟩
    rw [Option.map_some, hdocument, hnamed]

set_option maxRecDepth 4000 in
/-- The configuration of a new project gives no values and places the entries of the example. -/
theorem exists_config : ∃ config, Config.ofText? configText = some config ∧ config.params = [] ∧
    config.layout.isFiniteFor 5 = true := by
  obtain ⟨cs, hcs, hread⟩ : ∃ cs, configText.toList = cs ∧ ∀ text : String, text.toList = cs →
      ((Config.ofText? text).any fun config =>
        config.params.isEmpty && config.layout.isFiniteFor 5) = true := by
    refine ⟨_, String.toList_ofList, ?_⟩
    intro text htext
    unfold Config.ofText? Yaml.Document.ofString? Yaml.tokens?
    rw [htext]
    decide +kernel
  have hany := hread configText hcs
  rw [Option.any_eq_true] at hany
  obtain ⟨config, hconfig, hfits⟩ := hany
  simp only [Bool.and_eq_true, List.isEmpty_iff] at hfits
  exact ⟨config, hconfig, hfits.1, hfits.2⟩

theorem compile_of_scan_error {source : String} {e : LexError} (hscan : scan source = .error e)
    (h : Host) (ids : IdSource) (o : CompileOptions) :
    (compile h ids o source).success = false := by
  unfold compile Front.ofSource
  rw [hscan]
  rfl

/-- A quote in the name ends it, and the one behind the name is left open. -/
theorem scan_exampleText_quote : ∃ fault, scan (exampleText "a\"b") = .error fault := by
  obtain ⟨cs, hbody⟩ := exists_body
  have hopen : lexemes ('"' :: ' ' :: '{' :: '\n' :: cs) = ([], some .openString) := by
    rw [lexemes]
    rfl
  have hquote : lexemes ('"' :: 'a' :: '"' :: 'b' :: '"' :: ' ' :: '{' :: '\n' :: cs) =
      ([.string '"' ['a'], .word 'b' []], some .openString) := by
    have hfirst : Lexeme.next '"' ('a' :: '"' :: 'b' :: '"' :: ' ' :: '{' :: '\n' :: cs) =
        .ok (.string '"' ['a'], 'b' :: '"' :: ' ' :: '{' :: '\n' :: cs) := rfl
    have hsecond : Lexeme.next 'b' ('"' :: ' ' :: '{' :: '\n' :: cs) =
        .ok (.word 'b' [], '"' :: ' ' :: '{' :: '\n' :: cs) := rfl
    rw [lexemes_cons hfirst, lexemes_cons hsecond, hopen]
  have hname : "a\"b".toList = ['a', '"', 'b'] := by
    decide +kernel
  have hlexemes := lexemes_opening ("a\"b".toList ++ '"' :: ' ' :: '{' :: '\n' :: cs)
  rw [hname, List.cons_append, List.cons_append, List.cons_append, List.nil_append, hquote]
    at hlexemes
  rw [scan, hbody.toList_exampleText, hname]
  exact ⟨_, scanChars_of_some hlexemes⟩

end Compile

section Files

open Machine Disk

/-- A configuration is read from the file at its path. -/
theorem config_of_entryAt {w : Machine} {path text : String} {config : Config}
    (hentry : w.disk.entryAt path w.cwd = .ok (.file (.text text)))
    (hconfig : Config.ofText? text = some config) : w.config path = .ok config := by
  have hkind : w.disk.kind? path w.cwd = some .file := by
    unfold kind?
    rw [hentry]
  have hread := readText_of_entryAt hentry
  obtain ⟨base, hplace⟩ : ∃ base, (configPlace path : StateM Machine _) w = ((path, base), w) := by
    unfold configPlace
    rw [bind_run, kind?_run, hkind]
    exact ⟨_, rfl⟩
  have hload : (loadConfig path : StateM Machine _) w = (.ok ⟨config, base⟩, w) := by
    unfold loadConfig
    rw [bind_run, hplace]
    dsimp only
    rw [bind_run, kind?_run, hkind]
    dsimp only
    rw [bind_run, readText_run, hread]
    dsimp only
    rw [hconfig]
    rfl
  unfold Machine.config configFor loadConfigOrDefault
  rw [bind_run, bind_run, hload]
  rfl

/-- The files of a project that was started. -/
theorem Prepares.entryAt {d e ready : Disk} {dir name : String} {cwd root : Place}
    (hprepares : Prepares d dir cwd root ready)
    (hwrites : Writes dir cwd ready (skeleton name) e) :
    ∀ file ∈ skeleton name,
      e.entryAt (Path.join dir file.1) cwd = .ok (.file (.text file.2)) := by
  intro file hfile
  have hskeleton : skeleton name = skeleton name ++ [] := (List.append_nil _).symm
  have hget := hwrites.get?_file hprepares.place (plain_of_skeleton hskeleton)
    (nodup_of_skeleton hskeleton) file hfile
  have hplace := hprepares.place_join hwrites.keepsDirectories (mem_paths_of_mem_skeleton hfile)
    (hwrites.short file hfile)
  exact entryAt_eq_ok_iff.mpr ⟨_, hplace, hget⟩

end Files

end Project

namespace Command

open Project Disk Machine

/-- With the exit code 0 the files of the project are on the disk. -/
theorem entryAt_of_run_init {argv : List String} {i : Invocation} {dir name : String}
    (hi : Invocation.ofArgs argv = .ok i) (hinit : i.request = .init dir (some name))
    {w w' : Machine} (hrun : (run argv : StateM Machine Nat) w = (0, w')) :
    ∀ file ∈ skeleton name,
      w'.disk.entryAt (Path.join dir file.1) w'.cwd = .ok (.file (.text file.2)) := by
  obtain ⟨r, w₁, hcreate, hcwd, hend⟩ := create_run dir (some name) w
  obtain ⟨code, after, hafter, hdisk, hstill, -, hzero⟩ := run_init hi hinit hcreate
  rw [hrun] at hafter
  obtain ⟨rfl, rfl⟩ := Prod.mk.inj hafter
  have hr : r = .ok () := hzero.mp rfl
  rcases hend with ⟨hne, -⟩ |
    ⟨root, chosen, ready, written, later, hgiven, hprepares, hskeleton, hwrites, hok, -⟩
  · exact absurd hr hne
  · obtain rfl := hgiven name rfl
    rw [hok.mp hr, List.append_nil] at hskeleton
    rw [← hskeleton, ← hdisk] at hwrites
    rw [hstill, hcwd]
    exact hprepares.entryAt hwrites

theorem read_of_run_init {argv : List String} {i : Invocation} {dir name : String}
    (hi : Invocation.ofArgs argv = .ok i) (hinit : i.request = .init dir (some name))
    {w w' : Machine} (hrun : (run argv : StateM Machine Nat) w = (0, w')) :
    ∃ config, w'.config (Path.join dir configFile) = .ok config ∧
      w'.disk.readText (Path.join dir "workflows/hello.flow") w'.cwd = .ok (exampleText name) ∧
      config.params = [] ∧ config.layout.isFiniteFor 5 = true := by
  have hfiles := entryAt_of_run_init hi hinit hrun
  obtain ⟨config, hconfig, hfits⟩ := exists_config
  have hfirst := hfiles (configFile, configText) List.mem_cons_self
  have hsecond := hfiles ("workflows/hello.flow", exampleText name)
    (List.mem_cons_of_mem _ List.mem_cons_self)
  exact ⟨config, config_of_entryAt hfirst hconfig, readText_of_entryAt hsecond, hfits⟩

/-- Where a project is started under a name, its configuration and its example are there to be
read. The example compiles with the configuration, without warnings and under the name,
exactly if the name stands for itself between double quotes; this holds on every host. -/
theorem run_init_example {argv : List String} {i : Invocation} {dir name : String}
    (hi : Invocation.ofArgs argv = .ok i) (hinit : i.request = .init dir (some name))
    {w w' : Machine} (hrun : (run argv : StateM Machine Nat) w = (0, w')) :
    ∃ config text, w'.config (Path.join dir configFile) = .ok config ∧
      w'.disk.readText (Path.join dir "workflows/hello.flow") w'.cwd = .ok text ∧
      ∀ h ids, ((compile h ids config.compileOptions text).success = true ∧
          (compile h ids config.compileOptions text).warnings = [] ∧
          (compile h ids config.compileOptions text).document.map Document.name = some name) ↔
        Lexeme.Verbatim name.toList := by
  obtain ⟨config, hconfig, htext, hgiven, hlayout⟩ := read_of_run_init hi hinit hrun
  refine ⟨config, exampleText name, hconfig, htext, ?_⟩
  intro h ids
  exact compile_exampleText_iff h ids hgiven hlayout

def bare : Machine where
  disk :=
    { entries := [([], .directory), (["srv"], .directory), (["work"], .directory)]
      ordered := by decide
      rooted := by decide
      nested := by decide }
  env _ := none
  now := "now"
  ids := ⟨⟨0⟩, fun _ => ⟨0⟩, fun _ _ => ⟨0⟩⟩

theorem run_init_example_kept :
    Invocation.ofArgs ["init", "/srv/p", "--name", "it's \\d"] =
        .ok ⟨configFile, .init "/srv/p" (some "it's \\d")⟩ ∧
      ∃ w' config text,
        (run ["init", "/srv/p", "--name", "it's \\d"] : StateM Machine Nat) bare = (0, w') ∧
        w'.config (Path.join "/srv/p" configFile) = .ok config ∧
        w'.disk.readText (Path.join "/srv/p" "workflows/hello.flow") w'.cwd = .ok text ∧
        ∀ h ids, (compile h ids config.compileOptions text).success = true ∧
          (compile h ids config.compileOptions text).warnings = [] ∧
          (compile h ids config.compileOptions text).document.map Document.name =
            some "it's \\d" := by
  have hi : Invocation.ofArgs ["init", "/srv/p", "--name", "it's \\d"] =
      .ok ⟨configFile, .init "/srv/p" (some "it's \\d")⟩ := rfl
  have hzero :
      ((run ["init", "/srv/p", "--name", "it's \\d"] : StateM Machine Nat) bare).1 = 0 := by
    decide +kernel
  have hname : Lexeme.Verbatim "it's \\d".toList := by
    decide +kernel
  obtain ⟨w', hrun⟩ : ∃ w',
      (run ["init", "/srv/p", "--name", "it's \\d"] : StateM Machine Nat) bare = (0, w') :=
    ⟨_, Prod.ext hzero rfl⟩
  obtain ⟨config, text, hconfig, htext, hcompile⟩ := run_init_example hi rfl hrun
  refine ⟨hi, w', config, text, hrun, hconfig, htext, ?_⟩
  intro h ids
  exact (hcompile h ids).mpr hname

/-- A project is started under any name, but with a quote in the name its example does not
compile. -/
theorem run_init_example_quote : ∃ w' config text,
    (run ["init", "p", "--name", "a\"b"] : StateM Machine Nat) bare = (0, w') ∧
      w'.config (Path.join "p" configFile) = .ok config ∧
      w'.disk.readText (Path.join "p" "workflows/hello.flow") w'.cwd = .ok text ∧
      ∀ h ids, (compile h ids config.compileOptions text).success = false := by
  have hzero : ((run ["init", "p", "--name", "a\"b"] : StateM Machine Nat) bare).1 = 0 := by
    decide +kernel
  obtain ⟨w', hrun⟩ : ∃ w',
      (run ["init", "p", "--name", "a\"b"] : StateM Machine Nat) bare = (0, w') :=
    ⟨_, Prod.ext hzero rfl⟩
  have hi : Invocation.ofArgs ["init", "p", "--name", "a\"b"] =
      .ok ⟨configFile, .init "p" (some "a\"b")⟩ := rfl
  obtain ⟨config, hconfig, htext, -⟩ := read_of_run_init hi rfl hrun
  obtain ⟨fault, hscan⟩ := scan_exampleText_quote
  refine ⟨w', config, _, hrun, hconfig, htext, ?_⟩
  intro h ids
  exact compile_of_scan_error hscan h ids _

end Command

end FlowGraph
