import FlowGraph.Compile

/-!
Checking is the front half of compiling. A source that fails its check compiles to the
same diagnostics; for one that passes, the warnings are settled by then, and only the
making of the document and the report on it can add errors. Strictness decides about
success and about nothing else.
-/

namespace FlowGraph

def Rule.ofDocuments : List Rule :=
  [.graphNodes, .graphNodeShape, .graphDuplicateNode, .graphConnections]

namespace Document

namespace Report

def IsFault (diag : Diagnostic) : Prop :=
  diag.isError = true ∧ diag.rule ∈ Rule.ofDocuments

theorem isFault_nodesFault (message : String) : IsFault (nodesFault message) :=
  ⟨rfl, show Rule.graphNodes ∈ Rule.ofDocuments by decide⟩

theorem isFault_shapeFault (message : String) : IsFault (shapeFault message) :=
  ⟨rfl, show Rule.graphNodeShape ∈ Rule.ofDocuments by decide⟩

theorem isFault_duplicateFault (name : String) : IsFault (duplicateFault name) :=
  ⟨rfl, show Rule.graphDuplicateNode ∈ Rule.ofDocuments by decide⟩

theorem isFault_connectionsFault (message : String) : IsFault (connectionsFault message) :=
  ⟨rfl, show Rule.graphConnections ∈ Rule.ofDocuments by decide⟩

theorem isFault_of_mem_nodeFaults {index : Nat} {node : Json} {diag : Diagnostic}
    (h : diag ∈ nodeFaults index node) : IsFault diag := by
  unfold nodeFaults at h
  have hshape : ∃ message, diag = shapeFault message := by
    grind
  obtain ⟨message, rfl⟩ := hshape
  exact isFault_shapeFault message

theorem isFault_of_mem_nodesFaults {index : Nat} {seen : List String} {nodes : List Json}
    {diag : Diagnostic} (h : diag ∈ nodesFaults index seen nodes) : IsFault diag := by
  induction nodes generalizing index seen with
  | nil => cases h
  | cons node rest ih =>
    unfold nodesFaults at h
    split at h
    · next name hname =>
      rcases List.mem_append.mp h with hhere | hrest
      · rcases List.mem_append.mp hhere with hnode | hrepeated
        · exact isFault_of_mem_nodeFaults hnode
        · split at hrepeated
          · obtain rfl := List.mem_singleton.mp hrepeated
            exact isFault_duplicateFault name
          · cases hrepeated
      · exact ih hrest
    · rcases List.mem_append.mp h with hnode | hrest
      · exact isFault_of_mem_nodeFaults hnode
      · exact ih hrest

theorem isFault_of_mem_targetFaults {names : List String} {source : String} {target : Json}
    {diag : Diagnostic} (h : diag ∈ targetFaults names source target) : IsFault diag := by
  unfold targetFaults at h
  have hconnections : ∃ message, diag = connectionsFault message := by
    grind
  obtain ⟨message, rfl⟩ := hconnections
  exact isFault_connectionsFault message

theorem isFault_of_mem_sourceFaults {names : List String} {source : String} {ports : Json}
    {diag : Diagnostic} (h : diag ∈ sourceFaults names source ports) : IsFault diag := by
  unfold sourceFaults at h
  rcases List.mem_append.mp h with hsource | hports
  · split at hsource
    · cases hsource
    · obtain rfl := List.mem_singleton.mp hsource
      exact isFault_connectionsFault _
  · split at hports
    · obtain ⟨target, -, htarget⟩ := List.mem_flatMap.mp hports
      exact isFault_of_mem_targetFaults htarget
    · obtain rfl := List.mem_singleton.mp hports
      exact isFault_connectionsFault _

theorem isFault_of_mem_connectionsFaults {names : List String} {connections : Option Json}
    {diag : Diagnostic} (h : diag ∈ connectionsFaults names connections) : IsFault diag := by
  unfold connectionsFaults at h
  split at h
  · cases h
  · obtain ⟨⟨source, ports⟩, -, hsource⟩ := List.mem_flatMap.mp h
    exact isFault_of_mem_sourceFaults hsource
  · obtain rfl := List.mem_singleton.mp h
    exact isFault_connectionsFault _

end Report

/-- The report on a document has errors only, each of a rule on documents. -/
theorem isFault_of_mem_report {document : Json} {diag : Diagnostic}
    (h : diag ∈ report document) : Report.IsFault diag := by
  unfold report at h
  split at h
  · next nodes hnodes =>
    rcases List.mem_append.mp h with hnodes | hconnections
    · rcases List.mem_append.mp hnodes with hempty | hnodes
      · split at hempty
        · obtain rfl := List.mem_singleton.mp hempty
          exact Report.isFault_nodesFault _
        · cases hempty
      · exact Report.isFault_of_mem_nodesFaults hnodes
    · exact Report.isFault_of_mem_connectionsFaults hconnections
  · obtain rfl := List.mem_singleton.mp h
    exact Report.isFault_nodesFault _

theorem errorsOf_report (document : Json) : errorsOf (report document) = report document := by
  refine List.filter_eq_self.mpr ?_
  intro diag hdiag
  exact (isFault_of_mem_report hdiag).1

theorem warningsOf_report (document : Json) : warningsOf (report document) = [] := by
  refine List.filter_eq_nil_iff.mpr ?_
  intro diag hdiag
  simp [(isFault_of_mem_report hdiag).1]

end Document

namespace Outcome

/-- An outcome is a success if it has no errors and, where it is strict, no warnings. -/
theorem success_ofParts_iff {strict : Bool} {document : Option Document}
    {errors warnings : List Diagnostic} :
    (ofParts strict document errors warnings).success = true ↔
      errors = [] ∧ ¬ (strict = true ∧ warnings ≠ []) := by
  cases strict <;> simp [ofParts]

end Outcome

namespace Front

/-- There is a workflow exactly if there are no errors, and it is that of the source. -/
theorem workflow_cases (source : String) :
    ((ofSource source).workflow = none ∧ (ofSource source).errors ≠ []) ∨
      ∃ w, (ofSource source).workflow = some w ∧ (ofSource source).errors = [] ∧
        Workflow.ofSource source = .ok w := by
  unfold ofSource
  cases hscan : scan source with
  | error e => exact Or.inl ⟨rfl, List.cons_ne_nil _ _⟩
  | ok found =>
    dsimp only
    cases hparse : Workflow.ofTokens found.tokens with
    | error e => exact Or.inl ⟨rfl, List.cons_ne_nil _ _⟩
    | ok w =>
      have hsource : Workflow.ofSource source = .ok w := by
        unfold Workflow.ofSource tokensOfSource
        rw [hscan]
        change (Workflow.ofTokens found.tokens).mapError SourceError.parse = .ok w
        rw [hparse]
        rfl
      by_cases hclean : errorsOf w.report = []
      · refine Or.inr ⟨w, ?_, hclean, hsource⟩
        simp [hclean]
      · refine Or.inl ⟨?_, hclean⟩
        simp [hclean]

end Front

section Outcomes

variable (h : Host) (ids : IdSource) (o : CompileOptions) (source : String)

/-- Where the check has found an error, compiling has nothing to add. -/
theorem compile_of_errors (hnone : (Front.ofSource source).workflow = none) :
    compile h ids o source = check o source := by
  unfold compile check
  dsimp only
  rw [hnone]

/-- An error of generation is the only error, and the warnings of the check stay beside it. -/
theorem compile_of_generateError {w : Workflow} {e : GenerateError}
    (hw : (Front.ofSource source).workflow = some w)
    (he : Document.ofWorkflow h ids o.generate w = .error e) :
    compile h ids o source =
      .ofParts o.strict none [e.toDiagnostic] (check o source).warnings := by
  unfold compile check
  dsimp only
  rw [hw]
  dsimp only
  rw [he]
  rfl

/-- The report on the document takes nothing from the warnings and adds none. -/
theorem compile_of_document {w : Workflow} {d : Document}
    (hw : (Front.ofSource source).workflow = some w)
    (hd : Document.ofWorkflow h ids o.generate w = .ok d) :
    compile h ids o source =
      .ofParts o.strict (some d) (if o.validateOutput then Document.report d.toJson else [])
        (check o source).warnings := by
  unfold compile check
  dsimp only
  rw [hw]
  dsimp only
  rw [hd]
  dsimp only
  split
  · rw [Document.errorsOf_report, Document.warningsOf_report, List.append_nil]
    rfl
  · simp [errorsOf, warningsOf, Outcome.ofParts]

theorem success_check_iff :
    (check o source).success = true ↔
      (check o source).errors = [] ∧ ¬ (o.strict = true ∧ (check o source).warnings ≠ []) :=
  Outcome.success_ofParts_iff

/-- How compiling ends: with what the check found, with the error of generation, or with
a document. -/
theorem compile_cases :
    ((check o source).errors ≠ [] ∧ compile h ids o source = check o source) ∨
      ((check o source).errors = [] ∧ ∃ w, Workflow.ofSource source = .ok w ∧
        ((∃ e, Document.ofWorkflow h ids o.generate w = .error e ∧
            compile h ids o source =
              .ofParts o.strict none [e.toDiagnostic] (check o source).warnings) ∨
          ∃ d, Document.ofWorkflow h ids o.generate w = .ok d ∧
            compile h ids o source =
              .ofParts o.strict (some d)
                (if o.validateOutput then Document.report d.toJson else [])
                (check o source).warnings)) := by
  rcases Front.workflow_cases source with ⟨hnone, herrors⟩ | ⟨w, hw, herrors, hsource⟩
  · exact Or.inl ⟨herrors, compile_of_errors h ids o source hnone⟩
  · refine Or.inr ⟨herrors, w, hsource, ?_⟩
    cases hd : Document.ofWorkflow h ids o.generate w with
    | error e => exact Or.inl ⟨e, rfl, compile_of_generateError h ids o source hw hd⟩
    | ok d => exact Or.inr ⟨d, rfl, compile_of_document h ids o source hw hd⟩

theorem success_compile_iff :
    (compile h ids o source).success = true ↔
      (compile h ids o source).errors = [] ∧
        ¬ (o.strict = true ∧ (compile h ids o source).warnings ≠ []) := by
  rcases compile_cases h ids o source with ⟨-, hc⟩ | ⟨-, w, -, ⟨e, -, hc⟩ | ⟨d, -, hc⟩⟩
  · rw [hc]
    exact success_check_iff o source
  · rw [hc]
    exact Outcome.success_ofParts_iff
  · rw [hc]
    exact Outcome.success_ofParts_iff

/-- What strictness leaves as it is: the document and the diagnostics. -/
theorem exists_parts_compile :
    ∃ document errors warnings, ∀ strict,
      compile h ids { o with strict } source = .ofParts strict document errors warnings := by
  unfold compile
  dsimp only
  cases (Front.ofSource source).workflow with
  | none => exact ⟨_, _, _, fun _ => rfl⟩
  | some w =>
    dsimp only
    cases Document.ofWorkflow h ids o.generate w with
    | error e => exact ⟨_, _, _, fun _ => rfl⟩
    | ok d =>
      let found := if o.validateOutput then Document.report d.toJson else []
      exact ⟨some d, errorsOf found, (Front.ofSource source).warnings ++ warningsOf found,
        fun _ => rfl⟩

/-- Compiling goes on from what the check found. With an error in the check it stops
there; without one it keeps the warnings and ends in a document, with the errors of the
report on it, or in the one error of generation. It succeeds if there is no error and, when
it is strict, no warning; then there is a document and the check succeeds too. Strictness
changes only whether it succeeds. -/
theorem compile_continues_check :
    ((check o source).errors ≠ [] →
      (compile h ids o source).errors = (check o source).errors ∧
      (compile h ids o source).warnings = (check o source).warnings ∧
      (compile h ids o source).success = (check o source).success ∧
      (compile h ids o source).document = none) ∧
    ((check o source).errors = [] →
      (compile h ids o source).warnings = (check o source).warnings ∧
      ∃ w, Workflow.ofSource source = .ok w ∧
        ((∃ d, Document.ofWorkflow h ids o.generate w = .ok d ∧
            (compile h ids o source).document = some d ∧
            (compile h ids o source).errors =
              (if o.validateOutput then Document.report d.toJson else []) ∧
            ∀ diag ∈ (compile h ids o source).errors, diag.rule ∈ Rule.ofDocuments) ∨
          ∃ e, Document.ofWorkflow h ids o.generate w = .error e ∧
            (compile h ids o source).document = none ∧
            (compile h ids o source).errors = [e.toDiagnostic])) ∧
    ((compile h ids o source).success = true ↔
      (compile h ids o source).errors = [] ∧
        ¬ (o.strict = true ∧ (compile h ids o source).warnings ≠ [])) ∧
    ((compile h ids o source).success = true →
      (∃ d, (compile h ids o source).document = some d) ∧ (check o source).success = true) ∧
    (∃ success, compile h ids { o with strict := true } source =
      { compile h ids { o with strict := false } source with success }) ∧
    (∃ success, check { o with strict := true } source =
      { check { o with strict := false } source with success }) := by
  have hsuccess := success_compile_iff h ids o source
  obtain ⟨document, errors, warnings, hparts⟩ := exists_parts_compile h ids o source
  refine ⟨?_, ?_, hsuccess, ?_, ?_, ⟨_, rfl⟩⟩
  · intro herrors
    rcases compile_cases h ids o source with ⟨-, hc⟩ | ⟨hclean, -⟩
    · rw [hc]
      exact ⟨rfl, rfl, rfl, rfl⟩
    · exact absurd hclean herrors
  · intro hclean
    rcases compile_cases h ids o source with ⟨herrors, -⟩ | ⟨-, w, hw, ⟨e, he, hc⟩ | ⟨d, hd, hc⟩⟩
    · exact absurd hclean herrors
    · rw [hc]
      exact ⟨rfl, w, hw, Or.inr ⟨e, he, rfl, rfl⟩⟩
    · rw [hc]
      refine ⟨rfl, w, hw, Or.inl ⟨d, hd, rfl, rfl, ?_⟩⟩
      intro diag hdiag
      change diag ∈ (if o.validateOutput then Document.report d.toJson else []) at hdiag
      split at hdiag
      · exact (Document.isFault_of_mem_report hdiag).2
      · cases hdiag
  · intro hc
    obtain ⟨hnone, hstrict⟩ := hsuccess.mp hc
    rcases compile_cases h ids o source with ⟨herrors, hc⟩ | ⟨hclean, w, -, ⟨e, -, hc⟩ | ⟨d, -, hc⟩⟩
    · rw [hc] at hnone
      exact absurd hnone herrors
    · rw [hc] at hnone
      cases hnone
    · rw [hc] at hstrict ⊢
      exact ⟨⟨d, rfl⟩, (success_check_iff o source).mpr ⟨hclean, hstrict⟩⟩
  · rw [hparts true, hparts false]
    exact ⟨_, rfl⟩

end Outcomes

end FlowGraph
