import FlowGraph.Proofs.Condition.Forms

/-!
Operators that clauses are cut at, and the operations that they name. Words are found in
any case of their letters, but named in lower case of the ASCII letters only. The two
agree on all letters of the words but one: the long s folds to an s and has no lower case.
A word that is spelled with it is found and not known, and its clause compares for
equality; every other operator is known.
-/

namespace FlowGraph

namespace Text

/-- Of the characters beyond ASCII, only the long s and the Kelvin sign fold to an ASCII
letter. -/
theorem ascii_of_foldCase {c : Char} (hc : (foldCase c).toNat < 128) :
    c.toNat < 128 ∨ c = 'ſ' ∨ c = '\u212a' := by
  have hruns : ∀ r ∈ foldRuns, r.last < 128 ∨ (r.first = r.last ∧ r.last = 0x17F) ∨
      (r.first = r.last ∧ r.last = 0x212A) ∨
      (128 ≤ r.first + r.shift ∧ (r.last + r.shift < 0xD800 ∨
        0xDFFF < r.first + r.shift ∧ r.last + r.shift < 0x110000)) := by
    decide +kernel
  have hsingle (n : Nat) (hn : c.toNat = n) : c = Char.ofNat n := by
    rw [← hn, Char.ofNat_toNat]
  unfold foldCase at hc
  split at hc
  · next r hr =>
    have hcovers : (r.first ≤ c.toNat ∧ c.toNat ≤ r.last) ∧
        ((c.toNat - r.first) % r.step == 0) = true := by
      simpa [FoldRun.covers] using List.find?_some hr
    obtain ⟨⟨hfirst, hlast⟩, -⟩ := hcovers
    rcases hruns r (List.mem_of_find?_eq_some hr) with hrow | ⟨hrow, hone⟩ | ⟨hrow, hone⟩ |
      ⟨hlow, hvalid⟩
    · left
      omega
    · right
      left
      exact hsingle 0x17F (by omega)
    · right
      right
      exact hsingle 0x212A (by omega)
    · -- The run leads to other characters beyond ASCII.
      exfalso
      have hchar : (((c.toNat : Int) + r.shift).toNat).isValidChar := by
        rcases hvalid with hvalid | ⟨hgap, hvalid⟩
        · exact Or.inl (by omega)
        · exact Or.inr ⟨by omega, by omega⟩
      rw [Char.ofNat, dif_pos hchar] at hc
      have hvalue : ((c.toNat : Int) + r.shift).toNat < 128 := hc
      omega
  · exact Or.inl hc

end Text

namespace Comparison

variable {operator : List Char}

def signOperations : List (List Char × Operation) := [
  (">=".toList, .gte), ("<=".toList, .lte), ("==".toList, .equals), ("!=".toList, .notEquals),
  ("<>".toList, .notEquals), (">".toList, .gt), ("<".toList, .lt), ("=".toList, .equals)]

def wordOperations : List (List Char × Operation) := [
  ("contains".toList, .contains), ("starts_with".toList, .startsWith),
  ("startswith".toList, .startsWith), ("ends_with".toList, .endsWith),
  ("endswith".toList, .endsWith), ("matches".toList, .regex), ("regex".toList, .regex)]

theorem map_fst_signOperations : signOperations.map Prod.fst = signs := by
  decide

theorem map_fst_wordOperations : wordOperations.map Prod.fst = operatorWords := by
  decide

/-- An operator is a sign or, after folding, a word, and both tables are complete. -/
theorem IsOperator.exists_operation (hoperator : IsOperator operator) :
    (∃ operation, (operator, operation) ∈ signOperations) ∨
      ∃ operation, (operator.map Text.foldCase, operation) ∈ wordOperations := by
  rcases hoperator with hsign | hword
  · left
    rw [← map_fst_signOperations] at hsign
    obtain ⟨⟨sign, operation⟩, hmem, rfl⟩ := List.mem_map.mp hsign
    exact ⟨operation, hmem⟩
  · right
    rw [← map_fst_wordOperations] at hword
    obtain ⟨⟨word, operation⟩, hmem, hfold⟩ := List.mem_map.mp hword
    exact ⟨operation, hfold ▸ hmem⟩

/-- The only character beyond ASCII in an operator word is the long s. -/
theorem ascii_of_mem_word (hword : operator.map Text.foldCase ∈ operatorWords) {c : Char}
    (hc : c ∈ operator) : c.toNat < 128 ∨ c = 'ſ' := by
  have hwords : ∀ word ∈ operatorWords, word.all (fun d => d.toNat < 128 && d ≠ 'k') = true := by
    decide
  have hfold := List.all_eq_true.mp (hwords _ hword) _ (List.mem_map_of_mem hc)
  simp only [Bool.and_eq_true, decide_eq_true_eq] at hfold
  rcases Text.ascii_of_foldCase hfold.1 with hascii | hlong | rfl
  · exact Or.inl hascii
  · exact Or.inr hlong
  · exact absurd (by decide +kernel) hfold.2

theorem isBlank_eq_false_of_word (hword : operator.map Text.foldCase ∈ operatorWords) {c : Char}
    (hc : c ∈ operator) : Text.isBlank c = false := by
  have hwords : ∀ word ∈ operatorWords, word.any Text.isBlank = false := by
    decide
  rcases ascii_of_mem_word hword hc with hascii | rfl
  · obtain ⟨hfold, hblank, -⟩ := toLower_ascii hascii
    rw [hblank, ← hfold, ← Bool.not_eq_true]
    exact List.any_eq_false.mp (hwords _ hword) _ (List.mem_map_of_mem hc)
  · decide

theorem bare_of_word (hword : operator.map Text.foldCase ∈ operatorWords) :
    Text.Bare operator := by
  have hnil : [] ∉ operatorWords := by decide
  refine ⟨fun heq => hnil (by rwa [heq] at hword), ?_, ?_⟩
  · exact fun c hc => isBlank_eq_false_of_word hword (List.mem_of_head? hc)
  · exact fun c hc => isBlank_eq_false_of_word hword (List.mem_of_getLast? hc)

/-- Without a long s, folding is lower case. -/
theorem map_toLower_of_word (hword : operator.map Text.foldCase ∈ operatorWords)
    (hlong : 'ſ' ∉ operator) : operator.map Char.toLower = operator.map Text.foldCase := by
  refine List.map_congr_left fun c hc => ?_
  rcases ascii_of_mem_word hword hc with hascii | rfl
  · exact (toLower_ascii hascii).1.symm
  · exact absurd hc hlong

end Comparison

namespace Operation

variable {operator : List Char} {operation : Operation}

theorem ascii_of_ofName? {name : String} (hname : ofName? name = some operation) :
    name.toList.all (·.toNat < 128) = true := by
  unfold ofName? at hname
  split at hname <;> cases hname <;> rfl

def found? (operator : List Char) : Option Operation :=
  ofName? (Text.lowerAscii (Text.strip (String.ofList operator)))

theorem ofText_eq_found? (operator : List Char) :
    ofText (String.ofList operator) = (found? operator).getD .equals :=
  rfl

theorem found?_of_bare (hbare : Text.Bare operator) :
    found? operator = ofName? (String.ofList (operator.map Char.toLower)) := by
  rw [found?, Text.strip, String.toList_ofList, hbare.trim_eq, Text.lowerAscii,
    String.toList_ofList]

theorem found?_sign (hsign : (operator, operation) ∈ Comparison.signOperations) :
    found? operator = some operation := by
  have hsigns : ∀ pair ∈ Comparison.signOperations, found? pair.1 = some pair.2 := by
    decide +kernel
  exact hsigns (operator, operation) hsign

section Words

variable (hword : operator.map Text.foldCase ∈ Comparison.operatorWords)

include hword

/-- A word without a long s is known, whatever the case of its letters. -/
theorem found?_word (hlong : 'ſ' ∉ operator)
    (hoperation : (operator.map Text.foldCase, operation) ∈ Comparison.wordOperations) :
    found? operator = some operation := by
  have hwords : ∀ pair ∈ Comparison.wordOperations,
      ofName? (String.ofList pair.1) = some pair.2 := by
    decide +kernel
  rw [found?_of_bare (Comparison.bare_of_word hword), Comparison.map_toLower_of_word hword hlong]
  exact hwords (operator.map Text.foldCase, operation) hoperation

/-- A long s stays in a word that is put into lower case, and no name has it. -/
theorem found?_of_long_s (hlong : 'ſ' ∈ operator) : found? operator = none := by
  rw [found?_of_bare (Comparison.bare_of_word hword), Option.eq_none_iff_forall_ne_some]
  intro operation hfound
  have hascii := ascii_of_ofName? hfound
  rw [String.toList_ofList, List.all_eq_true] at hascii
  have hlower : 'ſ' ∈ operator.map Char.toLower := List.mem_map.mpr ⟨'ſ', hlong, by decide⟩
  exact absurd (hascii 'ſ' hlower) (by decide)

end Words

theorem onTexts_of_sign (hsign : (operator, operation) ∈ Comparison.signOperations) :
    operation.onTexts = false := by
  have hsigns : ∀ pair ∈ Comparison.signOperations, pair.2.onTexts = false := by
    decide
  exact hsigns (operator, operation) hsign

theorem onTexts_of_word (hword : (operator, operation) ∈ Comparison.wordOperations) :
    operation.onTexts = true := by
  have hwords : ∀ pair ∈ Comparison.wordOperations, pair.2.onTexts = true := by
    decide
  exact hwords (operator, operation) hword

end Operation

def Comparison.leftValue (spans : List (List Char)) (c : Comparison) : Json :=
  .str (String.ofList (Masked.restore spans c.left))

def Comparison.rightOperand (spans : List (List Char)) (c : Comparison) : Operand :=
  .ofChars (Text.trim (Masked.restore spans c.right))

namespace Condition

open Comparison Operation

/-- An operator that is not known compares for equality. -/
theorem ofClause_of_found {clause : List Char} {c : Comparison} (spans : List (List Char))
    (hc : Comparison.ofClause? clause = some c) :
    ofClause spans clause =
      .ofOperands (c.leftValue spans) ((found? c.operator).getD .equals)
        (c.rightOperand spans) := by
  unfold ofClause
  rw [hc, ← ofText_eq_found?]
  rfl

/-- Every sign that a clause is cut at has the operation that it stands for, and so has
every word that is spelled without a long s, which then compares texts. A word that is
spelled with a long s is not known: its clause compares for equality, with the type that
its right operand seems to have. -/
theorem ofClause_names_operation (spans : List (List Char)) (clause : List Char) (c : Comparison)
    (hc : Comparison.ofClause? clause = some c) :
    (∃ operation, (c.operator, operation) ∈ signOperations ∧
      found? c.operator = some operation ∧
      ofClause spans clause = .compare (c.leftValue spans) (c.rightOperand spans).value operation
        (c.rightOperand spans).type.name) ∨
    ∃ operation, (c.operator.map Text.foldCase, operation) ∈ wordOperations ∧
      ('ſ' ∉ c.operator → found? c.operator = some operation ∧
        ofClause spans clause = .compare (c.leftValue spans) (c.rightOperand spans).value operation
          "string") ∧
      ('ſ' ∈ c.operator → found? c.operator = none ∧
        ofClause spans clause = .compare (c.leftValue spans) (c.rightOperand spans).value .equals
          (c.rightOperand spans).type.name) := by
  rw [ofClause_of_found spans hc]
  rcases (covers_of_ofClause? hc).1.exists_operation with ⟨operation, hsign⟩ | ⟨operation, hword⟩
  · left
    have hfound := found?_sign hsign
    refine ⟨operation, hsign, hfound, ?_⟩
    rw [hfound, Option.getD_some, ofOperands, onTexts_of_sign hsign]
    rfl
  · right
    have hmem : c.operator.map Text.foldCase ∈ operatorWords :=
      map_fst_wordOperations ▸ List.mem_map_of_mem hword
    refine ⟨operation, hword, ?_, ?_⟩
    · intro hlong
      have hfound := found?_word hmem hlong hword
      refine ⟨hfound, ?_⟩
      rw [hfound, Option.getD_some, ofOperands, onTexts_of_word hword]
      rfl
    · intro hlong
      have hfound := found?_of_long_s hmem hlong
      refine ⟨hfound, ?_⟩
      rw [hfound]
      rfl

theorem ofClause_names_ends_with :
    Comparison.ofClause? "n Ends_With 7".toList =
        some ⟨"n".toList, "Ends_With".toList, "7".toList⟩ ∧
      ∃ operation, ("ends_with".toList, operation) ∈ wordOperations ∧
        ofClause [] "n Ends_With 7".toList = .compare (.str "n") (.int 7) operation "string" := by
  have hc : Comparison.ofClause? "n Ends_With 7".toList =
      some ⟨"n".toList, "Ends_With".toList, "7".toList⟩ := by
    decide +kernel
  have hfold : "Ends_With".toList.map Text.foldCase = "ends_with".toList := by
    decide +kernel
  have hleft : Masked.restore [] "n".toList = "n".toList := by
    decide +kernel
  have hright : Masked.restore [] "7".toList = "7".toList := by
    decide +kernel
  refine ⟨hc, ?_⟩
  rcases ofClause_names_operation [] _ _ hc with
    ⟨operation, hsign, -⟩ | ⟨operation, hword, hknown, -⟩
  · have hmem : "Ends_With".toList ∈ signOperations.map Prod.fst := List.mem_map_of_mem hsign
    exact absurd hmem (by decide)
  · obtain ⟨-, hcondition⟩ := hknown (by decide)
    rw [leftValue, rightOperand, hleft, hright] at hcondition
    exact ⟨operation, hfold ▸ hword, hcondition⟩

/-- A search for a text becomes a comparison for equality by one letter of its word. -/
theorem ofText_contains_long_s :
    Comparison.ofClause? "a containſ 42".toList =
        some ⟨"a".toList, "containſ".toList, "42".toList⟩ ∧
      found? "containſ".toList = none ∧
      ofText "a containſ 42" = .compare (.str "a") (.int 42) .equals "number" := by
  have hc : Comparison.ofClause? "a containſ 42".toList =
      some ⟨"a".toList, "containſ".toList, "42".toList⟩ := by
    decide +kernel
  have hmask : Masked.ofChars "a containſ 42".toList = ⟨"a containſ 42".toList, []⟩ := by
    decide +kernel
  have hleft : Masked.restore [] "a".toList = "a".toList := by
    decide +kernel
  have hright : Masked.restore [] "42".toList = "42".toList := by
    decide +kernel
  have hfound : found? "containſ".toList = none := by
    decide +kernel
  refine ⟨hc, hfound, ?_⟩
  unfold ofText
  rw [hmask, ofClause_of_found [] hc, hfound, leftValue, rightOperand, hleft, hright]
  rfl

end Condition

end FlowGraph
