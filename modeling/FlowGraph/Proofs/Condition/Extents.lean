import FlowGraph.Proofs.Condition.Masking

/-!
The same spans for conditions and for templates. Masking looks for the end of a span from
its dollar sign on, expanding from behind its brace, and they count the open braces
differently. Still both stop at the same brace, or both find none, so that masking hides
exactly the spans that expanding fills: as many, in the same order, from the same place on
and equally long.
-/

namespace FlowGraph

namespace Template

variable {ps : List Piece}

def bytes (cs : List Char) (n : Nat) : Nat :=
  (String.ofList (cs.take n)).utf8ByteSize

/-- Where the spans begin and how long they are, in a text that begins at `start`. -/
def extentsFrom (start : Nat) : List Piece → List (Nat × Nat)
  | [] => []
  | .char _ :: ps => extentsFrom (start + 1) ps
  | .span body :: ps =>
    (start, body.length + 3) :: extentsFrom (start + (body.length + 3)) ps

/-- The pieces of a text are all of it, whether its spans are closed or not. -/
theorem source_pieces (cs : List Char) : source (pieces cs) = cs := by
  induction cs using cut_induction with
  | nil => rw [pieces_nil, source_nil]
  | char c cs hc ih =>
    rw [pieces_cons hc, source_cons, ih]
    rfl
  | span body cs hbody ih =>
    rw [pieces_span hbody, source_cons, ih]
    simp [Piece.source]
  | unclosed cs hcs => rw [pieces_of_unclosed hcs, source_map_char]

/-- The extents say where to find the texts of the spans. -/
theorem spanTexts_eq_map_extentsFrom (before : List Char) (ps : List Piece) :
    spanTexts ps = (extentsFrom before.length ps).map fun extent =>
      ((before ++ source ps).drop extent.1).take extent.2 := by
  induction ps generalizing before with
  | nil => rfl
  | cons p ps ih =>
    have hmore := ih (before ++ p.source)
    rw [List.append_assoc, List.length_append] at hmore
    cases p with
    | char c => exact hmore
    | span body =>
      rw [length_source_span] at hmore
      have hfirst : ((before ++ source (.span body :: ps)).drop before.length).take
          (body.length + 3) = (Piece.span body).source := by
        rw [List.drop_left, source_cons, ← length_source_span, List.take_left]
      rw [spanTexts, extentsFrom, List.map_cons, hfirst, hmore]
      rfl

theorem expand_eq_rewriteFrom (value : List Char → Option (List Char)) (n : Nat) (cs : List Char) :
    expand value cs =
      rewriteFrom (fun _ body => (value body).getD (Piece.span body).source) n (pieces cs) := by
  unfold expand
  induction pieces cs generalizing n with
  | nil => rfl
  | cons p ps ih =>
    cases p with
    | char c => exact congrArg (c :: ·) (ih n)
    | span body => exact congrArg ((value body).getD (Piece.span body).source ++ ·) (ih (n + 1))

/-- Around the body of a span stand three characters of one byte each. -/
theorem bytes_opening {cs : List Char} {n : Nat} (hn : bodyLength? 0 cs = some n) :
    bytes ('$' :: '{' :: cs) (n + 3) = bytes cs n + 3 := by
  obtain ⟨body, rest, rfl, rfl, -⟩ := exists_closes_of_bodyLength? hn
  have hspan : (Piece.span body).source = ['$', '{'] ++ body ++ ['}'] := rfl
  have houter : (String.ofList ['$', '{']).utf8ByteSize = 2 := rfl
  have hlast : (String.ofList ['}']).utf8ByteSize = 1 := rfl
  rw [bytes, bytes, take_span, hspan, List.take_left, String.ofList_append, String.ofList_append,
    String.utf8ByteSize_append, String.utf8ByteSize_append, houter, hlast]
  omega

end Template

namespace Masked

open Template

/-- Masking and expanding see the same spans. Where a span opens, one scan ends behind the
brace that the other ends before, counted in characters as well as in bytes, or both come
to the end of the text. So every text has one division into spans and characters around
them: expanding writes the values of these spans, masking writes their numbers, and the
texts that masking keeps are theirs, at their places and in their order. -/
theorem ofChars_masks_expanded :
    (∀ cs, spanLength? ('$' :: '{' :: cs) = (bodyLength? 0 cs).map (· + 3) ∧
      (spanLength? ('$' :: '{' :: cs)).map (bytes ('$' :: '{' :: cs)) =
        (bodyLength? 0 cs).map (bytes cs · + 3)) ∧
    ∀ cs,
      source (pieces cs) = cs ∧
      (∀ value, expand value cs = rewriteFrom
        (fun _ body => (value body).getD (Piece.span body).source) 0 (pieces cs)) ∧
      (ofChars cs).text = rewriteFrom (fun n _ => placeholder n) 0 (pieces cs) ∧
      (ofChars cs).spans = spanTexts (pieces cs) ∧
      (ofChars cs).spans =
        (extentsFrom 0 (pieces cs)).map fun extent => (cs.drop extent.1).take extent.2 := by
  refine ⟨fun cs => ⟨spanLength?_opening cs, ?_⟩, fun cs => ?_⟩
  · rw [spanLength?_opening]
    cases hn : bodyLength? 0 cs with
    | none => rfl
    | some n => exact congrArg some (bytes_opening hn)
  · have hmasked : ofChars cs =
        ⟨rewriteFrom (fun n _ => placeholder n) 0 (pieces cs), spanTexts (pieces cs)⟩ :=
      ofCharsFrom_eq_rewriteFrom 0 cs
    have hextents := spanTexts_eq_map_extentsFrom [] (pieces cs)
    rw [List.nil_append, source_pieces] at hextents
    rw [hmasked]
    exact ⟨source_pieces cs, fun value => expand_eq_rewriteFrom value 0 cs, rfl, rfl, hextents⟩

end Masked

end FlowGraph
