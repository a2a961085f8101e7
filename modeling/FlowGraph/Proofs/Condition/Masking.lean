import FlowGraph.Condition.Masked
import FlowGraph.Proofs.Decimal
import FlowGraph.Proofs.Template

/-!
Masked texts. A text is cut into its spans and the characters around them, and each span
is seen as one character; masking writes the number of the span in its place. Numbering
can start anywhere, and restoring gives the text back as long as the numbers are those of
its spans.
-/

namespace FlowGraph

namespace Template

def Piece.face : Piece → Char
  | .char c => c
  | .span _ => Masked.mark

def shape (ps : List Piece) : List Char :=
  ps.map Piece.face

@[simp] theorem shape_nil : shape [] = [] := rfl

@[simp] theorem shape_char_cons (c : Char) (ps : List Piece) :
    shape (.char c :: ps) = c :: shape ps := rfl

@[simp] theorem shape_span_cons (body : List Char) (ps : List Piece) :
    shape (.span body :: ps) = Masked.mark :: shape ps := rfl

def Unmarked (ps : List Piece) : Prop :=
  Piece.char Masked.mark ∉ ps

theorem length_source_span (body : List Char) :
    (Piece.span body).source.length = body.length + 3 := by
  simp [Piece.source]

theorem take_span (body cs : List Char) :
    ('$' :: '{' :: (body ++ '}' :: cs)).take (body.length + 3) = (Piece.span body).source := by
  have hwhole : '$' :: '{' :: (body ++ '}' :: cs) = (Piece.span body).source ++ cs := by
    simp [Piece.source]
  rw [hwhole, ← length_source_span, List.take_left]

def spanTexts : List Piece → List (List Char)
  | [] => []
  | .char _ :: ps => spanTexts ps
  | .span body :: ps => (Piece.span body).source :: spanTexts ps

theorem spanTexts_append (ps qs : List Piece) :
    spanTexts (ps ++ qs) = spanTexts ps ++ spanTexts qs := by
  induction ps with
  | nil => rfl
  | cons p ps ih => cases p <;> simp [spanTexts, ih]

/-- The text with its spans written anew: each is told its number, from `n` on, and its
body. -/
def rewriteFrom (write : Nat → List Char → List Char) (n : Nat) : List Piece → List Char
  | [] => []
  | .char c :: ps => c :: rewriteFrom write n ps
  | .span body :: ps => write n body ++ rewriteFrom write (n + 1) ps

@[simp] theorem spanTexts_map_char (cs : List Char) : spanTexts (cs.map .char) = [] := by
  induction cs with
  | nil => rfl
  | cons c cs ih => exact ih

@[simp] theorem rewriteFrom_map_char (write : Nat → List Char → List Char) (n : Nat)
    (cs : List Char) : rewriteFrom write n (cs.map .char) = cs := by
  induction cs with
  | nil => rfl
  | cons c cs ih => rw [List.map_cons, rewriteFrom, ih]

end Template

namespace Masked

open Template

variable {body cs : List Char} {ps : List Piece}

/-- Counting the brace that opens the span as well does not change where it ends. -/
theorem balancedLength?_succ (depth : Nat) (cs : List Char) :
    balancedLength? (depth + 1) cs = (bodyLength? depth cs).map (· + 1) := by
  induction cs generalizing depth with
  | nil => rfl
  | cons c cs ih =>
    by_cases hopen : c = '{'
    · subst hopen
      rw [bodyLength?_open, balancedLength?, if_pos rfl, ih]
    · by_cases hclose : c = '}'
      · subst hclose
        cases depth with
        | zero => rfl
        | succ depth =>
          have hdeep : ¬ depth + 1 + 1 ≤ 1 := by omega
          rw [bodyLength?_close, balancedLength?, if_neg hopen, if_pos rfl, if_neg hdeep,
            Nat.add_sub_cancel, ih]
      · rw [bodyLength?_char hopen hclose, balancedLength?, if_neg hopen, if_neg hclose, ih]

/-- The dollar sign and the two outer braces count for the span and not for its body. -/
theorem spanLength?_opening (cs : List Char) :
    spanLength? ('$' :: '{' :: cs) = (bodyLength? 0 cs).map (· + 3) := by
  have hopen : balancedLength? 0 ('{' :: cs) = (balancedLength? (0 + 1) cs).map (· + 1) := by
    rw [balancedLength?, if_pos rfl]
  rw [spanLength?, List.tail_cons, hopen, balancedLength?_succ, Option.map_map, Option.map_map]
  rfl

/-- A span ends at the brace that closes it, whatever follows. -/
theorem spanLength?_span (hbody : Balanced body) (cs : List Char) :
    spanLength? ('$' :: '{' :: (body ++ '}' :: cs)) = some (body.length + 3) := by
  rw [spanLength?_opening, hbody.bodyLength?, Option.map_some]

theorem spanLength?_of_unclosed (hcs : Unclosed cs) : spanLength? ('$' :: '{' :: cs) = none := by
  rw [spanLength?_opening, hcs.bodyLength?, Option.map_none]

def numbered (n : Nat) : List Char → List Char
  | [] => []
  | c :: cs => if c = mark then placeholder n ++ numbered (n + 1) cs else c :: numbered n cs

theorem numbered_mark (n : Nat) (cs : List Char) :
    numbered n (mark :: cs) = placeholder n ++ numbered (n + 1) cs := by
  rw [numbered, if_pos rfl]

theorem numbered_cons {c : Char} (hc : c ≠ mark) (n : Nat) (cs : List Char) :
    numbered n (c :: cs) = c :: numbered n cs := by
  rw [numbered, if_neg hc]

/-- Numbering goes on in the second text where it stops in the first. -/
theorem numbered_append (n : Nat) (as bs : List Char) :
    numbered n (as ++ bs) = numbered n as ++ numbered (n + as.count mark) bs := by
  induction as generalizing n with
  | nil => rfl
  | cons c as ih =>
    by_cases hc : c = mark
    · subst hc
      rw [List.cons_append, numbered_mark, numbered_mark, ih, List.count_cons_self,
        List.append_assoc, Nat.add_right_comm, Nat.add_assoc]
    · rw [List.cons_append, numbered_cons hc, numbered_cons hc, ih, List.count_cons_of_ne hc,
        List.cons_append]

theorem numbered_of_not_mem (n : Nat) (hcs : mark ∉ cs) : numbered n cs = cs := by
  induction cs with
  | nil => rfl
  | cons c cs ih =>
    rw [List.mem_cons, not_or] at hcs
    rw [numbered_cons (Ne.symm hcs.1), ih hcs.2]

/-- Masking writes placeholders for the spans that the text is cut into and keeps their
texts. -/
theorem ofCharsFrom_eq_rewriteFrom (n : Nat) (cs : List Char) :
    ofCharsFrom n cs =
      ⟨rewriteFrom (fun k _ => placeholder k) n (pieces cs), spanTexts (pieces cs)⟩ := by
  induction cs using cut_induction generalizing n with
  | nil =>
    rw [ofCharsFrom, pieces_nil]
    rfl
  | char c cs hc ih =>
    rw [ofCharsFrom, if_neg hc, ih, pieces_cons hc]
    rfl
  | span body cs hbody ih =>
    rw [ofCharsFrom, if_pos ⟨rfl, rfl⟩, spanLength?_span hbody, pieces_span hbody]
    have hdrop : ('{' :: (body ++ '}' :: cs)).drop (body.length + 3 - 1) = cs := by
      simp
    simp only [hdrop, take_span, ih]
    rfl
  | unclosed cs hcs =>
    rw [ofCharsFrom, if_pos ⟨rfl, rfl⟩, spanLength?_of_unclosed hcs, pieces_of_unclosed hcs,
      rewriteFrom_map_char, spanTexts_map_char]

/-- Writing placeholders for the spans is numbering the marks of the outside view. -/
theorem rewriteFrom_placeholder (hmarks : Unmarked ps) (n : Nat) :
    rewriteFrom (fun k _ => placeholder k) n ps = numbered n (shape ps) := by
  induction ps generalizing n with
  | nil => rfl
  | cons p ps ih =>
    have hrest : Unmarked ps := fun hmem => hmarks (List.mem_cons_of_mem _ hmem)
    cases p with
    | char c =>
      have hmark : c ≠ mark := by
        rintro rfl
        exact hmarks List.mem_cons_self
      rw [rewriteFrom, shape_char_cons, numbered_cons hmark, ih hrest]
    | span body => rw [rewriteFrom, shape_span_cons, numbered_mark, ih hrest]

/-- Masking a text that is cut into pieces puts a number into the face of each span. -/
theorem ofCharsFrom_eq (hcs : CutInto cs ps) (hmarks : Unmarked ps) (n : Nat) :
    ofCharsFrom n cs = ⟨numbered n (shape ps), spanTexts ps⟩ := by
  rw [ofCharsFrom_eq_rewriteFrom, hcs.pieces_eq, rewriteFrom_placeholder hmarks]

section Restore

variable {spans : List (List Char)}

theorem isDecimalDigit_of_isDigit {c : Char} (hc : Decimal.isDigit c = true) :
    Text.isDecimalDigit c = true := by
  obtain ⟨hlow, hhigh⟩ := Decimal.isDigit_eq_true_iff.mp hc
  have hascii : c.toNat < 0x80 := by omega
  simp only [Text.isDecimalDigit, if_pos hascii, Bool.and_eq_true, decide_eq_true_eq]
  omega

theorem restore_nil : restore spans [] = [] := by
  rw [restore]

theorem restore_cons {c : Char} (hc : c ≠ mark) (rest : List Char) :
    restore spans (c :: rest) = c :: restore spans rest := by
  rw [restore]
  exact if_neg fun hmark => hc hmark.1

/-- A placeholder gives way to the span with its number. -/
theorem restore_placeholder {n : Nat} {span : List Char} (hspan : spans[n]? = some span)
    (rest : List Char) : restore spans (placeholder n ++ rest) = span ++ restore spans rest := by
  have hdigits : ∀ c ∈ Decimal.digits n, Text.isDecimalDigit c = true := fun c hc =>
    isDecimalDigit_of_isDigit (Decimal.isDigit_of_mem_digits hc)
  have htext : placeholder n ++ rest = mark :: (Decimal.digits n ++ mark :: rest) := by
    simp [placeholder]
  have hmark : Text.isDecimalDigit mark = false := by decide
  have htake : (Decimal.digits n ++ mark :: rest).takeWhile Text.isDecimalDigit =
      Decimal.digits n := by
    rw [List.takeWhile_append_of_pos hdigits]
    simp [hmark]
  have hdrop : (Decimal.digits n ++ mark :: rest).dropWhile Text.isDecimalDigit = mark :: rest := by
    rw [List.dropWhile_append_of_pos hdigits]
    simp [hmark]
  rw [htext, restore]
  simp only [htake, hdrop]
  rw [if_pos ⟨trivial, Decimal.digits_ne_nil n, rfl⟩, Decimal.natural?_digits]
  simp [hspan]

/-- Spans come back to their places if they are found under the numbers given out. -/
theorem restore_numbered (hmarks : Unmarked ps) (before after : List (List Char))
    (hspans : spans = before ++ (spanTexts ps ++ after)) :
    restore spans (numbered before.length (shape ps)) = source ps := by
  induction ps generalizing before with
  | nil => exact restore_nil
  | cons p ps ih =>
    have hrest : Unmarked ps := fun hmem => hmarks (List.mem_cons_of_mem _ hmem)
    cases p with
    | char c =>
      have hmark : c ≠ mark := by
        rintro rfl
        exact hmarks List.mem_cons_self
      rw [shape_char_cons, numbered_cons hmark, restore_cons hmark, ih hrest before hspans]
      rfl
    | span body =>
      have hfound : spans[before.length]? = some (Piece.span body).source := by
        simp [hspans, spanTexts]
      have hnext := ih hrest (before ++ [(Piece.span body).source]) (by simp [hspans, spanTexts])
      rw [List.length_append] at hnext
      rw [shape_span_cons, numbered_mark, restore_placeholder hfound]
      exact congrArg _ hnext

end Restore

end Masked

end FlowGraph
