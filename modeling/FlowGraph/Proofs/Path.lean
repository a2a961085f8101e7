import FlowGraph.Path

/-!
The last name of a path. It decides where a path leads to in the end, whatever stands
before it; a changed extension changes it and nothing else.
-/

namespace FlowGraph.Path

theorem split_ne_nil (cs : List Char) : split cs ≠ [] := by
  cases cs with
  | nil => exact List.cons_ne_nil _ _
  | cons c cs =>
    rw [split]
    split
    · exact List.cons_ne_nil _ _
    · split <;> exact List.cons_ne_nil _ _

theorem split_of_not_mem {cs : List Char} (h : '/' ∉ cs) : split cs = [cs] := by
  induction cs with
  | nil => rfl
  | cons c cs ih =>
    have hc : c ≠ '/' := fun heq => h (heq ▸ List.mem_cons_self)
    have hcs : '/' ∉ cs := fun hmem => h (List.mem_cons_of_mem c hmem)
    rw [split, if_neg hc, ih hcs]

/-- The names before and behind a slash are those of the two texts. -/
theorem split_append_slash (cs ds : List Char) :
    split (cs ++ '/' :: ds) = split cs ++ split ds := by
  induction cs with
  | nil => rfl
  | cons c cs ih =>
    by_cases hc : c = '/'
    · simp [split, hc, ih]
    · obtain ⟨name, names, hnames⟩ := List.exists_cons_of_ne_nil (split_ne_nil cs)
      simp [split, hc, ih, hnames]

/-- The text is the name, or ends with a slash and the name. -/
def EndsWith (cs name : List Char) : Prop :=
  '/' ∉ name ∧ (cs = name ∨ ∃ before, cs = before ++ '/' :: name)

theorem EndsWith.split_eq {cs name : List Char} (h : EndsWith cs name) :
    ∃ names, split cs = names ++ [name] := by
  obtain ⟨hname, rfl | ⟨before, rfl⟩⟩ := h
  · exact ⟨[], split_of_not_mem hname⟩
  · exact ⟨split before, by rw [split_append_slash, split_of_not_mem hname]⟩

/-- A path has one last name. -/
theorem EndsWith.unique {cs a b : List Char} (ha : EndsWith cs a) (hb : EndsWith cs b) : a = b := by
  obtain ⟨before, hbefore⟩ := ha.split_eq
  obtain ⟨front, hfront⟩ := hb.split_eq
  have happend := hbefore.symm.trans hfront
  simpa using (List.append_inj' happend rfl).2

structure Proper (name : List Char) : Prop where
  nonempty : name ≠ []
  notDot : name ≠ ['.']
  notDots : name ≠ ['.', '.']

theorem endsWith_join (base : String) {name : List Char} (hname : '/' ∉ name) (hne : name ≠ []) :
    EndsWith (join base (String.ofList name)).toList name := by
  have hrelative : isAbsolute (String.ofList name) = false := by
    obtain ⟨c, cs, rfl⟩ := List.exists_cons_of_ne_nil hne
    have hc : c ≠ '/' := fun heq => hname (heq ▸ List.mem_cons_self)
    simpa [isAbsolute] using hc
  refine ⟨hname, ?_⟩
  unfold join
  rw [hrelative, Bool.false_or]
  split
  · exact Or.inl String.toList_ofList
  split
  · next hlast =>
    obtain ⟨before, hbefore⟩ := List.getLast?_eq_some_iff.mp hlast
    exact Or.inr ⟨before, by simp [hbefore]⟩
  · exact Or.inr ⟨base.toList, by simp⟩

/-- Either a character does not stand in a text, or a cut before it leaves it first. -/
theorem dropWhile_ne_cases (c : Char) (cs : List Char) :
    (c ∉ cs ∧ cs.dropWhile (· ≠ c) = []) ∨ ∃ rest, cs.dropWhile (· ≠ c) = c :: rest := by
  induction cs with
  | nil => exact Or.inl ⟨List.not_mem_nil, rfl⟩
  | cons d cs ih =>
    by_cases hd : d = c
    · exact Or.inr ⟨cs, by simp [hd]⟩
    · rw [List.dropWhile_cons_of_pos (by simpa using hd)]
      refine ih.imp_left fun h => ⟨?_, h.2⟩
      simpa [Ne.symm hd] using h.1

theorem not_mem_takeWhile_ne (c : Char) (cs : List Char) : c ∉ cs.takeWhile (· ≠ c) := by
  intro hmem
  have hnot := List.all_eq_true.mp List.all_takeWhile c hmem
  simp at hnot

/-- A name with what stands before the last name of a text. -/
theorem endsWith_dropWhile_append (cs : List Char) {name : List Char} (hname : '/' ∉ name) :
    EndsWith ((cs.dropWhile (· ≠ '/')).reverse ++ name) name := by
  refine ⟨hname, ?_⟩
  rcases dropWhile_ne_cases '/' cs with ⟨-, hnil⟩ | ⟨rest, hrest⟩
  · rw [hnil]
    exact Or.inl rfl
  · rw [hrest]
    exact Or.inr ⟨rest.reverse, by simp⟩

/-- The last name of a path is what its text ends with, slashes and dots at its end apart. -/
theorem fileName?_eq_some {path : String} {name : List Char} (h : fileName? path = some name) :
    Proper name ∧ EndsWith (reversed path).reverse name := by
  unfold fileName? at h
  dsimp only at h
  split at h
  · cases h
  next hproper =>
  cases h
  constructor
  · simp only [Bool.or_eq_true, List.isEmpty_iff, decide_eq_true_eq, not_or] at hproper
    exact ⟨hproper.1.1, hproper.1.2, hproper.2⟩
  · have hname : '/' ∉ ((reversed path).takeWhile (· ≠ '/')).reverse := by
      rw [List.mem_reverse]
      exact not_mem_takeWhile_ne '/' (reversed path)
    have hends := endsWith_dropWhile_append (reversed path) hname
    rwa [← List.reverse_append, List.takeWhile_append_dropWhile] at hends

/-- Another extension stands behind the stem of the last name. -/
theorem endsWith_withExtension {path : String} {name : List Char} (h : fileName? path = some name)
    {ext : String} (hname : '/' ∉ stem name) (hext : '/' ∉ ext.toList) :
    EndsWith (withExtension path ext).toList (stem name ++ '.' :: ext.toList) := by
  have hall : '/' ∉ stem name ++ '.' :: ext.toList := by
    simp [hname, hext]
  have hends := endsWith_dropWhile_append (reversed path) hall
  unfold withExtension
  rw [h]
  simpa using hends

/-- A name with an extension is its stem, a dot and the extension. -/
theorem eq_stem_append {name after : List Char} (h : (divide name).2 = some after) :
    name = stem name ++ '.' :: after := by
  unfold stem
  unfold divide at h ⊢
  dsimp only at h ⊢
  split at h
  · next hdivides =>
    cases h
    rw [if_pos hdivides]
    dsimp only
    have hdot : '.' ∈ name := by
      have hcontains := (Bool.and_eq_true_iff.mp hdivides).1
      simpa using hcontains
    rcases dropWhile_ne_cases '.' name.reverse with ⟨hnone, -⟩ | ⟨rest, hrest⟩
    · exact absurd (List.mem_reverse.mpr hdot) hnone
    · have hsplit : name.reverse.takeWhile (· ≠ '.') ++ name.reverse.dropWhile (· ≠ '.') =
          name.reverse := List.takeWhile_append_dropWhile
      have hname : name = rest.reverse ++ '.' :: (name.reverse.takeWhile (· ≠ '.')).reverse := by
        rw [hrest] at hsplit
        simpa using (congrArg List.reverse hsplit).symm
      generalize (name.reverse.takeWhile (· ≠ '.')).reverse = after at hname
      subst hname
      have hlength : (rest.reverse ++ '.' :: after).length - after.length - 1 =
          rest.reverse.length := by
        rw [List.length_append, List.length_cons]
        omega
      rw [hlength, List.take_left]
  · cases h

/-- Without a slash at its end a path stays as it is when those are taken off. -/
theorem withoutSlashes_eq {path : String} (h : path.toList.getLast? ≠ some '/') :
    withoutSlashes path = path := by
  have hkeep : path.toList.reverse.dropWhile (· = '/') = path.toList.reverse := by
    cases hreverse : path.toList.reverse with
    | nil => rfl
    | cons c rest =>
      have hc : c ≠ '/' := by
        intro heq
        apply h
        rw [List.getLast?_eq_head?_reverse, hreverse, heq]
        rfl
      exact List.dropWhile_cons_of_neg (by simpa using hc)
  unfold withoutSlashes
  rw [hkeep]
  split
  · next hempty =>
    have hpath : path = "" := by simpa using hempty
    rw [hpath]
    rfl
  · rw [List.reverse_reverse, String.ofList_toList]

end FlowGraph.Path
