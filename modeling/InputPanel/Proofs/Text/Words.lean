import InputPanel.Text.Blank

/-!
# Pieces of a text and cuts in it

A text is parted at every mark: no piece holds a mark, and a stretch without one
up to a mark is a piece. A word is such a piece, and holds no white space; words
that are joined by white space are the words of the text they make. A cut is made
at the first mark, so that what comes before it is free of the mark.
-/

namespace InputPanel.Text

section Pieces

variable {p : Char → Bool}

@[simp] theorem piecesBy_nil (p : Char → Bool) : piecesBy p [] = [[]] := rfl

theorem piecesBy_cons (p : Char → Bool) (c : Char) (rest : List Char) :
    piecesBy p (c :: rest) = match piecesBy p rest with
      | [] => [[c]]
      | piece :: pieces => if p c then [] :: piece :: pieces else (c :: piece) :: pieces := rfl

theorem piecesBy_ne_nil (p : Char → Bool) (s : List Char) : piecesBy p s ≠ [] := by
  cases s with
  | nil => simp
  | cons c s =>
    rw [piecesBy_cons]
    split
    · simp
    · split <;> simp

theorem piecesBy_cons_of_pos {c : Char} (marks : p c = true) (rest : List Char) :
    piecesBy p (c :: rest) = [] :: piecesBy p rest := by
  rw [piecesBy_cons]
  split
  · next impossible => exact absurd impossible (piecesBy_ne_nil p rest)
  · next piece pieces same => rw [if_pos marks, same]

theorem piecesBy_append {line : List Char} (plain : ∀ c ∈ line, p c = false) {mark : Char}
    (marks : p mark = true) (rest : List Char) :
    piecesBy p (line ++ mark :: rest) = line :: piecesBy p rest := by
  induction line with
  | nil => exact piecesBy_cons_of_pos marks rest
  | cons c line ih =>
    rw [List.forall_mem_cons] at plain
    rw [List.cons_append, piecesBy_cons, ih plain.2, plain.1]
    rfl

theorem piecesBy_of_plain {line : List Char} (plain : ∀ c ∈ line, p c = false) :
    piecesBy p line = [line] := by
  induction line with
  | nil => rfl
  | cons c line ih =>
    rw [List.forall_mem_cons] at plain
    rw [piecesBy_cons, ih plain.2, plain.1]
    rfl

theorem of_mem_piecesBy {s piece : List Char} (present : piece ∈ piecesBy p s) :
    ∀ c ∈ piece, p c = false := by
  induction s generalizing piece with
  | nil =>
    rw [piecesBy_nil, List.mem_singleton] at present
    simp [present]
  | cons c s ih =>
    rw [piecesBy_cons] at present
    split at present
    · next none => exact absurd none (piecesBy_ne_nil p s)
    · next first more made =>
      rw [made] at ih
      split at present
      · rcases List.mem_cons.1 present with rfl | later
        · simp
        · exact ih later
      · next kept =>
        rcases List.mem_cons.1 present with rfl | later
        · intro d inside
          rcases List.mem_cons.1 inside with rfl | inside
          · exact Bool.eq_false_iff.2 kept
          · exact ih List.mem_cons_self d inside
        · exact ih (List.mem_cons_of_mem _ later)

theorem piecesBy_eq_splitOnP (p : Char → Bool) (s : List Char) : piecesBy p s = s.splitOnP p := by
  induction s with
  | nil => rfl
  | cons c s ih =>
    rw [piecesBy_cons, List.splitOnP_cons_eq_if_modifyHead, ← ih]
    split
    · next none => exact absurd none (piecesBy_ne_nil p s)
    · next piece pieces made => rw [made, List.modifyHead_cons]

theorem isBlank_of_mem_words {s word : List Char} (present : word ∈ words s) :
    ∀ c ∈ word, isBlank c = false :=
  of_mem_piecesBy (List.mem_filter.1 present).1

end Pieces

section Joined

/-- A text that is made of words with white space between any two of them. -/
inductive Joined : List (List Char) → List Char → Prop where
  | nil : Joined [] []
  | single (word : List Char) : Joined [word] word
  | cons (word : List Char) {gap next text : List Char} {later : List (List Char)}
      (wide : gap ≠ []) (blank : ∀ c ∈ gap, isBlank c = true) (rest : Joined (next :: later) text) :
      Joined (word :: next :: later) (word ++ gap ++ text)

theorem words_append_of_blank {gap : List Char} (blank : ∀ c ∈ gap, isBlank c = true)
    (text : List Char) : words (gap ++ text) = words text := by
  induction gap with
  | nil => rfl
  | cons c gap ih =>
    rw [List.forall_mem_cons] at blank
    have first : words (c :: (gap ++ text)) = words (gap ++ text) := by
      rw [words, piecesBy_cons_of_pos blank.1]
      rfl
    rw [List.cons_append, first, ih blank.2]

/-- A word is what stands before white space. -/
theorem words_append_of_solid {word gap : List Char} (filled : word ≠ [])
    (solid : ∀ c ∈ word, isBlank c = false) (wide : gap ≠ [])
    (blank : ∀ c ∈ gap, isBlank c = true) (text : List Char) :
    words (word ++ gap ++ text) = word :: words text := by
  obtain ⟨c, gap, rfl⟩ := List.exists_cons_of_ne_nil wide
  rw [List.forall_mem_cons] at blank
  have first : words (word ++ c :: (gap ++ text)) = word :: words (gap ++ text) := by
    rw [words, piecesBy_append solid blank.1, List.filter_cons_of_pos (by simpa using filled)]
    rfl
  rw [List.append_assoc, List.cons_append, first, words_append_of_blank blank.2]

theorem words_of_joined {tokens : List (List Char)} {text : List Char}
    (filled : ∀ token ∈ tokens, token ≠ [])
    (solid : ∀ token ∈ tokens, ∀ c ∈ token, isBlank c = false) (joined : Joined tokens text) :
    words text = tokens := by
  induction joined with
  | nil => rfl
  | single word =>
    have kept := filled word List.mem_cons_self
    rw [words, piecesBy_of_plain (solid word List.mem_cons_self),
      List.filter_cons_of_pos (by simpa using kept)]
    rfl
  | cons word wide blank rest ih =>
    rw [List.forall_mem_cons] at filled solid
    rw [words_append_of_solid filled.1 solid.1 wide blank, ih filled.2 solid.2]

end Joined

section Cuts

variable {mark : Char} {s before after : List Char}

theorem cutAt_cons (mark c : Char) (s : List Char) :
    cutAt mark (c :: s) = if c = mark then some ([], s)
      else (cutAt mark s).map fun (before, after) => (c :: before, after) := rfl

theorem cutAt_eq_none_iff : cutAt mark s = none ↔ mark ∉ s := by
  induction s with
  | nil => exact iff_of_true rfl List.not_mem_nil
  | cons c s ih =>
    rw [cutAt_cons, List.mem_cons, not_or]
    by_cases here : c = mark
    · simp [here]
    · rw [if_neg here, Option.map_eq_none_iff, ih]
      exact ⟨fun later => ⟨Ne.symm here, later⟩, And.right⟩

theorem cutAt_eq_some_iff :
    cutAt mark s = some (before, after) ↔ s = before ++ mark :: after ∧ mark ∉ before := by
  induction s generalizing before with
  | nil => exact iff_of_false nofun (by simp)
  | cons c s ih =>
    rw [cutAt_cons]
    by_cases here : c = mark
    · subst here
      rw [if_pos rfl]
      constructor
      · rintro ⟨⟩
        exact ⟨rfl, List.not_mem_nil⟩
      · rintro ⟨same, free⟩
        cases before with
        | nil => rw [(List.cons.inj same).2]
        | cons d before =>
          rw [(List.cons.inj same).1] at free
          exact absurd List.mem_cons_self free
    · rw [if_neg here, Option.map_eq_some_iff]
      constructor
      · rintro ⟨⟨front, rest⟩, found, same⟩
        cases same
        obtain ⟨rfl, free⟩ := ih.1 found
        exact ⟨rfl, by simp [Ne.symm here, free]⟩
      · rintro ⟨same, free⟩
        cases before with
        | nil => exact absurd (List.cons.inj same).1 here
        | cons d front =>
          obtain ⟨rfl, rfl⟩ := List.cons.inj same
          have absent : mark ∉ front := fun inside => free (List.mem_cons_of_mem _ inside)
          exact ⟨(front, after), ih.2 ⟨rfl, absent⟩, rfl⟩

end Cuts

end InputPanel.Text
