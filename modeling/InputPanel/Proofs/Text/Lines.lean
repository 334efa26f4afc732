import InputPanel.Text.Blank

/-!
# Lines and margins of a text

A line holds no break, and texts without a break are read back as lines when
each is ended by a line feed. Trimming keeps a text exactly if it has no margin:
its first character and its last one are no blanks.
-/

namespace InputPanel.Text

/-- A text that is read as one line. -/
def Unbroken (s : List Char) : Prop := ∀ c ∈ s, isLineBreak c = false

theorem unbroken_cons {c : Char} {s : List Char} :
    Unbroken (c :: s) ↔ isLineBreak c = false ∧ Unbroken s := by
  simp [Unbroken]

theorem unbroken_append {s t : List Char} : Unbroken (s ++ t) ↔ Unbroken s ∧ Unbroken t := by
  simp only [Unbroken, List.mem_append]
  constructor
  · intro h
    exact ⟨fun c hc => h c (Or.inl hc), fun c hc => h c (Or.inr hc)⟩
  · rintro ⟨hs, ht⟩ c (hc | hc)
    · exact hs c hc
    · exact ht c hc

theorem lines_newline (rest : List Char) : lines ('\n' :: rest) = [] :: lines rest := rfl

theorem lines_return_newline (rest : List Char) : lines ('\r' :: '\n' :: rest) = [] :: lines rest :=
  rfl

/-- A character is taken by itself, unless it is a carriage return that a line feed follows. -/
theorem lines_cons_of_apart {c : Char} {rest : List Char}
    (apart : ∀ tail, c = '\r' → rest ≠ '\n' :: tail) :
    lines (c :: rest) = if isLineBreak c then [] :: lines rest
      else match lines rest with
        | [] => [[c]]
        | line :: more => (c :: line) :: more := by
  rw [lines.eq_def]
  split
  · next impossible => cases impossible
  · next tail same =>
    cases same
    exact absurd rfl (apart tail rfl)
  · next same =>
    cases same
    rfl

theorem lines_cons {c : Char} (h : isLineBreak c = false) (rest : List Char) :
    lines (c :: rest) = match lines rest with
      | [] => [[c]]
      | line :: more => (c :: line) :: more := by
  have notReturn : c ≠ '\r' := by
    rintro rfl
    simp [isLineBreak] at h
  rw [lines_cons_of_apart fun _ same => absurd same notReturn]
  exact if_neg (by simp [h])

/-- A break ends a line, unless it is a carriage return that a line feed follows. -/
theorem lines_of_break {c : Char} (breaks : isLineBreak c = true) {rest : List Char}
    (apart : ∀ tail, c = '\r' → rest ≠ '\n' :: tail) : lines (c :: rest) = [] :: lines rest := by
  rw [lines_cons_of_apart apart, if_pos breaks]

theorem lines_cons_ne_nil (c : Char) (rest : List Char) : lines (c :: rest) ≠ [] := by
  by_cases joins : ∃ tail, c = '\r' ∧ rest = '\n' :: tail
  · obtain ⟨tail, rfl, rfl⟩ := joins
    simp [lines_return_newline]
  · rw [lines_cons_of_apart fun tail same next => joins ⟨tail, same, next⟩]
    split
    · simp
    · split <;> simp

theorem lines_append_newline {line : List Char} (h : Unbroken line) (rest : List Char) :
    lines (line ++ '\n' :: rest) = line :: lines rest := by
  induction line with
  | nil => exact lines_newline rest
  | cons c line ih =>
    obtain ⟨hc, hline⟩ := unbroken_cons.1 h
    rw [List.cons_append, lines_cons hc, ih hline]

/-- A line feed between two texts ends the last line of the first one. After a carriage return it
belongs to the same break, and after any other break or at the beginning it makes an empty line. -/
theorem exists_lines_append (s t : List Char) :
    ∃ gap : List (List Char), (gap = [] ∨ gap = [[]]) ∧
      lines (s ++ '\n' :: t) = lines s ++ gap ++ lines t := by
  fun_induction lines s with
  | case1 => exact ⟨[[]], .inr rfl, lines_newline t⟩
  | case2 rest ih =>
    obtain ⟨gap, empty, same⟩ := ih
    exact ⟨gap, empty, by rw [List.cons_append, List.cons_append, lines_return_newline, same]; rfl⟩
  | case3 c rest apart breaks ih =>
    cases rest with
    | nil =>
      by_cases joins : c = '\r'
      · exact ⟨[], .inl rfl, by rw [joins]; rfl⟩
      · refine ⟨[[]], .inr rfl, ?_⟩
        rw [List.cons_append, List.nil_append, lines_of_break breaks fun _ e => absurd e joins,
          lines_newline]
        rfl
    | cons d rest =>
      obtain ⟨gap, empty, same⟩ := ih
      refine ⟨gap, empty, ?_⟩
      rw [List.cons_append, lines_of_break breaks, same]
      · rfl
      · intro tail e feed
        exact apart rest e (congrArg (· :: rest) (List.cons.inj feed).1)
  | case4 c rest apart plain last ih =>
    -- The last line of the text, without a break of its own.
    cases rest with
    | nil =>
      refine ⟨[], .inl rfl, ?_⟩
      rw [List.cons_append, List.nil_append, lines_cons (by simpa using plain), lines_newline]
      rfl
    | cons d rest => exact absurd last (lines_cons_ne_nil d rest)
  | case5 c rest apart plain first more made ih =>
    obtain ⟨gap, empty, same⟩ := ih
    refine ⟨gap, empty, ?_⟩
    rw [List.cons_append, lines_cons (by simpa using plain), same, made]
    rfl

theorem lines_flatMap_newline {texts : List (List Char)} (h : ∀ line ∈ texts, Unbroken line) :
    lines (texts.flatMap fun line => line ++ ['\n']) = texts := by
  induction texts with
  | nil => rfl
  | cons line rest ih =>
    have first := h line List.mem_cons_self
    have others := ih fun l hl => h l (List.mem_cons_of_mem _ hl)
    rw [List.flatMap_cons, List.append_assoc, List.singleton_append, lines_append_newline first,
      others]

theorem unbroken_of_mem_lines {s line : List Char} (h : line ∈ lines s) : Unbroken line := by
  fun_induction lines s generalizing line with
  | case1 => simp at h
  | case2 rest ih =>
    rcases List.mem_cons.1 h with rfl | later
    · simp [Unbroken]
    · exact ih later
  | case3 c rest _ hc ih =>
    rcases List.mem_cons.1 h with rfl | later
    · simp [Unbroken]
    · exact ih later
  | case4 c rest _ hc none ih =>
    rw [List.mem_singleton.1 h]
    exact unbroken_cons.2 ⟨by simpa using hc, by simp [Unbroken]⟩
  | case5 c rest _ hc first more some ih =>
    rcases List.mem_cons.1 h with rfl | later
    · exact unbroken_cons.2 ⟨by simpa using hc, ih (some ▸ List.mem_cons_self)⟩
    · exact ih (some ▸ List.mem_cons_of_mem _ later)

/-- A text is its own one line when the line feed after it is the only break. -/
theorem lines_eq_singleton_iff {line : List Char} :
    lines (line ++ ['\n']) = [line] ↔ Unbroken line := by
  constructor
  · intro h
    exact unbroken_of_mem_lines (h ▸ List.mem_cons_self)
  · intro h
    exact lines_append_newline h []

section Margins

variable {p : Char → Bool}

@[simp] theorem dropRightWhile_nil (p : Char → Bool) : dropRightWhile p [] = [] := rfl

theorem dropRightWhile_cons (p : Char → Bool) (c : Char) (s : List Char) :
    dropRightWhile p (c :: s) = match dropRightWhile p s with
      | [] => if p c then [] else [c]
      | d :: kept => c :: d :: kept := rfl

theorem dropRightWhile_append {s : List Char} {c : Char} (h : p c = false) :
    dropRightWhile p (s ++ [c]) = s ++ [c] := by
  induction s with
  | nil => simp [dropRightWhile_cons, h]
  | cons d s ih =>
    rw [List.cons_append, dropRightWhile_cons, ih]
    cases s with
    | nil => rfl
    | cons e s => rfl

theorem dropRightWhile_append_of_pos {c : Char} (h : p c = true) (s : List Char) :
    dropRightWhile p (s ++ [c]) = dropRightWhile p s := by
  induction s with
  | nil => simp [dropRightWhile_cons, h]
  | cons d s ih => rw [List.cons_append, dropRightWhile_cons, ih, dropRightWhile_cons]

theorem prefix_dropRightWhile (p : Char → Bool) (s : List Char) : dropRightWhile p s <+: s := by
  induction s with
  | nil => exact List.prefix_rfl
  | cons c s ih =>
    rw [dropRightWhile_cons]
    split
    · split
      · exact List.nil_prefix
      · exact List.cons_prefix_cons.2 ⟨rfl, List.nil_prefix⟩
    · next d kept same => exact List.cons_prefix_cons.2 ⟨rfl, same ▸ ih⟩

theorem getLast?_dropRightWhile {s : List Char} {c : Char}
    (h : (dropRightWhile p s).getLast? = some c) : p c = false := by
  induction s with
  | nil => simp at h
  | cons d s ih =>
    rw [dropRightWhile_cons] at h
    split at h
    · split at h
      · simp at h
      · next kept =>
        simp only [List.getLast?_singleton, Option.some.injEq] at h
        simpa [← h] using kept
    · next e kept same =>
      rw [List.getLast?_cons_cons] at h
      exact ih (same ▸ h)

/-- Nothing is dropped from the right exactly if the last character stays. -/
theorem dropRightWhile_eq_self_iff {s : List Char} :
    dropRightWhile p s = s ↔ ∀ c, s.getLast? = some c → p c = false := by
  constructor
  · intro same c last
    exact getLast?_dropRightWhile (s := s) (by rwa [same])
  · intro h
    rcases List.eq_nil_or_concat s with rfl | ⟨front, last, rfl⟩
    · rfl
    · rw [List.concat_eq_append] at h ⊢
      exact dropRightWhile_append (h last (by simp))

theorem dropWhile_eq_self_iff {s : List Char} :
    s.dropWhile p = s ↔ ∀ c, s.head? = some c → p c = false := by
  cases s with
  | nil => simp
  | cons d s =>
    by_cases hd : p d = true
    · have shorter := (List.dropWhile_sublist p (l := s)).length_le
      have different : s.dropWhile p ≠ d :: s := by
        intro same
        rw [same, List.length_cons] at shorter
        omega
      simp [hd, different]
    · simp [hd]

theorem getLast?_dropWhile {s : List Char} {c : Char}
    (h : (s.dropWhile p).getLast? = some c) : s.getLast? = some c := by
  rw [← List.takeWhile_append_dropWhile (p := p) (l := s), List.getLast?_append, h, Option.some_or]

section Wider

variable {q : Char → Bool}

/-- Dropping less first makes no difference on the right. -/
theorem dropRightWhile_dropRightWhile (le : ∀ c, p c = true → q c = true) (s : List Char) :
    dropRightWhile q (dropRightWhile p s) = dropRightWhile q s := by
  induction s with
  | nil => rfl
  | cons c s ih =>
    rw [dropRightWhile_cons]
    cases kept : dropRightWhile p s with
    | nil =>
      rw [kept] at ih
      have gone : dropRightWhile q s = [] := ih.symm
      by_cases hc : p c = true
      · simp [hc, dropRightWhile_cons, gone, le c hc]
      · simp [hc, dropRightWhile_cons, gone]
    | cons d rest =>
      rw [kept] at ih
      rw [dropRightWhile_cons, ih, dropRightWhile_cons]

/-- Less is dropped on the right before or after more is dropped on the left. -/
theorem dropWhile_dropRightWhile (le : ∀ c, p c = true → q c = true) (s : List Char) :
    (dropRightWhile p s).dropWhile q = dropRightWhile p (s.dropWhile q) := by
  induction s with
  | nil => rfl
  | cons c s ih =>
    by_cases hq : q c = true
    · rw [List.dropWhile_cons_of_pos hq, ← ih, dropRightWhile_cons]
      cases dropRightWhile p s with
      | nil => by_cases hc : p c = true <;> simp [hc, hq]
      | cons d rest => simp [hq]
    · have kept : dropRightWhile p (c :: s) = c :: dropRightWhile p s := by
        have stays : ¬ p c = true := fun hc => hq (le c hc)
        rw [dropRightWhile_cons]
        cases dropRightWhile p s with
        | nil => simp [stays]
        | cons d rest => rfl
      rw [List.dropWhile_cons_of_neg hq, kept, List.dropWhile_cons_of_neg hq]

theorem trim_dropRightWhile (le : ∀ c, p c = true → isBlank c = true) (s : List Char) :
    trim (dropRightWhile p s) = trim s := by
  rw [trim, trim, trimLeft, trimLeft, dropWhile_dropRightWhile le, trimRight, trimRight,
    dropRightWhile_dropRightWhile le]

end Wider

theorem trim_eq_self_iff {s : List Char} :
    trim s = s ↔ (∀ c, s.head? = some c → isBlank c = false) ∧
      ∀ c, s.getLast? = some c → isBlank c = false := by
  rw [← dropWhile_eq_self_iff, ← dropRightWhile_eq_self_iff, trim, trimLeft, trimRight]
  constructor
  · intro same
    have kept : s.dropWhile isBlank = s := by
      refine (List.dropWhile_sublist isBlank).eq_of_length_le ?_
      have shorter := (prefix_dropRightWhile isBlank (s.dropWhile isBlank)).length_le
      rwa [same] at shorter
    exact ⟨kept, by rwa [kept] at same⟩
  · rintro ⟨left, right⟩
    rw [left, right]

end Margins

end InputPanel.Text
