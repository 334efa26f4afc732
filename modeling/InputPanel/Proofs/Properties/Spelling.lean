import InputPanel.Properties
import InputPanel.Proofs.Text.Lines

/-!
# How names and values are spelled

Each character of a name or a value is written after a backslash or as it is.
Reading takes the spelling back to the text, whatever it holds, and a written
name with a written value after it is parted between the two. What a spelling
leaves bare are the blanks and breaks that have no escape: these are the ones
that a reader can take for a margin or for the end of the line.
-/

namespace InputPanel.Properties

open Text

/-- Blanks that stand in the written form as they are, if only after a backslash. -/
def isWrittenBlank (c : Char) : Bool := isBlank c && (controlEscape? c).isNone

/-- Blanks that no backslash takes in a name. -/
def isBareBlank (c : Char) : Bool := isWrittenBlank c && c != ' '

def isBareBreak (c : Char) : Bool := isLineBreak c && (controlEscape? c).isNone

theorem isBareBlank_of_isBareBreak {c : Char} (h : isBareBreak c = true) :
    isBareBlank c = true := by
  simp only [isBareBreak, Bool.and_eq_true] at h
  have notSpace : c ≠ ' ' := by
    rintro rfl
    exact absurd h.1 (by decide)
  simp [isBareBlank, isWrittenBlank, isBlank_of_isLineBreak h.1, h.2, notSpace]

theorem unescape_taken (c : Char) (rest : List Char) :
    unescape ('\\' :: c :: rest) = unescapeChar c :: unescape rest := rfl

theorem unescape_cons {c : Char} (h : c ≠ '\\') (rest : List Char) :
    unescape (c :: rest) = c :: unescape rest := by
  rw [unescape]
  · intro e
    exact absurd e h
  · intro d tail e
    exact absurd e h

theorem splitLine_cons {c : Char} (h : c ≠ '\\') (rest : List Char) :
    splitLine (c :: rest) = if c = '=' || c = ':' then ([], rest)
      else (c :: (splitLine rest).1, (splitLine rest).2) := by
  rw [splitLine]
  · intro e
    exact absurd e h
  · intro d tail e
    exact absurd e h

/-- A character that stands for another one stands for a control character with an escape. -/
theorem unescapeChar_eq_or (d : Char) :
    unescapeChar d = d ∨ isWrittenBlank (unescapeChar d) = false := by
  unfold unescapeChar
  repeat' split
  all_goals first | exact Or.inl rfl | exact Or.inr (by decide)

/-- The ways of writing a character. -/
inductive Spelling (c : Char) : List Char → Prop where
  | taken {d : Char} (stands : unescapeChar d = c) (visible : isBlank d = true → d = ' ')
      (covered : isBareBlank c = false) : Spelling c ['\\', d]
  | bare (plain : controlEscape? c = none) : Spelling c [c]

theorem controlEscape?_some {c : Char} {written : List Char} (h : controlEscape? c = some written) :
    ∃ d, written = ['\\', d] ∧ unescapeChar d = c ∧ isBlank d = false := by
  unfold controlEscape? at h
  repeat' split at h
  all_goals first
    | subst_vars
      exact ⟨_, (Option.some.inj h).symm, by decide, by decide⟩
    | cases h

theorem spelling_of_controlEscape {c : Char} {written : List Char}
    (h : controlEscape? c = some written) : Spelling c written := by
  obtain ⟨d, rfl, stands, visible⟩ := controlEscape?_some h
  exact .taken stands (by simp [visible]) (by simp [isBareBlank, isWrittenBlank, h])

/-- Separators, spaces and comment marks after a backslash stand for themselves. -/
theorem spelling_of_mark {c : Char} (h : isNameMark c = true ∨ isCommentMark c = true) :
    Spelling c ['\\', c] := by
  simp only [isNameMark, isCommentMark, Bool.or_eq_true, decide_eq_true_eq] at h
  rcases h with ((rfl | rfl) | rfl) | rfl | rfl <;>
    exact .taken (by decide) (by decide) (by decide)

theorem spelling_escapeNameChar (first : Bool) (c : Char) :
    Spelling c (escapeNameChar first c) := by
  unfold escapeNameChar
  split
  · next written control => exact spelling_of_controlEscape control
  · next plain =>
    split
    · next mark =>
      simp only [Bool.or_eq_true, Bool.and_eq_true] at mark
      exact spelling_of_mark (mark.imp_right And.right)
    · exact .bare plain

theorem spelling_escapeValueChar (first : Bool) (c : Char) :
    Spelling c (escapeValueChar first c) := by
  unfold escapeValueChar
  split
  · next written control => exact spelling_of_controlEscape control
  · next plain =>
    split
    · next space =>
      simp only [Bool.and_eq_true, decide_eq_true_eq] at space
      exact spelling_of_mark (Or.inl (by simp [isNameMark, space.2]))
    · exact .bare plain

namespace Spelling

variable {c : Char} {written : List Char}

theorem ne_backslash_of_plain (plain : controlEscape? c = none) : c ≠ '\\' := by
  rintro rfl
  exact absurd plain (by decide)

theorem unescape_append (h : Spelling c written) (rest : List Char) :
    unescape (written ++ rest) = c :: unescape rest := by
  cases h with
  | taken stands => rw [List.cons_append, List.singleton_append, unescape_taken, stands]
  | bare plain => rw [List.singleton_append, unescape_cons (ne_backslash_of_plain plain)]

theorem unbroken_iff (h : Spelling c written) : Unbroken written ↔ isBareBreak c = false := by
  cases h with
  | taken stands visible covered =>
    rename_i d
    have mark : isLineBreak d = false := by
      refine Bool.eq_false_iff.2 fun broken => ?_
      have isSpace := visible (isBlank_of_isLineBreak broken)
      exact absurd (isSpace ▸ broken) (by decide)
    have whole : isBareBreak c = false := by
      refine Bool.eq_false_iff.2 fun broken => ?_
      exact absurd (isBareBlank_of_isBareBreak broken) (by simp [covered])
    have backslash : isLineBreak '\\' = false := by decide
    simp [Unbroken, mark, whole, backslash]
  | bare plain => simp [Unbroken, isBareBreak, plain]

end Spelling

/-- A text and its written form, character by character. -/
inductive Spelled : List Char → List Char → Prop where
  | nil : Spelled [] []
  | cons {c : Char} {s written rest : List Char} (first : Spelling c written)
      (later : Spelled s rest) : Spelled (c :: s) (written ++ rest)

theorem spelled_flatMap {spell : Char → List Char} (h : ∀ c, Spelling c (spell c))
    (s : List Char) : Spelled s (s.flatMap spell) := by
  induction s with
  | nil => exact .nil
  | cons c s ih => exact .cons (h c) ih

theorem spelled_escapeName (s : List Char) : Spelled s (escapeName s) := by
  cases s with
  | nil => exact .nil
  | cons c s =>
    exact .cons (spelling_escapeNameChar true c) (spelled_flatMap (spelling_escapeNameChar false) s)

theorem spelled_escapeValue (s : List Char) : Spelled s (escapeValue s) := by
  cases s with
  | nil => exact .nil
  | cons c s =>
    exact .cons (spelling_escapeValueChar true c) (spelled_flatMap (spelling_escapeValueChar false) s)

/-- Reading takes every spelling back to its text. -/
theorem Spelled.unescape_eq {s written : List Char} (h : Spelled s written) :
    unescape written = s := by
  induction h with
  | nil => rfl
  | cons first _ ih => rw [first.unescape_append, ih]

theorem Spelled.unbroken_iff {s written : List Char} (h : Spelled s written) :
    Unbroken written ↔ ∀ c ∈ s, isBareBreak c = false := by
  induction h with
  | nil => simp [Unbroken]
  | cons first _ ih => rw [unbroken_append, first.unbroken_iff, ih, List.forall_mem_cons]

section Names

/-- A name as it is written, `first` if its first character begins the line. -/
def spellName (first : Bool) : List Char → List Char
  | [] => []
  | c :: rest => escapeNameChar first c ++ spellName false rest

theorem spellName_false (s : List Char) : spellName false s = s.flatMap (escapeNameChar false) := by
  induction s with
  | nil => rfl
  | cons c s ih => rw [spellName, ih, List.flatMap_cons]

theorem escapeName_eq_spellName (s : List Char) : escapeName s = spellName true s := by
  cases s with
  | nil => rfl
  | cons c s => rw [spellName, spellName_false, escapeName]

theorem spelled_spellName (first : Bool) (s : List Char) : Spelled s (spellName first s) := by
  induction s generalizing first with
  | nil => exact .nil
  | cons c s ih => exact .cons (spelling_escapeNameChar first c) (ih false)

theorem splitLine_escapeNameChar (first : Bool) (c : Char) (rest : List Char) :
    splitLine (escapeNameChar first c ++ rest) =
      (escapeNameChar first c ++ (splitLine rest).1, (splitLine rest).2) := by
  unfold escapeNameChar
  split
  · next written control =>
    obtain ⟨d, rfl, _⟩ := controlEscape?_some control
    rfl
  · next plain =>
    split
    · rfl
    · next mark =>
      simp only [isNameMark, Bool.or_eq_true, not_or, decide_eq_true_eq] at mark
      rw [List.singleton_append, splitLine_cons (Spelling.ne_backslash_of_plain plain)]
      simp [mark.1.1.1, mark.1.1.2]

/-- No character of a written name ends it but the separator after it. -/
theorem splitLine_spellName (first : Bool) (s rest : List Char) :
    splitLine (spellName first s ++ '=' :: rest) = (spellName first s, rest) := by
  induction s generalizing first with
  | nil => simp [spellName, splitLine]
  | cons c s ih => rw [spellName, List.append_assoc, splitLine_escapeNameChar, ih false]

/-- A written name and a written value, joined by a separator, are parted there, and each of them
is read back, whatever backslashes, separators, comment marks and spaces the two hold. -/
theorem written_parts_read (name value : List Char) :
    unescape (escapeName name) = name ∧ unescape (escapeValue value) = value ∧
      splitLine (escapeName name ++ '=' :: escapeValue value) =
        (escapeName name, escapeValue value) := by
  refine ⟨(spelled_escapeName name).unescape_eq, (spelled_escapeValue value).unescape_eq, ?_⟩
  rw [escapeName_eq_spellName, splitLine_spellName]

theorem toList_template_cons (name : String) (names : List String) :
    (template (name :: names)).toList =
      spellName true name.toList ++ '=' :: '\n' :: (template names).toList := by
  rw [template, template, String.toList_ofList, String.toList_ofList, List.flatMap_cons,
    escapeName_eq_spellName, List.append_assoc]
  rfl

/-- The names of a template can be told from it, each in its place. -/
theorem template_injective : Function.Injective template := by
  intro names others same
  induction names generalizing others with
  | nil =>
    cases others with
    | nil => rfl
    | cons other others =>
      have line := congrArg String.toList same
      rw [toList_template_cons] at line
      simp [template] at line
  | cons name names ih =>
    cases others with
    | nil =>
      have line := congrArg String.toList same
      rw [toList_template_cons] at line
      simp [template] at line
    | cons other others =>
      have line := congrArg (fun text : String => splitLine text.toList) same
      rw [toList_template_cons, toList_template_cons, splitLine_spellName, splitLine_spellName,
        Prod.mk.injEq, List.cons.injEq, String.toList_inj] at line
      obtain ⟨spelled, _, later⟩ := line
      have first := congrArg unescape spelled
      rw [(spelled_spellName true _).unescape_eq, (spelled_spellName true _).unescape_eq,
        String.toList_inj] at first
      rw [first, ih later]

theorem escapeNameChar_of_isBareBlank {c : Char} (h : isBareBlank c = true) (first : Bool) :
    escapeNameChar first c = [c] := by
  have unmarked : (isNameMark c || (first && isCommentMark c)) = false := by
    refine Bool.eq_false_iff.2 fun mark => ?_
    simp only [isNameMark, isCommentMark, Bool.or_eq_true, Bool.and_eq_true,
      decide_eq_true_eq] at mark
    rcases mark with ((rfl | rfl) | rfl) | ⟨_, rfl | rfl⟩ <;> exact absurd h (by decide)
  simp only [isBareBlank, isWrittenBlank, Bool.and_eq_true, Option.isNone_iff_eq_none] at h
  simp [escapeNameChar, h.1.2, unmarked]

/-- The written form of any other character begins with a visible one, and with no comment mark if
it begins the line. -/
theorem escapeNameChar_eq_cons {c : Char} (h : isBareBlank c = false) (first : Bool) :
    ∃ d tail, escapeNameChar first c = d :: tail ∧ isBlank d = false ∧
      (first = true → isCommentMark d = false) := by
  unfold escapeNameChar
  split
  · next written control =>
    obtain ⟨d, rfl, _⟩ := controlEscape?_some control
    exact ⟨'\\', [d], rfl, by decide, fun _ => by decide⟩
  · next plain =>
    split
    · exact ⟨'\\', [c], rfl, by decide, fun _ => by decide⟩
    · next mark =>
      simp only [isNameMark, Bool.or_eq_true, Bool.and_eq_true, not_or, not_and,
        decide_eq_true_eq] at mark
      refine ⟨c, [], rfl, ?_, fun begins => by simpa using mark.2 begins⟩
      simpa [isBareBlank, isWrittenBlank, plain, mark.1.2] using h

theorem dropWhile_spellName (s rest : List Char) :
    (spellName false s ++ '=' :: rest).dropWhile isBlank =
      spellName false (s.dropWhile isBareBlank) ++ '=' :: rest := by
  induction s with
  | nil =>
    have visible : isBlank '=' = false := by decide
    simp [spellName, visible]
  | cons c s ih =>
    by_cases hc : isBareBlank c = true
    · have blank : isBlank c = true := by
        simp only [isBareBlank, isWrittenBlank, Bool.and_eq_true] at hc
        exact hc.1.1
      rw [spellName, escapeNameChar_of_isBareBlank hc, List.dropWhile_cons_of_pos hc]
      simpa [blank] using ih
    · obtain ⟨d, tail, same, visible, _⟩ := escapeNameChar_eq_cons (by simpa using hc) false
      rw [List.dropWhile_cons_of_neg hc, spellName, same]
      simp [visible]

theorem head?_spellName (first : Bool) (s : List Char) :
    (spellName first s).head?.map isBlank = s.head?.map isBareBlank := by
  cases s with
  | nil => rfl
  | cons c s =>
    by_cases hc : isBareBlank c = true
    · have blank : isBlank c = true := by
        simp only [isBareBlank, isWrittenBlank, Bool.and_eq_true] at hc
        exact hc.1.1
      simp [spellName, escapeNameChar_of_isBareBlank hc, blank, hc]
    · obtain ⟨d, tail, same, visible, _⟩ := escapeNameChar_eq_cons (by simpa using hc) first
      simp only [Bool.not_eq_true] at hc
      simp [spellName, same, visible, hc]

theorem getLast?_escapeNameChar (first : Bool) (c : Char) :
    (escapeNameChar first c).getLast?.map isBlank = some (isWrittenBlank c) := by
  unfold escapeNameChar
  split
  · next written control =>
    obtain ⟨d, rfl, _, visible⟩ := controlEscape?_some control
    simp [isWrittenBlank, control, visible]
  · next plain => split <;> simp [isWrittenBlank, plain]

theorem getLast?_spellName (first : Bool) (s : List Char) :
    (spellName first s).getLast?.map isBlank = s.getLast?.map isWrittenBlank := by
  induction s generalizing first with
  | nil => rfl
  | cons c s ih =>
    have later := ih false
    rw [spellName, List.getLast?_append]
    cases s with
    | nil => simpa [spellName] using getLast?_escapeNameChar first c
    | cons d s =>
      rw [List.getLast?_cons_cons, ← later]
      cases last : (spellName false (d :: s)).getLast? with
      | some x => rfl
      | none => simp [last, List.getLast?_cons] at later

end Names

end InputPanel.Properties
