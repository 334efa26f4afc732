import InputPanel.Proofs.OrderedMap
import InputPanel.Proofs.Properties.Spelling

/-!
# What survives writing and reading

An entry is durable if its written form has no break and its written name no
margin. A map is read back as it was exactly if all its entries are durable: no
other entry can make up for one that is damaged. A line separator in a value is
one case that is not durable.
-/

namespace InputPanel.Properties

open Text

/-- The line of an entry, without the line feed that ends it. -/
def writtenLine (entry : String × String) : List Char :=
  escapeName entry.1.toList ++ '=' :: escapeValue entry.2.toList

/-- The entry of a line without its left margin. -/
def entryOf (line : List Char) : String × String :=
  (String.ofList (unescape (trimRight (splitLine line).1)),
    String.ofList (unescape ((splitLine line).2.dropWhile isValueMargin)))

structure Durable (entry : String × String) : Prop where
  unbroken : ∀ c ∈ entry.1.toList ++ entry.2.toList, isBareBreak c = false
  begins : ∀ c, entry.1.toList.head? = some c → isBareBlank c = false
  ends : ∀ c, entry.1.toList.getLast? = some c → isWrittenBlank c = false

theorem parseLine?_eq_some_iff {line : List Char} {entry : String × String} :
    parseLine? line = some entry ↔
      (∃ c rest, trimLeft line = c :: rest ∧ isCommentMark c = false) ∧
        entryOf (trimLeft line) = entry := by
  unfold parseLine?
  cases trimLeft line with
  | nil => simp
  | cons c rest => cases mark : isCommentMark c <;> simp [mark, entryOf]

section Parsing

theorem unbroken_splitLine {line : List Char} (h : Unbroken line) :
    Unbroken (splitLine line).1 ∧ Unbroken (splitLine line).2 := by
  fun_induction splitLine line with
  | case1 => exact ⟨h, h⟩
  | case2 => exact ⟨h, by simp [Unbroken]⟩
  | case3 c rest name value same ih =>
    rw [same] at ih
    simp only [unbroken_cons] at h ⊢
    exact ⟨⟨h.1, h.2.1, (ih h.2.2).1⟩, (ih h.2.2).2⟩
  | case4 c rest _ _ _ => exact ⟨by simp [Unbroken], (unbroken_cons.1 h).2⟩
  | case5 c rest _ _ _ name value same ih =>
    rw [same] at ih
    have later := ih (unbroken_cons.1 h).2
    exact ⟨unbroken_cons.2 ⟨(unbroken_cons.1 h).1, later.1⟩, later.2⟩

theorem isBareBreak_unescapeChar {c : Char} (h : isLineBreak c = false) :
    isBareBreak (unescapeChar c) = false := by
  rcases unescapeChar_eq_or c with same | escaped
  · simp [same, isBareBreak, h]
  · refine Bool.eq_false_iff.2 fun broken => ?_
    have blank := isBareBlank_of_isBareBreak broken
    simp [isBareBlank, escaped] at blank

/-- Reading a line brings in no break but those that have an escape. -/
theorem isBareBreak_of_mem_unescape {s : List Char} (h : Unbroken s) :
    ∀ c ∈ unescape s, isBareBreak c = false := by
  fun_induction unescape s with
  | case1 => simp
  | case2 => simp [isBareBreak, isLineBreak]
  | case3 d rest ih =>
    simp only [unbroken_cons] at h
    exact List.forall_mem_cons.2 ⟨isBareBreak_unescapeChar h.2.1, ih h.2.2⟩
  | case4 c rest _ _ ih =>
    rw [unbroken_cons] at h
    exact List.forall_mem_cons.2 ⟨by simp [isBareBreak, h.1], ih h.2⟩

theorem isBareBreak_of_parseEntries {text : List Char} {entry : String × String}
    (h : entry ∈ parseEntries text) :
    ∀ c ∈ entry.1.toList ++ entry.2.toList, isBareBreak c = false := by
  obtain ⟨line, found, parsed⟩ := List.mem_filterMap.1 h
  have whole := unbroken_of_mem_lines found
  have kept : Unbroken (trimLeft line) := fun c hc =>
    whole c ((List.dropWhile_sublist isBlank).subset hc)
  obtain ⟨name, value⟩ := unbroken_splitLine kept
  obtain ⟨_, rfl⟩ := parseLine?_eq_some_iff.1 parsed
  intro c hc
  simp only [entryOf, String.toList_ofList, List.mem_append] at hc
  rcases hc with hc | hc
  · refine isBareBreak_of_mem_unescape (fun d hd => ?_) c hc
    exact name d ((prefix_dropRightWhile isBlank _).subset hd)
  · refine isBareBreak_of_mem_unescape (fun d hd => ?_) c hc
    exact value d ((List.dropWhile_sublist isValueMargin).subset hd)

theorem unescape_eq_nil_iff {s : List Char} : unescape s = [] ↔ s = [] := by
  fun_cases unescape s <;> simp_all

/-- What is read from a name without a right margin ends in no blank but those that have an
escape. -/
theorem isWrittenBlank_of_getLast?_unescape {s : List Char}
    (h : ∀ x, s.getLast? = some x → isBlank x = false) :
    ∀ c, (unescape s).getLast? = some c → isWrittenBlank c = false := by
  fun_induction unescape s with
  | case1 => simp
  | case2 =>
    intro c last
    simp only [List.getLast?_singleton, Option.some.injEq] at last
    exact last ▸ by decide
  | case3 d rest ih =>
    cases rest with
    | nil =>
      have visible := h d (by simp)
      intro c last
      simp only [unescape, List.getLast?_singleton, Option.some.injEq] at last
      subst last
      rcases unescapeChar_eq_or d with same | escaped
      · simp [same, isWrittenBlank, visible]
      · exact escaped
    | cons e rest =>
      intro c last
      have more : unescape (e :: rest) ≠ [] := by simp [unescape_eq_nil_iff]
      rw [List.getLast?_cons_of_ne_nil more] at last
      exact ih (by simpa using h) c last
  | case4 d rest _ _ ih =>
    cases rest with
    | nil =>
      have visible := h d (by simp)
      intro c last
      simp only [unescape, List.getLast?_singleton, Option.some.injEq] at last
      simp [← last, isWrittenBlank, visible]
    | cons e rest =>
      intro c last
      have more : unescape (e :: rest) ≠ [] := by simp [unescape_eq_nil_iff]
      rw [List.getLast?_cons_of_ne_nil more] at last
      exact ih (by simpa using h) c last

end Parsing

section Entries

variable {entry : String × String}

theorem dropWhile_isValueMargin_escapeValue (s : List Char) :
    (escapeValue s).dropWhile isValueMargin = escapeValue s := by
  apply dropWhile_eq_self_iff.2
  intro x begins
  cases s with
  | nil => simp [escapeValue] at begins
  | cons c s =>
    rw [escapeValue, escapeValueChar] at begins
    split at begins
    · next written control =>
      obtain ⟨d, rfl, _⟩ := controlEscape?_some control
      simp only [List.cons_append, List.head?_cons, Option.some.injEq] at begins
      exact begins ▸ by decide
    · next plain =>
      split at begins
      · simp only [List.cons_append, List.head?_cons, Option.some.injEq] at begins
        exact begins ▸ by decide
      · next notSpace =>
        simp only [List.singleton_append, List.head?_cons, Option.some.injEq] at begins
        subst begins
        have notTab : c ≠ '\t' := by
          rintro rfl
          exact absurd plain (by decide)
        have notFeed : c ≠ '\x0c' := by
          rintro rfl
          exact absurd plain (by decide)
        simpa [isValueMargin, notTab, notFeed] using notSpace

theorem trimRight_spellName {first : Bool} {s : List Char}
    (ends : ∀ c, s.getLast? = some c → isWrittenBlank c = false) :
    trimRight (spellName first s) = spellName first s := by
  apply dropRightWhile_eq_self_iff.2
  intro x last
  have same := getLast?_spellName first s
  rw [last] at same
  cases h : s.getLast? with
  | none => simp [h] at same
  | some c =>
    rw [h, Option.map_some, Option.map_some, Option.some.injEq] at same
    rw [same]
    exact ends c h

/-- A spelled name, the separator and a written value are read back apart. -/
theorem entryOf_spellName {first : Bool} {name value : List Char}
    (ends : ∀ c, name.getLast? = some c → isWrittenBlank c = false) :
    entryOf (spellName first name ++ '=' :: escapeValue value) =
      (String.ofList name, String.ofList value) := by
  rw [entryOf, splitLine_spellName, trimRight_spellName ends,
    dropWhile_isValueMargin_escapeValue, (spelled_spellName first name).unescape_eq,
    (spelled_escapeValue value).unescape_eq]

theorem writtenLine_eq (entry : String × String) :
    writtenLine entry = spellName true entry.1.toList ++ '=' :: escapeValue entry.2.toList := by
  rw [writtenLine, escapeName_eq_spellName]

theorem trimLeft_writtenLine (begins : ∀ c, entry.1.toList.head? = some c → isBareBlank c = false) :
    ∃ c rest, trimLeft (writtenLine entry) = c :: rest ∧ isCommentMark c = false ∧
      trimLeft (writtenLine entry) = writtenLine entry := by
  rw [writtenLine_eq, trimLeft]
  cases whole : entry.1.toList with
  | nil => exact ⟨'=', _, rfl, by decide, rfl⟩
  | cons c name =>
    rw [whole] at begins
    obtain ⟨d, tail, same, visible, unmarked⟩ := escapeNameChar_eq_cons (begins c rfl) true
    simp [spellName, same, visible, unmarked]

theorem parseLine?_writtenLine (begins : ∀ c, entry.1.toList.head? = some c → isBareBlank c = false)
    (ends : ∀ c, entry.1.toList.getLast? = some c → isWrittenBlank c = false) :
    parseLine? (writtenLine entry) = some entry := by
  obtain ⟨c, rest, line, unmarked, same⟩ := trimLeft_writtenLine begins
  refine parseLine?_eq_some_iff.2 ⟨⟨c, rest, line, unmarked⟩, ?_⟩
  rw [same, writtenLine_eq, entryOf_spellName ends]
  simp

/-- A name that ends in a blank is not read back by whatever line. -/
theorem ends_of_parseLine? {line : List Char} (h : parseLine? line = some entry) :
    ∀ c, entry.1.toList.getLast? = some c → isWrittenBlank c = false := by
  obtain ⟨_, rfl⟩ := parseLine?_eq_some_iff.1 h
  simp only [entryOf, String.toList_ofList]
  exact isWrittenBlank_of_getLast?_unescape fun x last => getLast?_dropRightWhile last

/-- A name that begins with a bare blank is read back without it from its own line. -/
theorem begins_of_parseLine? (h : parseLine? (writtenLine entry) = some entry) :
    ∀ c, entry.1.toList.head? = some c → isBareBlank c = false := by
  have ends := ends_of_parseLine? h
  intro c begins
  refine Bool.eq_false_iff.2 fun blank => ?_
  obtain ⟨_, read⟩ := parseLine?_eq_some_iff.1 h
  obtain ⟨name, same⟩ : ∃ name, entry.1.toList = c :: name := by
    cases whole : entry.1.toList with
    | nil => simp [whole] at begins
    | cons d name =>
      simp only [whole, List.head?_cons, Option.some.injEq] at begins
      exact ⟨name, begins ▸ rfl⟩
  have isBlank_c : isBlank c = true := by
    simp only [isBareBlank, isWrittenBlank, Bool.and_eq_true] at blank
    exact blank.1.1
  have line : trimLeft (writtenLine entry) =
      spellName false (name.dropWhile isBareBlank) ++ '=' :: escapeValue entry.2.toList := by
    rw [writtenLine_eq, same, spellName, escapeNameChar_of_isBareBlank blank, trimLeft]
    simpa [isBlank_c] using dropWhile_spellName name (escapeValue entry.2.toList)
  have later : ∀ x, (name.dropWhile isBareBlank).getLast? = some x → isWrittenBlank x = false := by
    intro x last
    apply ends x
    rw [same, ← getLast?_dropWhile (p := isBareBlank) (s := c :: name)]
    simpa [blank] using last
  -- The name that is read back is the name without its bare blanks, and so shorter.
  rw [line, entryOf_spellName later] at read
  have short : name.dropWhile isBareBlank = c :: name := by
    rw [← same, ← congrArg Prod.fst read, String.toList_ofList]
  have bound := (List.dropWhile_sublist isBareBlank (l := name)).length_le
  rw [short, List.length_cons] at bound
  omega

theorem unbroken_writtenLine_iff :
    Unbroken (writtenLine entry) ↔
      ∀ c ∈ entry.1.toList ++ entry.2.toList, isBareBreak c = false := by
  have mark : isLineBreak '=' = false := by decide
  rw [writtenLine, unbroken_append, unbroken_cons, (spelled_escapeName _).unbroken_iff,
    (spelled_escapeValue _).unbroken_iff, List.forall_mem_append]
  simp [mark]

end Entries

section Maps

theorem filterMap_eq_self_iff {α : Type} {f : α → Option α} {l : List α} :
    l.filterMap f = l ↔ ∀ x ∈ l, f x = some x := by
  induction l with
  | nil => simp
  | cons a rest ih =>
    rw [List.forall_mem_cons, ← ih]
    cases made : f a with
    | none =>
      have short := List.length_filterMap_le f rest
      rw [List.filterMap_cons_none made]
      constructor
      · intro same
        rw [same, List.length_cons] at short
        omega
      · intro impossible
        cases impossible.1
    | some b => rw [List.filterMap_cons_some made, List.cons.injEq, Option.some.injEq]

theorem parse_write (values : OrderedMap String) :
    parse (write values) = .ofList (parseEntries (values.toList.flatMap writeEntry)) := by
  rw [parse, write, String.toList_ofList]

theorem parseEntries_of_unbroken {entries : List (String × String)}
    (h : ∀ entry ∈ entries, Unbroken (writtenLine entry)) :
    parseEntries (entries.flatMap writeEntry) =
      entries.filterMap fun entry => parseLine? (writtenLine entry) := by
  have separate : lines (entries.flatMap writeEntry) = entries.map writtenLine := by
    have flat := lines_flatMap_newline (List.forall_mem_map.2 h)
    rwa [List.flatMap_map] at flat
  rw [parseEntries, separate, List.filterMap_map]
  rfl

/-- A map comes back as it was if every entry is durable, and only then. -/
theorem parse_write_iff_durable (values : OrderedMap String) :
    parse (write values) = values ↔ ∀ entry ∈ values.toList, Durable entry := by
  rw [parse_write]
  constructor
  · intro same
    -- Nothing read has a bare break, so no entry has one and each is a line of its own.
    have unbroken : ∀ entry ∈ values.toList,
        ∀ c ∈ entry.1.toList ++ entry.2.toList, isBareBreak c = false := by
      intro entry present
      rw [← same] at present
      exact isBareBreak_of_parseEntries (OrderedMap.mem_ofList present)
    rw [parseEntries_of_unbroken fun entry present =>
      unbroken_writtenLine_iff.2 (unbroken entry present)] at same
    -- At most one entry is read from each line, so as many as there are leave no line to spare.
    have list := OrderedMap.eq_toList_of_ofList_eq same (List.length_filterMap_le _ _)
    have own := filterMap_eq_self_iff.1 list
    intro entry present
    exact ⟨unbroken entry present, begins_of_parseLine? (own entry present),
      ends_of_parseLine? (own entry present)⟩
  · intro durable
    rw [parseEntries_of_unbroken fun entry present =>
      unbroken_writtenLine_iff.2 (durable entry present).unbroken]
    rw [filterMap_eq_self_iff.2 fun entry present =>
      parseLine?_writtenLine (durable entry present).begins (durable entry present).ends]
    exact OrderedMap.ofList_toList values

theorem trim_escapeName_iff (name : List Char) :
    trim (escapeName name) = escapeName name ↔
      (∀ c, name.head? = some c → isBareBlank c = false) ∧
        ∀ c, name.getLast? = some c → isWrittenBlank c = false := by
  have same {first last : Option Char} {p q : Char → Bool} (h : first.map p = last.map q) :
      (∀ c, first = some c → p c = false) ↔ ∀ c, last = some c → q c = false := by
    cases first <;> cases last <;> simp_all
  rw [trim_eq_self_iff, escapeName_eq_spellName, same (head?_spellName true name),
    same (getLast?_spellName true name)]

theorem durable_iff {entry : String × String} :
    Durable entry ↔ lines (writeEntry entry) = [writtenLine entry] ∧
      trim (escapeName entry.1.toList) = escapeName entry.1.toList := by
  have line : lines (writeEntry entry) = [writtenLine entry] ↔ Unbroken (writtenLine entry) :=
    lines_eq_singleton_iff
  rw [line, unbroken_writtenLine_iff, trim_escapeName_iff]
  constructor
  · intro h
    exact ⟨h.unbroken, h.begins, h.ends⟩
  · rintro ⟨unbroken, begins, ends⟩
    exact ⟨unbroken, begins, ends⟩

/-- Reading restores what was written if each entry makes one line, and its written name has no
white space at either end; if some entry does not, something is lost, split or merged. -/
theorem parse_write_iff_written_whole (values : OrderedMap String) :
    parse (write values) = values ↔ ∀ entry ∈ values.toList,
      lines (writeEntry entry) = [writtenLine entry] ∧
        trim (escapeName entry.1.toList) = escapeName entry.1.toList := by
  rw [parse_write_iff_durable]
  exact forall₂_congr fun _ _ => durable_iff

/-- A line separator in a value splits the entry. -/
theorem parse_write_line_separator :
    (parse (write (.ofList [("a", "x\u2028y")]))).toList = [("a", "x"), ("y", "")] ∧
      ¬ ∀ values : OrderedMap String, parse (write values) = values := by
  have split : (parse (write (.ofList [("a", "x\u2028y")]))).toList = [("a", "x"), ("y", "")] := by
    decide +kernel
  refine ⟨split, fun restored => ?_⟩
  rw [restored] at split
  exact absurd split (by decide +kernel)

end Maps

section Characters

theorem controlEscape?_isNone_iff {c : Char} :
    (controlEscape? c).isNone = true ↔
      c ≠ '\\' ∧ c ≠ '\n' ∧ c ≠ '\r' ∧ c ≠ '\t' ∧ c ≠ '\x0c' := by
  unfold controlEscape?
  repeat' split
  all_goals simp_all

theorem isWrittenBlank_eq_false_iff {c : Char} :
    isWrittenBlank c = false ↔
      (isBlank c = true → c = '\t' ∨ c = '\n' ∨ c = '\r' ∨ c = '\x0c') := by
  have backslash : isBlank c = true → c ≠ '\\' := by
    rintro blank rfl
    exact absurd blank (by decide)
  rw [Bool.eq_false_iff, isWrittenBlank, ne_eq, Bool.and_eq_true, controlEscape?_isNone_iff]
  grind

theorem isBareBlank_eq_false_iff {c : Char} :
    isBareBlank c = false ↔
      (isBlank c = true → c = ' ' ∨ c = '\t' ∨ c = '\n' ∨ c = '\r' ∨ c = '\x0c') := by
  have split : isBareBlank c = false ↔ isWrittenBlank c = false ∨ c = ' ' := by
    cases written : isWrittenBlank c <;> simp [isBareBlank, written]
  rw [split, isWrittenBlank_eq_false_iff]
  grind

/-- The breaks that have no escape. -/
theorem isBareBreak_iff {c : Char} :
    isBareBreak c = true ↔
      c ∈ ['\x0b', '\x1c', '\x1d', '\x1e', '\u0085', '\u2028', '\u2029'] := by
  have code (d : Char) : c = d ↔ c.toNat = d.toNat := Char.toNat_inj.symm
  rw [isBareBreak, Bool.and_eq_true, controlEscape?_isNone_iff]
  simp only [isLineBreak, List.mem_cons, List.not_mem_nil, or_false, ne_eq, code,
    Char.reduceToNat, Bool.or_eq_true, Bool.and_eq_true, decide_eq_true_eq, beq_iff_eq]
  omega

/-- Reading restores what was written if and only if no name and no value holds a break without an
escape, no name begins with white space other than a space or what has an escape, and no name ends
with white space other than what has an escape. -/
theorem parse_write_iff_characters (values : OrderedMap String) :
    parse (write values) = values ↔
      (∀ entry ∈ values.toList, ∀ c ∈ entry.1.toList ++ entry.2.toList,
        c ∉ ['\x0b', '\x1c', '\x1d', '\x1e', '\u0085', '\u2028', '\u2029']) ∧
      (∀ name ∈ values.keys, ∀ c, name.toList.head? = some c → isBlank c = true →
        c = ' ' ∨ c = '\t' ∨ c = '\n' ∨ c = '\r' ∨ c = '\x0c') ∧
      (∀ name ∈ values.keys, ∀ c, name.toList.getLast? = some c → isBlank c = true →
        c = '\t' ∨ c = '\n' ∨ c = '\r' ∨ c = '\x0c') := by
  have names (P : String → Prop) :
      (∀ name ∈ values.keys, P name) ↔ ∀ entry ∈ values.toList, P entry.1 := by
    simp only [OrderedMap.keys, OrderedMap.toList, List.forall_mem_map]
  rw [parse_write_iff_durable, names, names]
  simp only [← isBareBreak_iff, ← isBareBlank_eq_false_iff, ← isWrittenBlank_eq_false_iff,
    Bool.not_eq_true]
  constructor
  · intro durable
    exact ⟨fun entry present => (durable entry present).unbroken,
      fun entry present => (durable entry present).begins,
      fun entry present => (durable entry present).ends⟩
  · rintro ⟨unbroken, begins, ends⟩ entry present
    exact ⟨unbroken entry present, begins entry present, ends entry present⟩

end Characters

end InputPanel.Properties
