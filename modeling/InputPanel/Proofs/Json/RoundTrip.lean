import InputPanel.Json.Printer
import InputPanel.Json.Reader
import Mathlib.Algebra.Group.Nat.Defs
import Mathlib.Data.List.Basic
import Mathlib.Data.Nat.Basic

/-!
# Reading back what was printed

Texts, truth values and nulls, lists of them and mappings of distinct texts to
them are read as they were printed. A character outside the basic plane is
escaped as two halves, which the reader puts together again.
-/

namespace InputPanel

namespace Text

theorem hexValue?_hexDigit {n : Nat} (h : n < 16) : hexValue? (hexDigit n) = some n := by
  have each : ∀ n < 16, hexValue? (hexDigit n) = some n := by decide
  exact each n h

theorem hexNumber?_append_singleton (digits : List Char) (c : Char) :
    hexNumber? (digits ++ [c]) =
      (hexNumber? digits).bind fun n => (hexValue? c).map (n * 16 + ·) := by
  simp [hexNumber?, List.foldl_append]

theorem hexNumber?_hexDigits (width n : Nat) :
    hexNumber? (hexDigits width n) = some (n % 16 ^ width) := by
  induction width generalizing n with
  | zero => simp [hexDigits, hexNumber?, Nat.mod_one]
  | succ width ih =>
    have last : n % 16 < 16 := Nat.mod_lt n (by decide)
    rw [hexDigits, hexNumber?_append_singleton, ih, hexValue?_hexDigit last]
    simp only [Option.bind_some, Option.map_some, Option.some.injEq]
    rw [Nat.pow_succ', Nat.mod_mul, Nat.mul_comm, Nat.add_comm]

theorem toNat_hexDigit {n : Nat} (h : n < 16) : 0x20 ≤ (hexDigit n).toNat := by
  have each : ∀ n < 16, 0x20 ≤ (hexDigit n).toNat := by decide
  exact each n h

theorem toNat_of_mem_hexDigits {width n : Nat} {c : Char} (h : c ∈ hexDigits width n) :
    0x20 ≤ c.toNat := by
  induction width generalizing n with
  | zero => cases h
  | succ width ih =>
    rw [hexDigits, List.mem_append, List.mem_singleton] at h
    rcases h with inside | rfl
    · exact ih inside
    · exact toNat_hexDigit (Nat.mod_lt n (by decide))

end Text

namespace Data

/-- An entry under a text. -/
def named (entry : String × Data) : Data × Data := (.text entry.1, entry.2)

/-- Nulls, truth values and texts, lists of them, and mappings of distinct texts to them, in one
another as deep as there is room for. -/
inductive Plain : Nat → Data → Prop
  | null {room : Nat} : Plain room .null
  | bool {room : Nat} (b : Bool) : Plain room (.bool b)
  | text {room : Nat} (s : String) : Plain room (.text s)
  | list {room : Nat} {items : List Data} (each : ∀ item ∈ items, Plain room item) :
      Plain (room + 1) (.list items)
  | map {room : Nat} {entries : List (String × Data)} (distinct : (entries.map Prod.fst).Nodup)
      (each : ∀ entry ∈ entries, Plain room entry.2) :
      Plain (room + 1) (.map (entries.map named))

theorem Plain.mono {room more : Nat} {data : Data} (plain : data.Plain room) (le : room ≤ more) :
    data.Plain more := by
  induction plain generalizing more with
  | null => exact .null
  | bool b => exact .bool b
  | text s => exact .text s
  | list each ih =>
    obtain ⟨more, rfl⟩ := Nat.exists_eq_add_of_le' (Nat.le_of_add_left_le le)
    exact .list fun item inside => ih item inside (Nat.le_of_add_le_add_right le)
  | map distinct each ih =>
    obtain ⟨more, rfl⟩ := Nat.exists_eq_add_of_le' (Nat.le_of_add_left_le le)
    exact .map distinct fun entry inside => ih entry inside (Nat.le_of_add_le_add_right le)

theorem setEntry_named {key : String} (value : Data) {entries : List (String × Data)}
    (new : key ∉ entries.map Prod.fst) :
    setEntry (.text key) value (entries.map named) = (entries ++ [(key, value)]).map named := by
  induction entries with
  | nil => rfl
  | cons entry entries ih =>
    simp only [List.map_cons, List.mem_cons, not_or] at new
    have other : sameKey (.text entry.1) (.text key) = false := by
      simpa [sameKey] using fun same => new.1 same.symm
    simp only [List.map_cons, List.cons_append]
    rw [named, setEntry, other, ih new.2]
    rfl

theorem mapOf_named {entries : List (String × Data)} (distinct : (entries.map Prod.fst).Nodup) :
    mapOf (entries.map named) = .map (entries.map named) := by
  have steps : ∀ (entries done : List (String × Data)), ((done ++ entries).map Prod.fst).Nodup →
      (entries.map named).foldl (fun acc entry => setEntry entry.1 entry.2 acc) (done.map named) =
        (done ++ entries).map named := by
    intro entries
    induction entries with
    | nil => simp
    | cons entry entries ih =>
      intro done distinct
      have new : entry.1 ∉ done.map Prod.fst := by
        intro old
        simp only [List.map_append, List.map_cons] at distinct
        exact (List.nodup_append.1 distinct).2.2 _ old _ (by simp) rfl
      rw [List.map_cons, List.foldl_cons]
      show List.foldl _ (setEntry (.text entry.1) entry.2 (done.map named)) _ = _
      rw [setEntry_named _ new, ih _ (by simpa using distinct)]
      simp
  have whole := steps entries [] (by simpa using distinct)
  rw [mapOf]
  exact congrArg _ whole

end Data

namespace Json

/-- The code units under which a character is escaped: one, or the halves of a surrogate pair. -/
def unitsOf (c : Char) : List Nat :=
  if c.toNat < 0x10000 then [c.toNat]
  else [0xd800 + (c.toNat - 0x10000) / 0x400, 0xdc00 + (c.toNat - 0x10000) % 0x400]

theorem codes_unitEscape {n : Nat} (h : n < 0x10000) (rest : List Char) :
    codes (unitEscape n ++ rest) = (codes rest).map fun read => (n :: read.1, read.2) := by
  have number := Text.hexNumber?_hexDigits 4 n
  rw [Nat.mod_eq_of_lt (show n < 16 ^ 4 from h)] at number
  simp only [Text.hexDigits, List.nil_append, List.cons_append] at number
  simp only [unitEscape, Text.hexDigits, List.nil_append, List.cons_append, codes, number]
  cases codes rest <;> rfl

theorem codes_cons_of_plain {c : Char} (printable : 0x20 ≤ c.toNat) (quote : c ≠ '"')
    (backslash : c ≠ '\\') (rest : List Char) :
    codes (c :: rest) = (codes rest).map fun read => (c.toNat :: read.1, read.2) := by
  have plain : ¬ (c.toNat < 0x20 ∨ c = '\\') := by
    rintro (small | same)
    · omega
    · exact backslash same
  rw [codes.eq_def]
  split
  · next impossible => cases impossible
  · next same => exact absurd (List.cons.inj same).1 quote
  · next same => exact absurd (List.cons.inj same).1 backslash
  · next same => exact absurd (List.cons.inj same).1 backslash
  · next same =>
    cases same
    rw [if_neg plain]
    cases codes rest <;> rfl

theorem codes_escape {c read : Char} (h : unescape? c = some read) (rest : List Char) :
    codes ('\\' :: c :: rest) = (codes rest).map fun more => (read.toNat :: more.1, more.2) := by
  have special : c ≠ 'u' := by
    rintro rfl
    simp [unescape?] at h
  rw [codes]
  · rw [h]
    cases codes rest <;> rfl
  · intro _ _ _ _ _ is
    exact absurd is special

theorem toNat_cases (c : Char) : c.toNat < 0xd800 ∨ 0xdfff < c.toNat ∧ c.toNat < 0x110000 :=
  c.valid

/-- A printed character is read as the units that it is made of. -/
theorem codes_escaped (c : Char) (rest : List Char) :
    codes (escaped c ++ rest) = (codes rest).map fun read => (unitsOf c ++ read.1, read.2) := by
  unfold escaped
  split
  case isTrue mark =>
    have low : unitsOf c = [c.toNat] := by obtain rfl | rfl := mark <;> rfl
    have stands : unescape? c = some c := by obtain rfl | rfl := mark <;> rfl
    rw [low]
    exact codes_escape stands rest
  case isFalse mark =>
  split_ifs with h1 h2 h3 h4 h5 h6 h7
  · subst h1; exact codes_escape rfl rest
  · subst h2; exact codes_escape rfl rest
  · subst h3; exact codes_escape rfl rest
  · subst h4; exact codes_escape rfl rest
  · subst h5; exact codes_escape rfl rest
  · have low : unitsOf c = [c.toNat] := by rw [unitsOf, if_pos (by omega)]
    rw [low]
    exact codes_cons_of_plain h6.1 (fun e => mark (.inl e)) (fun e => mark (.inr e)) rest
  · rw [unitsOf, if_pos h7]
    exact codes_unitEscape h7 rest
  · have valid := toNat_cases c
    rw [unitsOf, if_neg h7, List.append_assoc, codes_unitEscape (by omega),
      codes_unitEscape (by omega)]
    cases codes rest <;> rfl

/-- A printed string is read as the units of its characters. -/
theorem codes_flatMap_escaped (s rest : List Char) :
    codes (s.flatMap escaped ++ '"' :: rest) = .ok (s.flatMap unitsOf, rest) := by
  induction s with
  | nil => rfl
  | cons c s ih =>
    rw [List.flatMap_cons, List.append_assoc, codes_escaped, ih]
    rfl

theorem joined_cons {code : Nat} (h : isHighHalf code = false) (rest : List Nat) :
    joined (code :: rest) = joined.single code :: joined rest := by
  cases rest with
  | nil => rfl
  | cons low rest => simp [joined, h]

theorem joined_unitsOf (c : Char) (rest : List Nat) :
    joined (unitsOf c ++ rest) = c :: joined rest := by
  have valid := toNat_cases c
  unfold unitsOf
  split
  case isTrue small =>
    have notHigh : isHighHalf c.toNat = false := by simp [isHighHalf]; omega
    have notLow : isLowHalf c.toNat = false := by simp [isLowHalf]; omega
    rw [List.singleton_append, joined_cons notHigh]
    simp [joined.single, notHigh, notLow]
  case isFalse large =>
    have high : isHighHalf (0xd800 + (c.toNat - 0x10000) / 0x400) = true := by
      simp [isHighHalf]; omega
    have low : isLowHalf (0xdc00 + (c.toNat - 0x10000) % 0x400) = true := by
      simp [isLowHalf]; omega
    have whole : 0x10000 + (0xd800 + (c.toNat - 0x10000) / 0x400 - 0xd800) * 0x400 +
        (0xdc00 + (c.toNat - 0x10000) % 0x400 - 0xdc00) = c.toNat := by omega
    simp only [List.cons_append, List.nil_append, joined, high, low, whole, Char.ofNat_toNat]
    rfl

theorem joined_flatMap_unitsOf (s : List Char) : joined (s.flatMap unitsOf) = s := by
  induction s with
  | nil => rfl
  | cons c s ih => rw [List.flatMap_cons, joined_unitsOf, ih]

/-- A text that was printed as a string is read back. -/
theorem string_escaped (s : String) (rest : List Char) :
    string (s.toList.flatMap escaped ++ '"' :: rest) = .ok (s, rest) := by
  simp only [string, codes_flatMap_escaped]
  simp [bind, Except.bind, pure, Except.pure, joined_flatMap_unitsOf]

/-- The parts after the first between brackets, each after a comma on a line of its own. -/
def rows (level : Nat) (parts : List String) : List Char :=
  parts.flatMap fun part => ',' :: (newLine level).toList ++ part.toList

theorem toList_newLine (level : Nat) :
    (newLine level).toList = '\n' :: List.replicate (2 * level) ' ' := by
  have blanks : ∀ n, ("".pushn ' ' n).toList = List.replicate n ' ' := by
    intro n
    induction n with
    | zero => rfl
    | succ n ih =>
      rw [String.pushn, Nat.repeat, String.toList_push, ← String.pushn, ih,
        ← List.replicate_succ']
  rw [newLine, String.toList_append, blanks]
  rfl

theorem skip_newLine (level : Nat) (rest : List Char) :
    skip ((newLine level).toList ++ rest) = skip rest := by
  rw [toList_newLine, skip, skip, List.cons_append, List.dropWhile_cons_of_pos (by rfl),
    List.dropWhile_append_of_pos]
  intro c blank
  rw [List.eq_of_mem_replicate blank]
  rfl

theorem skip_cons {c : Char} (h : isSpace c = false) (rest : List Char) :
    skip (c :: rest) = c :: rest := by
  simp [skip, h]

theorem intercalate_rows (level : Nat) (part : String) (parts : List String) :
    (("," ++ newLine level).intercalate (part :: parts)).toList =
      part.toList ++ rows level parts := by
  induction parts generalizing part with
  | nil => simp [rows]
  | cons next parts ih =>
    rw [String.intercalate_cons_cons, String.toList_append, ih, String.toList_append]
    simp [rows]

theorem toList_enclosed_cons (level : Nat) (opening closing part : String) (parts : List String) :
    (enclosed level opening closing (part :: parts)).toList =
      opening.toList ++ ((newLine (level + 1)).toList ++ (part.toList ++ (rows (level + 1) parts ++
        ((newLine level).toList ++ closing.toList)))) := by
  rw [enclosed, if_neg (by simp)]
  simp only [String.toList_append, intercalate_rows, List.append_assoc]

/-- What a value begins with. -/
def begins (c : Char) : Bool := "ntf\"[\x7b".toList.contains c

theorem exists_begins {room : Nat} {data : Data} (plain : data.Plain room) (level : Nat) :
    ∃ c rest, (writeAt level data).toList = c :: rest ∧ begins c = true := by
  have enclosing : ∀ (opening : String) (closing : String) (c : Char) (parts : List String),
      opening.toList = [c] →
      ∃ rest, (enclosed level opening closing parts).toList = c :: rest := by
    intro opening closing c parts single
    unfold enclosed
    split <;> simp [single]
  cases plain with
  | null => exact ⟨'n', "ull".toList, by rw [writeAt]; rfl, rfl⟩
  | bool b =>
    cases b with
    | false => exact ⟨'f', "alse".toList, by rw [writeAt]; rfl, rfl⟩
    | true => exact ⟨'t', "rue".toList, by rw [writeAt]; rfl, rfl⟩
  | text s => exact ⟨'"', s.toList.flatMap escaped ++ ['"'], by simp [writeAt, quoted], rfl⟩
  | list each =>
    obtain ⟨rest, h⟩ := enclosing "[" "]" '[' (itemTexts (level + 1) _) rfl
    exact ⟨'[', rest, by rw [writeAt, h], rfl⟩
  | map distinct each =>
    obtain ⟨rest, h⟩ := enclosing "\x7b" "\x7d" '\x7b' (entryTexts (level + 1) _) rfl
    exact ⟨'\x7b', rest, by rw [writeAt, h], rfl⟩

theorem isSpace_of_begins {c : Char} (h : begins c = true) : isSpace c = false := by
  simp [begins] at h
  rcases h with rfl | rfl | rfl | rfl | rfl | rfl <;> rfl

/-- Whether a value is read where there is room from what it was printed as, whatever follows, with
more fuel than the text has characters. -/
def ReadsBack (room : Nat) (data : Data) : Prop :=
  ∀ level fuel rest, (writeAt level data).toList.length < fuel →
    value fuel room ((writeAt level data).toList ++ rest) = .ok (data, rest)

variable {room : Nat}

theorem skip_written {data : Data} (plain : data.Plain room) (level : Nat) (rest : List Char) :
    skip ((writeAt level data).toList ++ rest) = (writeAt level data).toList ++ rest := by
  obtain ⟨c, more, h, first⟩ := exists_begins plain level
  rw [h]
  exact skip_cons (isSpace_of_begins first) _

theorem items_rows (level outer fuel : Nat) (first : Data) {others : List Data}
    (each : ∀ item ∈ first :: others, item.Plain room ∧ ReadsBack room item)
    (enough : ((writeAt level first).toList ++
      rows level (itemTexts level others)).length + 1 < fuel)
    (rest : List Char) :
    items fuel room ((writeAt level first).toList ++ (rows level (itemTexts level others) ++
      ((newLine outer).toList ++ ']' :: rest))) = .ok (first :: others, rest) := by
  induction others generalizing first fuel with
  | nil =>
    obtain ⟨fuel, rfl⟩ : ∃ n, fuel = n + 1 := ⟨fuel - 1, by omega⟩
    simp only [itemTexts, rows, List.flatMap_nil, List.append_nil, List.nil_append] at enough ⊢
    rw [items, (each first (by simp)).2 level fuel _ (by omega)]
    simp only [bind, Except.bind]
    rw [skip_newLine, skip_cons rfl]
    rfl
  | cons next others ih =>
    obtain ⟨fuel, rfl⟩ : ∃ n, fuel = n + 1 := ⟨fuel - 1, by omega⟩
    have split : rows level (itemTexts level (next :: others)) =
        ',' :: ((newLine level).toList ++ ((writeAt level next).toList ++
          rows level (itemTexts level others))) := by simp [itemTexts, rows]
    rw [split] at enough ⊢
    simp only [List.length_append, List.length_cons] at enough
    have later := ih fuel next (fun item inside => each item (List.mem_cons_of_mem _ inside))
      (by simp only [List.length_append]; omega)
    rw [items, (each first (by simp)).2 level fuel _ (by omega)]
    simp only [bind, Except.bind, List.cons_append, List.append_assoc]
    rw [skip_cons rfl]
    simp only [skip_newLine, skip_written (each next (by simp)).1, later]
    rfl

theorem toList_quoted (s : String) :
    (quoted s).toList = '"' :: (s.toList.flatMap escaped ++ ['"']) := by
  simp [quoted]

theorem skip_quoted (s : String) (rest : List Char) :
    skip ((quoted s).toList ++ rest) = (quoted s).toList ++ rest := by
  rw [toList_quoted]
  exact skip_cons rfl _

/-- A printed key is read, and what follows it is its value. -/
theorem entries_key (key : String) {fuel : Nat} {data : Data} (plain : data.Plain room)
    {level : Nat} {rest after : List Char}
    (value : value fuel room ((writeAt level data).toList ++ rest) = .ok (data, after)) :
    entries (fuel + 1) room
        ((quoted key).toList ++ (": ".toList ++ ((writeAt level data).toList ++ rest))) =
      match skip after with
        | '\x7d' :: rest => .ok ([(.text key, data)], rest)
        | ',' :: rest => (entries fuel room (skip rest)).map fun read =>
          ((.text key, data) :: read.1, read.2)
        | _ => malformed := by
  have blank : skip (' ' :: ((writeAt level data).toList ++ rest)) =
      (writeAt level data).toList ++ rest := skip_written plain level rest
  simp only [toList_quoted, List.cons_append, List.append_assoc, List.nil_append]
  rw [entries, string_escaped]
  simp only [bind, Except.bind]
  rw [show ": ".toList = [':', ' '] from rfl, List.cons_append, List.cons_append, skip_cons rfl]
  simp only [blank, value, List.nil_append]
  generalize skip after = next
  split
  · rfl
  · show _ = (entries fuel room (skip _)).map fun read => ((.text key, data) :: read.1, read.2)
    cases entries fuel room (skip _) <;> rfl
  · simp_all

theorem entries_rows (level outer fuel : Nat) (first : String × Data)
    {others : List (String × Data)}
    (each : ∀ entry ∈ first :: others, entry.2.Plain room ∧ ReadsBack room entry.2)
    (enough : ((writeAt level first.2).toList ++
      rows level (entryTexts level (others.map Data.named))).length + 1 < fuel)
    (rest : List Char) :
    entries fuel room ((quoted first.1).toList ++ (": ".toList ++ ((writeAt level first.2).toList ++
      (rows level (entryTexts level (others.map Data.named)) ++
        ((newLine outer).toList ++ '\x7d' :: rest))))) =
      .ok ((first :: others).map Data.named, rest) := by
  induction others generalizing first fuel with
  | nil =>
    obtain ⟨fuel, rfl⟩ : ∃ n, fuel = n + 1 := ⟨fuel - 1, by omega⟩
    simp only [List.map_nil, entryTexts, rows, List.flatMap_nil, List.append_nil,
      List.nil_append] at enough ⊢
    have here := each first (by simp)
    rw [entries_key first.1 here.1 (here.2 level fuel _ (by omega)), skip_newLine, skip_cons rfl]
    rfl
  | cons next others ih =>
    obtain ⟨fuel, rfl⟩ : ∃ n, fuel = n + 1 := ⟨fuel - 1, by omega⟩
    have split : rows level (entryTexts level ((next :: others).map Data.named)) =
        ',' :: ((newLine level).toList ++ ((quoted next.1).toList ++ (": ".toList ++
          ((writeAt level next.2).toList ++
            rows level (entryTexts level (others.map Data.named)))))) := by
      simp [entryTexts, rows, Data.named, keyText, Data.plainText]
    rw [split] at enough ⊢
    simp only [List.length_append, List.length_cons] at enough
    have here := each first (by simp)
    have later := ih fuel next
      (fun entry inside => each entry (List.mem_cons_of_mem _ inside))
      (by simp only [List.length_append]; omega)
    simp only [List.cons_append, List.append_assoc]
    rw [entries_key first.1 here.1 (here.2 level fuel _ (by omega)), skip_cons rfl]
    simp only [skip_newLine, skip_quoted, later]
    rfl

/-! What is read is decided by the first characters. -/

theorem value_quote (fuel : Nat) (s : List Char) :
    value (fuel + 1) room ('"' :: s) = (do
      let (text, rest) ← string s
      return (.text text, rest)) := rfl

theorem value_null (fuel : Nat) (rest : List Char) :
    value (fuel + 1) room ("null".toList ++ rest) = .ok (.null, rest) := rfl

theorem value_bool (b : Bool) (fuel : Nat) (rest : List Char) :
    value (fuel + 1) room ((if b then "true" else "false").toList ++ rest) =
      .ok (.bool b, rest) := by
  cases b <;> rfl

theorem value_afterBracket (fuel : Nat) (s : List Char) :
    value (fuel + 1) (room + 1) ('[' :: s) = match skip s with
      | ']' :: rest => .ok (.list [], rest)
      | rest => do
        let (items, rest) ← items fuel room rest
        return (.list items, rest) := rfl

theorem value_afterBrace (fuel : Nat) (s : List Char) :
    value (fuel + 1) (room + 1) ('\x7b' :: s) = match skip s with
      | '\x7d' :: rest => .ok (.map [], rest)
      | rest => do
        let (entries, rest) ← entries fuel room rest
        return (Data.mapOf entries, rest) := rfl

theorem value_bracket {fuel : Nat} {s : List Char} (filled : ∀ rest, skip s ≠ ']' :: rest) :
    value (fuel + 1) (room + 1) ('[' :: s) =
      (items fuel room (skip s)).map fun read => (.list read.1, read.2) := by
  rw [value_afterBracket]
  split
  · exact absurd ‹_› (filled _)
  · cases items fuel room (skip s) <;> rfl

theorem value_brace {fuel : Nat} {s : List Char} (filled : ∀ rest, skip s ≠ '\x7d' :: rest) :
    value (fuel + 1) (room + 1) ('\x7b' :: s) =
      (entries fuel room (skip s)).map fun read => (Data.mapOf read.1, read.2) := by
  rw [value_afterBrace]
  split
  · exact absurd ‹_› (filled _)
  · cases entries fuel room (skip s) <;> rfl

theorem written_ne_bracket {data : Data} (plain : data.Plain room) (level : Nat)
    (rest after : List Char) :
    (writeAt level data).toList ++ rest ≠ ']' :: after := by
  obtain ⟨c, more, h, first⟩ := exists_begins plain level
  intro same
  rw [h, List.cons_append] at same
  obtain ⟨rfl, -⟩ := List.cons.inj same
  exact absurd first (by decide)

theorem readsBack_list {items : List Data} (each : ∀ item ∈ items, item.Plain room)
    (back : ∀ item ∈ items, ReadsBack room item) : ReadsBack (room + 1) (.list items) := by
  intro level fuel rest enough
  obtain ⟨fuel, rfl⟩ := Nat.exists_eq_add_one_of_ne_zero (Nat.ne_zero_of_lt enough)
  rw [writeAt] at enough ⊢
  cases items with
  | nil => simp [itemTexts, enclosed, value_afterBracket, skip, isSpace]
  | cons first others =>
    have plain := each first (by simp)
    rw [itemTexts, toList_enclosed_cons] at enough ⊢
    have inner := items_rows (level + 1) level fuel first
      (fun item inside => ⟨each item inside, back item inside⟩)
      (by simp [toList_newLine] at enough ⊢; omega) rest
    have start := skip_written plain (level + 1)
      (rows (level + 1) (itemTexts (level + 1) others) ++ ((newLine level).toList ++ ']' :: rest))
    rw [← skip_newLine (level + 1)] at start
    simp only [List.append_assoc]
    rw [show "[".toList = ['['] from rfl, show "]".toList = [']'] from rfl, List.singleton_append,
      List.singleton_append, value_bracket, start, inner]
    · rfl
    · rw [start]
      exact written_ne_bracket plain _ _

theorem readsBack_map {entries : List (String × Data)}
    (distinct : (entries.map Prod.fst).Nodup) (each : ∀ entry ∈ entries, entry.2.Plain room)
    (back : ∀ entry ∈ entries, ReadsBack room entry.2) :
    ReadsBack (room + 1) (.map (entries.map Data.named)) := by
  intro level fuel rest enough
  obtain ⟨fuel, rfl⟩ := Nat.exists_eq_add_one_of_ne_zero (Nat.ne_zero_of_lt enough)
  rw [writeAt] at enough ⊢
  cases entries with
  | nil => simp [entryTexts, enclosed, value_afterBrace, skip, isSpace]
  | cons first others =>
    rw [List.map_cons, Data.named, entryTexts, toList_enclosed_cons] at enough ⊢
    have key : keyText (.text first.1) = first.1 := rfl
    have inner := entries_rows (level + 1) level fuel first
      (fun entry inside => ⟨each entry inside, back entry inside⟩)
      (by simp [toList_newLine] at enough ⊢; omega) rest
    have start := skip_quoted first.1 (": ".toList ++ ((writeAt (level + 1) first.2).toList ++
      (rows (level + 1) (entryTexts (level + 1) (others.map Data.named)) ++
        ((newLine level).toList ++ '\x7d' :: rest))))
    rw [← skip_newLine (level + 1)] at start
    simp only [key, String.toList_append, List.append_assoc]
    rw [show "\x7b".toList = ['\x7b'] from rfl, show "\x7d".toList = ['\x7d'] from rfl,
      List.singleton_append, List.singleton_append, value_brace, start, inner]
    · simp only [Except.map, Data.mapOf_named distinct]
      rfl
    · intro after
      rw [start, toList_quoted, List.cons_append]
      rintro ⟨⟩

theorem readsBack_of_plain {data : Data} (plain : data.Plain room) : ReadsBack room data := by
  induction plain with
  | null =>
    intro level fuel rest enough
    obtain ⟨fuel, rfl⟩ := Nat.exists_eq_add_one_of_ne_zero (Nat.ne_zero_of_lt enough)
    rw [writeAt]
    exact value_null fuel rest
  | bool b =>
    intro level fuel rest enough
    obtain ⟨fuel, rfl⟩ := Nat.exists_eq_add_one_of_ne_zero (Nat.ne_zero_of_lt enough)
    rw [writeAt]
    exact value_bool b fuel rest
  | text s =>
    intro level fuel rest enough
    obtain ⟨fuel, rfl⟩ := Nat.exists_eq_add_one_of_ne_zero (Nat.ne_zero_of_lt enough)
    rw [writeAt, toList_quoted, List.cons_append, List.append_assoc, value_quote,
      List.singleton_append, string_escaped]
    rfl
  | list each back => exact readsBack_list each back
  | map distinct each back => exact readsBack_map distinct each back

/-- What is printed is read back as it was. -/
theorem read_write {data : Data} (plain : data.Plain room) :
    read room (write data) = .ok data := by
  have whole := readsBack_of_plain plain 0 ((write data).toList.length + 1) [] (Nat.lt_succ_self _)
  have start := skip_written plain 0 []
  rw [List.append_nil] at whole start
  simp only [read, write] at whole ⊢
  rw [start, whole]
  rfl

/-! ## The characters that are printed -/

theorem toNat_of_mem_unitEscape {n : Nat} {c : Char} (h : c ∈ unitEscape n) : 0x20 ≤ c.toNat := by
  simp only [unitEscape, List.mem_cons] at h
  rcases h with rfl | rfl | inside
  · decide
  · decide
  · exact Text.toNat_of_mem_hexDigits inside

theorem toNat_of_mem_escaped {c d : Char} (h : d ∈ escaped c) : 0x20 ≤ d.toNat := by
  have pair : ∀ letter : Char, 0x20 ≤ letter.toNat → d ∈ ['\\', letter] → 0x20 ≤ d.toNat := by
    intro letter shown inside
    simp only [List.mem_cons, List.not_mem_nil, or_false] at inside
    rcases inside with rfl | rfl
    · decide
    · exact shown
  unfold escaped at h
  split at h
  case isTrue mark => exact pair c (by obtain rfl | rfl := mark <;> decide) h
  split at h
  · exact pair 'n' (by decide) h
  split at h
  · exact pair 'r' (by decide) h
  split at h
  · exact pair 't' (by decide) h
  split at h
  · exact pair 'f' (by decide) h
  split at h
  · exact pair 'b' (by decide) h
  split at h
  case isTrue shown =>
    rw [List.mem_singleton] at h
    exact h ▸ shown.1
  split at h
  · exact toNat_of_mem_unitEscape h
  · rw [List.mem_append] at h
    exact h.elim toNat_of_mem_unitEscape toNat_of_mem_unitEscape

/-- Characters that printed text is made of: line feeds, and none below the blank otherwise. -/
def Shown (c : Char) : Prop := c = '\n' ∨ 0x20 ≤ c.toNat

theorem shown_of_mem_quoted {s : String} {c : Char} (h : c ∈ (quoted s).toList) : Shown c := by
  rw [toList_quoted, List.mem_cons, List.mem_append, List.mem_flatMap, List.mem_singleton] at h
  rcases h with rfl | ⟨d, -, inside⟩ | rfl
  · exact .inr (by decide)
  · exact .inr (toNat_of_mem_escaped inside)
  · exact .inr (by decide)

theorem shown_of_mem_newLine {level : Nat} {c : Char} (h : c ∈ (newLine level).toList) :
    Shown c := by
  rw [toList_newLine, List.mem_cons] at h
  rcases h with rfl | blank
  · exact .inl rfl
  · rw [List.eq_of_mem_replicate blank]
    exact .inr (by decide)

theorem shown_of_mem_enclosed {level : Nat} {opening closing : String} {parts : List String}
    (start : ∀ c ∈ opening.toList, Shown c) (stop : ∀ c ∈ closing.toList, Shown c)
    (each : ∀ part ∈ parts, ∀ c ∈ part.toList, Shown c) {c : Char}
    (h : c ∈ (enclosed level opening closing parts).toList) : Shown c := by
  cases parts with
  | nil =>
    rw [enclosed, if_pos List.isEmpty_nil, String.toList_append, List.mem_append] at h
    exact h.elim (start c) (stop c)
  | cons part parts =>
    simp only [toList_enclosed_cons, List.mem_append, rows, List.mem_flatMap, List.mem_cons] at h
    rcases h with h | h | h | ⟨next, inside, (rfl | h) | h⟩ | h | h
    · exact start c h
    · exact shown_of_mem_newLine h
    · exact each part (by simp) c h
    · exact .inr (by decide)
    · exact shown_of_mem_newLine h
    · exact each next (List.mem_cons_of_mem _ inside) c h
    · exact shown_of_mem_newLine h
    · exact stop c h

theorem itemTexts_eq_map (level : Nat) (items : List Data) :
    itemTexts level items = items.map (writeAt level) := by
  induction items with
  | nil => rfl
  | cons item items ih => rw [itemTexts, ih, List.map_cons]

theorem entryTexts_eq_map (level : Nat) (entries : List (Data × Data)) :
    entryTexts level entries =
      entries.map fun entry => quoted (keyText entry.1) ++ ": " ++ writeAt level entry.2 := by
  induction entries with
  | nil => rfl
  | cons entry entries ih => rw [entryTexts, ih, List.map_cons]

theorem shown_of_mem_writeAt {data : Data} (plain : data.Plain room) :
    ∀ {level : Nat} {c : Char}, c ∈ (writeAt level data).toList → Shown c := by
  have word (s : String) (shown : (s.toList.all fun c => Nat.ble 0x20 c.toNat) = true) :
      ∀ c ∈ s.toList, Shown c :=
    fun c inside => .inr (Nat.le_of_ble_eq_true (List.all_eq_true.1 shown c inside))
  induction plain with
  | null =>
    intro level c h
    rw [writeAt] at h
    exact word "null" (by decide) c h
  | bool b =>
    intro level c h
    rw [writeAt] at h
    cases b
    · exact word "false" (by decide) c h
    · exact word "true" (by decide) c h
  | text s =>
    intro level c h
    rw [writeAt] at h
    exact shown_of_mem_quoted h
  | list each ih =>
    intro level c h
    rw [writeAt, itemTexts_eq_map] at h
    refine shown_of_mem_enclosed (word "[" (by decide)) (word "]" (by decide)) ?_ h
    intro part inside c h
    obtain ⟨item, member, rfl⟩ := List.mem_map.1 inside
    exact ih item member h
  | map distinct each ih =>
    intro level c h
    rw [writeAt, entryTexts_eq_map] at h
    refine shown_of_mem_enclosed (word "\x7b" (by decide)) (word "\x7d" (by decide)) ?_ h
    intro part inside c h
    simp only [List.map_map, List.mem_map, Function.comp_apply] at inside
    obtain ⟨entry, inside, rfl⟩ := inside
    simp only [String.toList_append, List.mem_append] at h
    rcases h with (h | h) | h
    · exact shown_of_mem_quoted h
    · exact word ": " (by decide) c h
    · exact ih entry inside h

/-- No carriage return is printed, which a reader of files would take for a line feed. -/
theorem return_not_mem_write {data : Data} (plain : data.Plain room) :
    '\r' ∉ (write data).toList := by
  intro h
  rcases shown_of_mem_writeAt plain h with same | shown
  · exact absurd same (by decide)
  · exact absurd shown (by decide)

end Json

end InputPanel
