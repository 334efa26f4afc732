import InputPanel.FileTree
import InputPanel.Proofs.Failure

/-!
# Files that were written

A file that is written holds the text until something else is put in its
place. Writing succeeds where directories are missing or there, and no
directory stands in the place of the file.
-/

namespace InputPanel

theorem toList_data (bytes : ByteArray) : bytes.toList = bytes.data.toList := by
  have loop : ∀ i taken, ByteArray.toList.loop bytes i taken =
      taken.reverse ++ bytes.data.toList.drop i := by
    intro i taken
    fun_induction ByteArray.toList.loop bytes i taken with
    | case1 i taken inside ih =>
      have inside : i < bytes.data.size := inside
      have byte : bytes.get! i = bytes.data.toList[i] := by
        simp [ByteArray.get!, getElem!_pos bytes.data i inside]
      rw [ih, List.drop_eq_getElem_cons (i := i) inside, byte]
      simp
    | case2 i taken outside =>
      have outside : bytes.data.toList.length ≤ i := Nat.le_of_not_lt outside
      rw [List.drop_eq_nil_of_le outside, List.append_nil]
  exact loop 0 []

namespace Text

theorem unifyLineEnds_eq_self {s : List Char} (h : '\r' ∉ s) : unifyLineEnds s = s := by
  induction s with
  | nil => rfl
  | cons c s ih =>
    simp only [List.mem_cons, not_or] at h
    have other : c ≠ '\r' := fun e => h.1 e.symm
    rw [unifyLineEnds, if_neg other, ih h.2]
    rintro rest rfl
    exact absurd rfl other

end Text

namespace FileTree

variable {tree after : FileTree} {path : FilePath} {place other : Location} {entry : Entry}

theorem entry?_put_self (h : place ≠ []) : entry? (tree.put place entry) place = some entry := by
  have away : (tree.entries.filter fun e => e.1 != place).lookup place = none := by
    rw [List.lookup_eq_none_iff]
    intro e inside
    have apart : e.1 ≠ place := by simpa using (List.mem_filter.1 inside).2
    simpa using Ne.symm apart
  simp [put, entry?, h, List.lookup_append, away]

theorem entry?_put_of_ne (h : other ≠ place) :
    entry? (tree.put place entry) other = tree.entry? other := by
  have same : ∀ entries : List (Location × Entry),
      (entries.filter fun e => e.1 != place).lookup other = entries.lookup other := by
    intro entries
    induction entries with
    | nil => rfl
    | cons e entries ih =>
      rw [List.filter_cons]
      split
      · rw [List.lookup_cons, List.lookup_cons, ih]
      case isFalse gone =>
        have there : e.1 = place := by simpa using gone
        have apart : (other == e.1) = false := by simpa [there] using h
        rw [ih, List.lookup_cons, apart]
  have apart : (other == place) = false := by simpa using h
  simp [put, entry?, List.lookup_append, same, List.lookup_cons, apart]

/-- Names lead to the same place when something is put where no directory was. -/
theorem follow_put {start : Location} {names : List String}
    (room : tree.entry? place ≠ some .directory)
    {last : Location} (h : tree.follow start names = .ok last) :
    (tree.put place entry).follow start names = .ok last := by
  induction names generalizing start with
  | nil => exact h
  | cons name names ih =>
    cases here : tree.entry? start with
    | none => simp [follow, here] at h
    | some found =>
      cases found with
      | file bytes => simp [follow, here] at h
      | directory =>
        have apart : start ≠ place := fun e => room (e ▸ here)
        rw [follow, here] at h
        rw [follow, entry?_put_of_ne apart, here]
        exact ih h

theorem textOf_eq_error_iff {bytes : List UInt8} {failure : Failure} :
    textOf bytes = .error failure ↔
      String.fromUTF8? ⟨bytes.toArray⟩ = none ∧ failure = .undecodable := by
  unfold textOf
  split
  case h_1 text decoded => simp [decoded]
  case h_2 broken => simp [broken, eq_comm]

theorem isOfFiles_of_follow {start : Location} {names : List String} {failure : Failure}
    (h : tree.follow start names = .error failure) : failure.isOfFiles = true := by
  induction names generalizing start with
  | nil => cases h
  | cons name names ih =>
    rw [follow] at h
    split at h
    · exact ih h
    · cases h
      rfl
    · cases h
      rfl

/-- What leads nowhere and what cannot be opened are failures of files. -/
theorem isOfFiles_of_read {failure : Failure} (h : tree.read path = .error failure) :
    failure.isOfFiles = true := by
  obtain lost | ⟨place, -, h⟩ := bind_eq_error_iff.1 h
  · exact isOfFiles_of_follow lost
  · split at h <;> cases h <;> rfl

theorem textOf_toUTF8 {text : String} (h : '\r' ∉ text.toList) :
    textOf text.toUTF8.toList = .ok text := by
  have whole : (⟨text.toUTF8.toList.toArray⟩ : ByteArray) = text.toUTF8 := by
    rw [toList_data]
  have back : String.fromUTF8? text.toUTF8 = some text := by
    rw [String.fromUTF8?, dif_pos (show text.toUTF8.IsValidUTF8 from text.isValidUTF8)]
    rfl
  rw [textOf, whole, back]
  simp only [Text.unifyLineEnds_eq_self h, String.ofList_toList]

theorem write_cases {text : String} (h : tree.write path text = .ok after) :
    ∃ place, tree.locate path = .ok place ∧ place ≠ [] ∧ tree.entry? place ≠ some .directory ∧
      after = tree.put place (.file text.toUTF8.toList) := by
  obtain ⟨place, found, h⟩ := bind_eq_ok_iff.1 h
  have room : tree.entry? place ≠ some .directory := by
    intro full
    rw [full] at h
    cases h
  refine ⟨place, found, ?_, room, ?_⟩
  · rintro rfl
    exact room rfl
  · split at h <;> cases h
    rfl

theorem write_eq_ok (found : tree.locate path = .ok place)
    (room : tree.entry? place ≠ some .directory)
    (above : tree.entry? place.dropLast = some .directory) (text : String) :
    tree.write path text = .ok (tree.put place (.file text.toUTF8.toList)) := by
  cases there : tree.entry? place with
  | none => simp only [write, found, bind, Except.bind, there, above]; rfl
  | some entry =>
    cases entry with
    | directory => exact absurd there room
    | file bytes => simp only [write, found, bind, Except.bind, there, above]; rfl

/-- A file that was written is read as it was written. -/
theorem read_write {text : String} (h : tree.write path text = .ok after) :
    after.read path = .ok text.toUTF8.toList := by
  obtain ⟨place, found, below, room, rfl⟩ := write_cases h
  have again : (tree.put place (.file text.toUTF8.toList)).locate path = .ok place :=
    follow_put room found
  simp only [read, again, bind, Except.bind, entry?_put_self below]
  rfl

theorem readText_write {text : String} (h : tree.write path text = .ok after)
    (plain : '\r' ∉ text.toList) : after.readText path = .ok text := by
  simp only [readText, read_write h, bind, Except.bind, textOf_toUTF8 plain]

theorem has_of_read {bytes : List UInt8} (h : tree.read path = .ok bytes) :
    tree.has path = true := by
  obtain ⟨place, found, h⟩ := bind_eq_ok_iff.1 h
  cases there : tree.entry? place with
  | none =>
    rw [there] at h
    cases h
  | some entry => simp [has, find?, found, there]

/-! ## Room for a file -/

theorem follow_append_singleton {start : Location} {names : List String} (name : String)
    (way : ∀ place ∈ Location.passed start names, tree.entry? place = some .directory) :
    tree.follow start (names ++ [name]) =
      .ok ((names.foldl Location.towards start).towards name) := by
  induction names generalizing start with
  | nil =>
    have here := way start (by simp [Location.passed])
    simp [follow, here]
  | cons next names ih =>
    have here := way start (by simp [Location.passed])
    rw [List.cons_append, follow, here]
    exact ih fun place passed => way place (List.mem_cons_of_mem _ passed)

theorem foldl_towards_mem_passed (start : Location) (names : List String) :
    names.foldl Location.towards start ∈ Location.passed start names := by
  induction names generalizing start with
  | nil => simp [Location.passed]
  | cons name names ih => exact List.mem_cons_of_mem _ (ih (start.towards name))

/-- Where no file is on the way, the directories are made, and nothing else changes. -/
theorem makeDirectories_eq_ok {start : Location} {names : List String}
    (clear : ∀ place ∈ Location.passed start names, ∀ bytes,
      tree.entry? place ≠ some (.file bytes)) :
    ∃ made, tree.makeDirectories start names = .ok made ∧ made.working = tree.working ∧
      ∀ place, made.entry? place =
        if place ∈ (Location.passed start names).tail then some .directory
        else tree.entry? place := by
  induction names generalizing tree start with
  | nil => exact ⟨tree, rfl, rfl, by simp [Location.passed]⟩
  | cons name names ih =>
    have clear : ∀ place ∈ Location.passed (start.towards name) names, ∀ bytes,
        tree.entry? place ≠ some (.file bytes) :=
      fun place passed => clear place (List.mem_cons_of_mem _ passed)
    have next : ∀ place, place ∈ Location.passed (start.towards name) names ↔
        place = start.towards name ∨ place ∈ (Location.passed (start.towards name) names).tail := by
      intro place
      cases names <;> simp [Location.passed]
    cases there : tree.entry? (start.towards name) with
    | some found =>
      cases found with
      | file bytes => exact absurd there (clear _ ((next _).2 (.inl rfl)) bytes)
      | directory =>
        obtain ⟨made, run, working, entries⟩ := ih clear
        refine ⟨made, by rw [makeDirectories, there]; exact run, working, fun place => ?_⟩
        rw [entries, Location.passed, List.tail_cons]
        by_cases same : place = start.towards name
        · simp [next, same, there]
        · simp [next, same]
    | none =>
      have below : start.towards name ≠ [] := by
        intro root
        rw [root] at there
        cases there
      have put : ∀ place, entry? (tree.put (start.towards name) .directory) place =
          if place = start.towards name then some .directory else tree.entry? place := by
        intro place
        split
        case isTrue same => rw [same, entry?_put_self below]
        case isFalse apart => exact entry?_put_of_ne apart
      have stillClear : ∀ place ∈ Location.passed (start.towards name) names, ∀ bytes,
          entry? (tree.put (start.towards name) .directory) place ≠ some (.file bytes) := by
        intro place passed bytes
        rw [put]
        split
        · simp
        · exact clear place passed bytes
      obtain ⟨made, run, working, entries⟩ := ih stillClear
      refine ⟨made, by rw [makeDirectories, there]; exact run, working, fun place => ?_⟩
      rw [entries, put, Location.passed, List.tail_cons]
      by_cases same : place = start.towards name
      · simp [next, same]
      · simp [next, same]

/-- Whether a file can be written where a path leads: no file stands where directories are needed,
and no directory where the file is to be. -/
structure HasRoom (tree : FileTree) (path : FilePath) : Prop where
  start : tree.entry? (tree.origin path) = some .directory
  way : ∀ place ∈ Location.passed (tree.origin path) path.parent.names, ∀ bytes,
    tree.entry? place ≠ some (.file bytes)
  last : ∃ name, path.names = path.parent.names ++ [name] ∧ name ≠ ".." ∧
    let place := path.parent.names.foldl Location.towards (tree.origin path) ++ [name]
    place ∉ Location.passed (tree.origin path) path.parent.names ∧
      tree.entry? place ≠ some .directory

theorem exists_write (room : tree.HasRoom path) (text : String) :
    ∃ made after, tree.makeDirectory path.parent = .ok made ∧ made.write path text = .ok after := by
  obtain ⟨made, run, working, entries⟩ := makeDirectories_eq_ok room.way
  obtain ⟨name, names, leaf, apart, free⟩ := room.last
  have origin : made.origin path = tree.origin path := by rw [origin, origin, working]
  have way : ∀ place ∈ Location.passed (tree.origin path) path.parent.names,
      made.entry? place = some .directory := by
    intro place passed
    rw [entries]
    split
    · rfl
    case isFalse first =>
      have isStart : place = tree.origin path := by
        cases h : path.parent.names <;> simp_all [Location.passed]
      rw [isStart, room.start]
  have leads : made.locate path =
      .ok (path.parent.names.foldl Location.towards (tree.origin path) ++ [name]) := by
    have steps := follow_append_singleton name way
    rw [Location.towards, if_neg leaf] at steps
    rw [locate, names, origin, steps]
  have free : made.entry? (path.parent.names.foldl Location.towards (tree.origin path) ++ [name]) ≠
      some .directory := by
    rw [entries, if_neg fun passed => apart (List.mem_of_mem_tail passed)]
    exact free
  have above : made.entry?
      (path.parent.names.foldl Location.towards (tree.origin path) ++ [name]).dropLast =
        some .directory := by
    rw [List.dropLast_concat]
    exact way _ (foldl_towards_mem_passed _ _)
  exact ⟨made, _, run, write_eq_ok leads free above text⟩

end FileTree

end InputPanel
