import InputPanel.OrderedMap

/-!
# Entries set in turn

A name that is set has the value that it is set to. Setting the entries of a
list in turn brings in nothing but these entries, and of a name that is set twice
its last value. The map is as long as the list only if no name is set twice, and
then the entries stand in the map as they stand in the list. Merging sets the
entries of one map after those of another, so it is associative. Erasing a name
leaves all other entries where they are.
-/

namespace InputPanel.OrderedMap

variable {α : Type}

theorem length_setEntry_le (name : String) (value : α) (entries : List (String × α)) :
    (setEntry name value entries).length ≤ entries.length + 1 := by
  induction entries with
  | nil => simp [setEntry]
  | cons entry rest ih =>
    obtain ⟨key, old⟩ := entry
    by_cases same : key = name
    · simp [setEntry, same]
    · simpa [setEntry, same] using ih

theorem length_setEntry_of_mem {name : String} {value : α} {entries : List (String × α)}
    (h : name ∈ entries.map Prod.fst) : (setEntry name value entries).length = entries.length := by
  have keys := congrArg List.length (@keys_setEntry_of_mem α name value entries h)
  simpa using keys

theorem setEntry_of_not_mem {name : String} {value : α} {entries : List (String × α)}
    (h : name ∉ entries.map Prod.fst) :
    setEntry name value entries = entries ++ [(name, value)] := by
  induction entries with
  | nil => rfl
  | cons entry rest ih =>
    obtain ⟨key, old⟩ := entry
    simp only [List.map_cons, List.mem_cons, not_or] at h
    have different : ¬ key = name := fun e => h.1 e.symm
    simp [setEntry, different, ih h.2]

theorem mem_setEntry {name : String} {value : α} {entries : List (String × α)}
    {entry : String × α} (h : entry ∈ setEntry name value entries) :
    entry ∈ entries ∨ entry = (name, value) := by
  induction entries with
  | nil => exact Or.inr (by simpa [setEntry] using h)
  | cons first rest ih =>
    obtain ⟨key, old⟩ := first
    by_cases same : key = name
    · simp only [setEntry, same, if_true, List.mem_cons] at h
      rcases h with rfl | later
      · exact Or.inr rfl
      · exact Or.inl (List.mem_cons_of_mem _ later)
    · simp only [setEntry, same, if_false, List.mem_cons] at h
      rcases h with rfl | later
      · exact Or.inl List.mem_cons_self
      · exact (ih later).imp_left (List.mem_cons_of_mem _)

theorem lookup_setEntry (name : String) (value : α) (entries : List (String × α)) :
    (setEntry name value entries).lookup name = some value := by
  induction entries with
  | nil => simp [setEntry]
  | cons entry rest ih =>
    obtain ⟨key, old⟩ := entry
    by_cases same : key = name
    · simp [setEntry, same]
    · have other : (name == key) = false := beq_eq_false_iff_ne.2 fun e => same e.symm
      rw [setEntry, if_neg same, List.lookup_cons, other]
      exact ih

/-- A name has the value that it was set to last. -/
theorem get?_set_self (m : OrderedMap α) (name : String) (value : α) :
    (m.set name value).get? name = some value := lookup_setEntry name value m.entries

theorem lookup_setEntry_of_ne {name other : String} (different : other ≠ name) (value : α)
    (entries : List (String × α)) :
    (setEntry name value entries).lookup other = entries.lookup other := by
  have apart : (other == name) = false := beq_eq_false_iff_ne.2 different
  induction entries with
  | nil => simp [setEntry, List.lookup_cons, apart]
  | cons entry rest ih =>
    obtain ⟨key, old⟩ := entry
    by_cases same : key = name
    · subst same
      simp [setEntry, List.lookup_cons, apart]
    · rw [setEntry, if_neg same, List.lookup_cons, List.lookup_cons, ih]

/-- Setting a name leaves the values of all others. -/
theorem get?_set_of_ne (m : OrderedMap α) {name other : String} (different : other ≠ name)
    (value : α) : (m.set name value).get? other = m.get? other :=
  lookup_setEntry_of_ne different value m.entries

theorem setEntry_setEntry (name : String) (first last : α) (entries : List (String × α)) :
    setEntry name last (setEntry name first entries) = setEntry name last entries := by
  induction entries with
  | nil => simp [setEntry]
  | cons entry rest ih =>
    obtain ⟨key, old⟩ := entry
    by_cases same : key = name
    · simp [setEntry, same]
    · simp [setEntry, same, ih]

/-- Of two values set one after the other the last stays. -/
theorem set_set (m : OrderedMap α) (name : String) (first last : α) :
    (m.set name first).set name last = m.set name last :=
  ext (setEntry_setEntry name first last m.entries)

theorem setEntry_of_lookup {name : String} {value : α} {entries : List (String × α)}
    (present : entries.lookup name = some value) : setEntry name value entries = entries := by
  induction entries with
  | nil => simp at present
  | cons entry rest ih =>
    obtain ⟨key, old⟩ := entry
    by_cases same : key = name
    · subst same
      have known : old = value := by simpa using present
      simp [setEntry, known]
    · have other : (name == key) = false := beq_eq_false_iff_ne.2 fun e => same e.symm
      rw [List.lookup_cons, other] at present
      rw [setEntry, if_neg same, ih present]

/-- A name set to the value that it has changes nothing. -/
theorem set_eq_self_iff {m : OrderedMap α} {name : String} {value : α} :
    m.set name value = m ↔ m.get? name = some value := by
  constructor
  · intro unchanged
    rw [← unchanged]
    exact get?_set_self m name value
  · exact fun present => ext (setEntry_of_lookup present)

theorem set_eq_self_iff_of_get? {m : OrderedMap α} {name : String} {value other : α}
    (present : m.get? name = some value) : m.set name other = m ↔ other = value := by
  rw [set_eq_self_iff, present, Option.some_inj, eq_comm]

theorem lookup_eq_some_iff_of_nodup {name : String} {value : α} {entries : List (String × α)}
    (distinct : (entries.map Prod.fst).Nodup) :
    entries.lookup name = some value ↔ (name, value) ∈ entries := by
  induction entries with
  | nil => simp
  | cons entry rest ih =>
    obtain ⟨key, first⟩ := entry
    rw [List.map_cons, List.nodup_cons] at distinct
    rw [List.lookup_cons, List.mem_cons]
    by_cases same : name = key
    · subst same
      have once : (name, value) ∉ rest := fun later => distinct.1 (List.mem_map.2 ⟨_, later, rfl⟩)
      simp [once, eq_comm]
    · have other : (name == key) = false := beq_eq_false_iff_ne.2 same
      rw [other]
      simp [same, ih distinct.2]

theorem get?_eq_some_iff {m : OrderedMap α} {name : String} {value : α} :
    m.get? name = some value ↔ (name, value) ∈ m.toList := lookup_eq_some_iff_of_nodup m.distinct

theorem getD_of_get? {m : OrderedMap α} {name : String} {value : α}
    (present : m.get? name = some value) (default : α) : m.getD name default = value := by
  rw [getD, present]
  rfl

theorem get?_eq_none_iff {m : OrderedMap α} {name : String} :
    m.get? name = none ↔ name ∉ m.keys := by
  rw [get?, List.lookup_eq_none_iff, keys, List.mem_map]
  constructor
  · rintro absent ⟨entry, present, rfl⟩
    simpa using absent entry present
  · intro absent entry present
    exact bne_iff_ne.2 fun same => absent ⟨entry, present, same.symm⟩

theorem contains_iff {m : OrderedMap α} {name : String} :
    m.contains name = true ↔ name ∈ m.keys := by
  rw [contains, Option.isSome_iff_ne_none, Ne, get?_eq_none_iff, Classical.not_not]

/-- Setting a name keeps the names that are there in their order, and puts a new one last. -/
theorem keys_set (m : OrderedMap α) (name : String) (value : α) :
    (m.set name value).keys = if m.contains name then m.keys else m.keys ++ [name] := by
  split
  · next present => exact keys_setEntry_of_mem (contains_iff.1 present)
  · next absent => exact keys_setEntry_of_not_mem (mt contains_iff.2 absent)

theorem contains_set (m : OrderedMap α) (name : String) (value : α) (other : String) :
    (m.set name value).contains other = (other == name || m.contains other) := by
  by_cases same : other = name
  · simp [contains, same, get?_set_self]
  · simp [contains, same, get?_set_of_ne]

theorem keys_isPrefix_set (m : OrderedMap α) (name : String) (value : α) :
    m.keys <+: (m.set name value).keys := by
  rw [keys_set]
  split
  · exact List.prefix_rfl
  · exact List.prefix_append _ _

@[simp] theorem toList_empty : (empty : OrderedMap α).toList = [] := rfl

theorem toList_set (m : OrderedMap α) (name : String) (value : α) :
    (m.set name value).toList = setEntry name value m.toList := rfl

@[simp] theorem setAll_nil (m : OrderedMap α) : m.setAll [] = m := rfl

theorem setAll_cons (m : OrderedMap α) (entry : String × α) (entries : List (String × α)) :
    m.setAll (entry :: entries) = (m.set entry.1 entry.2).setAll entries := rfl

/-- Of a name set several times the last value stays. -/
theorem get?_setAll (m : OrderedMap α) (entries : List (String × α)) (name : String) :
    (m.setAll entries).get? name = (entries.reverse.lookup name).or (m.get? name) := by
  induction entries generalizing m with
  | nil => rfl
  | cons first rest ih =>
    rw [setAll_cons, ih, List.reverse_cons, List.lookup_append, Option.or_assoc]
    congr 1
    by_cases same : name = first.1
    · subst same
      rw [get?_set_self, List.lookup_cons_self, Option.some_or]
    · have other : (name == first.1) = false := beq_eq_false_iff_ne.2 same
      rw [get?_set_of_ne m same, List.lookup_cons, other]
      rfl

/-- Names that are there keep their order, and new ones follow in the order in which they are first
set. -/
theorem keys_setAll (m : OrderedMap α) (entries : List (String × α)) :
    (m.setAll entries).keys =
      m.keys ++ ((entries.map Prod.fst).filter fun name => !m.contains name).eraseDups := by
  induction entries generalizing m with
  | nil => simp
  | cons first rest ih =>
    rw [setAll_cons, ih, keys_set, List.map_cons]
    simp only [contains_set]
    cases present : m.contains first.1 with
    | true =>
      have again (name : String) : (name == first.1 || m.contains name) = m.contains name := by
        by_cases same : name = first.1
        · simp [same, present]
        · simp [same]
      simp [again, present]
    | false =>
      have others : ((rest.map Prod.fst).filter fun name =>
          !(name == first.1 || m.contains name)) =
          ((rest.map Prod.fst).filter fun name => !m.contains name).filter
            fun name => !name == first.1 := by
        rw [List.filter_filter]
        simp only [Bool.not_or]
      rw [others, List.filter_cons_of_pos (by simp [present]), List.eraseDups_cons]
      simp

theorem setEntry_comm {name other : String} {value old : α} (different : other ≠ name)
    {entries : List (String × α)} (present : name ∈ entries.map Prod.fst) :
    setEntry name value (setEntry other old entries) =
      setEntry other old (setEntry name value entries) := by
  induction entries with
  | nil => cases present
  | cons entry rest ih =>
    obtain ⟨key, kept⟩ := entry
    by_cases same : key = name
    · subst same
      simp [setEntry, Ne.symm different]
    · have later : name ∈ rest.map Prod.fst :=
        (List.mem_cons.1 present).resolve_left fun e => same e.symm
      by_cases own : key = other
      · subst own
        simp [setEntry, same]
      · simp [setEntry, same, own, ih later]

/-- A name that is there can be set before others as well as after them. -/
theorem set_setAll {m : OrderedMap α} {name : String} (value : α) {entries : List (String × α)}
    (present : m.contains name = true) (apart : name ∉ entries.map Prod.fst) :
    (m.setAll entries).set name value = (m.set name value).setAll entries := by
  induction entries generalizing m with
  | nil => rfl
  | cons first rest ih =>
    rw [List.map_cons, List.mem_cons, not_or] at apart
    have kept : (m.set first.1 first.2).contains name = true := by
      rw [contains_set, present, Bool.or_true]
    rw [setAll_cons, setAll_cons, ih kept apart.2]
    congr 1
    exact ext (setEntry_comm (Ne.symm apart.1) (contains_iff.1 present))

theorem setAll_setEntry (m : OrderedMap α) (name : String) (value : α)
    {entries : List (String × α)} (distinct : (entries.map Prod.fst).Nodup) :
    m.setAll (setEntry name value entries) = (m.setAll entries).set name value := by
  induction entries generalizing m with
  | nil => rfl
  | cons entry rest ih =>
    obtain ⟨key, old⟩ := entry
    rw [List.map_cons, List.nodup_cons] at distinct
    by_cases same : key = name
    · subst same
      have present : (m.set key old).contains key = true := by
        rw [contains_set, beq_self_eq_true, Bool.true_or]
      rw [setEntry, if_pos rfl, setAll_cons, setAll_cons, set_setAll value present distinct.1,
        set_set]
    · rw [setEntry, if_neg same, setAll_cons, setAll_cons, ih _ distinct.2]

/-- Merging with a map into which entries have been set is merging first and setting them then. -/
theorem merge_setAll (m other : OrderedMap α) (entries : List (String × α)) :
    m.merge (other.setAll entries) = (m.merge other).setAll entries := by
  induction entries generalizing other with
  | nil => rfl
  | cons first rest ih =>
    rw [setAll_cons, ih, setAll_cons]
    congr 1
    exact setAll_setEntry m first.1 first.2 other.distinct

theorem merge_ofList (m : OrderedMap α) (entries : List (String × α)) :
    m.merge (ofList entries) = m.setAll entries := merge_setAll m empty entries

/-- Of a name that both maps have, the value of the map that is merged in stays. -/
theorem get?_merge (m other : OrderedMap α) (name : String) :
    (m.merge other).get? name = (other.get? name).or (m.get? name) := by
  have distinct : (other.entries.reverse.map Prod.fst).Nodup :=
    ((List.reverse_perm other.entries).map Prod.fst).nodup_iff.2 other.distinct
  have turned : other.entries.reverse.lookup name = other.get? name := by
    apply Option.ext
    intro value
    rw [lookup_eq_some_iff_of_nodup distinct, List.mem_reverse, get?_eq_some_iff]
    rfl
  rw [merge, get?_setAll, turned]

theorem eraseDups_of_nodup {names : List String} (distinct : names.Nodup) :
    names.eraseDups = names := by
  induction names with
  | nil => rfl
  | cons name rest ih =>
    rw [List.nodup_cons] at distinct
    have others : (rest.filter fun other => !other == name) = rest :=
      List.filter_eq_self.2 fun other present => by
        simpa using fun same : other = name => distinct.1 (same ▸ present)
    rw [List.eraseDups_cons, others, ih distinct.2]

/-- The names of a map come first, and then those that are new, each in their order. -/
theorem keys_merge (m other : OrderedMap α) :
    (m.merge other).keys = m.keys ++ other.keys.filter fun name => !m.contains name := by
  rw [merge, keys_setAll, eraseDups_of_nodup (other.distinct.filter _)]
  rfl

theorem mem_setAll {m : OrderedMap α} {entries : List (String × α)} {entry : String × α}
    (h : entry ∈ (m.setAll entries).toList) : entry ∈ m.toList ∨ entry ∈ entries := by
  induction entries generalizing m with
  | nil => exact Or.inl h
  | cons first rest ih =>
    rw [setAll_cons] at h
    rcases ih h with before | later
    · rcases mem_setEntry before with old | new
      · exact Or.inl old
      · exact Or.inr (new ▸ List.mem_cons_self)
    · exact Or.inr (List.mem_cons_of_mem _ later)

theorem length_setAll_le (m : OrderedMap α) (entries : List (String × α)) :
    (m.setAll entries).toList.length ≤ m.toList.length + entries.length := by
  induction entries generalizing m with
  | nil => simp
  | cons first rest ih =>
    have step := length_setEntry_le first.1 first.2 m.toList
    have later := ih (m.set first.1 first.2)
    rw [setAll_cons, List.length_cons]
    rw [toList_set] at later
    omega

/-- Distinct new names are appended in the order in which they are set. -/
theorem toList_setAll {m : OrderedMap α} {entries : List (String × α)}
    (distinct : (m.keys ++ entries.map Prod.fst).Nodup) :
    (m.setAll entries).toList = m.toList ++ entries := by
  induction entries generalizing m with
  | nil => simp
  | cons first rest ih =>
    have new : first.1 ∉ m.toList.map Prod.fst := by
      intro present
      exact (List.nodup_append.1 distinct).2.2 _ present _ (by simp) rfl
    have appended : (m.set first.1 first.2).toList = m.toList ++ [first] :=
      setEntry_of_not_mem new
    have names : (m.set first.1 first.2).keys = m.keys ++ [first.1] := by
      simpa [keys, toList] using congrArg (List.map Prod.fst) appended
    rw [setAll_cons, ih (by simpa [names] using distinct), appended]
    simp

/-- A map that is as long as all that was set into it was given only new names. -/
theorem nodup_of_length_setAll {m : OrderedMap α} {entries : List (String × α)}
    (full : (m.setAll entries).toList.length = m.toList.length + entries.length) :
    (m.keys ++ entries.map Prod.fst).Nodup := by
  induction entries generalizing m with
  | nil => simpa [keys] using m.distinct
  | cons first rest ih =>
    have bound := length_setAll_le (m.set first.1 first.2) rest
    rw [setAll_cons, List.length_cons] at full
    by_cases present : first.1 ∈ m.toList.map Prod.fst
    · have same : (m.set first.1 first.2).toList.length = m.toList.length :=
        length_setEntry_of_mem present
      omega
    · have appended : (m.set first.1 first.2).toList = m.toList ++ [first] :=
        setEntry_of_not_mem present
      have names : (m.set first.1 first.2).keys = m.keys ++ [first.1] := by
        simpa [keys, toList] using congrArg (List.map Prod.fst) appended
      have grown : (m.set first.1 first.2).toList.length = m.toList.length + 1 := by
        simp [appended]
      simpa [names] using ih (m := m.set first.1 first.2) (by omega)

theorem mem_ofList {entries : List (String × α)} {entry : String × α}
    (h : entry ∈ (ofList entries).toList) : entry ∈ entries := by
  rcases mem_setAll h with impossible | present
  · simp at impossible
  · exact present

theorem toList_ofList {entries : List (String × α)} (distinct : (entries.map Prod.fst).Nodup) :
    (ofList entries).toList = entries :=
  toList_setAll (by simpa [keys, empty] using distinct)

theorem keys_ofList (entries : List (String × α)) :
    (ofList entries).keys = (entries.map Prod.fst).eraseDups := by
  have every : ((entries.map Prod.fst).filter fun name => !(empty : OrderedMap α).contains name) =
      entries.map Prod.fst := List.filter_eq_self.2 fun _ _ => rfl
  rw [ofList, keys_setAll, every]
  rfl

/-- A name has the value of the last entry with this name. -/
theorem get?_ofList_eq_some_iff {entries : List (String × α)} {name : String} {value : α} :
    (ofList entries).get? name = some value ↔
      ∃ before after, entries = before ++ (name, value) :: after ∧
        ∀ entry ∈ after, entry.1 ≠ name := by
  have found : (ofList entries).get? name = entries.reverse.lookup name := by
    rw [ofList, get?_setAll]
    exact Option.or_none
  rw [found, List.lookup_eq_some_iff]
  constructor
  · rintro ⟨after, before, split, apart⟩
    refine ⟨before.reverse, after.reverse, ?_, fun entry present => ?_⟩
    · rw [← List.reverse_reverse entries, split]
      simp
    · exact Ne.symm (by simpa using apart entry (List.mem_reverse.1 present))
  · rintro ⟨before, after, rfl, apart⟩
    refine ⟨after.reverse, before.reverse, by simp, fun entry present => ?_⟩
    simpa using Ne.symm (apart entry (List.mem_reverse.1 present))

theorem length_ofList_le (entries : List (String × α)) :
    (ofList entries).toList.length ≤ entries.length := by
  simpa [ofList] using length_setAll_le empty entries

theorem nodup_of_length_ofList {entries : List (String × α)}
    (full : (ofList entries).toList.length = entries.length) :
    (entries.map Prod.fst).Nodup := by
  have grown : (setAll empty entries).toList.length = (empty : OrderedMap α).toList.length +
      entries.length := by simpa [ofList] using full
  simpa [keys, empty] using nodup_of_length_setAll grown

/-- The list of a map's entries makes that map again. -/
theorem ofList_toList (m : OrderedMap α) : ofList m.toList = m := ext (toList_ofList m.distinct)

/-- The order in which the entries of a map are set makes no difference to look-ups. -/
theorem get?_ofList_of_perm {m : OrderedMap α} {entries : List (String × α)}
    (same : entries.Perm m.toList) (name : String) : (ofList entries).get? name = m.get? name := by
  have distinct : (entries.map Prod.fst).Nodup := (same.map Prod.fst).nodup_iff.2 m.distinct
  apply Option.ext
  intro value
  rw [get?_eq_some_iff, get?_eq_some_iff, toList_ofList distinct, same.mem_iff]

/-- If what a list of as many makes has the entries of a map, it is the list of these entries. -/
theorem eq_toList_of_ofList_eq {m : OrderedMap α} {entries : List (String × α)}
    (same : ofList entries = m) (short : entries.length ≤ m.toList.length) :
    entries = m.toList := by
  have bound := length_ofList_le entries
  rw [same] at bound
  have distinct : (entries.map Prod.fst).Nodup := by
    apply nodup_of_length_ofList
    rw [same]
    omega
  rw [← same, toList_ofList distinct]

/-! ## Names erased -/

theorem keys_erase (m : OrderedMap α) (name : String) :
    (m.erase name).keys = m.keys.filter fun key => key ≠ name := by
  simp only [keys, erase, List.filter_map]
  rfl

theorem get?_erase_self (m : OrderedMap α) (name : String) : (m.erase name).get? name = none := by
  rw [get?_eq_none_iff, keys_erase]
  simp

theorem get?_erase_of_ne (m : OrderedMap α) {name other : String} (different : other ≠ name) :
    (m.erase name).get? other = m.get? other := by
  apply Option.ext
  intro value
  have kept : (other, value) ∈ (m.erase name).toList ↔ (other, value) ∈ m.toList := by
    simp [erase, toList, different]
  rw [get?_eq_some_iff, get?_eq_some_iff, kept]

/-- Erasing several names leaves the entries of all others. -/
theorem toList_foldl_erase (m : OrderedMap α) (names : List String) :
    (names.foldl erase m).toList = m.toList.filter fun entry => entry.1 ∉ names := by
  induction names generalizing m with
  | nil => exact (List.filter_eq_self.2 (by simp)).symm
  | cons name rest ih =>
    rw [List.foldl_cons, ih]
    simp only [toList, erase, List.filter_filter, List.mem_cons, not_or, Bool.decide_and]
    exact List.filter_congr fun entry _ => Bool.and_comm _ _

/-- A map is empty once all its names are erased. -/
theorem foldl_erase_keys (m : OrderedMap α) : m.keys.foldl erase m = empty := by
  apply ext
  rw [toList_foldl_erase, toList_empty, List.filter_eq_nil_iff]
  intro entry present
  have known : entry.1 ∈ m.keys := List.mem_map.2 ⟨entry, present, rfl⟩
  simpa using known

end InputPanel.OrderedMap
