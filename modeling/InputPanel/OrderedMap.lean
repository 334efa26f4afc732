/-!
# Ordered maps

A map from names to values that keeps the order in which names were first set.
Setting a present name keeps its place; a name erased and set again goes last.
That the names are distinct is part of the type.
-/

namespace InputPanel

structure OrderedMap (α : Type) where
  entries : List (String × α)
  distinct : (entries.map Prod.fst).Nodup

namespace OrderedMap

variable {α β : Type}

/-- The entries with one name set, in its place or at the end. -/
def setEntry (name : String) (value : α) : List (String × α) → List (String × α)
  | [] => [(name, value)]
  | (key, old) :: rest =>
    if key = name then (key, value) :: rest else (key, old) :: setEntry name value rest

theorem keys_setEntry_of_mem {name : String} {value : α} {entries : List (String × α)}
    (h : name ∈ entries.map Prod.fst) :
    (setEntry name value entries).map Prod.fst = entries.map Prod.fst := by
  induction entries with
  | nil => simp at h
  | cons entry rest ih =>
    obtain ⟨key, old⟩ := entry
    by_cases same : key = name
    · simp [setEntry, same]
    · have later : name ∈ rest.map Prod.fst := by
        simp only [List.map_cons, List.mem_cons] at h
        exact h.resolve_left (fun e => same e.symm)
      simp [setEntry, same, ih later]

theorem keys_setEntry_of_not_mem {name : String} {value : α} {entries : List (String × α)}
    (h : name ∉ entries.map Prod.fst) :
    (setEntry name value entries).map Prod.fst = entries.map Prod.fst ++ [name] := by
  induction entries with
  | nil => simp [setEntry]
  | cons entry rest ih =>
    obtain ⟨key, old⟩ := entry
    simp only [List.map_cons, List.mem_cons, not_or] at h
    have different : ¬ key = name := fun e => h.1 e.symm
    simp [setEntry, different, ih h.2]

theorem nodup_setEntry {name : String} {value : α} {entries : List (String × α)}
    (h : (entries.map Prod.fst).Nodup) :
    ((setEntry name value entries).map Prod.fst).Nodup := by
  by_cases present : name ∈ entries.map Prod.fst
  · rw [keys_setEntry_of_mem present]
    exact h
  · rw [keys_setEntry_of_not_mem present]
    refine List.nodup_append.2 ⟨h, by simp, ?_⟩
    intro key hkey other hother same
    simp only [List.mem_singleton] at hother
    exact present (hother ▸ same ▸ hkey)

def empty : OrderedMap α := ⟨[], by simp⟩

instance : Inhabited (OrderedMap α) := ⟨empty⟩

instance : EmptyCollection (OrderedMap α) := ⟨empty⟩

def toList (m : OrderedMap α) : List (String × α) := m.entries

def get? (m : OrderedMap α) (name : String) : Option α := m.entries.lookup name

def getD (m : OrderedMap α) (name : String) (default : α) : α := (m.get? name).getD default

def contains (m : OrderedMap α) (name : String) : Bool := (m.get? name).isSome

def keys (m : OrderedMap α) : List String := m.entries.map Prod.fst

def values (m : OrderedMap α) : List α := m.entries.map Prod.snd

def size (m : OrderedMap α) : Nat := m.entries.length

def isEmpty (m : OrderedMap α) : Bool := m.entries.isEmpty

def set (m : OrderedMap α) (name : String) (value : α) : OrderedMap α :=
  ⟨setEntry name value m.entries, nodup_setEntry m.distinct⟩

def erase (m : OrderedMap α) (name : String) : OrderedMap α :=
  ⟨m.entries.filter (fun entry => entry.1 ≠ name),
    m.distinct.sublist (List.filter_sublist.map Prod.fst)⟩

/-- Sets every entry of a list in turn. -/
def setAll (m : OrderedMap α) (entries : List (String × α)) : OrderedMap α :=
  entries.foldl (fun acc entry => acc.set entry.1 entry.2) m

def ofList (entries : List (String × α)) : OrderedMap α := empty.setAll entries

/-- The entries of `other` set over those of `m`. -/
def merge (m other : OrderedMap α) : OrderedMap α := m.setAll other.entries

theorem ext {m n : OrderedMap α} (h : m.toList = n.toList) : m = n := by
  cases m
  cases n
  cases h
  rfl

end OrderedMap

end InputPanel
