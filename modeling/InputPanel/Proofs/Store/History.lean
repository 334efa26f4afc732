import InputPanel.Proofs.Node.Faults
import InputPanel.Proofs.OrderedMap
import InputPanel.Store.Operation
import Mathlib.Logic.ExistsUnique

/-!
# The store as its history tells it

What happens to a store is that values are written and names are removed. The
history of a store says what it holds: a name has the text of the value that was
last written, unless it was removed since, and the names stand in the order of the
times at which they came in. A name comes in when it is written while absent.
Writing it again does not move it. Removing it and writing it again does. A value
that has no text is not written.
-/

namespace InputPanel.Store

/-- What happens to a name. -/
inductive Change where
  | written (name : String) (value : Data)
  | removed (name : String)

namespace Change

def name : Change → String
  | written name _ => name
  | removed name => name

/-- The store after a change. -/
def apply (store : Store) : Change → Store
  | written name value => store.write name value
  | removed name => store.erase name

end Change

/-- What an operation is to write, in turn. What is there already is not given a default. -/
def Operation.entries (store : Store) : Operation → List (String × Data)
  | .set name value => [(name, value)]
  | .assign name value => [(name, value)]
  | .setDefault name value => if store.contains name then [] else [(name, value)]
  | .update entries => entries
  | _ => []

/-- The names that an operation removes, in turn. What is not there is not removed, and all names are
removed by taking the first one out until none is left. -/
def Operation.removals (store : Store) : Operation → List String
  | .delete name => if store.contains name then [name] else []
  | .pop name _ => if store.contains name then [name] else []
  | .popFirst => store.keys.take 1
  | .clear => store.keys
  | _ => []

/-- What writing entries changes: they are written up to one whose value has no text. -/
def writes (room : Nat) (entries : List (String × Data)) : List Change :=
  (entries.takeWhile fun entry => (entry.2.textFault? room).isNone).map fun entry =>
    .written entry.1 entry.2

/-- What an operation changes, in turn. -/
def Operation.changes (room : Nat) (store : Store) (operation : Operation) : List Change :=
  writes room (operation.entries store) ++ (operation.removals store).map .removed

/-- What operations change, the last change first. -/
def history (room : Nat) (store : Store) : List Operation → List Change
  | [] => []
  | operation :: rest =>
    history room (store.perform room operation).1 rest ++ (operation.changes room store).reverse

/-! ## What a history tells -/

/-- Whether the last that happened to a name is that a value was written. -/
def LastWritten (past : List Change) (name : String) (value : Data) : Prop :=
  ∃ later earlier, past = later ++ .written name value :: earlier ∧
    ∀ change ∈ later, change.name ≠ name

/-- Whether a name came in at a time and has been there since: it was written while absent, and was
not removed later. Times count the changes before. -/
def CameIn (past : List Change) (time : Nat) (name : String) : Prop :=
  ∃ later value earlier, past = later ++ .written name value :: earlier ∧ earlier.length = time ∧
    (∀ held, ¬ LastWritten earlier name held) ∧ .removed name ∉ later

variable {room : Nat} {store : Store} {past : List Change} {change : Change} {name : String}
  {time : Nat}

theorem not_lastWritten_nil (value : Data) : ¬ LastWritten [] name value := by
  rintro ⟨later, earlier, split, _⟩
  simp at split

theorem lastWritten_cons {value : Data} :
    LastWritten (change :: past) name value ↔
      change = .written name value ∨ change.name ≠ name ∧ LastWritten past name value := by
  constructor
  · rintro ⟨later, earlier, split, others⟩
    rcases List.cons_eq_append_iff.1 split with ⟨rfl, same⟩ | ⟨rest, rfl, rfl⟩
    · exact .inl (List.cons.inj same).1.symm
    · exact .inr ⟨others change List.mem_cons_self, rest, earlier, rfl,
        fun one inside => others one (List.mem_cons_of_mem _ inside)⟩
  · rintro (rfl | ⟨other, later, earlier, rfl, others⟩)
    · exact ⟨[], past, rfl, by simp⟩
    · refine ⟨change :: later, earlier, rfl, ?_⟩
      intro one inside
      rcases List.mem_cons.1 inside with rfl | inside
      · exact other
      · exact others one inside

theorem not_cameIn_nil : ¬ CameIn [] time name := by
  rintro ⟨later, value, earlier, split, _⟩
  simp at split

theorem cameIn_cons :
    CameIn (change :: past) time name ↔
      (past.length = time ∧ (∃ value, change = .written name value) ∧
        ∀ held, ¬ LastWritten past name held) ∨
      change ≠ .removed name ∧ CameIn past time name := by
  constructor
  · rintro ⟨later, value, earlier, split, since, absent, stays⟩
    rcases List.cons_eq_append_iff.1 split with ⟨rfl, same⟩ | ⟨rest, rfl, rfl⟩
    · obtain ⟨rfl, rfl⟩ := List.cons.inj same
      exact .inl ⟨since, ⟨value, rfl⟩, absent⟩
    · rw [List.mem_cons, not_or] at stays
      exact .inr ⟨Ne.symm stays.1, rest, value, earlier, rfl, since, absent, stays.2⟩
  · rintro (⟨since, ⟨value, rfl⟩, absent⟩ | ⟨kept, later, value, earlier, rfl, since, absent, stays⟩)
    · exact ⟨[], value, past, rfl, since, absent, by simp⟩
    · refine ⟨change :: later, value, earlier, rfl, since, absent, ?_⟩
      rw [List.mem_cons, not_or]
      exact ⟨Ne.symm kept, stays⟩

theorem CameIn.lt_length (came : CameIn past time name) : time < past.length := by
  obtain ⟨later, value, earlier, rfl, rfl, _⟩ := came
  rw [List.length_append, List.length_cons]
  omega

/-- The names that are there are those that came in. -/
theorem exists_cameIn_iff :
    (∃ time, CameIn past time name) ↔ ∃ value, LastWritten past name value := by
  induction past with
  | nil =>
    refine iff_of_false ?_ ?_
    · rintro ⟨time, came⟩
      exact not_cameIn_nil came
    · rintro ⟨value, last⟩
      exact not_lastWritten_nil value last
  | cons change past ih =>
    simp only [cameIn_cons, lastWritten_cons]
    cases change with
    | written key value =>
      by_cases same : key = name
      · subst same
        by_cases held : ∃ value, LastWritten past key value
        · obtain ⟨time, came⟩ := ih.2 held
          exact iff_of_true ⟨time, .inr ⟨by simp, came⟩⟩ ⟨value, .inl rfl⟩
        · exact iff_of_true ⟨_, .inl ⟨rfl, ⟨value, rfl⟩, not_exists.1 held⟩⟩ ⟨value, .inl rfl⟩
      · simpa [same, Change.name] using ih
    | removed key =>
      by_cases same : key = name
      · simp [same, Change.name]
      · simpa [same, Change.name] using ih

/-- A name that is there came in once. -/
theorem CameIn.unique {other : Nat} (first : CameIn past time name)
    (second : CameIn past other name) : time = other := by
  induction past with
  | nil => exact absurd first not_cameIn_nil
  | cons change past ih =>
    rw [cameIn_cons] at first second
    rcases first with ⟨rfl, _, absent⟩ | ⟨_, first⟩ <;>
      rcases second with ⟨rfl, _, absentToo⟩ | ⟨_, second⟩
    · rfl
    · obtain ⟨value, last⟩ := exists_cameIn_iff.1 ⟨_, second⟩
      exact absurd last (absent value)
    · obtain ⟨value, last⟩ := exists_cameIn_iff.1 ⟨_, first⟩
      exact absurd last (absentToo value)
    · exact ih first second

/-! ## Stores and their histories -/

/-- Whether a history tells what a store holds, and in which order. -/
structure Tells (past : List Change) (store : Store) : Prop where
  holds : ∀ name text, store.get? name = some text ↔
    ∃ value, LastWritten past name value ∧ text = value.storedText
  order : store.keys.Pairwise fun first second =>
    ∀ i j, CameIn past i first → CameIn past j second → i < j

theorem tells_empty : Tells [] .empty where
  holds name text := by
    refine iff_of_false (by rintro ⟨⟩) ?_
    rintro ⟨value, last, _⟩
    exact not_lastWritten_nil value last
  order := List.Pairwise.nil

theorem Tells.mem_keys_iff (tells : Tells past store) (name : String) :
    name ∈ store.keys ↔ ∃ value, LastWritten past name value := by
  rw [← OrderedMap.contains_iff, OrderedMap.contains, Option.isSome_iff_exists]
  simp only [tells.holds]
  constructor
  · rintro ⟨text, value, last, _⟩
    exact ⟨value, last⟩
  · rintro ⟨value, last⟩
    exact ⟨_, value, last, rfl⟩

/-- Writing a name makes no other come in, and not that name either if it is there. -/
theorem cameIn_written {key : String} {value : Data}
    (old : name = key → ∃ held, LastWritten past key held) :
    CameIn (.written key value :: past) time name ↔ CameIn past time name := by
  rw [cameIn_cons]
  constructor
  · rintro (⟨_, ⟨_, written⟩, absent⟩ | ⟨_, came⟩)
    · cases written
      obtain ⟨held, last⟩ := old rfl
      exact absurd last (absent held)
    · exact came
  · intro came
    exact .inr ⟨by simp, came⟩

theorem Tells.write (tells : Tells past store) (key : String) (value : Data) :
    Tells (.written key value :: past) (store.write key value) where
  holds name text := by
    by_cases same : name = key
    · subst same
      rw [Store.write, OrderedMap.get?_set_self]
      simp [lastWritten_cons, Change.name, eq_comm]
    · rw [Store.write, OrderedMap.get?_set_of_ne store same, tells.holds]
      simp [lastWritten_cons, Change.name, Ne.symm same]
  order := by
    rw [Store.write, OrderedMap.keys_set]
    -- A name that is there does not come in again, another one comes in after all that are there.
    split
    · next present =>
      have held := (tells.mem_keys_iff key).1 (OrderedMap.contains_iff.1 present)
      refine tells.order.imp fun earlier i j first second => earlier i j ?_ ?_
      · exact (cameIn_written fun _ => held).1 first
      · exact (cameIn_written fun _ => held).1 second
    · next new =>
      have absent : key ∉ store.keys := mt OrderedMap.contains_iff.2 new
      have others {name : String} (present : name ∈ store.keys) {time : Nat}
          (came : CameIn (.written key value :: past) time name) : CameIn past time name :=
        (cameIn_written fun same => absurd (same ▸ present) absent).1 came
      refine List.pairwise_append.2 ⟨?_, List.pairwise_singleton _ _, ?_⟩
      · refine tells.order.imp_of_mem fun here there earlier i j first second => ?_
        exact earlier i j (others here first) (others there second)
      · intro earlier present last isKey i j first second
        rw [List.mem_singleton.1 isKey, cameIn_cons] at second
        have before : i < past.length := (others present first).lt_length
        rcases second with ⟨rfl, _⟩ | ⟨_, came⟩
        · exact before
        · exact absurd ((tells.mem_keys_iff key).2 (exists_cameIn_iff.1 ⟨j, came⟩)) absent

theorem Tells.erase (tells : Tells past store) (key : String) :
    Tells (.removed key :: past) (store.erase key) where
  holds name text := by
    by_cases same : name = key
    · subst same
      rw [OrderedMap.get?_erase_self]
      simp [lastWritten_cons, Change.name]
    · rw [OrderedMap.get?_erase_of_ne store same, tells.holds]
      simp [lastWritten_cons, Change.name, Ne.symm same]
  order := by
    have before {name : String} {time : Nat} (came : CameIn (.removed key :: past) time name) :
        CameIn past time name := by
      rcases cameIn_cons.1 came with ⟨_, ⟨_, written⟩, _⟩ | ⟨_, came⟩
      · cases written
      · exact came
    rw [OrderedMap.keys_erase]
    refine (tells.order.filter _).imp fun earlier i j first second => ?_
    exact earlier i j (before first) (before second)

/-- A change is told by adding it to the history. -/
theorem Tells.apply (tells : Tells past store) (change : Change) :
    Tells (change :: past) (change.apply store) := by
  cases change with
  | written key value => exact tells.write key value
  | removed key => exact tells.erase key

theorem Tells.applyAll (tells : Tells past store) (changes : List Change) :
    Tells (changes.reverse ++ past) (changes.foldl Change.apply store) := by
  induction changes generalizing past store with
  | nil => exact tells
  | cons change rest ih =>
    rw [List.reverse_cons, List.append_assoc]
    exact ih (tells.apply change)

/-! ## Operations -/

theorem writeAll_eq (room : Nat) (store : Store) (entries : List (String × Data)) :
    store.writeAll room entries = ((writes room entries).foldl Change.apply store,
      match entries.findSome? fun entry => entry.2.textFault? room with
      | some failure => .error failure
      | none => .ok .null) := by
  induction entries generalizing store with
  | nil => rfl
  | cons entry rest ih =>
    obtain ⟨name, value⟩ := entry
    cases fault : value.textFault? room with
    | some failure => simp [writeAll, writes, fault]
    | none =>
      rw [writeAll, fault]
      simpa [writes, fault, Change.apply] using ih (store.write name value)

theorem tryWrite_eq (room : Nat) (store : Store) (name : String) (value answer : Data) :
    store.tryWrite room name value answer =
      ((writes room [(name, value)]).foldl Change.apply store,
        match value.textFault? room with
        | some failure => .error failure
        | none => .ok answer) := by
  cases fault : value.textFault? room <;> simp [tryWrite, writes, fault, Change.apply]

/-- What an operation leaves comes of what it changes. -/
theorem perform_eq (room : Nat) (store : Store) (operation : Operation) :
    (store.perform room operation).1 =
      (operation.changes room store).foldl Change.apply store := by
  cases operation with
  | set name value | assign name value =>
    simp [perform, tryWrite_eq, Operation.changes, Operation.entries, Operation.removals]
  | delete name =>
    cases held : store.get? name <;>
      simp [perform, pop?, Operation.changes, Operation.entries, Operation.removals, writes,
        OrderedMap.contains, held, Change.apply]
  | pop name default =>
    cases held : store.get? name <;> cases default <;>
      simp [perform, pop?, Operation.changes, Operation.entries, Operation.removals, writes,
        OrderedMap.contains, held, Change.apply]
  | popFirst =>
    obtain ⟨entries, distinct⟩ := store
    cases entries <;> rfl
  | setDefault name value =>
    cases held : store.get? name <;>
      simp [perform, tryWrite_eq, Operation.changes, Operation.entries, Operation.removals,
        OrderedMap.contains, held, writes]
  | update entries =>
    simp [perform, writeAll_eq, Operation.changes, Operation.entries, Operation.removals]
  | clear =>
    have emptied : store.keys.foldl (fun left name => left.erase name) store = store.clear :=
      OrderedMap.foldl_erase_keys store
    rw [Operation.changes, Operation.removals, List.foldl_append, List.foldl_map]
    exact emptied.symm

/-- A run of operations is told by the history that it adds. -/
theorem Tells.performAll (tells : Tells past store) (operations : List Operation) :
    Tells (history room store operations ++ past) (store.performAll room operations) := by
  induction operations generalizing past store with
  | nil => exact tells
  | cons operation rest ih =>
    rw [history, List.append_assoc]
    have next := tells.applyAll (operation.changes room store)
    rw [← perform_eq] at next
    exact ih next

/-- Whether an operation needs a name that is not there. -/
def Operation.Misses (store : Store) : Operation → Prop
  | .delete name => name ∉ store.keys
  | .pop name none => name ∉ store.keys
  | .popFirst => store.keys = []
  | _ => False

/-- What keeps the first value without a text, of those that an operation is to write, from having
one. -/
def Operation.textFault? (room : Nat) (store : Store) (operation : Operation) : Option Failure :=
  (operation.entries store).findSome? fun entry => entry.2.textFault? room

theorem not_missingKey_of_textFault? {operation : Operation} {failure : Failure}
    (faulty : operation.textFault? room store = some failure) : failure ≠ .missingKey := by
  obtain ⟨entry, -, found⟩ := List.exists_of_findSome?_eq_some faulty
  have kinds := Data.mem_textFaults found
  rintro rfl
  exact absurd kinds (by decide)

/-- An operation fails for a name that is not there, and leaves the store as it is then, or for a
value that has no text. -/
theorem perform_eq_error_iff {operation : Operation} {failure : Failure} :
    (store.perform room operation).2 = .error failure ↔
      failure = .missingKey ∧ operation.Misses store ∧ (store.perform room operation).1 = store ∨
      failure ≠ .missingKey ∧ operation.textFault? room store = some failure := by
  have missing (name : String) : name ∉ store.keys ↔ store.get? name = none :=
    OrderedMap.get?_eq_none_iff.symm
  have unwritable : failure ≠ .missingKey ∧ operation.textFault? room store = some failure ↔
      operation.textFault? room store = some failure :=
    and_iff_right_of_imp not_missingKey_of_textFault?
  rw [unwritable]
  cases operation with
  | delete name =>
    cases held : store.get? name <;>
      simp [perform, pop?, Operation.Misses, Operation.textFault?, Operation.entries, missing, held,
        eq_comm]
  | pop name default =>
    cases default <;> cases held : store.get? name <;>
      simp [perform, pop?, Operation.Misses, Operation.textFault?, Operation.entries, missing, held,
        eq_comm]
  | popFirst =>
    obtain ⟨entries, distinct⟩ := store
    cases entries with
    | nil =>
      constructor
      · rintro ⟨⟩
        exact .inl ⟨rfl, rfl, rfl⟩
      · rintro (⟨rfl, _⟩ | ⟨⟨⟩⟩)
        rfl
    | cons entry rest =>
      refine iff_of_false ?_ ?_
      · rintro ⟨⟩
      · rintro (⟨_, ⟨⟩, _⟩ | ⟨⟨⟩⟩)
  | setDefault name value =>
    cases held : store.get? name <;> cases fault : value.textFault? room <;>
      simp [perform, tryWrite_eq, Operation.Misses, Operation.textFault?, Operation.entries,
        OrderedMap.contains, held, fault]
  | set name value | assign name value =>
    cases fault : value.textFault? room <;>
      simp [perform, tryWrite_eq, Operation.Misses, Operation.textFault?, Operation.entries, fault]
  | update entries =>
    simp only [perform, writeAll_eq, Operation.Misses, Operation.textFault?, Operation.entries]
    split <;> simp [*]
  | clear => simp [perform, Operation.Misses, Operation.textFault?, Operation.entries]

/-- The first entry is taken out, and answered. -/
theorem perform_popFirst {text : String} {rest : List (String × String)}
    (first : store.toList = (name, text) :: rest) :
    (store.perform room .popFirst).2 = .ok (.pair (.text name) (.text text)) ∧
      (store.perform room .popFirst).1.toList = rest := by
  have answered : store.perform room .popFirst =
      (store.erase name, .ok (.pair (.text name) (.text text))) := by
    simp [perform, popFirst?, first]
  have apart : ∀ entry ∈ rest, entry.1 ≠ name := by
    have distinct : (store.toList.map Prod.fst).Nodup := store.distinct
    rw [first, List.map_cons, List.nodup_cons] at distinct
    intro entry present same
    exact distinct.1 (List.mem_map.2 ⟨entry, present, same⟩)
  rw [answered]
  refine ⟨rfl, ?_⟩
  have left : (store.erase name).toList = store.toList.filter fun entry => entry.1 ≠ name := rfl
  rw [left, first, List.filter_cons_of_neg (by simp)]
  exact List.filter_eq_self.2 fun entry present => by simpa using apart entry present

/-- After any operations the names of a store are distinct, each holds the text of the value that was
last written, nothing for null, unless it was removed since, and they stand in the order of the times
at which they came in, of which each has one. What is taken out first is the first of them. Only an
operation that needs a name that is not there fails for that name, and it leaves the store as it is;
others fail for a value that has no text. -/
theorem performAll_tells (room : Nat) (operations : List Operation) :
    let store : Store := performAll room .empty operations
    let past := history room .empty operations
    store.keys.Nodup ∧
      (∀ name text, store.get? name = some text ↔
        ∃ value, LastWritten past name value ∧ text = value.storedText) ∧
      (∀ name ∈ store.keys, ∃! time, CameIn past time name) ∧
      (store.keys.Pairwise fun first second =>
        ∀ i j, CameIn past i first → CameIn past j second → i < j) ∧
      (∀ name text rest, store.toList = (name, text) :: rest →
        (store.perform room .popFirst).2 = .ok (.pair (.text name) (.text text)) ∧
          (store.perform room .popFirst).1.toList = rest) ∧
      ∀ operation failure, (store.perform room operation).2 = .error failure ↔
        failure = .missingKey ∧ operation.Misses store ∧ (store.perform room operation).1 = store ∨
        failure ≠ .missingKey ∧ operation.textFault? room store = some failure := by
  intro store past
  have tells : Tells past store := by
    simpa using tells_empty.performAll operations
  refine ⟨store.distinct, tells.holds, ?_, tells.order, fun _ _ _ => perform_popFirst,
    fun _ _ => perform_eq_error_iff⟩
  intro name present
  obtain ⟨time, came⟩ := exists_cameIn_iff.2 ((tells.mem_keys_iff name).1 present)
  exact ⟨time, came, fun other again => again.unique came⟩

/-- Writing a name again moves it only if it was removed in between. -/
example : (performAll 0 .empty [.set "a" (.int 1), .set "b" .null, .assign "b" (.text "2"),
    .delete "a", .setDefault "a" (.bool true)]).toList = [("b", "2"), ("a", "True")] := rfl

end InputPanel.Store
