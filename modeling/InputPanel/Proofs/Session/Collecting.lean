import InputPanel.Proofs.Field.Compile
import InputPanel.Session

/-!
# The fields that a session collects

The fields of a panel are made of its field nodes, in the order in which these
stand, each by itself: a node that its gates do not admit or that makes no sense
gives none. Whether the panel is admitted does not depend on the store, so a
panel that has once been compiled is never left out afterwards.
-/

namespace InputPanel.Session

variable {session : Session} {fields : List Field} {store : Store}

/-- The field that a node gives by itself, if its gates admit it and it can be compiled. -/
def fieldOf? (gates : Gates) (compiler : Compiler) (node : Node) : Option Field :=
  if (gates.admitsField node).value then (compiler.compile node).value.toOption else none

theorem fieldOf?_eq_some_iff {gates : Gates} {compiler : Compiler} {node : Node} {field : Field} :
    fieldOf? gates compiler node = some field ↔
      (gates.admitsField node).value = true ∧ (compiler.compile node).value = .ok field := by
  unfold fieldOf?
  split
  · next admitted =>
    rw [admitted]
    cases (compiler.compile node).value <;> simp [Except.toOption]
  · next excluded => simp [excluded]

theorem eq_filterMap_of_collectNodes {gates : Gates} {compiler : Compiler} {nodes : List Node}
    (collected : (collectNodes gates compiler nodes).value = .ok fields) :
    fields = nodes.filterMap (fieldOf? gates compiler) := by
  induction nodes generalizing fields with
  | nil =>
    cases collected
    rfl
  | cons node rest ih =>
    rw [collectNodes, Noted.value_bind] at collected
    split at collected
    · next admitted =>
      rw [Noted.value_bind] at collected
      split at collected
      · next field made =>
        have given := fieldOf?_eq_some_iff.2 ⟨admitted, made⟩
        rw [Noted.value_bind] at collected
        split at collected
        · next others all =>
          cases collected
          rw [List.filterMap_cons_some given, ← ih all]
        · cases collected
      · next error wrong =>
        have skipped : fieldOf? gates compiler node = none := by
          simp [fieldOf?, wrong, Except.toOption]
        rw [List.filterMap_cons_none skipped]
        exact ih collected
      · cases collected
    · next excluded =>
      have skipped : fieldOf? gates compiler node = none := by simp [fieldOf?, excluded]
      rw [List.filterMap_cons_none skipped]
      exact ih collected

theorem value_collect (session : Session) (store : Store) :
    (session.collect store).value =
      if (session.gates store).admitsPanel session.panel then
        (collectNodes (session.gates store) (session.compiler store)
          (session.panel.childrenNamed "field")).value.map some
      else .ok none := by
  rw [collect]
  split
  · rw [Noted.value_bind]
    cases (collectNodes (session.gates store) (session.compiler store)
      (session.panel.childrenNamed "field")).value with
    | ok fields => rfl
    | error failure => rfl
  · rfl

/-- What a collected panel consists of: the fields that its nodes give, in document order. -/
theorem eq_filterMap_of_collect (collected : (session.collect store).value = .ok (some fields)) :
    fields = (session.panel.childrenNamed "field").filterMap
      (fieldOf? (session.gates store) (session.compiler store)) := by
  rw [value_collect] at collected
  split at collected
  · match all : (collectNodes (session.gates store) (session.compiler store)
        (session.panel.childrenNamed "field")).value with
    | .ok made =>
      rw [all] at collected
      cases collected
      exact eq_filterMap_of_collectNodes all
    | .error failure =>
      rw [all] at collected
      cases collected
  · cases collected

/-- A collected field was compiled from some node. -/
theorem exists_node_of_mem_collect (collected : (session.collect store).value = .ok (some fields))
    {field : Field} (present : field ∈ fields) :
    ∃ node, ((session.compiler store).compile node).value = .ok field := by
  rw [eq_filterMap_of_collect collected, List.mem_filterMap] at present
  obtain ⟨node, _, given⟩ := present
  exact ⟨node, (fieldOf?_eq_some_iff.1 given).2⟩

/-- The gates of the panel read no variable. -/
theorem admitsPanel_gates (session : Session) (store other : Store) :
    (session.gates store).admitsPanel session.panel =
      (session.gates other).admitsPanel session.panel := rfl

theorem collect_eq_none_iff :
    (session.collect store).value = .ok none ↔
      (session.gates store).admitsPanel session.panel = false := by
  rw [value_collect]
  split
  · next admitted =>
    refine iff_of_false ?_ (by simp [admitted])
    cases (collectNodes (session.gates store) (session.compiler store)
      (session.panel.childrenNamed "field")).value with
    | ok made => rintro ⟨⟩
    | error failure => rintro ⟨⟩
  · next excluded => exact iff_of_true rfl (by simpa using excluded)

/-- A panel that has once been compiled is admitted whatever is stored later. -/
theorem collect_ne_none (collected : (session.collect store).value = .ok (some fields))
    (later : Store) : (session.collect later).value ≠ .ok none := by
  intro excluded
  have never : (session.collect store).value = .ok none := by
    rw [collect_eq_none_iff] at excluded ⊢
    rw [← excluded]
    exact admitsPanel_gates session store later
  rw [collected] at never
  cases never

end InputPanel.Session
