import InputPanel.Proofs.Field.Recompiling
import InputPanel.Proofs.Properties.Spelling
import InputPanel.Proofs.Session.Replay

/-!
# Templates and what they are filled in for

A template names the variables of the panel, and properties are put into the store
for these variables, field by field. Which they are depends on the store by the
conditions of the fields alone: a field that is compiled from another store sets
the same variable, or fails in the same way. So a template that is filled in may
be applied to another store, if the conditions come out as they did.
-/

namespace InputPanel.Session

variable {session : Session} {store : Store}

section Names

/-- Whether the condition of every field of the panel comes out the same for two stores. -/
def SameVerdicts (session : Session) (store other : Store) : Prop :=
  ∀ node ∈ session.panel.childrenNamed "field",
    ((session.gates store).conditionHolds (node.get? "conditionid")).value =
      ((session.gates other).conditionHolds (node.get? "conditionid")).value

theorem value_admitsField_of_sameVerdicts {other : Store}
    (same : session.SameVerdicts store other) {node : Node}
    (present : node ∈ session.panel.childrenNamed "field") :
    ((session.gates store).admitsField node).value =
      ((session.gates other).admitsField node).value := by
  have verdict := same node present
  unfold Gates.admitsField Gates.admits
  -- The packs and the family do not come from the store.
  have unstored : (session.gates other).admitsPacks (Gates.packNames node) =
      (session.gates store).admitsPacks (Gates.packNames node) := rfl
  have running : (session.gates other).admitsFamilies (Gates.families node) =
      (session.gates store).admitsFamilies (Gates.families node) := rfl
  rw [unstored, running]
  split
  · exact verdict
  · rfl

/-- What the first of some nodes adds to the variables that the others set. -/
theorem targets_collectNodes_cons (gates : Gates) (compiler : Compiler) (node : Node)
    (rest : List Node) :
    (collectNodes gates compiler (node :: rest)).value.map (List.map Field.target) =
      let later := (collectNodes gates compiler rest).value.map (List.map Field.target)
      if (gates.admitsField node).value then
        match (compiler.compile node).value.map Field.target with
        | .ok target => later.map (target :: ·)
        | .error (.misconfigured _) => later
        | .error (.crashed failure) => .error failure
      else later := by
  rw [collectNodes, Noted.value_bind]
  dsimp only
  split
  · rw [Noted.value_bind]
    cases (compiler.compile node).value with
    | ok field =>
      dsimp only
      rw [Noted.value_bind]
      cases (collectNodes gates compiler rest).value with
      | ok fields => rfl
      | error failure => rfl
    | error trouble =>
      cases trouble with
      | misconfigured error => rfl
      | crashed failure => rfl
  · rfl

/-- Gates that admit the same nodes give fields for the same variables, whatever is stored, or fail
in the same way. -/
theorem targets_collectNodes (compiler : Compiler) {gates others : Gates} {nodes : List Node}
    (same : ∀ node ∈ nodes, (gates.admitsField node).value = (others.admitsField node).value)
    (store : Store) :
    (collectNodes gates compiler nodes).value.map (List.map Field.target) =
      (collectNodes others (compiler.withStore store) nodes).value.map
        (List.map Field.target) := by
  induction nodes with
  | nil => rfl
  | cons node rest ih =>
    rw [targets_collectNodes_cons, targets_collectNodes_cons, same node List.mem_cons_self,
      compiler.target_compile_withStore store node,
      ih fun other present => same other (List.mem_cons_of_mem _ present)]

theorem map_variablesOf (made : Except Failure (List Field)) :
    (made.map some).map variablesOf = (made.map (List.map Field.target)).map fun targets =>
      (targets.filterMap id).filter fun name => !name.isEmpty := by
  cases made with
  | error failure => rfl
  | ok fields =>
    have same : (fields.map Field.target).filterMap id = fields.filterMap Field.target :=
      List.filterMap_map
    simp only [Except.map, variablesOf, Option.getD_some, same]

/-- Stores for which the conditions come out the same give the same variables. -/
theorem variablesOf_collect_of_sameVerdicts {other : Store}
    (same : session.SameVerdicts store other) :
    (session.collect other).value.map variablesOf = (session.collect store).value.map variablesOf := by
  have all := targets_collectNodes (session.compiler store)
    (fun node => value_admitsField_of_sameVerdicts same) other
  have compiler : (session.compiler store).withStore other = session.compiler other := rfl
  rw [value_collect, value_collect, session.admitsPanel_gates other store]
  split
  · rw [map_variablesOf, map_variablesOf, all, compiler]
  · rfl

end Names

section Applying

/-- What comes of putting properties into a store for some names. -/
structure Applied (properties : OrderedMap String) (store : Store) (names : List String)
    (after : Store) : Prop where
  given : ∀ name ∈ names, ∀ value, properties.get? name = some value →
    after.get? name = some value
  others : ∀ name, name ∉ names ∨ properties.get? name = none →
    after.get? name = store.get? name
  order : after.keys = store.keys ++ (names.filter fun name =>
    properties.contains name && !store.contains name).eraseDups

theorem applyTo_eq_setAll (properties : OrderedMap String) (store : Store) (names : List String) :
    applyTo properties store names = store.setAll (names.filterMap fun name =>
      (properties.get? name).map (name, ·)) := by
  induction names generalizing store with
  | nil => rfl
  | cons first rest ih =>
    have step : applyTo properties store (first :: rest) =
        applyTo properties (applyTo properties store [first]) rest := rfl
    rw [step, ih, List.filterMap_cons]
    cases given : properties.get? first with
    | none => simp [applyTo, given]
    | some value => simp [applyTo, given, OrderedMap.setAll_cons]

/-- Names that are stored stay where they are, and new ones come after them in the order in which
they are first set. -/
theorem keys_applyTo (properties : OrderedMap String) (store : Store) (names : List String) :
    (applyTo properties store names).keys = store.keys ++ (names.filter fun name =>
      properties.contains name && !store.contains name).eraseDups := by
  have given : (names.filterMap fun name => (properties.get? name).map (name, ·)).map Prod.fst =
      names.filter properties.contains := by
    induction names with
    | nil => rfl
    | cons first rest ih =>
      rw [List.filterMap_cons, List.filter_cons, OrderedMap.contains]
      cases properties.get? first with
      | none => exact ih
      | some value => exact congrArg (first :: ·) ih
  rw [applyTo_eq_setAll, OrderedMap.keys_setAll, given, List.filter_filter]
  simp only [Bool.and_comm]

theorem applied_applyTo (properties : OrderedMap String) (store : Store) (names : List String) :
    Applied properties store names (applyTo properties store names) where
  given := by
    intro name listed value given
    rw [get?_applyTo, if_pos listed, given]
    rfl
  others := by
    rintro name (foreign | unset)
    · rw [get?_applyTo, if_neg foreign]
    · rw [get?_applyTo, unset, Option.none_or, ite_self]
  order := keys_applyTo properties store names

/-- A template names just the variables, field by field, into which properties are put from the same
store, whatever the properties. They are the same for all stores for which the conditions of the
fields come out the same. Nothing else is set, stored variables keep their place, and new ones
follow in the order in which their first fields stand. A panel that is not admitted has an empty
template and leaves the store as it is. -/
theorem template_names_applied (session : Session) (store : Store) :
    let names := (session.collect store).value.map variablesOf
    ((session.template store).value = names.map Properties.template ∧
      Function.Injective Properties.template) ∧
    (∀ properties, (session.applyProperties properties store).value =
      names.map (applyTo properties store)) ∧
    (∀ other, session.SameVerdicts store other →
      (session.collect other).value.map variablesOf = names) ∧
    (∀ listed, names = .ok listed → ∀ properties,
      Applied properties store listed (applyTo properties store listed)) ∧
    ((session.gates store).admitsPanel session.panel = false →
      (session.template store).value = .ok "" ∧
        ∀ properties, (session.applyProperties properties store).value = .ok store) := by
  intro names
  have template : (session.template store).value = names.map Properties.template := by
    rw [value_template, value_targets]
  have applied (properties : OrderedMap String) :
      (session.applyProperties properties store).value = names.map (applyTo properties store) := by
    rw [value_applyProperties, value_targets]
  refine ⟨⟨template, Properties.template_injective⟩, applied,
    fun other => variablesOf_collect_of_sameVerdicts,
    fun listed _ properties => applied_applyTo properties store listed, fun excluded => ?_⟩
  have none : names = .ok [] := congrArg (Except.map variablesOf) (collect_eq_none_iff.2 excluded)
  refine ⟨by rw [template, none]; rfl, fun properties => ?_⟩
  rw [applied, none]
  rfl

end Applying

end InputPanel.Session
