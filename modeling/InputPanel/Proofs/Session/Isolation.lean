import InputPanel.Proofs.Session.Containment

/-!
# Each field is compiled by itself

The fields of a panel are those of its field nodes that all gates admit and of
which a field can be made: their type is known, and a password has an input. Each
of them is what compiling its own node gives. So the fields of some nodes and of
others after them are the fields of the first followed by those of the others, and
the notices are as well. A node that is left out or at fault changes nothing else.
-/

namespace InputPanel

namespace Gates

/-- All gates of a field are held against it, though the condition is not looked at in vain. -/
theorem value_admitsField (gates : Gates) (node : Node) :
    (gates.admitsField node).value =
      (gates.admitsPacks (packNames node) && gates.admitsFamilies (families node) &&
        (gates.conditionHolds (node.get? "conditionid")).value) := by
  unfold admitsField admits
  split
  · next admitted => rw [admitted, Bool.true_and]
  · next excluded =>
    rw [Bool.not_eq_true] at excluded
    rw [excluded, Bool.false_and, Noted.value_pure]

end Gates

namespace Compiler

variable {compiler : Compiler} {node : Node}

/-- Whether the definition of a password has an input. -/
def hasInputs (node : Node) : Bool :=
  (node.firstChild? "spec").any fun spec => !(spec.childrenNamed "pwd").isEmpty

/-- Why no field can be made of a node, if none can. -/
def defect? (node : Node) : Option FieldError :=
  match (node.get? "type").bind FieldKind.ofName? with
  | none => some (.unknownKind (node.get? "type"))
  | some .password => if hasInputs node then none else some .noInputs
  | some _ => none

theorem compilePassword_eq_error_iff {error : FieldError} :
    (compilePassword node).value = .error error ↔ hasInputs node = false ∧ error = .noInputs := by
  unfold compilePassword hasInputs
  cases defined : node.firstChild? "spec" with
  | none => simp [eq_comm]
  | some spec =>
    dsimp only
    split
    · next missing =>
      have absent : (spec.childrenNamed "pwd").isEmpty = true := missing
      simp [absent, eq_comm]
    · next given =>
      have present : (spec.childrenNamed "pwd").isEmpty = false := by simpa using given
      simp [present]

/-- What is wrong with a node does not depend on what is stored or plugged in. -/
theorem compile_eq_misconfigured_iff {error : FieldError} :
    (compiler.compile node).value = .error (.misconfigured error) ↔ defect? node = some error := by
  cases known : (node.get? "type").bind FieldKind.ofName? with
  | none => simp [compile_of_unknown known, defect?, known]
  | some kind =>
    rw [compile_of_kind known, defect?, known]
    cases kind with
    | password =>
      have missing : (if hasInputs node then none else some FieldError.noInputs) = some error ↔
          (compilePassword node).value = .error error := by
        rw [compilePassword_eq_error_iff]
        cases hasInputs node <;> simp [eq_comm]
      dsimp only
      rw [missing, compileKind, Noted.value_bind]
      split
      · next field made => simp [made]
      · next fault failed => simp [failed]
    | rule =>
      dsimp only
      rw [compileKind, Noted.value_bind]
      split <;> simp
    | _ => simp [compileKind]

end Compiler

namespace Session

/-- The fields of one part of a panel and of the part after it. -/
def followedBy (first rest : Noted (Except Failure (List Field))) :
    Noted (Except Failure (List Field)) := do
  match ← first with
  | .error failure => return .error failure
  | .ok fields =>
    match ← rest with
    | .error failure => return .error failure
    | .ok others => return .ok (fields ++ others)

theorem followedBy_nil (rest : Noted (Except Failure (List Field))) :
    followedBy (pure (.ok [])) rest = rest := by
  obtain ⟨value, notices⟩ := rest
  cases value <;> simp [followedBy, bind, pure]

theorem followedBy_assoc (first second third : Noted (Except Failure (List Field))) :
    followedBy (followedBy first second) third = followedBy first (followedBy second third) := by
  obtain ⟨value, notices⟩ := first
  cases value with
  | error failure => simp [followedBy, bind, pure]
  | ok fields =>
    obtain ⟨next, later⟩ := second
    cases next with
    | error failure => simp [followedBy, bind, pure]
    | ok others =>
      obtain ⟨last, end_⟩ := third
      cases last <;> simp [followedBy, bind, pure]

variable {gates : Gates} {compiler : Compiler}

/-- What a node comes to does not depend on the nodes after it. -/
theorem collectNodes_cons (node : Node) (rest : List Node) :
    collectNodes gates compiler (node :: rest) =
      followedBy (collectNodes gates compiler [node]) (collectNodes gates compiler rest) := by
  simp only [collectNodes]
  generalize collectNodes gates compiler rest = others
  generalize gates.admitsField node = gate
  generalize compiler.compile node = made
  obtain ⟨value, later⟩ := others
  obtain ⟨admitted, looked⟩ := gate
  obtain ⟨result, noted⟩ := made
  cases admitted with
  | false => cases value <;> simp [followedBy, bind, pure]
  | true =>
    cases result with
    | ok field => cases value <;> simp [followedBy, bind, pure]
    | error trouble =>
      cases trouble with
      | misconfigured error => cases value <;> simp [followedBy, bind, pure, Noted.note]
      | crashed failure => simp [followedBy, bind, pure]

theorem collectNodes_append (nodes more : List Node) :
    collectNodes gates compiler (nodes ++ more) =
      followedBy (collectNodes gates compiler nodes) (collectNodes gates compiler more) := by
  induction nodes with
  | nil => exact (followedBy_nil _).symm
  | cons node rest ih =>
    rw [List.cons_append, collectNodes_cons, ih, ← followedBy_assoc, ← collectNodes_cons]

/-- Whether a node gives a field: the gates for packs, families and the condition admit it, and
nothing is wrong with it. -/
def givesField (gates : Gates) (node : Node) : Bool :=
  gates.admitsPacks (Gates.packNames node) && gates.admitsFamilies (Gates.families node) &&
    (gates.conditionHolds (node.get? "conditionid")).value && (Compiler.defect? node).isNone

theorem givesField_eq (gates : Gates) (node : Node) :
    givesField gates node = ((gates.admitsField node).value && (Compiler.defect? node).isNone) := by
  rw [givesField, Gates.value_admitsField]

/-- Compiling does without those nodes of which no field can be made, and stops at a failure that
nothing makes up for. -/
theorem mapError_collectNodes (nodes : List Node) :
    (collectNodes gates compiler nodes).value.mapError .crashed =
      (nodes.filter (givesField gates)).mapM fun node => (compiler.compile node).value := by
  induction nodes with
  | nil => rfl
  | cons node rest ih =>
    rw [List.filter_cons, givesField_eq, collectNodes, Noted.value_bind]
    cases admitted : (gates.admitsField node).value with
    | false => exact ih
    | true =>
      rw [if_pos rfl, Noted.value_bind, Bool.true_and]
      have sound (usable : ∀ error, (compiler.compile node).value ≠ .error (.misconfigured error)) :
          (Compiler.defect? node).isNone = true := by
        rw [Option.isNone_iff_eq_none, Option.eq_none_iff_forall_ne_some]
        intro error wrong
        exact usable error (Compiler.compile_eq_misconfigured_iff.2 wrong)
      cases made : (compiler.compile node).value with
      | ok field =>
        rw [if_pos (sound (by simp [made])), List.mapM_cons, made, ← ih]
        dsimp only
        rw [Noted.value_bind]
        cases (collectNodes gates compiler rest).value <;> rfl
      | error trouble =>
        cases trouble with
        | misconfigured error =>
          have wrong := Compiler.compile_eq_misconfigured_iff.1 made
          rw [wrong]
          exact ih
        | crashed failure =>
          rw [if_pos (sound (by simp [made])), List.mapM_cons, made]
          rfl

theorem mapError_eq_ok_iff {α : Type} {result : Except Failure α} {a : α} :
    result.mapError CompileTrouble.crashed = .ok a ↔ result = .ok a := by
  cases result with
  | ok value =>
    have kept : (Except.ok value : Except Failure α).mapError CompileTrouble.crashed =
      .ok value := rfl
    rw [kept, Except.ok.injEq, Except.ok.injEq]
  | error failure =>
    constructor
    · rintro ⟨⟩
    · rintro ⟨⟩

/-- The panel is left out if its own packs or families are not those of the session, and only then.
Otherwise its fields are what compiling gives for each field node alone, in document order, without
the nodes that a gate excludes, whose type is unknown or that are passwords without an input. They
are all there unless one needs the configured separator and this is no text. What the nodes before
it and after it are is nothing to a node: fields and notices of all are those of each in turn. -/
theorem collect_compiles_each (session : Session) (store : Store) :
    let gates := session.gates store
    let compiler := session.compiler store
    let admitted := gates.admitsPacks (Gates.packNames session.panel) &&
      gates.admitsFamilies (Gates.families session.panel)
    let kept := (session.panel.childrenNamed "field").filter (givesField gates)
    ((session.collect store).value = .ok none ↔ admitted = false) ∧
    (∀ fields, (session.collect store).value = .ok (some fields) ↔
      admitted = true ∧ kept.mapM (fun node => (compiler.compile node).value) = .ok fields) ∧
    ((∃ made, (session.collect store).value = .ok made) ↔
      (∃ text, session.settings.separator = .ok text) ∨ ¬ session.NeedsSeparator store) ∧
    ∀ nodes more, collectNodes gates compiler (nodes ++ more) =
      followedBy (collectNodes gates compiler nodes) (collectNodes gates compiler more) := by
  intro gates compiler admitted kept
  refine ⟨collect_eq_none_iff, ?_, exists_ok_iff_of_eq_error_iff fun _ => collect_eq_error_iff,
    collectNodes_append⟩
  intro fields
  rw [value_collect, ← mapError_collectNodes, mapError_eq_ok_iff]
  have whole : gates.admitsPanel session.panel = admitted := rfl
  rw [← whole]
  cases gates.admitsPanel session.panel with
  | false => simp
  | true =>
    rw [if_pos rfl]
    cases (collectNodes gates compiler (session.panel.childrenNamed "field")).value <;>
      simp [Except.map]

end Session

end InputPanel
