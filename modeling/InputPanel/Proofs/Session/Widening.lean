import InputPanel.Proofs.Session.Isolation
import Mathlib.Data.List.Basic

/-!
# More packs, and a Mac in place of a Unix

Gates that admit a panel or a field still admit it when more packs are selected,
and a Mac is admitted wherever a Unix is. No field is compiled differently for it.
So a panel that was collected is collected still, and its fields stand among the
others that there are now as they stood before.
-/

namespace InputPanel

/-- Whether one running family is another too, as a Mac is a Unix. -/
def Family.CountsAs (other family : String) : Prop :=
  other = family ∨ family = unix ∧ other = mac

theorem Family.admits_of_countsAs {running other : String} (counts : CountsAs other running)
    {family : Option String} (admitted : admits family running = true) :
    admits family other = true := by
  rcases counts with rfl | ⟨rfl, rfl⟩
  · exact admitted
  · cases family with
    | none => exact admitted
    | some family =>
      simp only [admits, Bool.and_eq_true, Bool.or_eq_true, beq_iff_eq] at admitted ⊢
      obtain ⟨known, same | ⟨_, isMac⟩⟩ := admitted
      · exact ⟨known, .inr ⟨same, trivial⟩⟩
      · exact absurd isMac (by decide)

namespace Gates

/-- Whether gates are held against the same as others, only with more packs or on a Mac in place of
a Unix. -/
structure Within (gates wider : Gates) : Prop where
  packs : gates.packs ⊆ wider.packs
  family : Family.CountsAs wider.family gates.family
  registry : wider.registry = gates.registry
  store : wider.store = gates.store

variable {gates wider : Gates}

theorem Within.admitsPacks (within : gates.Within wider) {required : List String}
    (admitted : gates.admitsPacks required = true) : wider.admitsPacks required = true := by
  rw [Gates.admitsPacks, Bool.or_eq_true, List.any_eq_true] at admitted ⊢
  rcases admitted with free | ⟨pack, selected, listed⟩
  · exact .inl free
  · exact .inr ⟨pack, within.packs selected, listed⟩

theorem Within.admitsFamilies (within : gates.Within wider) {families : List (Option String)}
    (admitted : gates.admitsFamilies families = true) : wider.admitsFamilies families = true := by
  rw [Gates.admitsFamilies, Bool.or_eq_true, List.any_eq_true] at admitted ⊢
  rcases admitted with free | ⟨family, listed, runs⟩
  · exact .inl free
  · exact .inr ⟨family, listed, Family.admits_of_countsAs within.family runs⟩

/-- Conditions are held against variables only. -/
theorem Within.conditionHolds (within : gates.Within wider) (id : Option String) :
    wider.conditionHolds id = gates.conditionHolds id := by
  unfold Gates.conditionHolds
  rw [within.registry, within.store]

theorem Within.admitsPanel (within : gates.Within wider) {panel : Node}
    (admitted : gates.admitsPanel panel = true) : wider.admitsPanel panel = true := by
  rw [Gates.admitsPanel, Bool.and_eq_true] at admitted ⊢
  exact ⟨within.admitsPacks admitted.1, within.admitsFamilies admitted.2⟩

theorem Within.admitsField (within : gates.Within wider) {field : Node}
    (admitted : (gates.admitsField field).value = true) :
    (wider.admitsField field).value = true := by
  rw [value_admitsField, Bool.and_eq_true, Bool.and_eq_true] at admitted ⊢
  obtain ⟨⟨packs, families⟩, condition⟩ := admitted
  rw [within.conditionHolds]
  exact ⟨⟨within.admitsPacks packs, within.admitsFamilies families⟩, condition⟩

end Gates

namespace Session

variable {session : Session} {store : Store} {fields : List Field}

/-- The session with other packs selected and another family running. -/
def on (session : Session) (packs : List String) (family : String) : Session :=
  { session with settings := { session.settings with packs, family } }

theorem within_on {packs : List String} {family : String}
    (more : session.settings.packs ⊆ packs)
    (runs : Family.CountsAs family session.settings.family) (store : Store) :
    (session.gates store).Within ((session.on packs family).gates store) :=
  ⟨more, runs, rfl, rfl⟩

/-- The collected fields are made of those nodes that are admitted. -/
theorem eq_filterMap_filter_of_collect
    (collected : (session.collect store).value = .ok (some fields)) :
    fields = ((session.panel.childrenNamed "field").filter fun node =>
      ((session.gates store).admitsField node).value).filterMap fun node =>
        ((session.compiler store).compile node).value.toOption := by
  rw [eq_filterMap_of_collect collected, List.filterMap_filter]
  rfl

theorem sublist_of_within {wider : Session}
    (within : (session.gates store).Within (wider.gates store))
    (panel : wider.panel = session.panel)
    (compiler : wider.compiler store = session.compiler store)
    (collected : (session.collect store).value = .ok (some fields)) {all : List Field}
    (collectedToo : (wider.collect store).value = .ok (some all)) : fields.Sublist all := by
  rw [eq_filterMap_filter_of_collect collected, eq_filterMap_filter_of_collect collectedToo, panel,
    compiler]
  refine List.Sublist.filterMap _ (List.monotone_filter_right _ fun node => ?_)
  exact fun admitted => within.admitsField admitted

/-- What is collected with some packs is collected with more, in the same order, with the same
fields, and what is collected on a Unix is collected on a Mac. Only a configured separator that is
no text and that a field needs is in the way of the fields that there are then. -/
theorem collect_mono {packs : List String} {family : String}
    (more : session.settings.packs ⊆ packs)
    (runs : Family.CountsAs family session.settings.family)
    (collected : (session.collect store).value = .ok (some fields)) :
    let wider := session.on packs family
    (wider.collect store).value ≠ .ok none ∧
      ((∃ all, (wider.collect store).value = .ok (some all) ∧ fields.Sublist all) ↔
        (∃ text, session.settings.separator = .ok text) ∨ ¬ wider.NeedsSeparator store) := by
  intro wider
  have within := within_on more runs store
  have admitted : (session.gates store).admitsPanel session.panel = true := by
    by_contra excluded
    rw [collect_eq_none_iff.2 (by simpa using excluded)] at collected
    cases collected
  have included : (wider.collect store).value ≠ .ok none := by
    intro excluded
    rw [collect_eq_none_iff] at excluded
    have still : (wider.gates store).admitsPanel session.panel = true := within.admitsPanel admitted
    rw [show (wider.gates store).admitsPanel session.panel = false from excluded] at still
    cases still
  refine ⟨included, ?_⟩
  have made : (∃ made, (wider.collect store).value = .ok made) ↔
      (∃ text, session.settings.separator = .ok text) ∨ ¬ wider.NeedsSeparator store :=
    exists_ok_iff_of_eq_error_iff fun _ => collect_eq_error_iff
  rw [← made]
  constructor
  · rintro ⟨all, made, _⟩
    exact ⟨some all, made⟩
  · rintro ⟨made, collectedToo⟩
    cases made with
    | none => exact absurd collectedToo included
    | some all =>
      exact ⟨all, collectedToo, sublist_of_within within rfl rfl collected collectedToo⟩

/-- A panel for two packs on a Unix, with a title for each pack and one for a Mac. -/
def titled : Session where
  panel := ⟨"panel", .empty, [
    ⟨"createForPack", .ofList [("name", "Core")], [], none⟩,
    ⟨"createForPack", .ofList [("name", "Docs")], [], none⟩,
    ⟨"os", .ofList [("family", "unix")], [], none⟩,
    ⟨"field", .ofList [("type", "title"), ("txt", "Core")],
      [⟨"createForPack", .ofList [("name", "Core")], [], none⟩], none⟩,
    ⟨"field", .ofList [("type", "title"), ("txt", "Docs")],
      [⟨"createForPack", .ofList [("name", "Docs")], [], none⟩], none⟩,
    ⟨"field", .ofList [("type", "title"), ("txt", "Mac")],
      [⟨"os", .ofList [("family", "mac")], [], none⟩], none⟩], none⟩
  registry := none
  factory := ⟨.empty, fun _ => none⟩
  settings := ⟨"x", true, ["Docs"], Family.unix, .ok ""⟩

theorem titled_widened :
    let title := fun text => Field.decoration ⟨.title, none, some text⟩
    (titled.collect .empty).value = .ok (some [title "Docs"]) ∧
      ∃ all, ((titled.on ["Core", "Docs", "Core"] Family.mac).collect .empty).value =
        .ok (some all) ∧ [title "Docs"].Sublist all ∧
        all = [title "Core", title "Docs", title "Mac"] := by
  intro title
  have more : titled.settings.packs ⊆ ["Core", "Docs", "Core"] := by simp [titled]
  have runs : Family.CountsAs Family.mac titled.settings.family := .inr ⟨rfl, rfl⟩
  have collected : (titled.collect .empty).value = .ok (some [title "Docs"]) := rfl
  obtain ⟨_, widened⟩ := collect_mono more runs collected
  obtain ⟨all, made, among⟩ := widened.2 (.inl ⟨"", rfl⟩)
  refine ⟨collected, all, made, among, ?_⟩
  have known : ((titled.on ["Core", "Docs", "Core"] Family.mac).collect .empty).value =
      .ok (some [title "Core", title "Docs", title "Mac"]) := rfl
  rw [known] at made
  exact (Option.some.inj (Except.ok.inj made)).symm

end Session

end InputPanel
