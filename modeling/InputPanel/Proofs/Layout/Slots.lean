import InputPanel.Layout

/-!
# Slots that are there

A set is parsed by assignments to slots that are there, one for each token of
the layout at most. There are no more placeholders than tokens, so the slot
that a placeholder shows is there too.
-/

namespace InputPanel.Layout

/-- Slots that come about by assignments to slots that are there. -/
inductive Filled (count : Nat) : Slots → Prop where
  | blank : Filled count (List.replicate count none)
  | assigned {slots : Slots} {i : Nat} (value : List Char) (earlier : Filled count slots)
      (there : i < slots.length) : Filled count (slots.set i (some value))

theorem Filled.length_eq {count : Nat} {slots : Slots} (h : Filled count slots) :
    slots.length = count := by
  induction h with
  | blank => exact List.length_replicate
  | assigned value _ _ ih => rw [List.length_set, ih]

theorem filled_assign {count : Int} {slots after : Slots} {token : List Char}
    (filled : Filled count.toNat slots) (h : assign count slots token = .ok after) :
    Filled count.toNat after := by
  unfold assign at h
  split at h
  · cases h
    exact filled
  · next index value _ =>
    split at h
    · cases h
    · next i _ =>
      split at h
      · next bounds =>
        cases h
        refine .assigned value filled ?_
        rw [filled.length_eq]
        omega
      · cases h

theorem filled_foldlM {count : Int} {tokens : List (List Char)} {before after : Slots}
    (filled : Filled count.toNat before) (h : tokens.foldlM (assign count) before = .ok after) :
    Filled count.toNat after := by
  induction tokens generalizing before with
  | nil =>
    cases h
    exact filled
  | cons token rest ih =>
    rw [List.foldlM_cons] at h
    cases step : assign count before token with
    | error error =>
      rw [step] at h
      cases h
    | ok next =>
      rw [step] at h
      exact ih (filled_assign filled step) h

theorem filled_parseSlots {set : List Char} {count : Int} {slots : Slots}
    (h : parseSlots set count = .ok slots) : Filled count.toNat slots :=
  filled_foldlM .blank h

/-- The value with a slot looked up by the number of placeholders that come before; nothing if there
is no such slot. -/
def renderAt? (format : ResultFormat) (slots : Slots) : Nat → List (List Char) → Option (List Char)
  | _, [] => some []
  | before, token :: tokens =>
    if isPlaceholder token then
      match slots[before]? with
      | some slot => (renderAt? format slots (before + 1) tokens).map (slot.getD [] ++ ·)
      | none => none
    else (renderAt? format slots before tokens).map (format.literal token ++ ·)

/-- No look-up fails when there are as many slots as tokens. -/
theorem renderAt?_eq_some (format : ResultFormat) (slots : Slots) (tokens : List (List Char))
    (before : Nat) (room : before + tokens.length ≤ slots.length) :
    renderAt? format slots before tokens = some (render format tokens (slots.drop before)) := by
  induction tokens generalizing before with
  | nil => rfl
  | cons token tokens ih =>
    rw [List.length_cons] at room
    by_cases shown : isPlaceholder token = true
    · have there : before < slots.length := by omega
      rw [renderAt?, if_pos shown, List.getElem?_eq_getElem there]
      dsimp only
      rw [ih (before + 1) (by omega), render, if_pos shown, List.head?_drop,
        List.getElem?_eq_getElem there, List.tail_drop]
      rfl
    · rw [renderAt?, if_neg shown, ih before (by omega), render, if_neg shown]
      rfl

theorem renderAt?_of_parseSlots {set : List Char} {tokens : List (List Char)} {slots : Slots}
    (format : ResultFormat) (h : parseSlots set tokens.length = .ok slots) :
    renderAt? format slots 0 tokens = some (render format tokens slots) := by
  have length := (filled_parseSlots h).length_eq
  exact renderAt?_eq_some format slots tokens 0 (by omega)

/-- A value is made whenever the set makes sense, whatever the format. -/
theorem reconstruct_isOk_iff {layout set : String} {format : ResultFormat} :
    (∃ value, reconstruct layout set format = .ok value) ↔
      ∃ slots, parseSlots set.toList (Text.words layout.toList).length = .ok slots := by
  unfold reconstruct
  dsimp only
  cases parseSlots set.toList (Text.words layout.toList).length with
  | error error =>
    constructor
    · rintro ⟨_, made⟩
      cases made
    · rintro ⟨_, parsed⟩
      cases parsed
  | ok slots => exact ⟨fun _ => ⟨slots, rfl⟩, fun _ => ⟨_, rfl⟩⟩

end InputPanel.Layout
