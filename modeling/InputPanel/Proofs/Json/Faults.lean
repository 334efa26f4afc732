import InputPanel.Json.Reader
import InputPanel.Proofs.Failure

/-!
# Texts that are no JSON

A text that cannot be read is malformed, except that an integer may have more
digits than are read, and that lists and mappings may stand in one another deeper
than there is room for.
-/

namespace InputPanel.Json

/-- How a text can be no JSON: malformed, with a number that has too many digits, or too deep. -/
def faults : List Failure := [.malformedJson, .badValue, .tooDeep]

theorem failsBy_malformed {α : Type} : FailsBy faults (malformed : Except Failure α) :=
  .error (by decide)

theorem failsBy_codes (s : List Char) : FailsBy faults (codes s) := by
  fun_induction codes s with
  | case1 => exact failsBy_malformed
  | case2 rest => exact .ok _
  | case3 a b c d rest code number ih => exact .bind ih fun _ => .ok _
  | case4 => exact failsBy_malformed
  | case5 first rest other c special ih => exact .bind ih fun _ => .ok _
  | case6 => exact failsBy_malformed
  | case7 => exact failsBy_malformed
  | case8 c rest other text special plain ih => exact .bind ih fun _ => .ok _

theorem failsBy_string (s : List Char) : FailsBy faults (string s) :=
  .bind (failsBy_codes s) fun _ => .ok _

theorem failsBy_number (s : List Char) : FailsBy faults (number s) := by
  unfold number
  refine .ite failsBy_malformed (.ite ?_ ?_)
  · split
    · exact .ok _
    · exact .error (by decide)
  · split
    · exact .ok _
    · exact failsBy_malformed

/-- The three readers call each other with less fuel, so that one induction serves them all. -/
theorem failsBy_value (fuel : Nat) : (∀ room s, FailsBy faults (value fuel room s)) ∧
    (∀ room s, FailsBy faults (items fuel room s)) ∧
    ∀ room s, FailsBy faults (entries fuel room s) := by
  induction fuel with
  | zero =>
    exact ⟨fun _ s => failsBy_malformed, fun _ s => failsBy_malformed,
      fun _ s => failsBy_malformed⟩
  | succ fuel ih =>
    obtain ⟨ofValue, ofItems, ofEntries⟩ := ih
    refine ⟨fun room s => ?_, fun room s => ?_, fun room s => ?_⟩
    · unfold value
      split
      · exact .bind (failsBy_string _) fun _ => .ok _
      · refine .ite (.error (by decide)) ?_
        split
        · exact .ok _
        · exact .bind (ofEntries _ _) fun _ => .ok _
      · refine .ite (.error (by decide)) ?_
        split
        · exact .ok _
        · exact .bind (ofItems _ _) fun _ => .ok _
      all_goals first | exact .ok _ | exact failsBy_number _
    · unfold items
      refine .bind (ofValue room s) ?_
      rintro ⟨item, rest⟩
      dsimp only
      split
      · exact .ok _
      · exact .bind (ofItems _ _) fun _ => .ok _
      · exact failsBy_malformed
    · unfold entries
      split
      case h_1 same =>
        obtain rfl := Nat.succ.inj same
        refine .bind (failsBy_string _) ?_
        rintro ⟨key, rest⟩
        dsimp only
        split
        · refine .bind (ofValue _ _) ?_
          rintro ⟨item, rest⟩
          dsimp only
          split
          · exact .ok _
          · exact .bind (ofEntries _ _) fun _ => .ok _
          · exact failsBy_malformed
        · exact failsBy_malformed
      case h_2 => exact failsBy_malformed

/-- A text that is not read is malformed, has a number with too many digits, or is too deep. -/
theorem failsBy_read (room : Nat) (text : String) : FailsBy faults (read room text) := by
  refine .bind ((failsBy_value _).1 _ _) ?_
  rintro ⟨data, rest⟩
  dsimp only
  split
  · exact .ok _
  · exact failsBy_malformed

end InputPanel.Json
