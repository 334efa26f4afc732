import InputPanel.Dialogue

/-!
# The first answer that is accepted

A question is put until an answer is accepted. Each answer before that one is refused
and followed by the line that says why, if there is one; the answers after it are left.
If none is accepted, all answers are taken and the question is put once more in vain.
A question for a number says nothing of an answer that is refused.
-/

namespace InputPanel.Dialogue

variable {α : Type} {question : Event} {judge : String → Noted (Verdict α)} {store : Store}
  {earlier pending : List String} {answer : String}

section Answers

variable {why : String → Option String} {a : α}

/-- What is shown of answers that are refused: the question, and what is said of the answer. -/
def refusals (question : Event) (why : String → Option String) (answers : List String) :
    List Event :=
  answers.flatMap fun answer => question :: (why answer).toList.map .print

theorem refusals_wordless (question : Event) (answers : List String) :
    refusals question (fun _ => none) answers = List.replicate answers.length question := by
  induction answers with
  | nil => rfl
  | cons answer rest ih =>
    rw [refusals, List.flatMap_cons, ← refusals, ih, List.length_cons, List.replicate_succ]
    rfl

/-- After answers that are refused a question goes on as if it were put for the first time. -/
theorem answerTo_append (question : Event) (store : Store)
    (refused : ∀ answer ∈ earlier, (judge answer).value = .refused (why answer))
    (rest : List String) :
    let later := answerTo question judge store rest
    let asked := answerTo question judge store (earlier ++ rest)
    asked.value = later.value ∧ asked.store = later.store ∧ asked.pending = later.pending ∧
      asked.events = refusals question why earlier ++ later.events := by
  induction earlier with
  | nil => exact ⟨rfl, rfl, rfl, rfl⟩
  | cons answer others ih =>
    obtain ⟨first, remaining⟩ := List.forall_mem_cons.1 refused
    obtain ⟨value, kept, unread, shown⟩ := ih remaining
    dsimp only at value kept unread shown ⊢
    rw [List.cons_append, answerTo, first]
    refine ⟨value, kept, unread, ?_⟩
    dsimp only
    rw [shown, refusals, refusals, List.flatMap_cons, List.append_assoc]

theorem answerTo_of_first (question : Event) (store : Store)
    (refused : ∀ answer ∈ earlier, (judge answer).value = .refused (why answer))
    (accepted : (judge answer).value = .accepted a) (left : List String) :
    let asked := answerTo question judge store (earlier ++ answer :: left)
    asked.value = some a ∧ asked.store = store ∧ asked.pending = left ∧
      asked.events = refusals question why earlier ++ [question] := by
  have last : (answerTo question judge store (answer :: left)).value = some a ∧
      (answerTo question judge store (answer :: left)).store = store ∧
      (answerTo question judge store (answer :: left)).pending = left ∧
      (answerTo question judge store (answer :: left)).events = [question] := by
    simp [answerTo, accepted]
  obtain ⟨value, kept, unread, shown⟩ := last
  obtain ⟨sameValue, sameStore, sameLeft, all⟩ :=
    answerTo_append question store refused (answer :: left)
  exact ⟨sameValue.trans value, sameStore.trans kept, sameLeft.trans unread, shown ▸ all⟩

theorem answerTo_of_none (question : Event) (store : Store)
    (refused : ∀ answer ∈ pending, (judge answer).value = .refused (why answer)) :
    let asked := answerTo question judge store pending
    asked.value = none ∧ asked.store = store ∧ asked.pending = [] ∧
      asked.events = refusals question why pending ++ [question] := by
  have all := answerTo_append question store refused []
  rw [List.append_nil] at all
  exact all

end Answers

section Numbers

variable {text : String} {least greatest default n : Int}

/-- A number is given by an answer of white space alone if it is the default, and by any other
answer if this reads as the number; it has to be within bounds. -/
theorem number?_eq_some_iff :
    number? least greatest default answer = some n ↔
      (least ≤ n ∧ n ≤ greatest) ∧
        if Text.trimmed answer = "" then default = n
        else Number.readInt (Text.trim answer.toList) = some n := by
  have blank : (Text.trim answer.toList).isEmpty = true ↔ Text.trimmed answer = "" := by
    rw [Text.trimmed, List.isEmpty_iff]
    exact ⟨fun none => by rw [none], fun none => String.ofList_inj.1 none⟩
  rw [number?, Option.filter_eq_some_iff]
  simp only [blank, Bool.and_eq_true, decide_eq_true_eq]
  rw [and_comm]
  refine and_congr_right fun _ => ?_
  split
  · exact Option.some_inj
  · exact Iff.rfl

/-- What becomes of an answer that is to be a number. -/
def judgeNumber (least greatest default : Int) (answer : String) : Noted (Verdict Int) :=
  match number? least greatest default answer with
  | some n => return .accepted n
  | none => return .refused none

theorem judgeNumber_of_none (refused : number? least greatest default answer = none) :
    (judgeNumber least greatest default answer).value = .refused none := by
  rw [judgeNumber, refused]
  rfl

theorem judgeNumber_of_some (accepted : number? least greatest default answer = some n) :
    (judgeNumber least greatest default answer).value = .accepted n := by
  rw [judgeNumber, accepted]
  rfl

theorem askNumber_of_first (text : String) (store : Store)
    (refused : ∀ answer ∈ earlier, number? least greatest default answer = none)
    (accepted : number? least greatest default answer = some n) (left : List String) :
    let asked := askNumber text least greatest default store (earlier ++ answer :: left)
    asked.value = some n ∧ asked.pending = left ∧
      asked.events = List.replicate (earlier.length + 1) (.prompt (text ++ " ")) := by
  have unsaid (answer : String) (present : answer ∈ earlier) :=
    judgeNumber_of_none (refused answer present)
  obtain ⟨value, _, unread, shown⟩ := answerTo_of_first (.prompt (text ++ " ")) store unsaid
    (judgeNumber_of_some accepted) left
  rw [refusals_wordless, ← List.replicate_succ'] at shown
  exact ⟨value, unread, shown⟩

theorem askNumber_of_none (text : String) (store : Store)
    (refused : ∀ answer ∈ pending, number? least greatest default answer = none) :
    let asked := askNumber text least greatest default store pending
    asked.value = none ∧ asked.pending = [] ∧
      asked.events = List.replicate (pending.length + 1) (.prompt (text ++ " ")) := by
  have unsaid (answer : String) (present : answer ∈ pending) :=
    judgeNumber_of_none (refused answer present)
  obtain ⟨value, _, unread, shown⟩ := answerTo_of_none (.prompt (text ++ " ")) store unsaid
  rw [refusals_wordless, ← List.replicate_succ'] at shown
  exact ⟨value, unread, shown⟩

end Numbers

end InputPanel.Dialogue
