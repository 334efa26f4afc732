import InputPanel.Dialogue
import InputPanel.Proofs.Text.Lines
import InputPanel.Proofs.Text.Words

/-!
# Reading answers line by line

A stream is read up to and with the next line feed, and has come to an end when
nothing is read; carriage returns and line feeds at the end of a line are dropped. A
terminal gives its lines as they are, and then reports that there are no more. Either
way the answers of a source are the lines that are read from it one after the other.
A stream of answers, each ended by a line feed, gives them up to carriage returns.
-/

namespace InputPanel

/-- An event in which it is not told whether an answer is echoed. -/
def Event.echoed : Event → Event
  | .hidden text => .prompt text
  | event => event

namespace AnswerSource

section Lines

def isReturn (c : Char) : Bool := c == '\r' || c == '\n'

/-- A line without the carriage returns and line feeds at its end. -/
def withoutReturns (line : List Char) : String := String.ofList (Text.dropRightWhile isReturn line)

theorem isBlank_of_isReturn {c : Char} (ends : isReturn c = true) : Text.isBlank c = true := by
  simp only [isReturn, Bool.or_eq_true, beq_iff_eq] at ends
  rcases ends with rfl | rfl <;> decide

theorem withoutReturns_append_newline (line : List Char) :
    withoutReturns (line ++ ['\n']) = withoutReturns line :=
  congrArg String.ofList (Text.dropRightWhile_append_of_pos rfl line)

/-- What is dropped of a line is white space. -/
theorem trimmed_withoutReturns (line : List Char) :
    Text.trimmed (withoutReturns line) = Text.trimmed (String.ofList line) := by
  rw [Text.trimmed, Text.trimmed, withoutReturns, String.toList_ofList, String.toList_ofList,
    Text.trim_dropRightWhile fun _ => isBlank_of_isReturn]

theorem isNewline_eq_false {line : List Char} (unbroken : '\n' ∉ line) :
    ∀ c ∈ line, (c == '\n') = false := by
  intro c present
  rw [beq_eq_false_iff_ne]
  rintro rfl
  exact unbroken present

theorem linesOf_append_newline {line : List Char} (unbroken : '\n' ∉ line) (rest : List Char) :
    linesOf (line ++ '\n' :: rest) = withoutReturns line :: linesOf rest := by
  have pieces := Text.piecesBy_append (isNewline_eq_false unbroken) (beq_self_eq_true '\n') rest
  unfold linesOf
  dsimp only
  rw [pieces, List.getLast?_cons_of_ne_nil (Text.piecesBy_ne_nil _ rest)]
  split
  · rw [List.dropLast_cons_of_ne_nil (Text.piecesBy_ne_nil _ rest)]
    rfl
  · rfl

/-- The end of a text ends its last line as well, unless nothing is left. -/
theorem linesOf_of_unbroken {line : List Char} (unbroken : '\n' ∉ line) (some : line ≠ []) :
    linesOf line = [withoutReturns line] := by
  have pieces := Text.piecesBy_of_plain (isNewline_eq_false unbroken)
  unfold linesOf
  dsimp only
  rw [pieces, List.getLast?_singleton, if_neg (by simpa using some)]
  rfl

/-- Answers that are written a line each are read as they are but for carriage returns at the end
and with line feeds in none of them. -/
theorem answers_stream_join {answers : List String}
    (unbroken : ∀ answer ∈ answers, '\n' ∉ answer.toList) :
    (stream (String.join (answers.map fun answer => answer ++ "\n"))).answers =
      answers.map fun answer => withoutReturns answer.toList := by
  rw [AnswerSource.answers, String.toList_join]
  induction answers with
  | nil => rfl
  | cons answer rest ih =>
    rw [List.forall_mem_cons] at unbroken
    have first : ((answer ++ "\n").toList ++
        (rest.map fun answer => answer ++ "\n").flatMap String.toList) = answer.toList ++ '\n' ::
          (rest.map fun answer => answer ++ "\n").flatMap String.toList := by
      rw [String.toList_append, List.append_assoc]
      rfl
    rw [List.map_cons, List.flatMap_cons, first, linesOf_append_newline unbroken.1,
      ih unbroken.2, List.map_cons]

end Lines

section Reading

/-- What is read of a text at once, up to and with a line feed, and the text after it. -/
def readLine : List Char → List Char × List Char
  | [] => ([], [])
  | c :: rest =>
    if c = '\n' then ([c], rest)
    else
      let (line, after) := readLine rest
      (c :: line, after)

/-- The next line of a source and what is left of it, or nothing when it has come to an end. -/
def next? : AnswerSource → Option (String × AnswerSource)
  | stream text =>
    match readLine text.toList with
    | ([], _) => none
    | (line, after) => some (withoutReturns line, stream (String.ofList after))
  | terminal [] => none
  | terminal (line :: rest) => some (line, terminal rest)

/-- The lines that are read from a source until it has come to an end. -/
inductive Reads : AnswerSource → List String → Prop
  | finish {source : AnswerSource} (ended : source.next? = none) : Reads source []
  | line {source rest : AnswerSource} {line : String} {lines : List String}
      (read : source.next? = some (line, rest)) (others : Reads rest lines) :
      Reads source (line :: lines)

theorem readLine_append_newline {line : List Char} (unbroken : '\n' ∉ line) (rest : List Char) :
    readLine (line ++ '\n' :: rest) = (line ++ ['\n'], rest) := by
  induction line with
  | nil => rfl
  | cons c line ih =>
    rw [List.mem_cons, not_or] at unbroken
    have other : ¬ c = '\n' := fun same => unbroken.1 same.symm
    rw [List.cons_append, readLine, if_neg other, ih unbroken.2]
    rfl

theorem readLine_of_unbroken {line : List Char} (unbroken : '\n' ∉ line) :
    readLine line = (line, []) := by
  induction line with
  | nil => rfl
  | cons c line ih =>
    rw [List.mem_cons, not_or] at unbroken
    have other : ¬ c = '\n' := fun same => unbroken.1 same.symm
    rw [readLine, if_neg other, ih unbroken.2]

theorem next?_stream_append_newline {line : List Char} (unbroken : '\n' ∉ line)
    (rest : List Char) : (stream (String.ofList (line ++ '\n' :: rest))).next? =
      some (withoutReturns line, stream (String.ofList rest)) := by
  rw [next?, String.toList_ofList, readLine_append_newline unbroken]
  split
  · next nothing => simp at nothing
  · next read after _ same =>
    cases same
    rw [withoutReturns_append_newline]

theorem next?_stream_of_unbroken {line : List Char} (unbroken : '\n' ∉ line) (some : line ≠ []) :
    (stream (String.ofList line)).next? = .some (withoutReturns line, stream "") := by
  rw [next?, String.toList_ofList, readLine_of_unbroken unbroken]
  split
  · next nothing =>
    cases nothing
    exact absurd rfl some
  · next read after _ same =>
    cases same
    rfl

theorem reads_stream (text : List Char) : Reads (stream (String.ofList text)) (linesOf text) := by
  by_cases broken : '\n' ∈ text
  · obtain ⟨line, rest, whole, unbroken⟩ := List.eq_append_cons_of_mem broken
    have shorter : rest.length < text.length := by
      rw [whole, List.length_append, List.length_cons]
      omega
    rw [whole, linesOf_append_newline unbroken]
    exact .line (next?_stream_append_newline unbroken rest) (reads_stream rest)
  · by_cases nothing : text = []
    · subst nothing
      exact .finish rfl
    · rw [linesOf_of_unbroken broken nothing]
      exact .line (next?_stream_of_unbroken broken nothing) (.finish rfl)
termination_by text.length

theorem reads_terminal (lines : List String) : Reads (terminal lines) lines := by
  induction lines with
  | nil => exact .finish rfl
  | cons line rest ih => exact .line rfl ih

/-- A source is read in one way only. -/
theorem Reads.unique {source : AnswerSource} {lines others : List String}
    (one : source.Reads lines) (other : source.Reads others) : lines = others := by
  induction one generalizing others with
  | finish ended =>
    cases other with
    | finish _ => rfl
    | line read _ =>
      rw [ended] at read
      cases read
  | line read _ ih =>
    cases other with
    | finish ended =>
      rw [ended] at read
      cases read
    | line same rest =>
      rw [read] at same
      cases same
      rw [ih rest]

/-- The answers of a source are what is read from it, line by line until it has come to an end. -/
theorem reads_iff {source : AnswerSource} {lines : List String} :
    source.Reads lines ↔ lines = source.answers := by
  have whole : source.Reads source.answers := by
    cases source with
    | stream text =>
      have read := reads_stream text.toList
      rwa [String.ofList_toList] at read
    | terminal lines => exact reads_terminal lines
  constructor
  · exact fun read => read.unique whole
  · rintro rfl
    exact whole

end Reading

section Views

/-- A stream shows every prompt as one whose answer is echoed. -/
theorem view_stream (text : String) : (stream text).view = Event.echoed := by
  funext event
  cases event <;> rfl

theorem view_terminal (lines : List String) : (terminal lines).view = id := by
  funext event
  cases event <;> rfl

end Views

end AnswerSource

end InputPanel
