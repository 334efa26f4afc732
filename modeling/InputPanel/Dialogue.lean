import InputPanel.Failure
import InputPanel.Number.Integer
import InputPanel.Store
import InputPanel.Text.Blank

/-!
# Dialogues

A dialogue reads answers, one line each, shows prompts and lines, and writes
to the store. Its outcome holds the store and the answers that it leaves, and
what it showed and noted. A question that refuses an answer is put again; when
the answers have come to an end there is no answer. A dialogue may take turns,
each from where the one before it stopped, until one of them has a result.
-/

namespace InputPanel

/-- What is shown. A hidden prompt is one whose answer is not echoed. -/
inductive Event where
  | print (text : String)
  | prompt (text : String)
  | hidden (text : String)
  | table (title : String) (columns : List String) (rows : List (List String))
deriving DecidableEq, Repr

/-- Whether an answer is awaited. -/
def Event.isQuestion : Event → Bool
  | prompt _ => true
  | hidden _ => true
  | _ => false

structure Outcome (α : Type) where
  value : α
  store : Store
  pending : List String
  events : List Event
  notices : List Notice

def Dialogue (α : Type) := Store → List String → Outcome α

namespace Dialogue

variable {α β σ : Type}

def done (a : α) : Dialogue α := fun store pending => ⟨a, store, pending, [], []⟩

def andThen (first : Dialogue α) (next : α → Dialogue β) : Dialogue β := fun store pending =>
  let a := first store pending
  let b := next a.value a.store a.pending
  ⟨b.value, b.store, b.pending, a.events ++ b.events, a.notices ++ b.notices⟩

instance : Monad Dialogue where
  pure := done
  bind := andThen

def store : Dialogue Store := fun store pending => ⟨store, store, pending, [], []⟩

def set (name value : String) : Dialogue Unit := fun store pending =>
  ⟨(), OrderedMap.set store name value, pending, [], []⟩

def print (text : String) : Dialogue Unit := fun store pending =>
  ⟨(), store, pending, [.print text], []⟩

def noted (x : Noted α) : Dialogue α := fun store pending =>
  ⟨x.value, store, pending, [], x.notices⟩

def note (notice : Notice) : Dialogue Unit := noted (Noted.note notice)

/-- What becomes of an answer; one that is refused may be followed by a line that says why. -/
inductive Verdict (α : Type) where
  | accepted (value : α)
  | refused (reason : Option String)

/-- Puts a question to the answers until one is accepted. -/
def answerTo (question : Event) (judge : String → Noted (Verdict α)) (store : Store) :
    List String → Outcome (Option α)
  | [] => ⟨none, store, [], [question], []⟩
  | answer :: rest =>
    let verdict := judge answer
    match verdict.value with
    | .accepted value => ⟨some value, store, rest, [question], verdict.notices⟩
    | .refused reason =>
      let later := answerTo question judge store rest
      { later with
        events := question :: reason.toList.map .print ++ later.events
        notices := verdict.notices ++ later.notices }

def ask (question : Event) (judge : String → Noted (Verdict α)) : Dialogue (Option α) :=
  fun store pending => answerTo question judge store pending

/-- The next line, whatever it says. -/
def askLine (question : Event) : Dialogue (Option String) :=
  ask question fun answer => return .accepted answer

/-- The number that an answer gives: one within bounds, or by an empty answer the default if that is
within bounds. -/
def number? (least greatest default : Int) (answer : String) : Option Int :=
  let text := Text.trim answer.toList
  let value := if text.isEmpty then some default else Number.readInt text
  value.filter fun n => least ≤ n && n ≤ greatest

def askNumber (text : String) (least greatest default : Int) : Dialogue (Option Int) :=
  ask (.prompt (text ++ " ")) fun answer =>
    match number? least greatest default answer with
    | some n => return .accepted n
    | none => return .refused none

/-- What a turn leads to: another turn, or a result. -/
inductive Turn (σ α : Type) where
  | again (state : σ)
  | stop (value : α)

/-- At most so many turns, with a result for when none of them has one. -/
def turnsWithin (turn : σ → Dialogue (Turn σ α)) (spent : α) : Nat → σ → Dialogue α
  | 0, _ => return spent
  | fuel + 1, state => do
    match ← turn state with
    | .again next => turnsWithin turn spent fuel next
    | .stop value => return value

/-- Turns until one has a result. A turn that leads to another takes an answer. -/
def turns (turn : σ → Dialogue (Turn σ α)) (spent : α) (state : σ) : Dialogue α :=
  fun store pending => turnsWithin turn spent (pending.length + 1) state store pending

end Dialogue

/-- What to do when all fields of a panel have been asked. -/
inductive EndAction where
  | proceed
  | quit
  | redisplay
deriving DecidableEq, Repr

namespace EndAction

def name : EndAction → String
  | proceed => "continue"
  | quit => "quit"
  | redisplay => "redisplay"

/-- Asks what to do; the end of the answers is taken as quitting. -/
def ask : Dialogue EndAction := do
  match ← Dialogue.askNumber "press 1 to continue, 2 to quit, 3 to redisplay" 1 3 1 with
  | some 1 => return proceed
  | some 3 => return redisplay
  | _ => return quit

end EndAction

/-- Where answers come from: a text of lines, which are all echoed, or a terminal. -/
inductive AnswerSource where
  | stream (text : String)
  | terminal (lines : List String)
deriving DecidableEq, Repr

namespace AnswerSource

/-- The lines of a text, each without the carriage returns and line feeds at its end. -/
def linesOf (text : List Char) : List String :=
  let pieces := Text.piecesBy (· == '\n') text
  let lines := if pieces.getLast? = some [] then pieces.dropLast else pieces
  lines.map fun line =>
    String.ofList (Text.dropRightWhile (fun c => c == '\r' || c == '\n') line)

def answers : AnswerSource → List String
  | stream text => linesOf text.toList
  | terminal lines => lines

/-- An event as the source shows it. -/
def view : AnswerSource → Event → Event
  | stream _, .hidden text => .prompt text
  | _, event => event

end AnswerSource

end InputPanel
