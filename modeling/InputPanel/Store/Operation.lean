import InputPanel.Failure
import InputPanel.Store

/-!
# Operations on the store

Whoever shares a store changes it by a few operations. An operation answers with
a value, or it fails for a name that is not there or a value that has no text, and
it leaves a store in either case. What has nothing to say answers with null.
-/

namespace InputPanel.Store

/-- What is asked of a store. An item is assigned as a name is set, and deleting a name is taking it
out without a look at its value. -/
inductive Operation where
  | set (name : String) (value : Data)
  | assign (name : String) (value : Data)
  | delete (name : String)
  | pop (name : String) (default : Option Data)
  | popFirst
  | setDefault (name : String) (value : Data)
  | update (entries : List (String × Data))
  | clear

/-- Writes a value that has a text, where there is room for the text, and answers. -/
def tryWrite (room : Nat) (store : Store) (name : String) (value answer : Data) :
    Store × Except Failure Data :=
  match value.textFault? room with
  | some failure => (store, .error failure)
  | none => (store.write name value, .ok answer)

/-- Writes entries one after the other, up to one whose value has no text. -/
def writeAll (room : Nat) (store : Store) : List (String × Data) → Store × Except Failure Data
  | [] => (store, .ok .null)
  | (name, value) :: rest =>
    match value.textFault? room with
    | some failure => (store, .error failure)
    | none => writeAll room (store.write name value) rest

/-- The store that an operation leaves, and its answer or failure, where there is room for the texts
of values. -/
def perform (room : Nat) (store : Store) : Operation → Store × Except Failure Data
  | .set name value => store.tryWrite room name value .null
  | .assign name value => store.tryWrite room name value .null
  | .delete name =>
    match store.pop? name with
    | some (_, rest) => (rest, .ok .null)
    | none => (store, .error .missingKey)
  | .pop name default =>
    match store.pop? name, default with
    | some (value, rest), _ => (rest, .ok (.text value))
    | none, some value => (store, .ok value)
    | none, none => (store, .error .missingKey)
  | .popFirst =>
    match store.popFirst? with
    | some ((name, value), rest) => (rest, .ok (.pair (.text name) (.text value)))
    | none => (store, .error .missingKey)
  | .setDefault name value =>
    match store.get? name with
    | some held => (store, .ok (.text held))
    | none => store.tryWrite room name value value
  | .update entries => store.writeAll room entries
  | .clear => (store.clear, .ok .null)

/-- The store that operations leave, one after the other, whether they fail or not. -/
def performAll (room : Nat) (store : Store) (operations : List Operation) : Store :=
  operations.foldl (fun store operation => (store.perform room operation).1) store

end InputPanel.Store
