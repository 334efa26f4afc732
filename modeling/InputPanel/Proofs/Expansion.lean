import InputPanel.Expansion
import Mathlib.Data.List.TakeWhile

/-!
# What expanding a text depends on

A text is read from the left in one way: where a reference begins it is taken
whole, and any other character stands for itself. Expanding replaces each
reference to a set variable by its value and keeps all else, so a text sees a
store only through the variables that it refers to: stores that give these the
same values expand it alike, whatever else is stored.
-/

namespace InputPanel

namespace Expansion

/-- A text begins with a reference: a name in braces, or a bare name as long as it can be. -/
inductive Begins : (text name spelling rest : List Char) → Prop where
  | braced {name rest : List Char} (named : name ≠ [])
      (allowed : ∀ c ∈ name, isBracedChar c = true) :
      Begins ('$' :: '{' :: (name ++ '}' :: rest)) name ('$' :: '{' :: (name ++ ['}'])) rest
  | bare {first : Char} {more rest : List Char} (start : isBareStart first = true)
      (allowed : ∀ c ∈ more, isBareChar c = true)
      (longest : ∀ c, rest.head? = some c → isBareChar c = false) :
      Begins ('$' :: first :: (more ++ rest)) (first :: more) ('$' :: first :: more) rest

/-- A text read from the left into references, each taken whole, and literal characters. -/
inductive Reads : List Char → List Piece → Prop where
  | done : Reads [] []
  | reference {text name spelling rest : List Char} {later : List Piece}
      (begins : Begins text name spelling rest) (reads : Reads rest later) :
      Reads text (.reference name spelling :: later)
  | literal {c : Char} {rest : List Char} {later : List Piece}
      (none : ∀ name spelling after, ¬ Begins (c :: rest) name spelling after)
      (reads : Reads rest later) : Reads (c :: rest) (.literal c :: later)

/-- What the pieces of a text come to: the value of each variable that is set, and all else as it
is. -/
inductive Replaced (store : Store) : List Piece → List Char → Prop where
  | done : Replaced store [] []
  | literal {c : Char} {later : List Piece} {out : List Char} (rest : Replaced store later out) :
      Replaced store (.literal c :: later) (c :: out)
  | set {name spelling : List Char} {value : String} {later : List Piece} {out : List Char}
      (bound : store.get? (String.ofList name) = some value) (rest : Replaced store later out) :
      Replaced store (.reference name spelling :: later) (value.toList ++ out)
  | unset {name spelling : List Char} {later : List Piece} {out : List Char}
      (unbound : store.get? (String.ofList name) = none) (rest : Replaced store later out) :
      Replaced store (.reference name spelling :: later) (spelling ++ out)

/-- The text that a piece was read from. -/
def Piece.spelling : Piece → List Char
  | .literal c => [c]
  | .reference _ spelling => spelling

/-- Whether a text refers to a variable, be it set or not. -/
def Refers (text name : String) : Prop :=
  ∃ spelling, .reference name.toList spelling ∈ pieces text.toList

section Stretches

variable {p : Char → Bool} {front rest : List Char}

theorem takeWhile_append_of_ends (all : ∀ c ∈ front, p c = true)
    (ends : ∀ c, rest.head? = some c → p c = false) : (front ++ rest).takeWhile p = front := by
  rw [List.takeWhile_append_of_pos all]
  cases rest with
  | nil => exact List.append_nil front
  | cons c rest => simp [ends c rfl]

theorem dropWhile_append_of_ends (all : ∀ c ∈ front, p c = true)
    (ends : ∀ c, rest.head? = some c → p c = false) : (front ++ rest).dropWhile p = rest := by
  rw [List.dropWhile_append_of_pos all]
  cases rest with
  | nil => rfl
  | cons c rest => simp [ends c rfl]

theorem head?_dropWhile_of_some {s : List Char} {c : Char}
    (first : (s.dropWhile p).head? = some c) : p c = false := by
  have stops := List.head?_dropWhile_not p s
  rw [first] at stops
  exact stops

end Stretches

section References

variable {s name spelling rest : List Char}

theorem bracedName?_eq_some_iff :
    bracedName? s = some (name, rest) ↔
      s = name ++ '}' :: rest ∧ name ≠ [] ∧ ∀ c ∈ name, isBracedChar c = true := by
  constructor
  · intro found
    unfold bracedName? at found
    split at found
    · cases found
    · next named =>
      split at found
      · next after closed =>
        cases found
        refine ⟨?_, ?_, fun c inside => List.mem_takeWhile_imp inside⟩
        · rw [← closed, List.takeWhile_append_dropWhile]
        · intro empty
          exact named (by rw [empty]; rfl)
      · cases found
  · rintro ⟨rfl, named, allowed⟩
    have ends : ∀ c, ('}' :: rest).head? = some c → isBracedChar c = false := by
      rintro c ⟨⟩
      rfl
    have nonempty : ¬ name.isEmpty = true := by simpa using named
    rw [bracedName?, takeWhile_append_of_ends allowed ends, dropWhile_append_of_ends allowed ends,
      if_neg nonempty]
    rfl

theorem bareName?_eq_some_iff :
    bareName? s = some (name, rest) ↔
      ∃ first more, name = first :: more ∧ s = first :: (more ++ rest) ∧
        isBareStart first = true ∧ (∀ c ∈ more, isBareChar c = true) ∧
        ∀ c, rest.head? = some c → isBareChar c = false := by
  constructor
  · intro found
    cases s with
    | nil => cases found
    | cons first tail =>
      rw [bareName?] at found
      split at found
      · next start =>
        cases found
        refine ⟨first, _, rfl, ?_, start, fun c inside => List.mem_takeWhile_imp inside,
          fun c next => head?_dropWhile_of_some next⟩
        rw [List.takeWhile_append_dropWhile]
      · cases found
  · rintro ⟨first, more, rfl, rfl, start, allowed, longest⟩
    rw [bareName?, if_pos start, takeWhile_append_of_ends allowed longest,
      dropWhile_append_of_ends allowed longest]

/-- What is found behind a dollar sign is the reference that begins with it. -/
theorem referenceAfterDollar?_eq_some_iff :
    referenceAfterDollar? s = some (name, spelling, rest) ↔
      Begins ('$' :: s) name ('$' :: spelling) rest := by
  constructor
  · intro found
    unfold referenceAfterDollar? at found
    split at found
    · next inner =>
      obtain ⟨⟨name, rest⟩, braced, same⟩ := Option.map_eq_some_iff.1 found
      cases same
      obtain ⟨rfl, named, allowed⟩ := bracedName?_eq_some_iff.1 braced
      exact .braced named allowed
    · obtain ⟨⟨name, rest⟩, bare, same⟩ := Option.map_eq_some_iff.1 found
      cases same
      obtain ⟨first, more, rfl, rfl, start, allowed, longest⟩ := bareName?_eq_some_iff.1 bare
      exact .bare start allowed longest
  · intro begins
    cases begins with
    | braced named allowed =>
      rw [referenceAfterDollar?, bracedName?_eq_some_iff.2 ⟨rfl, named, allowed⟩]
      rfl
    | @bare first more _ start allowed longest =>
      have unbraced : first ≠ '{' := by
        rintro rfl
        cases start
      rw [referenceAfterDollar?, bareName?_eq_some_iff.2 ⟨_, _, rfl, rfl, start, allowed, longest⟩]
      · rfl
      · intro inner same
        exact unbraced (List.cons.inj same).1

theorem Begins.exists_dollar (begins : Begins s name spelling rest) :
    ∃ inner after, s = '$' :: inner ∧ spelling = '$' :: after := by
  cases begins with
  | braced => exact ⟨_, _, rfl, rfl⟩
  | bare => exact ⟨_, _, rfl, rfl⟩

/-- A reference is what it spells and nothing else. -/
theorem Begins.eq_append (begins : Begins s name spelling rest) : s = spelling ++ rest := by
  cases begins with
  | braced => simp
  | bare => simp

theorem pieces_of_begins (begins : Begins s name spelling rest) :
    pieces s = .reference name spelling :: pieces rest := by
  obtain ⟨inner, after, rfl, rfl⟩ := begins.exists_dollar
  have found := referenceAfterDollar?_eq_some_iff.2 begins
  rw [pieces, if_pos rfl]
  split
  · next found' =>
    rw [found] at found'
    cases found'
    rfl
  · next none =>
    rw [found] at none
    cases none

theorem pieces_of_not_begins {c : Char}
    (none : ∀ name spelling after, ¬ Begins (c :: rest) name spelling after) :
    pieces (c :: rest) = .literal c :: pieces rest := by
  rw [pieces]
  split
  · next dollar =>
    subst dollar
    split
    · next found => exact absurd (referenceAfterDollar?_eq_some_iff.1 found) (none _ _ _)
    · rfl
  · rfl

theorem pieces_of_plain {s : List Char} (plain : '$' ∉ s) : pieces s = s.map .literal := by
  induction s with
  | nil => rw [pieces, List.map_nil]
  | cons c rest ih =>
    rw [List.mem_cons, not_or] at plain
    have none : ∀ name spelling after, ¬ Begins (c :: rest) name spelling after := by
      intro name spelling after begins
      obtain ⟨inner, _, starts, _⟩ := begins.exists_dollar
      exact plain.1 (List.cons.inj starts).1.symm
    rw [pieces_of_not_begins none, ih plain.2, List.map_cons]

end References

section Reading

variable {text : List Char} {found : List Piece}

theorem reads_pieces (text : List Char) : Reads text (pieces text) := by
  induction length : text.length using Nat.strongRecOn generalizing text with
  | _ n ih =>
    by_cases begins : ∃ name spelling rest, Begins text name spelling rest
    · obtain ⟨name, spelling, rest, begins⟩ := begins
      have shorter : rest.length < n := by
        obtain ⟨inner, after, _, rfl⟩ := begins.exists_dollar
        rw [← length, begins.eq_append, List.length_append, List.length_cons]
        omega
      rw [pieces_of_begins begins]
      exact .reference begins (ih _ shorter rest rfl)
    · cases text with
      | nil =>
        rw [pieces]
        exact .done
      | cons c rest =>
        have none : ∀ name spelling after, ¬ Begins (c :: rest) name spelling after :=
          fun name spelling after here => begins ⟨name, spelling, after, here⟩
        have shorter : rest.length < n := by
          rw [← length, List.length_cons]
          omega
        rw [pieces_of_not_begins none]
        exact .literal none (ih _ shorter rest rfl)

/-- A text is read in one way. -/
theorem reads_iff : Reads text found ↔ found = pieces text := by
  constructor
  · intro reads
    induction reads with
    | done => rw [pieces]
    | reference begins _ ih => rw [pieces_of_begins begins, ih]
    | literal none _ ih => rw [pieces_of_not_begins none, ih]
  · rintro rfl
    exact reads_pieces text

/-- Reading loses nothing of the text. -/
theorem Reads.flatMap_spelling (reads : Reads text found) :
    found.flatMap Piece.spelling = text := by
  induction reads with
  | done => rfl
  | reference begins _ ih =>
    rw [List.flatMap_cons, ih, begins.eq_append]
    rfl
  | literal _ _ ih =>
    rw [List.flatMap_cons, ih]
    rfl

end Reading

section Rendering

variable {store : Store} {found : List Piece}

/-- There is one thing that pieces come to, which is what they render to. -/
theorem replaced_iff {out : List Char} :
    Replaced store found out ↔ out = found.flatMap (Piece.render store.get?) := by
  constructor
  · intro replaced
    induction replaced with
    | done => rfl
    | literal _ ih =>
      rw [List.flatMap_cons, ← ih]
      rfl
    | set bound _ ih => rw [List.flatMap_cons, ← ih, Piece.render, bound]
    | unset unbound _ ih => rw [List.flatMap_cons, ← ih, Piece.render, unbound]
  · rintro rfl
    induction found with
    | nil => exact .done
    | cons piece later ih =>
      rw [List.flatMap_cons]
      cases piece with
      | literal c => exact .literal ih
      | reference name spelling =>
        rw [Piece.render]
        split
        · next bound => exact .set bound ih
        · next unbound => exact .unset unbound ih

theorem flatMap_render_of_unset
    (unset : ∀ name spelling, .reference name spelling ∈ found →
      store.get? (String.ofList name) = none) :
    found.flatMap (Piece.render store.get?) = found.flatMap Piece.spelling := by
  rw [List.flatMap_def, List.flatMap_def]
  congr 1
  apply List.map_congr_left
  intro piece present
  cases piece with
  | literal c => rfl
  | reference name spelling =>
    rw [Piece.render, unset name spelling present]
    rfl

end Rendering

end Expansion

namespace Store

open Expansion

variable {store other : Store} {text : String}

/-- A text without a dollar sign stays as it is. -/
theorem expand_of_plain (store : Store) (plain : '$' ∉ text.toList) : store.expand text = text := by
  have kept (s : List Char) : (s.map Piece.literal).flatMap (Piece.render store.get?) = s := by
    induction s with
    | nil => rfl
    | cons c s ih => rw [List.map_cons, List.flatMap_cons, ih]; rfl
  rw [expand, pieces_of_plain plain, kept, String.ofList_toList]

theorem expand_congr (alike : ∀ name, Refers text name → store.get? name = other.get? name) :
    store.expand text = other.expand text := by
  have pieceByPiece : ∀ piece ∈ pieces text.toList,
      piece.render store.get? = piece.render other.get? := by
    intro piece present
    cases piece with
    | literal c => rfl
    | reference name spelling =>
      have referred : Refers text (String.ofList name) := by
        refine ⟨spelling, ?_⟩
        rw [String.toList_ofList]
        exact present
      rw [Piece.render, Piece.render, alike _ referred]
  rw [expand, expand, List.flatMap_def, List.flatMap_def, List.map_congr_left pieceByPiece]

end Store

end InputPanel
