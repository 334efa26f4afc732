import InputPanel.Proofs.Layout.Reconstruction

/-!
# Which slots a layout shows

The placeholders of a layout show the slots with the first numbers, and of each
the value that was given last. There are as many slots as layout tokens, so a
token of the set may give a value to a slot that no placeholder shows. Such a
token is accepted, and the value is made as if it were not there.
-/

namespace InputPanel.Layout

open Text (words)

variable {token : List Char} {given : List (List Char)} {i : Int} {value : List Char}

/-- The element that satisfies a test and has a given number of such elements before it. -/
theorem exists_countP_take {α : Type} {p : α → Bool} {items : List α} {k : Nat}
    (within : k < items.countP p) :
    ∃ j item, items[j]? = some item ∧ p item = true ∧ (items.take j).countP p = k := by
  induction items generalizing k with
  | nil => simp at within
  | cons first items ih =>
    by_cases counts : p first = true
    · rw [List.countP_cons_of_pos counts] at within
      cases k with
      | zero => exact ⟨0, first, rfl, counts, rfl⟩
      | succ k =>
        obtain ⟨j, item, there, holds, before⟩ := ih (Nat.lt_of_succ_lt_succ within)
        exact ⟨j + 1, item, there, holds, by
          rw [List.take_succ_cons, List.countP_cons_of_pos counts, before]⟩
    · rw [List.countP_cons_of_neg counts] at within
      obtain ⟨j, item, there, holds, before⟩ := ih within
      exact ⟨j + 1, item, there, holds, by
        rw [List.take_succ_cons, List.countP_cons_of_neg counts, before]⟩

section Given

theorem LastGiven.unique {other : List Char} (one : LastGiven given i value)
    (two : LastGiven given i other) : value = other := by
  induction given with
  | nil => exact absurd one lastGiven_nil
  | cons token given ih =>
    rcases lastGiven_cons.1 one with one | ⟨gives, none⟩
    · rcases lastGiven_cons.1 two with two | ⟨_, none⟩
      · exact ih one two
      · obtain ⟨later, present, gives⟩ := one.exists_gives
        exact absurd gives (none later present value)
    · rcases lastGiven_cons.1 two with two | ⟨gives', _⟩
      · obtain ⟨later, present, gives⟩ := two.exists_gives
        exact absurd gives (none later present other)
      · exact (gives.unique gives').2

/-- A token has no say in slots other than its own. -/
theorem lastGiven_append_cons (silent : ∀ other, ¬ Gives token i other)
    (before after : List (List Char)) :
    LastGiven (before ++ token :: after) i value ↔ LastGiven (before ++ after) i value := by
  induction before with
  | nil => simp [lastGiven_cons, silent]
  | cons first before ih =>
    have none : (∀ later ∈ before ++ token :: after, ∀ other, ¬ Gives later i other) ↔
        ∀ later ∈ before ++ after, ∀ other, ¬ Gives later i other := by
      simp only [List.forall_mem_append, List.forall_mem_cons, silent, not_false_eq_true,
        implies_true, true_and]
    rw [List.cons_append, List.cons_append, lastGiven_cons, lastGiven_cons, ih, none]

end Given

section Pieces

variable {name separator : Option String} {k : Nat} {piece : List Char}

theorem Shows.unique {other : List Char} (one : Shows given name separator k token piece)
    (two : Shows given name separator k token other) : piece = other := by
  cases one with
  | slot placeholder last =>
    cases two with
    | slot _ last' => exact last.unique last'
    | unset _ none => exact absurd last (none _)
    | literal short | replaced short | dropped short => omega
  | unset placeholder none =>
    cases two with
    | slot _ last => exact absurd last (none _)
    | unset => rfl
    | literal short | replaced short | dropped short => omega
  | literal short unreplaced kept =>
    cases two with
    | slot placeholder | unset placeholder => omega
    | literal => rfl
    | replaced _ special => exact absurd special unreplaced
    | dropped _ plain => exact absurd plain kept
  | replaced short special =>
    cases two with
    | slot placeholder | unset placeholder => omega
    | literal _ unreplaced => exact absurd special unreplaced
    | replaced => rfl
    | dropped _ plain =>
      rw [special] at plain
      simp at plain
  | dropped short plain =>
    cases two with
    | slot placeholder | unset placeholder => omega
    | literal _ _ kept => exact absurd plain kept
    | replaced _ special =>
      rw [special] at plain
      simp at plain
    | dropped => rfl

/-- What is shown depends on the set only through the slot with the number that is shown. -/
theorem Shows.congr {others : List (List Char)}
    (same : 2 ≤ token.count ':' → ∀ value, LastGiven given k value ↔ LastGiven others k value)
    (shows : Shows given name separator k token piece) :
    Shows others name separator k token piece := by
  cases shows with
  | slot placeholder last => exact .slot placeholder ((same placeholder _).1 last)
  | unset placeholder none =>
    exact .unset placeholder fun value last => none value ((same placeholder value).2 last)
  | literal short unreplaced kept => exact .literal short unreplaced kept
  | replaced short special => exact .replaced short special
  | dropped short plain => exact .dropped short plain

end Pieces

section Slots

variable {layout set other : String} {name separator : Option String}
  {pieces others : List (List Char)} {made : String}

/-- How many slots a layout shows. -/
def shownCount (layout : String) : Nat := (words layout.toList).countP (2 ≤ ·.count ':')

theorem Pieces.shows {j : Nat} (each : Pieces layout set name separator pieces)
    (there : (words layout.toList)[j]? = some token) :
    ∃ piece, pieces[j]? = some piece ∧ Shows (words set.toList) name separator
      (((words layout.toList).take j).countP (2 ≤ ·.count ':')) token piece := by
  have inside : j < pieces.length := by
    rw [each.1]
    exact (List.getElem?_eq_some_iff.1 there).1
  have made := List.getElem?_eq_getElem inside
  exact ⟨_, made, each.2 j token _ there made⟩

/-- The value of a slot that is shown is one of the pieces. -/
theorem Pieces.shown (each : Pieces layout set name separator pieces) {k : Nat}
    (within : k < shownCount layout) (last : LastGiven (words set.toList) k value) :
    ∃ j token, (words layout.toList)[j]? = some token ∧ 2 ≤ token.count ':' ∧
      ((words layout.toList).take j).countP (2 ≤ ·.count ':') = k ∧ pieces[j]? = some value := by
  obtain ⟨j, token, there, long, before⟩ := exists_countP_take within
  have placeholder := of_decide_eq_true long
  obtain ⟨piece, made, shows⟩ := each.shows there
  rw [before] at shows
  refine ⟨j, token, there, placeholder, before, ?_⟩
  rw [made, shows.unique (.slot placeholder last)]

/-- A placeholder shows one of the slots that are shown. -/
theorem countP_take_lt {j : Nat} (there : (words layout.toList)[j]? = some token)
    (placeholder : 2 ≤ token.count ':') :
    ((words layout.toList).take j).countP (2 ≤ ·.count ':') < shownCount layout := by
  obtain ⟨inside, rfl⟩ := List.getElem?_eq_some_iff.1 there
  have split := List.take_append_drop j (words layout.toList)
  rw [List.drop_eq_getElem_cons inside] at split
  rw [shownCount]
  conv => rhs; rw [← split]
  rw [List.countP_append, List.countP_cons, if_pos (decide_eq_true placeholder)]
  omega

/-- The slots that are shown determine the pieces. -/
theorem Pieces.eq (one : Pieces layout set name separator pieces)
    (two : Pieces layout other name separator others)
    (same : ∀ (k : Nat) value, k < shownCount layout →
      (LastGiven (words set.toList) k value ↔ LastGiven (words other.toList) k value)) :
    pieces = others := by
  apply List.ext_getElem?
  intro j
  cases there : (words layout.toList)[j]? with
  | some token =>
    obtain ⟨piece, made, shows⟩ := one.shows there
    obtain ⟨piece', made', shows'⟩ := two.shows there
    have alike := shows.congr fun placeholder value =>
      same _ value (countP_take_lt there placeholder)
    rw [made, made', alike.unique shows']
  | none =>
    have beyond := List.getElem?_eq_none_iff.1 there
    rw [List.getElem?_eq_none (by rw [one.1]; exact beyond),
      List.getElem?_eq_none (by rw [two.1]; exact beyond)]

theorem exists_pieces_of_reconstruct
    (accepted : reconstruct layout set (.ofName name separator) = .ok made) :
    ∃ pieces : List (List Char), made = String.ofList pieces.flatten ∧
      Pieces layout set name separator pieces := by
  rcases reconstruct_cases layout set name separator with ⟨error, failed⟩ | ⟨pieces, value, each⟩
  · rw [accepted] at failed
    cases failed
  · rw [accepted] at value
    cases value
    exact ⟨pieces, rfl, each⟩

theorem not_wrong_of_reconstruct {format : ResultFormat} {error : LayoutError}
    (accepted : reconstruct layout set format = .ok made) (present : token ∈ words set.toList) :
    ¬ Wrong (words layout.toList).length token error := by
  intro wrong
  obtain ⟨error, failed⟩ := reconstruct_fails_iff.2 ⟨token, present, error, wrong⟩
  rw [accepted] at failed
  cases failed

/-- A token whose slot is not shown makes no difference to a value that is made. -/
theorem reconstruct_of_not_shown {before after : List (List Char)}
    (accepted : reconstruct layout set (.ofName name separator) = .ok made)
    (split : words set.toList = before ++ token :: after)
    (rest : words other.toList = before ++ after) (gives : Gives token i value)
    (beyond : shownCount layout ≤ i) :
    reconstruct layout other (.ofName name separator) = .ok made := by
  obtain ⟨pieces, rfl, each⟩ := exists_pieces_of_reconstruct accepted
  rcases reconstruct_cases layout other name separator with failed | ⟨others, value, each'⟩
  · obtain ⟨token, present, error, wrong⟩ := reconstruct_fails_iff.1 failed
    have kept : token ∈ words set.toList := by
      rw [rest, List.mem_append] at present
      rw [split, List.mem_append, List.mem_cons]
      exact present.imp_right .inr
    exact absurd wrong (not_wrong_of_reconstruct accepted kept)
  · have same : pieces = others := by
      refine each.eq each' fun k value within => ?_
      have silent : ∀ other, ¬ Gives token (k : Int) other := by
        intro other again
        have own := (gives.unique again).1
        omega
      rw [split, rest]
      exact lastGiven_append_cons silent before after
    rw [value, same]

theorem index_of_reconstruct {format : ResultFormat}
    (accepted : reconstruct layout set format = .ok made) (present : token ∈ words set.toList)
    (colon : ':' ∈ token) :
    ∃ i value, Gives token i value ∧ 0 ≤ i ∧ i < (words layout.toList).length := by
  rcases token_cases (Text.isBlank_of_mem_words present) (words layout.toList).length with
    free | ⟨k, within, value, gives⟩ | ⟨error, wrong⟩
  · exact absurd colon free
  · exact ⟨k, value, gives, by omega, by omega⟩
  · exact absurd wrong (not_wrong_of_reconstruct accepted present)

/-- Of a set that is accepted every token with a colon has the index of a layout token. The value
that a slot is given last is one of the pieces if the slot is shown; a token whose slot is not shown
can be left out. An index beyond the layout tokens is refused. -/
theorem accepted_slots_shown (layout set : String) (name separator : Option String) :
    (∀ made, reconstruct layout set (.ofName name separator) = .ok made →
      (∀ token ∈ words set.toList, ':' ∈ token →
        ∃ i value, Gives token i value ∧ 0 ≤ i ∧ i < (words layout.toList).length) ∧
      (∃ pieces : List (List Char), made = String.ofList pieces.flatten ∧
        Pieces layout set name separator pieces ∧
        ∀ (k : Nat) value, k < shownCount layout → LastGiven (words set.toList) k value →
          ∃ j token, (words layout.toList)[j]? = some token ∧ 2 ≤ token.count ':' ∧
            ((words layout.toList).take j).countP (2 ≤ ·.count ':') = k ∧
            pieces[j]? = some value) ∧
      ∀ other before token after i value, words set.toList = before ++ token :: after →
        words (String.toList other) = before ++ after → Gives token i value →
        shownCount layout ≤ i → reconstruct layout other (.ofName name separator) = .ok made) ∧
    ∀ token ∈ words set.toList, ∀ i value, Gives token i value →
      (words layout.toList).length ≤ i →
      ∃ error, reconstruct layout set (.ofName name separator) = .error error := by
  constructor
  · intro made accepted
    obtain ⟨pieces, value, each⟩ := exists_pieces_of_reconstruct accepted
    refine ⟨fun token present colon => index_of_reconstruct accepted present colon, ?_, ?_⟩
    · exact ⟨pieces, value, each, fun k value within last => each.shown within last⟩
    · intro other before token after i value split rest gives beyond
      exact reconstruct_of_not_shown accepted split rest gives beyond
  · intro token present i value gives beyond
    obtain ⟨index, rfl, first, spelled⟩ := gives
    exact reconstruct_fails_iff.2 ⟨_, present, _, .outside first spelled (by omega)⟩

/-- One placeholder and one literal take two slots, and the second is not shown. -/
theorem slot_of_literal_accepted :
    reconstruct "N:1:1 -" "0:a 1:b" (.ofName none none) = .ok "a-" ∧
      "1:b".toList ∈ words "0:a 1:b".toList ∧ Gives "1:b".toList 1 "b".toList ∧
      ¬ (1 : Int) < shownCount "N:1:1 -" := by
  have digit : Number.Spaced Text.digitValue? ['1'] [1] := .last rfl
  exact ⟨rfl, by decide, ⟨['1'], rfl, by decide, .unsigned digit (by decide)⟩, by decide⟩

end Slots

end InputPanel.Layout
