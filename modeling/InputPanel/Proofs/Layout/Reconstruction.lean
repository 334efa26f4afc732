import InputPanel.Proofs.Failure
import InputPanel.Proofs.Layout.Slots
import InputPanel.Proofs.Number.Integer
import InputPanel.Proofs.Text.Words

/-!
# The value that a layout and a set make

A token of a set gives a slot a value, or it has no colon and is passed over, or
it is wrong; the first wrong token is at fault for the whole. Otherwise a slot
holds what the last token with its index gives it, and each layout token adds its
piece to the value: a placeholder the slot with its number, a literal what the
format makes of it. Slots beyond the placeholders are filled in vain.
-/

namespace InputPanel.Layout

open Number (Numeral)
open Text (isBlank words)

/-- A token gives a slot its value: the text before its first colon spells the index, and the text
after it is the value. -/
def Gives (token : List Char) (i : Int) (value : List Char) : Prop :=
  ∃ index, token = index ++ ':' :: value ∧ ':' ∉ index ∧ Numeral index i

/-- What is wrong with a token of a set for a layout with this many tokens. -/
inductive Wrong (count : Nat) : List Char → LayoutError → Prop where
  | invalid {index value : List Char} (first : ':' ∉ index) (unspelled : ∀ i, ¬ Numeral index i) :
      Wrong count (index ++ ':' :: value)
        (.invalidIndex (String.ofList index) (String.ofList (index ++ ':' :: value)))
  | outside {index value : List Char} {i : Int} (first : ':' ∉ index) (spelled : Numeral index i)
      (beyond : ¬ (0 ≤ i ∧ i < count)) : Wrong count (index ++ ':' :: value) (.outOfRange i count)

/-- The value that the last token with an index gives. -/
def LastGiven (given : List (List Char)) (i : Int) (value : List Char) : Prop :=
  ∃ before token after, given = before ++ token :: after ∧ Gives token i value ∧
    ∀ later ∈ after, ∀ other, ¬ Gives later i other

variable {count : Nat} {token : List Char} {given : List (List Char)} {slots after : Slots}
  {error : LayoutError} {i : Int} {value : List Char}

section Tokens

theorem Gives.unique {j : Int} {other : List Char} (one : Gives token i value)
    (two : Gives token j other) : i = j ∧ value = other := by
  obtain ⟨index, rfl, first, spelled⟩ := one
  obtain ⟨index', same, first', spelled'⟩ := two
  have cut : Text.cutAt ':' (index ++ ':' :: value) = some (index, value) :=
    Text.cutAt_eq_some_iff.2 ⟨rfl, first⟩
  rw [Text.cutAt_eq_some_iff.2 ⟨same, first'⟩] at cut
  cases cut
  exact ⟨spelled.unique spelled', rfl⟩

/-- The index of a token without white space has none either. -/
theorem solid_index {index : List Char} (solid : ∀ c ∈ index ++ ':' :: value, isBlank c = false) :
    ∀ c ∈ index, isBlank c = false :=
  fun c inside => solid c (List.mem_append_left _ inside)

variable (solid : ∀ c ∈ token, isBlank c = false)

include solid

theorem gives_iff :
    Gives token i value ↔
      ∃ index, assignment? token = some (index, value) ∧ Number.readInt index = some i := by
  constructor
  · rintro ⟨index, rfl, first, spelled⟩
    exact ⟨index, Text.cutAt_eq_some_iff.2 ⟨rfl, first⟩,
      (Number.readInt_eq_some_iff (solid_index solid)).2 spelled⟩
  · rintro ⟨index, cut, read⟩
    obtain ⟨rfl, first⟩ := Text.cutAt_eq_some_iff.1 cut
    exact ⟨index, rfl, first, (Number.readInt_eq_some_iff (solid_index solid)).1 read⟩

theorem assign_of_gives {k : Nat} (gives : Gives token k value) (within : k < count) :
    assign count slots token = .ok (slots.set k (some value)) := by
  obtain ⟨index, cut, read⟩ := (gives_iff solid).1 gives
  have inside : (0 : Int) ≤ k ∧ (k : Int) < count := by omega
  rw [assign, cut]
  dsimp only
  rw [read]
  dsimp only
  rw [if_pos inside, Int.toNat_natCast]

theorem assign_of_wrong (wrong : Wrong count token error) :
    assign count slots token = .error error := by
  unfold assign
  cases wrong with
  | @invalid index value first unspelled =>
    have unread : Number.readInt index = none := by
      rw [Option.eq_none_iff_forall_ne_some]
      intro i read
      exact unspelled i ((Number.readInt_eq_some_iff (solid_index solid)).1 read)
    rw [assignment?, Text.cutAt_eq_some_iff.2 ⟨rfl, first⟩]
    dsimp only
    rw [unread]
  | @outside index value i first spelled beyond =>
    rw [assignment?, Text.cutAt_eq_some_iff.2 ⟨rfl, first⟩]
    dsimp only
    rw [(Number.readInt_eq_some_iff (solid_index solid)).2 spelled]
    dsimp only
    rw [if_neg beyond]

omit solid in
theorem assign_of_no_colon (free : ':' ∉ token) : assign count slots token = .ok slots := by
  rw [assign, assignment?, Text.cutAt_eq_none_iff.2 free]

/-- Whether a token has no colon, gives a slot that is there a value, or is wrong. -/
theorem token_cases (count : Nat) :
    ':' ∉ token ∨ (∃ k < count, ∃ value, Gives token (k : Int) value) ∨
      ∃ error, Wrong count token error := by
  cases cut : assignment? token with
  | none => exact .inl (Text.cutAt_eq_none_iff.1 cut)
  | some parts =>
    obtain ⟨index, value⟩ := parts
    obtain ⟨rfl, first⟩ := Text.cutAt_eq_some_iff.1 cut
    cases read : Number.readInt index with
    | none =>
      refine .inr (.inr ⟨_, .invalid first fun i spelled => ?_⟩)
      rw [(Number.readInt_eq_some_iff (solid_index solid)).2 spelled] at read
      cases read
    | some i =>
      have spelled := (Number.readInt_eq_some_iff (solid_index solid)).1 read
      by_cases within : 0 ≤ i ∧ i < count
      · obtain ⟨k, rfl⟩ := Int.eq_ofNat_of_zero_le within.1
        exact .inr (.inl ⟨k, Int.ofNat_lt.1 within.2, value, index, rfl, first, spelled⟩)
      · exact .inr (.inr ⟨_, .outside first spelled within⟩)

theorem assign_eq_error_iff :
    assign count slots token = .error error ↔ Wrong count token error := by
  constructor
  · intro failed
    rcases token_cases solid count with free | ⟨k, within, value, gives⟩ | ⟨fault, wrong⟩
    · rw [assign_of_no_colon free] at failed
      cases failed
    · rw [assign_of_gives solid gives within] at failed
      cases failed
    · rw [assign_of_wrong solid wrong] at failed
      cases failed
      exact wrong
  · exact assign_of_wrong solid

end Tokens

section Sets

theorem lastGiven_nil : ¬ LastGiven [] i value := by
  rintro ⟨before, token, after, split, _⟩
  simp at split

theorem LastGiven.exists_gives (last : LastGiven given i value) :
    ∃ token ∈ given, Gives token i value := by
  obtain ⟨before, token, after, rfl, gives, _⟩ := last
  exact ⟨token, by simp, gives⟩

theorem lastGiven_cons :
    LastGiven (token :: given) i value ↔
      LastGiven given i value ∨
        Gives token i value ∧ ∀ later ∈ given, ∀ other, ¬ Gives later i other := by
  constructor
  · rintro ⟨before, last, after, split, gives, none⟩
    rcases List.cons_eq_append_iff.1 split with ⟨rfl, same⟩ | ⟨front, rfl, rfl⟩
    · cases same
      exact .inr ⟨gives, none⟩
    · exact .inl ⟨front, last, after, rfl, gives, none⟩
  · rintro (⟨before, last, after, rfl, gives, none⟩ | ⟨gives, none⟩)
    · exact ⟨token :: before, last, after, rfl, gives, none⟩
    · exact ⟨[], token, given, rfl, gives, none⟩

theorem getElem?_assign {k : Nat} (solid : ∀ c ∈ token, isBlank c = false)
    (there : k < slots.length) (step : assign count slots token = .ok after) :
    after[k]? = some (some value) ↔
      Gives token k value ∨ (∀ other, ¬ Gives token k other) ∧ slots[k]? = some (some value) := by
  rcases token_cases solid count with free | ⟨j, within, written, gives⟩ | ⟨error, wrong⟩
  · rw [assign_of_no_colon free] at step
    cases step
    have none (other : List Char) : ¬ Gives token k other := by
      rintro ⟨index, rfl, _⟩
      exact free (by simp)
    simp [none]
  · rw [assign_of_gives solid gives within] at step
    cases step
    by_cases same : j = k
    · subst same
      rw [List.getElem?_set_self there]
      constructor
      · rintro ⟨⟩
        exact .inl gives
      · rintro (again | ⟨none, _⟩)
        · rw [(gives.unique again).2]
        · exact absurd gives (none written)
    · have none (other : List Char) : ¬ Gives token k other := by
        intro again
        exact same (Int.ofNat.inj (gives.unique again).1)
      rw [List.getElem?_set_ne same]
      simp [none]
  · rw [assign_of_wrong solid wrong] at step
    cases step

/-- A slot holds what the last token with its index gives it, or what it held before if there is no
such token. -/
theorem getElem?_foldlM_assign {k : Nat} (solid : ∀ token ∈ given, ∀ c ∈ token, isBlank c = false)
    (filled : Filled count slots) (within : k < count)
    (run : given.foldlM (assign count) slots = .ok after) :
    after[k]? = some (some value) ↔
      LastGiven given k value ∨
        (∀ token ∈ given, ∀ other, ¬ Gives token k other) ∧ slots[k]? = some (some value) := by
  induction given generalizing slots with
  | nil =>
    cases run
    simp [lastGiven_nil]
  | cons token given ih =>
    rw [List.foldlM_cons] at run
    obtain ⟨next, step, run⟩ := bind_eq_ok_iff.1 run
    have filledNext : Filled count next := @filled_assign count _ _ _ filled step
    have there : k < slots.length := by
      rw [filled.length_eq]
      exact within
    rw [ih (fun token inside => solid token (List.mem_cons_of_mem _ inside)) filledNext run,
      getElem?_assign (solid token List.mem_cons_self) there step, lastGiven_cons,
      List.forall_mem_cons]
    constructor
    · rintro (last | ⟨none, gives | ⟨unset, held⟩⟩)
      · exact .inl (.inl last)
      · exact .inl (.inr ⟨gives, none⟩)
      · exact .inr ⟨⟨unset, none⟩, held⟩
    · rintro ((last | ⟨gives, none⟩) | ⟨⟨unset, none⟩, held⟩)
      · exact .inl last
      · exact .inr ⟨none, .inl gives⟩
      · exact .inr ⟨none, .inr ⟨unset, held⟩⟩

variable {set : List Char}

theorem getElem?_parseSlots {k : Nat} (within : k < count)
    (parsed : parseSlots set count = .ok slots) :
    slots[k]? = some (some value) ↔ LastGiven (words set) k value := by
  rw [getElem?_foldlM_assign (fun _ present => Text.isBlank_of_mem_words present) .blank within
    parsed]
  simp [List.getElem?_replicate]

/-- What is wrong with a token does not depend on the slots. -/
def refusal? (count : Nat) (token : List Char) : Option LayoutError :=
  match assign count [] token with
  | .error error => some error
  | .ok _ => none

theorem assign_eq_error_iff_refusal? :
    assign count slots token = .error error ↔ refusal? count token = some error := by
  unfold refusal? assign
  split
  · simp
  · split
    · simp
    · split <;> simp

theorem refusal?_eq_some_iff (solid : ∀ c ∈ token, isBlank c = false) :
    refusal? count token = some error ↔ Wrong count token error := by
  have refuses : assign count [] token = .error error ↔ refusal? count token = some error :=
    assign_eq_error_iff_refusal?
  rw [← refuses, assign_eq_error_iff solid]

theorem parseSlots_eq_error_iff_refusal? :
    parseSlots set count = .error error ↔
      (words set).findSome? (refusal? count) = some error := by
  have refuses (slots token error) :
      assign count slots token = .error error ↔ refusal? count token = some error :=
    assign_eq_error_iff_refusal?
  exact foldlM_eq_error_iff refuses

/-- The first wrong token of a set is at fault. -/
theorem parseSlots_eq_error_iff :
    parseSlots set count = .error error ↔
      ∃ before token after, words set = before ++ token :: after ∧ Wrong count token error ∧
        ∀ earlier ∈ before, ∀ other, ¬ Wrong count earlier other := by
  rw [parseSlots_eq_error_iff_refusal?, List.findSome?_eq_some_iff]
  have solid : ∀ token ∈ words set, ∀ c ∈ token, isBlank c = false :=
    fun _ present => Text.isBlank_of_mem_words present
  constructor
  · rintro ⟨before, token, after, split, refused, passed⟩
    rw [split] at solid
    refine ⟨before, token, after, split, ?_, fun earlier present other wrong => ?_⟩
    · exact (refusal?_eq_some_iff (solid token (by simp))).1 refused
    · have refused := (refusal?_eq_some_iff (solid earlier (by simp [present]))).2 wrong
      rw [passed earlier present] at refused
      cases refused
  · rintro ⟨before, token, after, split, wrong, right⟩
    rw [split] at solid
    refine ⟨before, token, after, split, ?_, fun earlier present => ?_⟩
    · exact (refusal?_eq_some_iff (solid token (by simp))).2 wrong
    · rw [Option.eq_none_iff_forall_ne_some]
      intro other refused
      exact right earlier present other
        ((refusal?_eq_some_iff (solid earlier (by simp [present]))).1 refused)

theorem parseSlots_fails_iff :
    (∃ error, parseSlots set count = .error error) ↔
      ∃ token ∈ words set, ∃ error, Wrong count token error := by
  constructor
  · rintro ⟨error, failed⟩
    obtain ⟨before, token, after, split, wrong, _⟩ := parseSlots_eq_error_iff.1 failed
    exact ⟨token, by simp [split], error, wrong⟩
  · rintro ⟨token, present, error, wrong⟩
    have refused : ((words set).findSome? (refusal? count)).isSome = true :=
      List.findSome?_isSome_iff.2 ⟨token, present, by
        rw [(refusal?_eq_some_iff (Text.isBlank_of_mem_words present)).2 wrong]
        rfl⟩
    obtain ⟨first, found⟩ := Option.isSome_iff_exists.1 refused
    exact ⟨first, parseSlots_eq_error_iff_refusal?.2 found⟩

end Sets

section Rendering

/-- The piece that a layout token adds, with this many placeholders before it. -/
inductive Shows (given : List (List Char)) (name separator : Option String) (k : Nat) :
    List Char → List Char → Prop where
  | slot {token value : List Char} (placeholder : 2 ≤ token.count ':')
      (last : LastGiven given k value) : Shows given name separator k token value
  | unset {token : List Char} (placeholder : 2 ≤ token.count ':')
      (none : ∀ value, ¬ LastGiven given k value) : Shows given name separator k token []
  | literal {token : List Char} (short : token.count ':' < 2)
      (unreplaced : name ≠ some "specialSeparator") (kept : name ≠ some "plainString") :
      Shows given name separator k token token
  | replaced {token : List Char} (short : token.count ':' < 2)
      (special : name = some "specialSeparator") :
      Shows given name separator k token (separator.getD "").toList
  | dropped {token : List Char} (short : token.count ':' < 2) (plain : name = some "plainString") :
      Shows given name separator k token []

/-- A value is the pieces of its tokens one after the other; a placeholder shows the slot with the
number of the placeholders before it. -/
theorem exists_pieces (format : ResultFormat) (slots : Slots) (tokens : List (List Char))
    (before : Nat) :
    ∃ pieces : List (List Char), render format tokens (slots.drop before) = pieces.flatten ∧
      pieces.length = tokens.length ∧
      ∀ j token piece, tokens[j]? = some token → pieces[j]? = some piece →
        piece = if isPlaceholder token then
            slots[before + (tokens.take j).countP isPlaceholder]?.join.getD []
          else format.literal token := by
  induction tokens generalizing before with
  | nil => exact ⟨[], rfl, rfl, by simp⟩
  | cons token tokens ih =>
    by_cases shown : isPlaceholder token = true
    · obtain ⟨pieces, value, length, each⟩ := ih (before + 1)
      refine ⟨slots[before]?.join.getD [] :: pieces, ?_, by simp [length], ?_⟩
      · rw [render, if_pos shown, List.head?_drop, List.tail_drop, value, List.flatten_cons]
      · intro j other piece there made
        cases j with
        | zero =>
          cases there
          cases made
          simp [shown]
        | succ j =>
          rw [each j other piece there made, List.take_succ_cons, List.countP_cons_of_pos shown,
            Nat.add_assoc, Nat.add_comm 1]
    · obtain ⟨pieces, value, length, each⟩ := ih before
      refine ⟨format.literal token :: pieces, ?_, by simp [length], ?_⟩
      · rw [render, if_neg shown, value, List.flatten_cons]
      · intro j other piece there made
        cases j with
        | zero =>
          cases there
          cases made
          simp [shown]
        | succ j =>
          rw [each j other piece there made, List.take_succ_cons, List.countP_cons_of_neg shown]

theorem two_le_count_iff {token : List Char} :
    2 ≤ token.count ':' ↔ isPlaceholder token = true := by
  rw [isPlaceholder, decide_eq_true_eq]

theorem literal_shows {token : List Char} (name separator : Option String) (k : Nat)
    (short : token.count ':' < 2) :
    Shows given name separator k token ((ResultFormat.ofName name separator).literal token) := by
  unfold ResultFormat.ofName
  split
  · exact .replaced short rfl
  · exact .dropped short rfl
  · next unreplaced kept =>
    exact .literal short unreplaced kept

end Rendering

section Reconstruction

variable {layout set : String} {name separator : Option String}

theorem reconstruct_eq_error_iff {format : ResultFormat} :
    reconstruct layout set format = .error error ↔
      parseSlots set.toList (words layout.toList).length = .error error := by
  rw [reconstruct, bind_eq_error_iff]
  constructor
  · rintro (failed | ⟨slots, _, ⟨⟩⟩)
    exact failed
  · exact .inl

/-- The pieces of a value, one for each layout token. -/
def Pieces (layout set : String) (name separator : Option String) (pieces : List (List Char)) :
    Prop :=
  pieces.length = (words layout.toList).length ∧
    ∀ j token piece, (words layout.toList)[j]? = some token → pieces[j]? = some piece →
      Shows (words set.toList) name separator
        (((words layout.toList).take j).countP (2 ≤ ·.count ':')) token piece

theorem exists_pieces_of_parseSlots {slots : Slots}
    (parsed : parseSlots set.toList (words layout.toList).length = .ok slots) :
    ∃ pieces : List (List Char),
      reconstruct layout set (.ofName name separator) = .ok (String.ofList pieces.flatten) ∧
      Pieces layout set name separator pieces := by
  obtain ⟨pieces, value, length, each⟩ :=
    exists_pieces (.ofName name separator) slots (words layout.toList) 0
  refine ⟨pieces, ?_, length, ?_⟩
  · rw [← value, reconstruct, parsed]
    rfl
  · intro j token piece there made
    have counted : ((words layout.toList).take j).countP (2 ≤ ·.count ':') =
        ((words layout.toList).take j).countP isPlaceholder := rfl
    have within : ((words layout.toList).take j).countP isPlaceholder <
        (words layout.toList).length := by
      have bound := List.countP_le_length (p := isPlaceholder) (l := (words layout.toList).take j)
      have inside := (List.getElem?_eq_some_iff.1 there).1
      rw [List.length_take] at bound
      omega
    rw [counted, each j token piece there made, Nat.zero_add]
    split
    · next shown =>
      have placeholder := two_le_count_iff.2 shown
      cases held : slots[((words layout.toList).take j).countP isPlaceholder]?.join with
      | some value =>
        have last := (getElem?_parseSlots within parsed).1 (Option.join_eq_some_iff.1 held)
        exact .slot placeholder last
      | none =>
        refine .unset placeholder fun value last => ?_
        have held' := (getElem?_parseSlots within parsed).2 last
        rw [held'] at held
        cases held
    · next literal =>
      refine literal_shows name separator _ ?_
      rw [← two_le_count_iff] at literal
      omega

theorem reconstruct_fails_iff {format : ResultFormat} :
    (∃ error, reconstruct layout set format = .error error) ↔
      ∃ token ∈ words set.toList, ∃ error, Wrong (words layout.toList).length token error := by
  simp only [reconstruct_eq_error_iff, parseSlots_fails_iff]

theorem reconstruct_cases (layout set : String) (name separator : Option String) :
    (∃ error, reconstruct layout set (.ofName name separator) = .error error) ∨
      ∃ pieces : List (List Char),
        reconstruct layout set (.ofName name separator) = .ok (String.ofList pieces.flatten) ∧
        Pieces layout set name separator pieces := by
  cases parsed : parseSlots set.toList (words layout.toList).length with
  | error error => exact .inl ⟨error, reconstruct_eq_error_iff.2 parsed⟩
  | ok slots => exact .inr (exists_pieces_of_parseSlots parsed)

theorem exists_wrong_iff :
    (∃ error, Wrong count token error) ↔
      ∃ index value, token = index ++ ':' :: value ∧ ':' ∉ index ∧
        ∀ i, Numeral index i → ¬ (0 ≤ i ∧ i ≤ (count : Int) - 1) := by
  constructor
  · rintro ⟨error, wrong⟩
    cases wrong with
    | invalid first unspelled =>
      exact ⟨_, _, rfl, first, fun i spelled => absurd spelled (unspelled i)⟩
    | outside first spelled beyond =>
      refine ⟨_, _, rfl, first, fun i numeral inside => beyond ?_⟩
      rw [spelled.unique numeral]
      omega
  · rintro ⟨index, value, rfl, first, beyond⟩
    by_cases spelled : ∃ i, Numeral index i
    · obtain ⟨i, spelled⟩ := spelled
      exact ⟨_, .outside first spelled fun inside => beyond i spelled (by omega)⟩
    · exact ⟨_, .invalid first fun i numeral => spelled ⟨i, numeral⟩⟩

/-- A layout and a set come to nothing exactly if a token of the set with a colon has something else
before the first one than the index of a layout token, and then the first such token is at fault.
Otherwise they make the pieces of the layout tokens, one after the other. -/
theorem reconstruct_shows_slots (layout set : String) (name separator : Option String) :
    ((∃ error, reconstruct layout set (.ofName name separator) = .error error) ↔
      ∃ token ∈ words set.toList, ∃ index value, token = index ++ ':' :: value ∧ ':' ∉ index ∧
        ∀ i, Numeral index i → ¬ (0 ≤ i ∧ i ≤ ((words layout.toList).length : Int) - 1)) ∧
    (∀ error, reconstruct layout set (.ofName name separator) = .error error ↔
      ∃ before token after, words set.toList = before ++ token :: after ∧
        Wrong (words layout.toList).length token error ∧
        ∀ earlier ∈ before, ∀ other, ¬ Wrong (words layout.toList).length earlier other) ∧
    ((∃ error, reconstruct layout set (.ofName name separator) = .error error) ∨
      ∃ pieces : List (List Char),
        reconstruct layout set (.ofName name separator) = .ok (String.ofList pieces.flatten) ∧
        Pieces layout set name separator pieces) := by
  refine ⟨?_, fun error => reconstruct_eq_error_iff.trans parseSlots_eq_error_iff,
    reconstruct_cases layout set name separator⟩
  simp only [reconstruct_fails_iff, exists_wrong_iff]

end Reconstruction

end InputPanel.Layout
