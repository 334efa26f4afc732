import InputPanel.Condition.Expr
import InputPanel.Proofs.Failure
import Mathlib.Data.List.Forall2
import Mathlib.Logic.Function.Defs

/-!
# Values as objects

What an operation makes of values depends on what they hold. Their places are
asked for where objects are told from each other: by the test for one object, and
for the items of lists. So places can be given other names, as long as one name is
not given to two of them, and every operation gives what it gave before. Where no
test for one object is made, and no number is undefined, the places have no say.
-/

namespace InputPanel.Condition

open Number

namespace Value

mutual

/-- A value with other names for the places of it and of its items. -/
def renamed (names : Place → Place) : Value → Value
  | atom a place => atom a (if a.isKept then .common else names place)
  | list items place => list (itemsRenamed names items) (names place)
  | helper h => helper h

def itemsRenamed (names : Place → Place) : List Value → List Value
  | [] => []
  | item :: rest => renamed names item :: itemsRenamed names rest

end

/-- What a value holds, wherever it stands. -/
def bare (x : Value) : Value := x.renamed fun _ => .made

mutual

/-- Whether a value holds no undefined number. -/
def isDefined : Value → Bool
  | atom (.real x) _ => x != .undefined
  | atom (.imaginary _ x) _ => x != .undefined
  | atom _ _ => true
  | list items _ => itemsDefined items
  | helper _ => true

def itemsDefined : List Value → Bool
  | [] => true
  | item :: rest => isDefined item && itemsDefined rest

end

section Renaming

variable (names : Place → Place)

theorem itemsRenamed_eq_map (items : List Value) :
    itemsRenamed names items = items.map (renamed names) := by
  induction items with
  | nil => rfl
  | cons item rest ih => rw [itemsRenamed, ih, List.map_cons]

theorem itemsDefined_iff {items : List Value} :
    itemsDefined items = true ↔ ∀ item ∈ items, item.isDefined = true := by
  induction items with
  | nil => simp [itemsDefined]
  | cons item rest ih => simp [itemsDefined, ih]

@[simp]
theorem truth_renamed (x : Value) : (x.renamed names).truth = x.truth := by
  cases x with
  | list items place => cases items <;> rfl
  | _ => rfl

mutual

theorem nestedText_renamed : ∀ x : Value, (x.renamed names).nestedText = x.nestedText
  | atom _ _ => rfl
  | list items _ => by rw [renamed, nestedText, nestedText, nestedTexts_renamed items]
  | helper _ => rfl

theorem nestedTexts_renamed : ∀ items : List Value,
    nestedTexts (itemsRenamed names items) = nestedTexts items
  | [] => rfl
  | item :: rest => by
    rw [itemsRenamed, nestedTexts, nestedTexts, nestedText_renamed item, nestedTexts_renamed rest]

end

@[simp]
theorem plainText_renamed (x : Value) : (x.renamed names).plainText = x.plainText := by
  cases x with
  | atom a place => cases a <;> rfl
  | list items place => exact nestedText_renamed names (list items place)
  | helper h => rfl

@[simp]
theorem negate_renamed (x : Value) : (x.renamed names).negate = x.negate := by
  cases x <;> rfl

mutual

theorem alike_renamed (others : Place → Place) : ∀ x y : Value,
    (x.renamed names).alike (y.renamed others) = x.alike y
  | atom _ _, atom _ _ => rfl
  | list xs _, list ys _ => alikeItems_renamed others xs ys
  | helper _, helper _ => rfl
  | atom _ _, list _ _ => rfl
  | atom _ _, helper _ => rfl
  | list _ _, atom _ _ => rfl
  | list _ _, helper _ => rfl
  | helper _, atom _ _ => rfl
  | helper _, list _ _ => rfl

theorem alikeItems_renamed (others : Place → Place) : ∀ xs ys : List Value,
    alikeItems (itemsRenamed names xs) (itemsRenamed others ys) = alikeItems xs ys
  | [], [] => rfl
  | [], _ :: _ => rfl
  | _ :: _, [] => rfl
  | x :: xs, y :: ys => by
    rw [itemsRenamed, itemsRenamed, alikeItems, alikeItems, alike_renamed others x y,
      alikeItems_renamed others xs ys]

end

mutual

theorem isDefined_renamed : ∀ x : Value, (x.renamed names).isDefined = x.isDefined
  | atom a _ => by cases a <;> rfl
  | list items _ => itemsDefined_renamed items
  | helper _ => rfl

theorem itemsDefined_renamed : ∀ items : List Value,
    itemsDefined (itemsRenamed names items) = itemsDefined items
  | [] => rfl
  | item :: rest => by
    rw [itemsRenamed, itemsDefined, itemsDefined, isDefined_renamed item,
      itemsDefined_renamed rest]

end

end Renaming

section Equality

theorem compare?_self {x : Binary64} (defined : x ≠ .undefined) : x.compare? x = some .eq := by
  cases x with
  | finite negative mantissa exponent => simp [Binary64.compare?]
  | infinite negative => simp [Binary64.compare?]
  | undefined => exact absurd rfl defined

theorem equal_self {a : Atom} {place : Place} (defined : (atom a place).isDefined = true) :
    a.equal a = true := by
  cases a with
  | real x =>
    simp only [isDefined, bne_iff_ne, ne_eq] at defined
    simp [Atom.equal, Atom.asNumber?, compareNumbers, compare?_self defined]
  | imaginary negated x =>
    simp only [isDefined, bne_iff_ne, ne_eq] at defined
    simp [Atom.equal, compare?_self defined]
  | _ => simp [Atom.equal, Atom.asNumber?, compareNumbers]

mutual

/-- Only an undefined number differs from what holds the same. -/
theorem equal_of_alike : ∀ {x y : Value}, x.isDefined = true → x.alike y = true → x.equal y = true
  | atom _ _, atom _ _, defined, alike => by
    cases eq_of_beq alike
    exact equal_self defined
  | list _ _, list _ _, defined, alike => equalItems_of_alike defined alike
  | helper _, helper _, _, alike => alike

theorem equalItems_of_alike : ∀ {xs ys : List Value}, itemsDefined xs = true →
    alikeItems xs ys = true → equalItems xs ys = true
  | [], [], _, _ => rfl
  | x :: xs, y :: ys, defined, alike => by
    simp only [itemsDefined, alikeItems, Bool.and_eq_true] at defined alike
    simp [equalItems, equal_of_alike defined.1 alike.1, equalItems_of_alike defined.2 alike.2]

end

/-- Names for places under which items of lists are told from each other as before, among the values
of some kind. -/
structure Tells (names : Place → Place) (Kind : Value → Prop) : Prop where
  items : ∀ {items place}, Kind (.list items place) → ∀ item ∈ items, Kind item
  seen : ∀ {x y}, Kind x → Kind y → (x.renamed names).equal (y.renamed names) = x.equal y →
    ((x.renamed names).same (y.renamed names) || x.equal y) = (x.same y || x.equal y)

/-- Other names for places, for no two of them the same. What is made on the spot and what is kept
for all uses stay what they are. -/
structure IsRenaming (names : Place → Place) : Prop where
  made : names .made = .made
  common : names .common = .common
  injective : names.Injective

theorem IsRenaming.place {names : Place → Place} (isRenaming : IsRenaming names) (x : Value) :
    (x.renamed names).place = names x.place := by
  cases x with
  | atom a held =>
    by_cases kept : a.isKept = true <;> simp [renamed, Value.place, kept, isRenaming.common]
  | list items place => rfl
  | helper h => exact isRenaming.common.symm

/-- A renaming keeps objects apart, and together. -/
theorem IsRenaming.same {names : Place → Place} (isRenaming : IsRenaming names) (x y : Value) :
    (x.renamed names).same (y.renamed names) = x.same y := by
  have found : names x.place ≠ .made ↔ x.place ≠ .made := by
    rw [← isRenaming.made, Ne, isRenaming.injective.eq_iff, isRenaming.made]
  rw [Bool.eq_iff_iff]
  simp only [Value.same, Bool.and_eq_true, bne_iff_ne, beq_iff_eq, isRenaming.place, alike_renamed,
    found, isRenaming.injective.eq_iff]

theorem IsRenaming.tells {names : Place → Place} (isRenaming : IsRenaming names) :
    Tells names fun _ => True where
  items _ _ _ := trivial
  seen _ _ _ := by rw [isRenaming.same]

/-- What is one object is equal to itself, so that places are not asked for among defined values. -/
theorem same_or_equal {x y : Value} (defined : x.isDefined = true) :
    (x.same y || x.equal y) = x.equal y := by
  cases one : x.same y with
  | false => rfl
  | true =>
    simp only [Value.same, Bool.and_eq_true] at one
    rw [equal_of_alike defined one.2]
    rfl

theorem tells_bare : Tells (fun _ => .made) fun x => x.isDefined = true where
  items := itemsDefined_iff.1
  seen {x y} defined _ equal := by
    have renamed : (x.renamed fun _ => .made).isDefined = true := by rw [isDefined_renamed, defined]
    rw [← equal, same_or_equal renamed, equal, same_or_equal defined]

variable {names : Place → Place} {Kind : Value → Prop} (tells : Tells names Kind)

include tells

mutual

theorem equal_renamed : ∀ {x y : Value}, Kind x → Kind y →
    (x.renamed names).equal (y.renamed names) = x.equal y
  | atom _ _, atom _ _, _, _ => rfl
  | list _ _, list _ _, xs, ys => equalItems_renamed (tells.items xs) (tells.items ys)
  | helper _, helper _, _, _ => rfl
  | atom _ _, list _ _, _, _ => rfl
  | atom _ _, helper _, _, _ => rfl
  | list _ _, atom _ _, _, _ => rfl
  | list _ _, helper _, _, _ => rfl
  | helper _, atom _ _, _, _ => rfl
  | helper _, list _ _, _, _ => rfl

theorem equalItems_renamed : ∀ {xs ys : List Value}, (∀ x ∈ xs, Kind x) → (∀ y ∈ ys, Kind y) →
    equalItems (itemsRenamed names xs) (itemsRenamed names ys) = equalItems xs ys
  | [], [], _, _ => rfl
  | [], _ :: _, _, _ => rfl
  | _ :: _, [], _, _ => rfl
  | x :: xs, y :: ys, kindX, kindY => by
    rw [List.forall_mem_cons] at kindX kindY
    have first := equal_renamed kindX.1 kindY.1
    rw [itemsRenamed, itemsRenamed, equalItems, equalItems, first,
      tells.seen kindX.1 kindY.1 first, equalItems_renamed kindX.2 kindY.2]

end

mutual

theorem order_renamed : ∀ {x y : Value}, Kind x → Kind y →
    (x.renamed names).order (y.renamed names) = x.order y
  | atom _ _, atom _ _, _, _ => rfl
  | list _ _, list _ _, xs, ys => orderItems_renamed (tells.items xs) (tells.items ys)
  | helper _, helper _, _, _ => rfl
  | atom _ _, list _ _, _, _ => rfl
  | atom _ _, helper _, _, _ => rfl
  | list _ _, atom _ _, _, _ => rfl
  | list _ _, helper _, _, _ => rfl
  | helper _, atom _ _, _, _ => rfl
  | helper _, list _ _, _, _ => rfl

theorem orderItems_renamed : ∀ {xs ys : List Value}, (∀ x ∈ xs, Kind x) → (∀ y ∈ ys, Kind y) →
    orderItems (itemsRenamed names xs) (itemsRenamed names ys) = orderItems xs ys
  | [], [], _, _ => rfl
  | [], _ :: _, _, _ => rfl
  | _ :: _, [], _, _ => rfl
  | x :: xs, y :: ys, kindX, kindY => by
    rw [List.forall_mem_cons] at kindX kindY
    have first := equal_renamed tells kindX.1 kindY.1
    rw [itemsRenamed, itemsRenamed, orderItems, orderItems, first,
      tells.seen kindX.1 kindY.1 first, orderItems_renamed kindX.2 kindY.2,
      order_renamed kindX.1 kindY.1]

end

theorem contains_renamed {container item : Value} (kind : Kind container) (kindItem : Kind item) :
    (container.renamed names).contains (item.renamed names) = container.contains item := by
  cases container with
  | list items place =>
    have each := tells.items kind
    simp only [renamed, contains, itemsRenamed_eq_map, List.any_map, Except.ok.injEq]
    rw [Bool.eq_iff_iff, List.any_eq_true, List.any_eq_true]
    refine exists_congr fun x => and_congr_right fun present => ?_
    have equal := equal_renamed tells (each x present) kindItem
    rw [Function.comp, equal, tells.seen (each x present) kindItem equal]
  | atom a place => cases item <;> rfl
  | helper h => cases item <;> rfl

end Equality

/-- A comparison that does not ask whether its operands are one object. -/
theorem holds_renamed {names : Place → Place} {Kind : Value → Prop} (tells : Tells names Kind)
    {op : CompareOp} (valued : op ≠ .is ∧ op ≠ .isNot) {x y : Value} (kindX : Kind x)
    (kindY : Kind y) : op.holds (x.renamed names) (y.renamed names) = op.holds x y := by
  have equal := equal_renamed tells kindX kindY
  have order := order_renamed tells kindX kindY
  have contains := contains_renamed tells kindY kindX
  cases op with
  | eq | ne => simp only [CompareOp.holds, equal]
  | lt | le | gt | ge => simp only [CompareOp.holds, ordered, order]
  | mem | notMem => simp only [CompareOp.holds, contains]
  | is => exact absurd rfl valued.1
  | isNot => exact absurd rfl valued.2

theorem IsRenaming.holds {names : Place → Place} (isRenaming : IsRenaming names) (op : CompareOp)
    (x y : Value) : op.holds (x.renamed names) (y.renamed names) = op.holds x y := by
  cases op with
  | is | isNot => simp only [CompareOp.holds, isRenaming.same]
  | _ => exact holds_renamed isRenaming.tells (by simp) trivial trivial

section Helpers

variable {f g : Place → Place}

/-- Values that are renamed alike are of one form. -/
theorem renamed_eq_cases {x y : Value} (same : x.renamed f = y.renamed g) :
    (∃ a p q, x = atom a p ∧ y = atom a q) ∨
      (∃ xs p ys q, x = list xs p ∧ y = list ys q ∧ xs.length = ys.length) ∨
      ∃ h, x = helper h ∧ y = helper h := by
  cases x with
  | atom a p =>
    cases y with
    | atom b q => exact .inl ⟨a, p, q, rfl, by injection same with same; rw [same]⟩
    | _ => cases same
  | list xs p =>
    cases y with
    | list ys q =>
      injection same with same
      rw [itemsRenamed_eq_map, itemsRenamed_eq_map] at same
      have lengths := congrArg List.length same
      rw [List.length_map, List.length_map] at lengths
      exact .inr (.inl ⟨xs, p, ys, q, rfl, rfl, lengths⟩)
    | _ => cases same
  | helper h =>
    cases y with
    | helper k => exact .inr (.inr ⟨h, rfl, by injection same with same; rw [same]⟩)
    | _ => cases same

theorem plainText_eq {x y : Value} (same : x.renamed f = y.renamed g) :
    x.plainText = y.plainText := by
  rw [← plainText_renamed f, same, plainText_renamed]

theorem truth_eq {x y : Value} (same : x.renamed f = y.renamed g) : x.truth = y.truth := by
  rw [← truth_renamed f, same, truth_renamed]

/-- How the places that an operation gives its results are named, seen from two sides. -/
structure NamedAlike (f g : Place → Place) : Prop where
  made : f .made = g .made
  common : f .common = g .common

variable (named : NamedAlike f g)

include named

theorem anew_renamed (a : Atom) : (anew a).renamed f = (anew a).renamed g := by
  rw [anew, renamed, renamed, named.made]

theorem common_renamed (a : Atom) : (atom a .common).renamed f = (atom a .common).renamed g := by
  rw [renamed, renamed, named.common]

theorem ofText_renamed (s : String) : (ofText s).renamed f = (ofText s).renamed g := by
  unfold ofText
  split
  · exact common_renamed named _
  · exact anew_renamed named _

theorem constant_renamed (constant : Constant) :
    constant.value.renamed f = constant.value.renamed g := by
  cases constant with
  | none => exact common_renamed named _
  | bool b => exact common_renamed named _
  | text s => exact ofText_renamed named s
  | _ => exact anew_renamed named _

theorem list_renamed {xs ys : List Value}
    (same : List.Forall₂ (fun x y => x.renamed f = y.renamed g) xs ys) :
    (list xs .made).renamed f = (list ys .made).renamed g := by
  have items : itemsRenamed f xs = itemsRenamed g ys := by
    induction same with
    | nil => rfl
    | cons first _ ih => rw [itemsRenamed, itemsRenamed, first, ih]
  rw [renamed, renamed, items, named.made]

theorem negate_renamed_eq {x y : Value} (same : x.renamed f = y.renamed g) :
    x.negate.map (renamed f) = y.negate.map (renamed g) := by
  rw [← negate_renamed f, same, negate_renamed]
  cases y with
  | atom a place =>
    simp only [negate]
    cases a.negate with
    | error failure => rfl
    | ok negative => exact congrArg Except.ok (anew_renamed named negative)
  | _ => rfl

theorem asText_renamed {x y : Value} (same : x.renamed f = y.renamed g) :
    x.asText.map (renamed f) = y.asText.map (renamed g) := by
  have texts : (x.nestedText.map fun s => anew (.text s)).map (renamed f) =
      (y.nestedText.map fun s => anew (.text s)).map (renamed g) := by
    rw [← nestedText_renamed f, same, nestedText_renamed]
    cases y.nestedText with
    | error failure => rfl
    | ok s => exact congrArg Except.ok (anew_renamed named _)
  rcases renamed_eq_cases same with ⟨a, p, q, rfl, rfl⟩ | ⟨xs, p, ys, q, rfl, rfl, _⟩ | ⟨h, rfl, rfl⟩
  · cases a with
    | text s => exact congrArg Except.ok same
    | bool b => exact congrArg Except.ok (common_renamed named _)
    | _ => exact texts
  · exact texts
  · exact texts

theorem orBadValue_renamed (n : Option Int) :
    (Helper.orBadValue n).map (renamed f) = (Helper.orBadValue n).map (renamed g) := by
  cases n with
  | none => rfl
  | some n => exact congrArg Except.ok (anew_renamed named _)

theorem numeral_renamed (a : Atom) (read : List Char → Option Int) :
    ((Helper.numeral? a).bind fun s => Helper.orBadValue (read s)).map (renamed f) =
      ((Helper.numeral? a).bind fun s => Helper.orBadValue (read s)).map (renamed g) := by
  cases Helper.numeral? a with
  | error failure => rfl
  | ok digits => exact orBadValue_renamed named _

theorem toInt_renamed {x y : Value} (same : x.renamed f = y.renamed g) :
    (Helper.toInt x).map (renamed f) = (Helper.toInt y).map (renamed g) := by
  rcases renamed_eq_cases same with ⟨a, p, q, rfl, rfl⟩ | ⟨xs, p, ys, q, rfl, rfl, _⟩ | ⟨h, rfl, rfl⟩
  · cases a with
    | int n => exact congrArg Except.ok same
    | bool b => exact congrArg Except.ok (anew_renamed named _)
    | real x =>
      cases whole : x.truncate? with
      | some n =>
        simp only [Helper.toInt, whole]
        exact congrArg Except.ok (anew_renamed named _)
      | none => cases x <;> simp [Helper.toInt, whole, Except.map]
    | _ =>
      simp only [Helper.toInt]
      exact numeral_renamed named _ readInt
  · rfl
  · rfl

omit named in
theorem asNumber?_eq {x y : Value} (same : x.renamed f = y.renamed g) :
    x.asNumber? = y.asNumber? := by
  rcases renamed_eq_cases same with ⟨a, p, q, rfl, rfl⟩ | ⟨xs, p, ys, q, rfl, rfl, _⟩ |
    ⟨h, rfl, rfl⟩ <;> rfl

theorem toIntBase_renamed {x y base other : Value} (same : x.renamed f = y.renamed g)
    (sameBase : base.renamed f = other.renamed g) :
    (Helper.toIntBase x base).map (renamed f) = (Helper.toIntBase y other).map (renamed g) := by
  unfold Helper.toIntBase
  rw [asNumber?_eq sameBase]
  split
  · split
    · rfl
    · rcases renamed_eq_cases same with ⟨a, p, q, rfl, rfl⟩ | ⟨xs, p, ys, q, rfl, rfl, _⟩ |
        ⟨h, rfl, rfl⟩
      · exact numeral_renamed named _ _
      · rfl
      · rfl
  · rfl

theorem length_renamed {x y : Value} (same : x.renamed f = y.renamed g) :
    (Helper.length x).map (renamed f) = (Helper.length y).map (renamed g) := by
  rcases renamed_eq_cases same with ⟨a, p, q, rfl, rfl⟩ | ⟨xs, p, ys, q, rfl, rfl, lengths⟩ |
    ⟨h, rfl, rfl⟩
  · cases a with
    | text s | bytes b => exact congrArg Except.ok (anew_renamed named _)
    | _ => rfl
  · simp only [Helper.length, lengths]
    exact congrArg Except.ok (anew_renamed named _)
  · rfl

theorem decoded_renamed {x y : Value} (same : x.renamed f = y.renamed g) (encoding : String) :
    (Helper.decoded x encoding).map (renamed f) = (Helper.decoded y encoding).map (renamed g) := by
  rcases renamed_eq_cases same with ⟨a, p, q, rfl, rfl⟩ | ⟨xs, p, ys, q, rfl, rfl, _⟩ | ⟨h, rfl, rfl⟩
  · cases a with
    | bytes b =>
      cases b with
      | nil => exact congrArg Except.ok (ofText_renamed named _)
      | cons first rest =>
        simp only [Helper.decoded]
        cases Helper.decodeBytes (first :: rest) encoding with
        | error failure => rfl
        | ok s => exact congrArg Except.ok (ofText_renamed named s)
    | _ => rfl
  · rfl
  · rfl

/-- Bytes are decoded unless a zero character stands in what says how. -/
theorem decodedUnless_renamed {x y : Value} (same : x.renamed f = y.renamed g) (refused : Bool)
    (encoding : String) :
    (if refused then .error .badValue else Helper.decoded x encoding).map (renamed f) =
      (if refused then .error .badValue else Helper.decoded y encoding).map (renamed g) := by
  cases refused with
  | true => rfl
  | false => exact decoded_renamed named same encoding

theorem cased_renamed {x y : Value} (same : x.renamed f = y.renamed g) (turn : String → String) :
    (x.plainText.map fun s => anew (.text (turn s))).map (renamed f) =
      (y.plainText.map fun s => anew (.text (turn s))).map (renamed g) := by
  rw [plainText_eq same]
  cases y.plainText with
  | error failure => rfl
  | ok s => exact congrArg Except.ok (anew_renamed named _)

/-- A helper gives alike values for arguments that are alike: one of the arguments itself, or a value
that is made for the purpose. -/
theorem apply_renamed (helper : Helper) {xs ys : List Value}
    (same : List.Forall₂ (fun x y => x.renamed f = y.renamed g) xs ys) :
    (helper.apply xs).map (renamed f) = (helper.apply ys).map (renamed g) := by
  rcases same with _ | ⟨first, _ | ⟨second, _ | ⟨third, _ | ⟨_, _⟩⟩⟩⟩
  · cases helper with
    | int => exact congrArg Except.ok (anew_renamed named _)
    | str => exact congrArg Except.ok (ofText_renamed named _)
    | bool => exact congrArg Except.ok (common_renamed named _)
    | _ => rfl
  · cases helper with
    | int => exact toInt_renamed named first
    | str => exact asText_renamed named first
    | len => exact length_renamed named first
    | bool =>
      simp only [Helper.apply, truth_eq first]
      exact congrArg Except.ok (common_renamed named _)
    | lower => exact cased_renamed named first Text.lower
    | upper => exact cased_renamed named first Text.upper
  · cases helper with
    | int => exact toIntBase_renamed named first second
    | str =>
      rcases renamed_eq_cases second with ⟨a, p, q, rfl, rfl⟩ | ⟨_, p, _, q, rfl, rfl, _⟩ |
        ⟨h, rfl, rfl⟩
      · cases a with
        | text encoding => exact decodedUnless_renamed named first _ encoding
        | _ => rfl
      · rfl
      · rfl
    | _ => rfl
  · cases helper with
    | str =>
      rcases renamed_eq_cases second with ⟨a, p, q, rfl, rfl⟩ | ⟨_, p, _, q, rfl, rfl, _⟩ |
        ⟨h, rfl, rfl⟩
      · rcases renamed_eq_cases third with ⟨b, p, q, rfl, rfl⟩ | ⟨_, p, _, q, rfl, rfl, _⟩ |
          ⟨h, rfl, rfl⟩
        · cases a with
          | text encoding =>
            cases b with
            | text onError => exact decodedUnless_renamed named first _ encoding
            | _ => rfl
          | _ => cases b <;> rfl
        · cases a <;> rfl
        · cases a <;> rfl
      · rfl
      · rfl
    | _ => rfl
  · cases helper with
    | str => simp only [Helper.apply, Except.map]
    | _ => rfl

end Helpers

section Defined

theorem bare_heldBy (name : String) (x : Value) : (x.heldBy name).bare = x.bare := by
  unfold heldBy
  split <;> rfl

theorem isDefined_heldBy (name : String) (x : Value) : (x.heldBy name).isDefined = x.isDefined := by
  unfold heldBy
  split
  · next a => cases a <;> rfl
  · rfl
  · rfl

theorem isDefined_constant (constant : Constant) : constant.value.isDefined = true := by
  cases constant with
  | real x defined | imaginary x defined => exact bne_iff_ne.2 defined
  | _ => rfl

theorem isDefined_negate {x y : Value} (defined : x.isDefined = true) (made : x.negate = .ok y) :
    y.isDefined = true := by
  have kept {x : Binary64} (defined : x ≠ .undefined) : x.negate ≠ .undefined := by
    cases x <;> simp_all [Binary64.negate]
  cases x with
  | atom a place =>
    cases a with
    | real x | imaginary _ x =>
      cases made
      exact bne_iff_ne.2 (kept (bne_iff_ne.1 defined))
    | bool | int => cases made; rfl
    | _ => cases made
  | _ => cases made

theorem isDefined_orBadValue {n : Option Int} {x : Value} (made : Helper.orBadValue n = .ok x) :
    x.isDefined = true := by
  cases n <;> cases made
  rfl

theorem isDefined_numeral {a : Atom} {read : List Char → Option Int} {x : Value}
    (made : ((Helper.numeral? a).bind fun s => Helper.orBadValue (read s)) = .ok x) :
    x.isDefined = true := by
  obtain ⟨digits, _, made⟩ := bind_eq_ok_iff.1 made
  exact isDefined_orBadValue made

theorem isDefined_toInt {x y : Value} (made : Helper.toInt x = .ok y) : y.isDefined = true := by
  unfold Helper.toInt at made
  split at made
  · cases made; rfl
  · cases made; rfl
  · split at made <;> cases made
    rfl
  · exact isDefined_numeral made
  · cases made

theorem isDefined_toIntBase {x base y : Value} (made : Helper.toIntBase x base = .ok y) :
    y.isDefined = true := by
  unfold Helper.toIntBase at made
  split at made
  · split at made
    · cases made
    · split at made
      · exact isDefined_numeral made
      · cases made
  · cases made

theorem isDefined_mapped {r : Except Failure String} {text : String → Value} {x : Value}
    (texts : ∀ s, (text s).isDefined = true) (made : r.map text = .ok x) : x.isDefined = true := by
  cases r with
  | error failure => cases made
  | ok s =>
    cases made
    exact texts s

theorem isDefined_decoded {x y : Value} {encoding : String}
    (made : Helper.decoded x encoding = .ok y) : y.isDefined = true := by
  unfold Helper.decoded at made
  split at made
  · cases made; rfl
  · exact isDefined_mapped (fun _ => rfl) made
  · cases made

theorem isDefined_asText {x y : Value} (made : x.asText = .ok y) : y.isDefined = true := by
  unfold asText at made
  split at made
  · cases made; rfl
  · cases made; rfl
  · exact isDefined_mapped (fun _ => rfl) made

/-- Helpers give integers, texts and truth values, which are all defined. -/
theorem isDefined_apply {helper : Helper} {xs : List Value} {x : Value}
    (applied : helper.apply xs = .ok x) : x.isDefined = true := by
  unfold Helper.apply at applied
  split at applied
  · cases applied; rfl
  · exact isDefined_toInt applied
  · exact isDefined_toIntBase applied
  · cases applied; rfl
  · exact isDefined_asText applied
  · split at applied
    · cases applied
    · exact isDefined_decoded applied
  · split at applied
    · cases applied
    · exact isDefined_decoded applied
  · unfold Helper.length at applied
    split at applied <;> cases applied <;> rfl
  · cases applied; rfl
  · cases applied; rfl
  · exact isDefined_mapped (fun _ => rfl) applied
  · exact isDefined_mapped (fun _ => rfl) applied
  · cases applied

end Defined

end Value

end InputPanel.Condition
