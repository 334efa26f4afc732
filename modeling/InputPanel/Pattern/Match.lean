import InputPanel.Pattern.Letters

/-!
# Matching a pattern

A pattern is tried at a place of the subject. What follows it is a
continuation, so that the alternatives are tried in order of preference until
the whole succeeds. A repetition that has its least count goes on only from a
place that the round before has moved on to; so its rounds are bounded by the
length of the subject.
-/

namespace InputPanel.Pattern

/-- A place in the subject, with the stretches of the groups matched so far, latest first. -/
structure Place where
  position : Nat
  groups : List (Nat × Nat × Nat)
deriving DecidableEq, Repr

abbrev Continuation := Place → Option Place

def isWordAt (options : Options) (subject : Array Char) (i : Nat) : Bool :=
  match subject[i]? with
  | some c => Category.word.holds options.ascii c
  | none => false

def atBoundary (options : Options) (subject : Array Char) (i : Nat) : Bool :=
  (if i = 0 then false else isWordAt options subject (i - 1)) != isWordAt options subject i

def Anchor.holds (options : Options) (subject : Array Char) (i : Nat) : Anchor → Bool
  | .start => i == 0
  | .lineStart => i == 0 || (options.multiline && subject[i - 1]? == some '\n')
  | .finish => i == subject.size
  | .lineEnd =>
    i == subject.size || (subject[i]? == some '\n' && (options.multiline || i + 1 == subject.size))
  | .boundary => !subject.isEmpty && atBoundary options subject i
  | .noBoundary => !subject.isEmpty && !atBoundary options subject i

/-- Goes on past a character that satisfies the test. -/
def step (subject : Array Char) (test : Char → Bool) (place : Place) (next : Continuation) :
    Option Place :=
  match subject[place.position]? with
  | some c => if test c then next { place with position := place.position + 1 } else none
  | none => none

/-- Goes on past the text of a stretch, if it stands here once more. -/
def stepAgain (options : Options) (subject : Array Char) (first last : Nat) (place : Place)
    (next : Continuation) : Option Place :=
  let stretch := (subject.extract first last).toList
  let here := (subject.extract place.position (place.position + stretch.length)).toList
  if here.length = stretch.length ∧ (stretch.zip here).all (fun p => sameAgain options p.1 p.2) then
    next { place with position := place.position + stretch.length }
  else none

/-- The rounds of a repetition; `before` is where the round before began. -/
def rounds (body : Place → Continuation → Option Place) (eagerness : Eagerness) (least : Nat)
    (most : Option Nat) : Nat → Nat → Option Nat → Place → Continuation → Option Place
  | 0, _, _, _, _ => none
  | fuel + 1, count, before, place, next =>
    let more := fun _ : Unit =>
      body place fun after =>
        rounds body eagerness least most fuel (count + 1) (some place.position) after next
    if count < least then more ()
    else
      let open' := (match most with | some n => decide (count < n) | none => true) &&
        before != some place.position
      match eagerness with
      | .lazy => (next place).orElse fun _ => if open' then more () else none
      | _ => (if open' then more () else none).orElse fun _ => next place

/-- Tries a pattern at a place, and then what follows it. -/
def run (subject : Array Char) : Pattern → Options → Place → Continuation → Option Place
  | nothing, _, place, next => next place
  | any, options, place, next => step subject (fun c => options.dotAll || c != '\n') place next
  | oneOf negated members, options, place, next =>
    step subject (fun c => belongs options members c != negated) place next
  | anchor a, options, place, next =>
    if a.holds options subject place.position then next place else none
  | both a b, options, place, next =>
    run subject a options place fun after => run subject b options after next
  | either a b, options, place, next =>
    (run subject a options place next).orElse fun _ => run subject b options place next
  | repeated eagerness least most body, options, place, next =>
    let fuel := least + subject.size + 3
    let go := rounds (run subject body options) eagerness least most fuel 0 none place
    match eagerness with
    | .possessive => (go some).bind next
    | _ => go next
  | group index body, options, place, next =>
    run subject body options place fun after =>
      next { after with groups := (index, place.position, after.position) :: after.groups }
  | within change body, options, place, next => run subject body (options.apply change) place next
  | atomic body, options, place, next => (run subject body options place some).bind next
  | ahead negated body, options, place, next =>
    match run subject body options place some, negated with
    | some found, false => next { found with position := place.position }
    | none, true => next place
    | _, _ => none
  | behind width negated body, options, place, next =>
    let found :=
      if width ≤ place.position then
        run subject body options { place with position := place.position - width } some
      else none
    match found, negated with
    | some found, false => next { found with position := place.position }
    | none, true => next place
    | _, _ => none
  | again index, options, place, next =>
    match place.groups.lookup index with
    | some (first, last) => stepAgain options subject first last place next
    | none => none
  | ifGroup index whenSet otherwise, options, place, next =>
    if (place.groups.lookup index).isSome then run subject whenSet options place next
    else run subject otherwise options place next

/-- Whether a pattern matches a whole text. -/
def matchesAll (pattern : Pattern) (options : Options) (text : List Char) : Bool :=
  let subject := text.toArray
  let finish := fun place : Place => if place.position = subject.size then some place else none
  (run subject pattern options ⟨0, []⟩ finish).isSome

end InputPanel.Pattern
