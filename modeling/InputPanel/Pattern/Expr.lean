/-!
# Pattern expressions

A pattern describes texts by characters, classes, anchors, sequence, choice,
repetition and groups. Code points are naturals, since a pattern may name one
that no character has. The widths of a pattern bound the length of what it
matches; a look behind needs them equal.
-/

namespace InputPanel

namespace Pattern

/-- The options under which characters and anchors are read. -/
structure Options where
  ignoreCase : Bool
  multiline : Bool
  dotAll : Bool
  ascii : Bool
deriving DecidableEq, Repr

def Options.plain : Options := ⟨false, false, false, false⟩

/-- The options that a group turns on and off; `ascii` is set to a value. -/
structure Change where
  on : Options
  off : Options
  ascii : Option Bool
deriving DecidableEq, Repr

def Options.apply (options : Options) (change : Change) : Options :=
  ⟨(options.ignoreCase || change.on.ignoreCase) && !change.off.ignoreCase,
    (options.multiline || change.on.multiline) && !change.off.multiline,
    (options.dotAll || change.on.dotAll) && !change.off.dotAll,
    change.ascii.getD options.ascii⟩

inductive Anchor where
  | start
  | lineStart
  | finish
  | lineEnd
  | boundary
  | noBoundary
deriving DecidableEq, Repr

inductive Category where
  | digit
  | blank
  | word
deriving DecidableEq, Repr

/-- A member of a class of characters. -/
inductive Member where
  | one (code : Nat)
  | range (first last : Nat)
  | category (kind : Category) (negated : Bool)
deriving DecidableEq, Repr

inductive Eagerness where
  | greedy
  | lazy
  | possessive
deriving DecidableEq, Repr

end Pattern

open Pattern in
inductive Pattern where
  | nothing
  | any
  | oneOf (negated : Bool) (members : List Member)
  | anchor (anchor : Anchor)
  | both (first second : Pattern)
  | either (first second : Pattern)
  | repeated (eagerness : Eagerness) (least : Nat) (most : Option Nat) (body : Pattern)
  | group (index : Nat) (body : Pattern)
  | within (change : Change) (body : Pattern)
  | atomic (body : Pattern)
  | ahead (negated : Bool) (body : Pattern)
  | behind (width : Nat) (negated : Bool) (body : Pattern)
  | again (group : Nat)
  | ifGroup (group : Nat) (whenSet otherwise : Pattern)
deriving DecidableEq, Repr, Inhabited

namespace Pattern

/-- The least and greatest length of what a pattern matches; no greatest length is without bound. -/
structure Width where
  least : Nat
  most : Option Nat
deriving DecidableEq, Repr

namespace Width

def exactly (n : Nat) : Width := ⟨n, some n⟩

def add (a b : Width) : Width :=
  ⟨a.least + b.least, do return (← a.most) + (← b.most)⟩

def join (a b : Width) : Width :=
  ⟨min a.least b.least, do return max (← a.most) (← b.most)⟩

def times (w : Width) (least : Nat) (most : Option Nat) : Width :=
  ⟨w.least * least,
    match w.most, most with
    | some 0, _ => some 0
    | _, some 0 => some 0
    | some n, some k => some (n * k)
    | _, _ => none⟩

def isFixed (w : Width) : Bool := w.most == some w.least

end Width

/-- The width of a pattern, given those of the groups that it refers back to. -/
def width (groups : Nat → Width) : Pattern → Width
  | nothing => .exactly 0
  | any => .exactly 1
  | oneOf _ _ => .exactly 1
  | anchor _ => .exactly 0
  | both a b => (width groups a).add (width groups b)
  | either a b => (width groups a).join (width groups b)
  | repeated _ least most body => (width groups body).times least most
  | group _ body => width groups body
  | within _ body => width groups body
  | atomic body => width groups body
  | ahead _ _ => .exactly 0
  | behind _ _ _ => .exactly 0
  | again n => groups n
  | ifGroup _ a b => (width groups a).join (width groups b)

def ofList : List Pattern → Pattern
  | [] => nothing
  | [p] => p
  | p :: rest => both p (ofList rest)

def literal (c : Nat) : Pattern := oneOf false [.one c]

end Pattern

end InputPanel
