import InputPanel.Config

/-!
# The shared configuration

One configuration is shared by the whole program; it is loaded when it is first
asked for. Another may be at hand at the same time. A change to the one at hand
is a change to the shared one if they are the same.
-/

namespace InputPanel

structure Holder where
  surroundings : Surroundings
  current : Config := .defaults
  isShared : Bool := false
  shared : Option Config := none

namespace Holder

/-- Takes a configuration in hand that is not the shared one. -/
def take (holder : Holder) (config : Config) : Holder :=
  { holder with current := config, isShared := false }

/-- Makes the configuration at hand the shared one. -/
def share (holder : Holder) : Holder :=
  { holder with isShared := true, shared := some holder.current }

def forget (holder : Holder) : Holder := { holder with isShared := false, shared := none }

def load (holder : Holder) : Holder × Noted (Except Failure Config) :=
  let (surroundings, made) := Config.load holder.surroundings
  let holder := { holder with surroundings }
  match made.value with
  | .ok config => (holder.take config, made)
  | .error _ => (holder, made)

/-- Takes the shared configuration in hand; tells whether it was in hand already. -/
def get (holder : Holder) : Holder × Noted (Except Failure Bool) :=
  match holder.shared with
  | some config =>
    ({ holder with current := config, isShared := true }, ⟨.ok holder.isShared, []⟩)
  | none =>
    let (loaded, made) := holder.load
    match made.value with
    | .ok _ => (loaded.share, ⟨.ok false, made.notices⟩)
    | .error failure => (loaded, ⟨.error failure, made.notices⟩)

/-- Gives a setting of the configuration at hand a value. -/
def put (holder : Holder) (setting : Setting) (value : Data) : Holder :=
  let current := holder.current.set setting value
  { holder with current, shared := if holder.isShared then some current else holder.shared }

end Holder

end InputPanel
