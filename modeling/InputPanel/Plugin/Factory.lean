import InputPanel.Plugin
import InputPanel.Text.Blank

/-!
# Finding plugins

An identifier is an alias, or names an attribute in a module: after the first
colon, or else after the last dot. An attribute may lead through others to the
one that is meant.
-/

namespace InputPanel

/-- Why an identifier gives no plugin, or a plugin lacks an ability. -/
inductive FactoryError where
  | empty
  | unresolvable (id : String)
  | cannotImport (module : String) (failure : Failure)
  | noAttribute (module path : String)
  | cannotInstantiate (id : String) (crash : Crash)
  | notPlugin (id : String)
  | notProcessor (shown : String)
  | notValidator (id : String)
deriving DecidableEq, Repr

namespace FactoryError

def message : FactoryError → String
  | empty => "Empty class identifier"
  | unresolvable id => "Cannot resolve class identifier " ++ Text.quoted id
  | cannotImport module failure =>
    "Cannot import " ++ Text.quoted module ++ ": " ++ failure.bracketed
  | noAttribute module path => Text.quoted module ++ " has no attribute " ++ Text.quoted path
  | cannotInstantiate id crash =>
    "Cannot instantiate " ++ Text.quoted id ++ ": " ++ crash.bracketed
  | notPlugin id => Text.quoted id ++ " is neither a class nor a callable"
  | notProcessor shown => shown ++ " is not a processor"
  | notValidator id => Text.quoted id ++ " does not implement validate()"

end FactoryError

/-- How finding or using a plugin goes wrong. -/
inductive PluginTrouble where
  | unusable (error : FactoryError)
  | crashed (crash : Crash)
deriving DecidableEq, Repr

namespace PluginTrouble

def text : PluginTrouble → String
  | unusable error => error.message
  | crashed crash => crash.text

end PluginTrouble

/-- The attributes of a module by their paths. -/
abbrev Attributes := String → Option Target

structure Factory where
  aliases : OrderedMap Target
  modules : String → Option Attributes

namespace Factory

def register (factory : Factory) (id : String) (target : Target) : Factory :=
  { factory with aliases := factory.aliases.set id target }

/-- The text before and after the last `mark`; all of it is after if there is none. -/
def splitLast (mark : Char) (s : List Char) : List Char × List Char :=
  match Text.cutAt mark s.reverse with
  | some (after, before) => (before.reverse, after.reverse)
  | none => ([], s)

/-- The module and the path that an identifier names. -/
def splitId (id : List Char) : List Char × List Char :=
  match Text.cutAt ':' id with
  | some parts => parts
  | none => splitLast '.' id

def locate (factory : Factory) (id : String) : Except PluginTrouble Target :=
  let (module, path) := splitId id.toList
  if module.isEmpty || path.isEmpty then .error (.unusable (.unresolvable id))
  else if module.head? = some '.' then .error (.crashed (.failed .typeMismatch))
  else
    let module := String.ofList module
    let path := String.ofList path
    match factory.modules module with
    | none => .error (.unusable (.cannotImport module .missingModule))
    | some attributes =>
      match attributes path with
      | none => .error (.unusable (.noAttribute module path))
      | some target => .ok target

def target (factory : Factory) (id : String) : Except PluginTrouble Target :=
  match factory.aliases.get? id with
  | some target => .ok target
  | none => factory.locate id

/-- The plugin of an identifier. -/
def create (factory : Factory) (id : String) : Except PluginTrouble Plugin := do
  if id.isEmpty then throw (.unusable .empty)
  match ← factory.target id with
  | .build (.ok plugin) => return plugin
  | .build (.error crash) => throw (.unusable (.cannotInstantiate id crash))
  | .function plugin => return plugin
  | .other => throw (.unusable (.notPlugin id))

end Factory

namespace Plugin

/-- Runs the plugin over a value, or over none. -/
def run (plugin : Plugin) (value : Option String) : Except PluginTrouble String :=
  match plugin.process with
  | none => .error (.unusable (.notProcessor ("<" ++ plugin.name ++ ">")))
  | some process =>
    match process value with
    | .ok text => .ok text
    | .error crash => .error (.crashed crash)

end Plugin

end InputPanel
