import InputPanel.Family
import InputPanel.Json.Printer
import InputPanel.Json.Reader
import InputPanel.Readers
import InputPanel.Session

/-!
# Configuration

Six settings in two sections say how panels are shown and what holds when a
command is silent. A setting has a default; the config file overrides it, and a
variable of the environment overrides both. The file may give a setting a value
of any type, and may take the selected packs away. Variables come from the
environment and then from an environment file, which is read once.
-/

namespace InputPanel

inductive Setting where
  | marker
  | hidesPasswords
  | platform
  | packs
  | separator
  | panelId
deriving DecidableEq, Repr

namespace Setting

/-- The settings in the order in which they are written. -/
def all : List Setting := [marker, hidesPasswords, platform, packs, separator, panelId]

def zone : Setting → String
  | marker => "console"
  | hidesPasswords => "console"
  | _ => "defaults"

def name : Setting → String
  | marker => "selected_marker"
  | hidesPasswords => "hide_passwords"
  | platform => "platform"
  | packs => "packs"
  | separator => "special_separator"
  | panelId => "panel_id"

def key (setting : Setting) : String := setting.zone ++ "." ++ setting.name

def find? (zone name : String) : Option Setting :=
  all.find? fun setting => setting.zone == zone && setting.name == name

def ofKey? (key : String) : Option Setting := all.find? fun setting => setting.key == key

/-- The variable of the environment that overrides a setting. -/
def variableName : Setting → String
  | marker => "USERINPUT_SELECTED_MARKER"
  | hidesPasswords => "USERINPUT_HIDE_PASSWORDS"
  | platform => "USERINPUT_PLATFORM"
  | packs => "USERINPUT_PACKS"
  | separator => "USERINPUT_SPECIAL_SEPARATOR"
  | panelId => "USERINPUT_PANEL"

def default : Setting → Data
  | marker => .text "x"
  | hidesPasswords => .bool true
  | packs => .list []
  | _ => .text ""

end Setting

/-- Platforms that may be configured; the empty one means the running one. -/
def configurablePlatforms : List String := "" :: Family.known

def textList (items : List String) : Data := .list (items.map .text)

/-- The value of each setting, if it has one. -/
structure Config where
  value? : Setting → Option Data

namespace Config

def defaults : Config := ⟨fun setting => some setting.default⟩

def value (config : Config) (setting : Setting) : Data :=
  (config.value? setting).getD setting.default

/-- Whether every setting has a value, so that they can be listed. -/
def isWhole (config : Config) : Bool :=
  Setting.all.all fun setting => (config.value? setting).isSome

def set (config : Config) (setting : Setting) (value : Data) : Config :=
  ⟨fun other => if other = setting then some value else config.value? other⟩

/-! ## The config file -/

def zoneData (config : Config) (zone : String) : Data :=
  .map ((Setting.all.filter fun setting => setting.zone == zone).map fun setting =>
    (.text setting.name, config.value setting))

def toData (config : Config) : Data :=
  .map [(.text "console", config.zoneData "console"),
    (.text "defaults", config.zoneData "defaults")]

/-- The value that a config file gives a setting, as it is kept. -/
def kept (setting : Setting) (value : Data) : Data :=
  match setting, value with
  | .hidesPasswords, value => .bool value.isTrue
  | .packs, .text s => textList (Text.commaSeparated s)
  | _, value => value

def entry? (entries : List (Data × Data)) (name : String) : Option Data :=
  (entries.find? fun entry => entry.1.plainText == name).map Prod.snd

/-- The default of a setting that is not given with all of its section. The packs have none, since
theirs is made with the section. -/
def standing? : Setting → Option Data
  | .packs => none
  | setting => some setting.default

/-- Gives the settings of a section the values of entries as they stand, or else their defaults. -/
def replaceZone (config : Config) (zone : String) (entries : List (Data × Data)) : Config :=
  ⟨fun setting =>
    let given := entry? entries setting.name
    if setting.zone == zone then given.or (standing? setting) else config.value? setting⟩

/-- Applies an entry of a section; unknown names are passed over, and those of settings that have no
value. Three names are reserved in every section: one takes all of its values at once, and the other
two take no value. -/
def applyEntry (zone : String) (config : Config) (key value : Data) : Except Failure Config :=
  match key.plainText, value with
  | "__class__", _ => .error .typeMismatch
  | "__weakref__", _ => .error .missingMember
  | "__dict__", .map entries => .ok (config.replaceZone zone entries)
  | "__dict__", _ => .error .typeMismatch
  | name, value =>
    match (Setting.find? zone name).filter fun setting => (config.value? setting).isSome with
    | some setting => .ok (config.set setting (kept setting value))
    | none => .ok config

def applyEntries (zone : String) (config : Config) (entries : List (Data × Data)) :
    Except Failure Config :=
  entries.foldlM (fun config entry => applyEntry zone config entry.1 entry.2) config

def applyZone (entries : List (Data × Data)) (config : Config) (zone : String) :
    Except Failure Config :=
  match entry? entries zone with
  | some (.map inner) => applyEntries zone config inner
  | _ => .ok config

def zones : List String := ["console", "defaults"]

/-- Whether a value that is no mapping seems to have a section. -/
def mentionsZone : Data → Bool
  | .text s => zones.any fun zone => Text.occursIn zone.toList s.toList
  | .list items => items.any fun
    | .text s => zones.contains s
    | _ => false
  | _ => true

/-- Applies a document. One that is no mapping is of no use, and a text or a list without the name
of a section in it does no harm. -/
def applyData (config : Config) : Data → Except Failure Config
  | .map entries => zones.foldlM (applyZone entries) config
  | value => if mentionsZone value then .error .typeMismatch else .ok config

/-! ## The environment -/

/-- The value that a variable gives a setting, if it is acceptable. -/
def ofVariable? (setting : Setting) (text : String) : Option Data :=
  match setting with
  | .platform => if configurablePlatforms.contains text then some (.text text) else none
  | .packs => some (textList (Text.commaSeparated text))
  | .hidesPasswords => some (.bool (["0", "false", "no"].all (· != Text.lower text)))
  | _ => some (.text text)

/-- Overrides one setting, if its variable has a value that is not empty. -/
def overrideOne (environment : OrderedMap String) (config : Config) (setting : Setting) :
    Noted Config := do
  match environment.get? setting.variableName with
  | some text =>
    if text.isEmpty then return config
    else
      match ofVariable? setting text with
      | some value => return config.set setting value
      | none =>
        Noted.note (.warning ("Invalid " ++ setting.variableName ++ "=" ++ Text.quoted text ++
          ", ignoring"))
        return config
  | none => return config

def overrideAll (environment : OrderedMap String) (config : Config) : Noted Config :=
  Setting.all.foldlM (overrideOne environment) config

end Config

/-- Where configuration comes from, and what files are read with. -/
structure Surroundings where
  files : FileTree
  environment : OrderedMap String
  configFile : FilePath
  hasReadVariables : Bool := false
  readers : Readers := .standard

namespace Surroundings

/-- Takes variables from the environment file, unless it has been read. -/
def readVariables (surroundings : Surroundings) : Surroundings × Except Failure Unit :=
  if surroundings.hasReadVariables then (surroundings, .ok ())
  else
    let (environment, read) :=
      surroundings.readers.environmentFile surroundings.files surroundings.environment
    ({ surroundings with environment, hasReadVariables := true }, read)

end Surroundings

namespace Config

/-- The defaults under what the config file says. A file that is no JSON is noted. -/
def ofFile (surroundings : Surroundings) : Noted (Except Failure Config) := do
  let path := surroundings.configFile
  if surroundings.files.has path then
    let read : Except Failure Data := do
      Json.read surroundings.readers.room (← surroundings.files.readText path)
    match read with
    | .ok data => return applyData defaults data
    | .error failure =>
      if failure == .malformedJson || failure.isOfFiles then
        Noted.note (.warning ("Failed to load config from " ++ path.text ++ ": " ++
          failure.bracketed))
        return .ok defaults
      else return .error failure
  else return .ok defaults

def load (surroundings : Surroundings) : Surroundings × Noted (Except Failure Config) :=
  let layered := ofFile surroundings
  match layered.value with
  | .error _ => (surroundings, layered)
  | .ok config =>
    let (surroundings, read) := surroundings.readVariables
    match read with
    | .error failure => (surroundings, ⟨.error failure, layered.notices⟩)
    | .ok () =>
      let config := overrideAll surroundings.environment config
      (surroundings, ⟨.ok config.value, layered.notices ++ config.notices⟩)

/-- The text of a configuration whose settings all have values. -/
def text (config : Config) : Except Failure String :=
  if config.isWhole then .ok (Json.write config.toData) else .error .missingMember

/-- Writes the config file. It is opened before the settings are listed, so that it is left empty if
they cannot be. -/
def save (config : Config) (surroundings : Surroundings) : Surroundings × Except Failure Unit :=
  let path := surroundings.configFile
  match surroundings.files.makeDirectory path.parent with
  | .error failure => (surroundings, .error failure)
  | .ok made =>
    match made.write path (config.text.toOption.getD "") with
    | .error failure => ({ surroundings with files := made }, .error failure)
    | .ok files => ({ surroundings with files }, config.text.map fun _ => ())

/-! ## Settings of a session -/

def textOf? : Data → Option String
  | .text s => some s
  | _ => none

/-- The packs that a value selects; an item that is no text is the name of none. -/
def packsOf : Data → Except Failure (List String)
  | .list items => .ok (items.filterMap textOf?)
  | .map entries => .ok (entries.filterMap fun entry => textOf? entry.1)
  | .text s => .ok (s.toList.map fun c => String.ofList [c])
  | _ => .error .typeMismatch

/-- The family that a value names; nothing means the one that is running. -/
def familyOf (running : String) (value : Data) : String :=
  if value.isTrue then (textOf? value).getD value.nestedText else running

/-- The replacement for literals in layouts; a value that is no text fails where it is needed. -/
def separatorOf (value : Data) : Except Failure String :=
  match value with
  | .text s => .ok s
  | value => if value.isTrue then .error .typeMismatch else .ok ""

/-- The settings of a session. Selected packs and a platform that are given win over the
configured ones. -/
def settings (config : Config) (running : String) (packs : Option (List String))
    (platform : Option String) : Except Failure Settings := do
  let packs ← match packs, config.value? .packs with
    | some packs, _ => .ok packs
    | none, some value => packsOf value
    | none, none => .error .missingMember
  let platform := match platform with
    | some name => if name.isEmpty then config.value .platform else .text name
    | none => config.value .platform
  return {
    marker := (config.value .marker).plainText
    hidesPasswords := (config.value .hidesPasswords).isTrue
    packs
    family := familyOf running platform
    separator := separatorOf (config.value .separator) }

end Config

end InputPanel
