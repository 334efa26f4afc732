import InputPanel.Command.Task

/-!
# The command on the configuration

The configuration can be shown, one setting of it set, and all of it reset. A
setting is set on top of the configuration as it is loaded, with what the
environment says, and then all of it is saved.
-/

namespace InputPanel.Task

/-- The keys of the settings, in the order of their letters. -/
def sortedKeys : List String := (Setting.all.map Setting.key).mergeSort (· ≤ ·)

def showKeys : Task Unit := do
  line ""
  line "Available keys:"
  display (sortedKeys.map fun key => .print ("  " ++ key))

/-- The names of the selected packs; a value that is no list of texts cannot be shown. -/
def packNames : Data → Except Failure String
  | .list items =>
    match items.mapM Config.textOf? with
    | some names => .ok (", ".intercalate names)
    | none => .error .typeMismatch
  | .map entries => .ok (", ".intercalate (entries.map fun entry => entry.1.plainText))
  | .text s => .ok (", ".intercalate (s.toList.map fun c => String.ofList [c]))
  | _ => .error .typeMismatch

/-- The names of the packs that a configuration selects. -/
def selectedPacks (config : Config) : Except Failure String :=
  match config.value? .packs with
  | some value => packNames value
  | none => .error .missingMember

def rule : String := "".pushn '─' 40

def showConfig : Task Unit := do
  let config ← config
  let platform := config.value .platform
  line ""
  line "[bold]userinput Configuration[/bold]"
  line rule
  line ""
  line "[bold cyan]Console[/bold cyan]"
  line ("  selected_marker   = " ++ (config.value .marker).plainText)
  line ("  hide_passwords    = " ++ (config.value .hidesPasswords).plainText)
  line ""
  line "[bold cyan]Defaults[/bold cyan]"
  line ("  platform          = " ++
    (if platform.isTrue then platform.plainText else "[dim](detected)[/dim]"))
  line ("  packs             = " ++ (← expect (selectedPacks config)))
  line ("  special_separator = " ++ (config.value .separator).nestedText)
  line ("  panel_id          = " ++ (config.value .panelId).plainText)
  line ""
  let path := (← get).surroundings.configFile
  if (← files).has path then line ("Config file: " ++ path.text)
  else line ("Config file: [dim]not created yet[/dim] (" ++ path.text ++ ")")
  line ""

/-- Shows what is wrong and ends the task. -/
def refuse {α : Type} (text : String) : Task α := do
  line text
  throw (.exit 1)

/-- The value that a text gives a setting. -/
def settingValue (setting : Setting) (text : String) : Task Data :=
  match setting with
  | .hidesPasswords =>
    match Text.lower text with
    | "true" => return .bool true
    | "false" => return .bool false
    | _ => refuse ("[red]Invalid boolean value:[/red] " ++ text)
  | .packs => return textList (Text.commaSeparated text)
  | .platform => do
    if configurablePlatforms.contains text then return .text text
    else
      line ("[red]Invalid platform:[/red] " ++ text)
      refuse "Valid platforms: windows, mac, unix"
  | _ => return .text text

def setConfig (key text : String) : Task Unit := do
  match Setting.ofKey? key with
  | none =>
    line ("[red]Unknown key:[/red] " ++ key)
    showKeys
    throw (.exit 1)
  | some setting =>
    let config ← config
    let value ← settingValue setting text
    save (config.set setting value)
    line ("[green]✓[/green] Set " ++ key ++ " = " ++ text)
    line ("  Saved to " ++ (← get).surroundings.configFile.text)

def resetConfig : Task Unit := do
  let path := (← get).surroundings.configFile
  let files ← files
  if files.has path then
    setFiles (← expect (files.unlink path))
    line "[green]✓[/green] Config reset to defaults"
    line ("  Removed " ++ path.text)
  else line "Config already at defaults (no config file exists)"

def configure (action : String) (key value : Option String) : Task Unit := do
  match action with
  | "show" => showConfig
  | "set" =>
    match key.filter fun s => s != "", value with
    | some key, some value => setConfig key value
    | _, _ =>
      line "[red]Usage:[/red] userinput config set <key> <value>"
      showKeys
      throw (.exit 1)
  | "reset" => resetConfig
  | _ =>
    line ("[red]Unknown action:[/red] " ++ action)
    refuse "Valid actions: show, set, reset"

end InputPanel.Task
