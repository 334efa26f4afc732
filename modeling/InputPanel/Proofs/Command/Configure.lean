import InputPanel.Command
import InputPanel.Proofs.Command.Task
import InputPanel.Proofs.Config.Saving

/-!
# Setting a setting

Setting a setting loads the configuration with all its layers, changes the one
setting and saves all of them. The file then holds what was in effect for every
other setting, so that what only the environment said is in the file too.
-/

namespace InputPanel

/-- The value that a text gives a setting, if the command accepts it. -/
def Setting.accepted? : Setting → String → Option Data
  | hidesPasswords, text =>
    if Text.lower text = "true" then some (.bool true)
    else if Text.lower text = "false" then some (.bool false)
    else none
  | packs, text => some (textList (Text.commaSeparated text))
  | platform, text => if configurablePlatforms.contains text then some (.text text) else none
  | _, text => some (.text text)

namespace Setting

variable {setting : Setting} {text : String} {value : Data}

theorem ofKey?_key (setting : Setting) : ofKey? setting.key = some setting := by
  cases setting <;> decide

theorem key_ne_empty (setting : Setting) : setting.key ≠ "" := by
  cases setting <;> decide

theorem holds_of_accepted? (h : setting.accepted? text = some value) : setting.Holds value := by
  cases setting with
  | hidesPasswords =>
    simp only [accepted?] at h
    split at h
    · exact ⟨true, (Option.some.inj h).symm⟩
    split at h
    · exact ⟨false, (Option.some.inj h).symm⟩
    · cases h
  | platform =>
    simp only [accepted?, Option.ite_none_right_eq_some, Option.some.injEq] at h
    exact ⟨text, h.2.symm⟩
  | _ =>
    cases h
    exact ⟨_, rfl⟩

end Setting

namespace Task

theorem settingValue_of_accepted {setting : Setting} {text : String} {value : Data}
    (h : setting.accepted? text = some value) : settingValue setting text = pure value := by
  cases setting with
  | hidesPasswords =>
    simp only [Setting.accepted?] at h
    rw [settingValue]
    split at h
    case isTrue yes =>
      cases h
      rw [yes]
      rfl
    case isFalse other =>
    split at h
    case isTrue no =>
      cases h
      rw [no]
      rfl
    case isFalse => cases h
  | platform =>
    simp only [Setting.accepted?, Option.ite_none_right_eq_some, Option.some.injEq] at h
    simp only [settingValue, h.1, h.2]
    rfl
  | _ =>
    cases h
    rfl

theorem configure_set {key : String} (named : key ≠ "") (text : String) :
    configure "set" (some key) (some text) = setConfig key text := by
  have given : (some key).filter (fun s => s != "") = some key := by
    simp [Option.filter, named]
  simp only [configure, given]

/-- What setting a setting leaves behind, where the configuration is loaded and can be saved. -/
theorem runAt_setConfig (desk : Desk) {setting : Setting} {text : String} {value : Data}
    {surroundings after : Surroundings} {config : Config} {notices : List Notice}
    (accepted : setting.accepted? text = some value)
    (loaded : Config.load desk.surroundings = (surroundings, ⟨.ok config, notices⟩))
    (saved : (config.set setting value).save surroundings = (after, .ok ())) :
    ∃ final, runAt (setConfig setting.key text) desk = (.ok (), final) ∧
      final.surroundings = after := by
  rw [setConfig, Setting.ofKey?_key]
  dsimp only
  rw [runAt_bind_ok (runAt_config loaded), settingValue_of_accepted accepted,
    runAt_bind_ok (runAt_pure value _), runAt_bind_ok (runAt_save saved),
    runAt_bind_ok (runAt_line _ _), runAt_bind_ok (runAt_get _)]
  exact ⟨_, runAt_line _ _, rfl⟩

end Task

namespace Command

/-- What setting a setting comes to, where the configuration is loaded and can be saved. -/
theorem perform_set {setting : Setting} {text : String} {value : Data}
    {s surroundings after : Surroundings} {config : Config} {notices : List Notice}
    (accepted : setting.accepted? text = some value)
    (loaded : Config.load s = (surroundings, ⟨.ok config, notices⟩))
    (saved : (config.set setting value).save surroundings = (after, .ok ())) (isJson : Bool)
    (running : String) (answers : List String) :
    let done := perform (.config "set" (some setting.key) (some text)) isJson s running answers
    done.exitCode = 0 ∧ done.failure = none ∧ done.files = after.files := by
  have action : task (.config "set" (some setting.key) (some text)) =
      Task.setConfig setting.key text := Task.configure_set setting.key_ne_empty text
  obtain ⟨final, ended, left⟩ := Task.runAt_setConfig
    { surroundings := s, running, answers, report := .initial isJson } accepted loaded saved
  rw [Task.runAt] at ended
  simp only [perform, action, ended, ending, left, and_self]

/-- After a setting is set, the file holds all that was in effect, with the one setting changed. -/
theorem ofFile_perform_set {setting : Setting} {text : String} {value : Data} {s : Surroundings}
    {before : Config} (accepted : setting.accepted? text = some value)
    (held : (Config.ofFile s).value = .ok before) (typed : before.WellTyped)
    (read : s.readVariables.2 = .ok ()) (room : s.files.HasRoom s.configFile) (isJson : Bool)
    (running : String) (answers : List String) :
    let done := perform (.config "set" (some setting.key) (some text)) isJson s running answers
    let effective := (Config.overrideAll s.readVariables.1.environment before).value
    done.exitCode = 0 ∧
      Config.ofFile { s with files := done.files } = ⟨.ok (effective.set setting value), []⟩ := by
  intro done effective
  obtain ⟨files, configFile, -⟩ := s.readVariables_keeps
  have made : Config.ofFile s = ⟨.ok before, (Config.ofFile s).notices⟩ := by rw [← held]
  have typedAfter : (effective.set setting value).WellTyped :=
    (typed.overrideAll _).set (Setting.holds_of_accepted? accepted)
  obtain ⟨after, saved⟩ := Config.exists_save typedAfter (s := s.readVariables.1)
    (by rw [files, configFile]; exact room)
  obtain ⟨code, -, left⟩ := perform_set accepted (Config.load_of_gives made read) saved isJson
    running answers
  obtain ⟨-, directory, tree, -, written, rfl⟩ := Config.save_eq_ok_iff.1 saved
  refine ⟨code, Config.ofFile_of_readText typedAfter ?_⟩
  rw [configFile] at written
  rw [left]
  exact FileTree.readText_write written (Json.return_not_mem_write (Config.plain_toData typedAfter))

/-- Setting a setting succeeds, and the file then holds its new value and, for every other setting,
what was in effect: what the environment gives, or else what the file held before. So the others are
kept exactly where the environment gives them nothing else. -/
theorem set_saves_effective {setting : Setting} {text : String} {value : Data} {s : Surroundings}
    {before : Config} (accepted : setting.accepted? text = some value)
    (held : (Config.ofFile s).value = .ok before) (typed : before.WellTyped)
    (read : s.readVariables.2 = .ok ()) (room : s.files.HasRoom s.configFile) (isJson : Bool)
    (running : String) (answers : List String) :
    let done := perform (.config "set" (some setting.key) (some text)) isJson s running answers
    done.exitCode = 0 ∧ ∃ after, Config.ofFile { s with files := done.files } = ⟨.ok after, []⟩ ∧
      after.value? setting = some value ∧
      (∀ other ≠ setting, after.value? other =
        (Config.overriding? s.readVariables.1.environment other).or (before.value? other)) ∧
      ((∀ other ≠ setting, after.value? other = before.value? other) ↔
        ∀ other ≠ setting, ∀ given,
          Config.overriding? s.readVariables.1.environment other = some given →
            before.value? other = some given) := by
  obtain ⟨code, after⟩ := ofFile_perform_set accepted held typed read room isJson running answers
  have others : ∀ other ≠ setting,
      ((Config.overrideAll s.readVariables.1.environment before).value.set setting value).value?
        other =
      (Config.overriding? s.readVariables.1.environment other).or (before.value? other) := by
    intro other apart
    rw [Config.value?_set, if_neg apart, Config.value?_overrideAll]
  refine ⟨code, _, after, ?_, others, ?_⟩
  · rw [Config.value?_set, if_pos rfl]
  · refine forall_congr' fun other => imp_congr_right fun apart => ?_
    rw [others other apart]
    cases Config.overriding? s.readVariables.1.environment other <;> simp [eq_comm]

/-- A directory without files, where the environment names a panel. -/
def panelGiven : Surroundings where
  files := .emptyAt ["home"]
  environment := .ofList [("USERINPUT_PANEL", "p")]
  configFile := ⟨false, ["config", "config.json"]⟩

theorem hasRoom_panelGiven : panelGiven.files.HasRoom panelGiven.configFile :=
  Config.hasRoom_homeGiven

/-- There is no environment file here. -/
theorem readVariables_panelGiven :
    panelGiven.readVariables = ({ panelGiven with hasReadVariables := true }, .ok ()) :=
  Surroundings.readVariables_of_absent rfl rfl rfl

theorem marker_set_saves_panel :
    let done :=
      perform (.config "set" (some Setting.marker.key) (some "*")) false panelGiven "unix" []
    done.exitCode = 0 ∧ ∃ after,
      Config.ofFile { panelGiven with files := done.files } = ⟨.ok after, []⟩ ∧
      after.value? .marker = some (.text "*") ∧ after.value? .panelId = some (.text "p") := by
  have accepted : Setting.marker.accepted? "*" = some (.text "*") := rfl
  obtain ⟨code, after, held, new, others, -⟩ := set_saves_effective accepted
    (rfl : (Config.ofFile panelGiven).value = .ok .defaults) Config.wellTyped_defaults
    (by rw [readVariables_panelGiven]) hasRoom_panelGiven false "unix" []
  have panel : Config.overriding? panelGiven.readVariables.1.environment .panelId =
      some (.text "p") := by
    rw [readVariables_panelGiven]
    rfl
  refine ⟨code, after, held, new, ?_⟩
  rw [others .panelId (by decide), panel]
  rfl

/-- The name of the panel was not in the file before, where there was none. -/
theorem set_keeps_no_other :
    let done :=
      perform (.config "set" (some Setting.marker.key) (some "*")) false panelGiven "unix" []
    ∃ before after, Config.ofFile panelGiven = ⟨.ok before, []⟩ ∧ before.WellTyped ∧
      Config.ofFile { panelGiven with files := done.files } = ⟨.ok after, []⟩ ∧
      before.value? .panelId = some (.text "") ∧ after.value? .panelId = some (.text "p") := by
  have accepted : Setting.marker.accepted? "*" = some (.text "*") := rfl
  obtain ⟨-, held⟩ := ofFile_perform_set accepted
    (rfl : (Config.ofFile panelGiven).value = .ok .defaults) Config.wellTyped_defaults
    (by rw [readVariables_panelGiven]) hasRoom_panelGiven false "unix" []
  refine ⟨.defaults, _, rfl, Config.wellTyped_defaults, held, rfl, ?_⟩
  have panel : Config.overriding? panelGiven.readVariables.1.environment .panelId =
      some (.text "p") := by
    rw [readVariables_panelGiven]
    rfl
  rw [Config.value?_set, if_neg (by decide), Config.value?_overrideAll, panel]
  rfl

end Command

end InputPanel
