import InputPanel.Proofs.Config.Layers
import InputPanel.Proofs.Json.RoundTrip

/-!
# Saving the configuration

A configuration is well typed if each setting has a value of its own type. Such
a configuration is read from the config file as it was saved, whatever the file
held before, and loading gives it back unless a variable says otherwise.
-/

namespace InputPanel

/-- Whether a value is of the type of a setting. -/
def Setting.Holds : Setting → Data → Prop
  | hidesPasswords, value => ∃ b, value = .bool b
  | packs, value => ∃ names, value = textList names
  | _, value => ∃ text, value = .text text

namespace Config

variable {config : Config} {setting : Setting} {value : Data}

def WellTyped (config : Config) : Prop :=
  ∀ setting : Setting, ∃ value, config.value? setting = some value ∧ setting.Holds value

theorem value?_of_wellTyped (typed : config.WellTyped) (setting : Setting) :
    config.value? setting = some (config.value setting) := by
  obtain ⟨value, given, -⟩ := typed setting
  rw [Config.value, given]
  rfl

theorem WellTyped.holds (typed : config.WellTyped) (setting : Setting) :
    setting.Holds (config.value setting) := by
  obtain ⟨value, given, holds⟩ := typed setting
  rw [Config.value, given]
  exact holds

theorem isWhole_of_wellTyped (typed : config.WellTyped) : config.isWhole = true :=
  List.all_eq_true.2 fun setting _ => by rw [value?_of_wellTyped typed]; rfl

theorem wellTyped_defaults : WellTyped defaults := by
  intro setting
  refine ⟨setting.default, rfl, ?_⟩
  cases setting
  all_goals first | exact ⟨_, rfl⟩ | exact ⟨[], rfl⟩

theorem WellTyped.set (typed : config.WellTyped) (holds : setting.Holds value) :
    (config.set setting value).WellTyped := by
  intro other
  rw [value?_set]
  split
  case isTrue same => exact ⟨value, rfl, same ▸ holds⟩
  case isFalse => exact typed other

theorem holds_of_ofVariable? {text : String} (h : ofVariable? setting text = some value) :
    setting.Holds value := by
  cases setting with
  | platform =>
    simp only [ofVariable?, Option.ite_none_right_eq_some, Option.some.injEq] at h
    exact ⟨text, h.2.symm⟩
  | _ =>
    cases h
    exact ⟨_, rfl⟩

theorem holds_of_overriding? {environment : OrderedMap String}
    (h : overriding? environment setting = some value) : setting.Holds value := by
  unfold overriding? at h
  split at h
  case h_1 text given =>
    split at h
    · cases h
    · exact holds_of_ofVariable? h
  case h_2 => cases h

theorem WellTyped.overrideAll (typed : config.WellTyped) (environment : OrderedMap String) :
    (overrideAll environment config).value.WellTyped := by
  intro setting
  rw [value?_overrideAll]
  cases given : overriding? environment setting with
  | none => exact typed setting
  | some value => exact ⟨value, rfl, holds_of_overriding? given⟩

theorem plain_of_holds (holds : setting.Holds value) : value.Plain 1 := by
  cases setting with
  | hidesPasswords =>
    obtain ⟨b, rfl⟩ := holds
    exact .bool b
  | packs =>
    obtain ⟨names, rfl⟩ := holds
    refine .list fun item inside => ?_
    obtain ⟨name, -, rfl⟩ := List.mem_map.1 inside
    exact .text name
  | _ =>
    obtain ⟨text, rfl⟩ := holds
    exact .text text

theorem kept_of_holds (holds : setting.Holds value) : kept setting value = value := by
  cases setting with
  | hidesPasswords =>
    obtain ⟨b, rfl⟩ := holds
    rfl
  | packs =>
    obtain ⟨names, rfl⟩ := holds
    rfl
  | _ =>
    obtain ⟨text, rfl⟩ := holds
    rfl

/-! ## The document that is saved -/

/-- The settings of a section. -/
def settingsOf (zone : String) : List Setting :=
  Setting.all.filter fun setting => setting.zone == zone

/-- The entries of a section in a document. -/
def zoneEntries (config : Config) (zone : String) : List (String × Data) :=
  (settingsOf zone).map fun setting => (setting.name, config.value setting)

theorem zoneData_eq (config : Config) (zone : String) :
    config.zoneData zone = .map ((config.zoneEntries zone).map Data.named) := by
  simp [zoneData, zoneEntries, settingsOf, Data.named]

theorem plain_zoneData (typed : config.WellTyped) {zone : String} (known : zone ∈ zones) :
    (config.zoneData zone).Plain 2 := by
  have distinct : ∀ zone ∈ zones, ((settingsOf zone).map Setting.name).Nodup := by decide
  rw [zoneData_eq]
  refine .map ?_ fun entry inside => ?_
  · rw [zoneEntries, List.map_map]
    exact distinct zone known
  · obtain ⟨setting, -, rfl⟩ := List.mem_map.1 inside
    exact plain_of_holds (typed.holds setting)

theorem toData_eq (config : Config) :
    config.toData = .map ((zones.map fun zone => (zone, config.zoneData zone)).map Data.named) :=
  rfl

/-- A configuration takes three lists and mappings in one another. -/
theorem plain_toData (typed : config.WellTyped) : config.toData.Plain 3 := by
  have distinct : zones.Nodup := by decide
  rw [toData_eq]
  refine .map (by simpa [Function.comp_def] using distinct) fun entry inside => ?_
  obtain ⟨zone, known, rfl⟩ := List.mem_map.1 inside
  exact plain_zoneData typed known

/-- An entry for a setting that has a value gives it another. -/
theorem applyEntry_setting {config : Config} {setting : Setting}
    (there : (config.value? setting).isSome = true) (value : Data) :
    applyEntry setting.zone config (.text setting.name) value =
      .ok (config.set setting (kept setting value)) := by
  have named : Setting.find? setting.zone setting.name = some setting := by
    cases setting <;> rfl
  have found : (Setting.find? setting.zone (Data.text setting.name).plainText).filter
      (fun one => (config.value? one).isSome) = some setting := by
    rw [Data.plainText, named, Option.filter_some, if_pos there]
  have unreserved : ∀ name ∈ ["__class__", "__weakref__", "__dict__"],
      (Data.text setting.name).plainText ≠ name := by
    cases setting <;> decide
  unfold applyEntry
  split
  case h_1 reserved => exact absurd reserved (unreserved _ (by decide))
  case h_2 reserved => exact absurd reserved (unreserved _ (by decide))
  case h_3 _ reserved => exact absurd reserved (unreserved _ (by decide))
  case h_4 reserved _ => exact absurd reserved (unreserved _ (by decide))
  case h_5 => rw [found]

/-- The settings of a list taken from one configuration, the others from another. -/
def taking (settings : List Setting) (config other : Config) : Config :=
  ⟨fun setting => if setting ∈ settings then config.value? setting else other.value? setting⟩

theorem applyEntries_settings (typed : config.WellTyped) {zone : String} {settings : List Setting}
    (inZone : ∀ setting ∈ settings, setting.zone = zone) {other : Config}
    (whole : ∀ setting, (other.value? setting).isSome = true) :
    applyEntries zone other ((settings.map fun setting =>
      (setting.name, config.value setting)).map Data.named) =
        .ok (taking settings config other) := by
  induction settings generalizing other with
  | nil => simp [applyEntries, taking, pure, Except.pure]
  | cons setting settings ih =>
    have here := applyEntry_setting (whole setting) (config.value setting)
    rw [inZone setting (by simp), kept_of_holds (typed.holds setting)] at here
    have still : ∀ one, ((other.set setting (config.value setting)).value? one).isSome = true := by
      intro one
      rw [value?_set]
      split
      · rfl
      · exact whole one
    have later := ih (fun one inside => inZone one (List.mem_cons_of_mem _ inside)) still
    have merged : taking settings config (other.set setting (config.value setting)) =
        taking (setting :: settings) config other := by
      refine congrArg Config.mk (funext fun one => ?_)
      by_cases same : one = setting
      · simp [value?_set, same, value?_of_wellTyped typed]
      · simp [value?_set, same]
    rw [applyEntries, List.map_cons, List.map_cons, List.foldlM_cons, Data.named, here]
    exact merged ▸ later

theorem entry?_toData (config : Config) {zone : String} (known : zone ∈ zones) :
    entry? [(.text "console", config.zoneData "console"),
      (.text "defaults", config.zoneData "defaults")] zone = some (config.zoneData zone) := by
  simp only [zones, List.mem_cons, List.not_mem_nil, or_false] at known
  rcases known with rfl | rfl <;> rfl

/-- A document that was made of a configuration gives it back. -/
theorem applyData_toData (typed : config.WellTyped) :
    applyData defaults config.toData = .ok config := by
  have zone : ∀ zone ∈ zones, ∀ other : Config,
      (∀ setting, (other.value? setting).isSome = true) →
      applyZone [(.text "console", config.zoneData "console"),
        (.text "defaults", config.zoneData "defaults")] other zone =
          .ok (taking (settingsOf zone) config other) := by
    intro zone known other whole
    rw [applyZone, entry?_toData config known, zoneData_eq]
    exact applyEntries_settings typed (fun setting inside => by
      simpa using (List.mem_filter.1 inside).2) whole
  have whole : taking (settingsOf "defaults") config
      (taking (settingsOf "console") config defaults) = config := by
    refine congrArg Config.mk (funext fun setting => ?_)
    have somewhere : setting ∈ settingsOf "console" ∨ setting ∈ settingsOf "defaults" := by
      cases setting <;> decide
    by_cases inLast : setting ∈ settingsOf "defaults"
    · simp [inLast]
    · simp [inLast, taking, somewhere.resolve_right inLast]
  have halfway : ∀ setting,
      ((taking (settingsOf "console") config defaults).value? setting).isSome = true := by
    intro setting
    unfold taking
    dsimp only
    split
    · rw [value?_of_wellTyped typed]
      rfl
    · rfl
  have first := zone "console" (by decide) defaults fun _ => rfl
  have second := zone "defaults" (by decide) _ halfway
  simp only [toData, applyData, zones, List.foldlM_cons, List.foldlM_nil, first, bind, Except.bind,
    second, whole]
  rfl

/-- Where the text of a configuration is in the config file, the file gives the configuration. -/
theorem ofFile_of_readText (typed : config.WellTyped) {s : Surroundings}
    (held : s.files.readText s.configFile = .ok (Json.write config.toData)) :
    ofFile s = ⟨.ok config, []⟩ := by
  have back : Json.read s.readers.room (Json.write config.toData) = .ok config.toData :=
    Json.read_write ((plain_toData typed).mono s.readers.roomy)
  have said : s.content = .ok config.toData := by
    simp only [Surroundings.content, held, bind, Except.bind, back]
  have there : s.files.has s.configFile = true := by
    cases away : s.files.has s.configFile with
    | true => rfl
    | false =>
      obtain ⟨failure, failed, -⟩ := Surroundings.content_of_missing away
      rw [said] at failed
      cases failed
  rw [ofFile_of_content there, said]
  show pure (applyData defaults config.toData) = _
  rw [applyData_toData typed]
  rfl

/-- Saving succeeds where all settings have values and the file can be written. -/
theorem save_eq_ok_iff {s after : Surroundings} :
    config.save s = (after, .ok ()) ↔ config.isWhole = true ∧ ∃ made files,
      s.files.makeDirectory s.configFile.parent = .ok made ∧
      made.write s.configFile (Json.write config.toData) = .ok files ∧
      after = { s with files } := by
  cases directory : s.files.makeDirectory s.configFile.parent with
  | error failure => simp [save, directory]
  | ok made =>
    cases whole : config.isWhole with
    | false =>
      cases written : made.write s.configFile "" <;>
        simp [save, directory, text, whole, written, Except.toOption, Except.map]
    | true =>
      cases written : made.write s.configFile (Json.write config.toData) <;>
        simp [save, directory, text, whole, written, Except.toOption, Except.map, eq_comm]

/-- A configuration that was saved is what the file gives, without a warning. -/
theorem ofFile_save (typed : config.WellTyped) {s after : Surroundings}
    (saved : config.save s = (after, .ok ())) : ofFile after = ⟨.ok config, []⟩ := by
  obtain ⟨-, made, files, -, written, rfl⟩ := save_eq_ok_iff.1 saved
  exact ofFile_of_readText typed
    (FileTree.readText_write written (Json.return_not_mem_write (plain_toData typed)))

/-! ## Loading what was saved -/

section Loading

variable {environment : OrderedMap String}

/-- Whether no variable is set that is named like those for settings. -/
def Unset (environment : OrderedMap String) : Prop :=
  ∀ name : String, "USERINPUT_".toList <+: name.toList → environment.contains name = false

theorem get?_variableName_of_unset (unset : Unset environment) (setting : Setting) :
    environment.get? setting.variableName = none := by
  have named : "USERINPUT_".toList <+: setting.variableName.toList := by
    cases setting <;> decide
  simpa [OrderedMap.contains] using unset setting.variableName named

/-- Where no variable is set for it, a configuration stays as it is, without a warning. -/
theorem overrideAll_of_unset (unset : Unset environment) (config : Config) :
    overrideAll environment config = pure config := by
  have each : ∀ settings : List Setting,
      settings.foldlM (overrideOne environment) config = pure config := by
    intro settings
    induction settings with
    | nil => rfl
    | cons first rest ih =>
      have here : overrideOne environment config first = pure config := by
        rw [overrideOne, get?_variableName_of_unset unset first]
      rw [List.foldlM_cons, here]
      exact ih
  exact each Setting.all

theorem exists_save (typed : config.WellTyped) {s : Surroundings}
    (room : s.files.HasRoom s.configFile) : ∃ after, config.save s = (after, .ok ()) := by
  obtain ⟨made, files, directory, written⟩ := FileTree.exists_write room (Json.write config.toData)
  exact ⟨_, save_eq_ok_iff.2 ⟨isWhole_of_wellTyped typed, made, files, directory, written, rfl⟩⟩

/-- What loading gives after a configuration was saved: the values that the environment gives, over
those that were saved. -/
theorem load_of_saved (typed : config.WellTyped) {s after : Surroundings}
    (saved : config.save s = (after, .ok ())) {loaded : Config} :
    (load after).2.value = .ok loaded ↔ after.readVariables.2 = .ok () ∧
      (overrideAll after.readVariables.1.environment config).value = loaded := by
  have made := ofFile_save typed saved
  cases read : after.readVariables.2 with
  | error failure => simp [load_of_variablesStop made read]
  | ok _ => simp [load_of_gives made read]

theorem overrideAll_eq_self_iff :
    (overrideAll environment config).value = config ↔
      ∀ setting value, overriding? environment setting = some value →
        config.value? setting = some value := by
  constructor
  · intro same setting value given
    have here := value?_overrideAll environment config setting
    rw [same, given, Option.some_or] at here
    exact here
  · intro agrees
    have each : ∀ setting,
        (overrideAll environment config).value.value? setting = config.value? setting := by
      intro setting
      rw [value?_overrideAll]
      cases given : overriding? environment setting with
      | none => rfl
      | some value => exact (agrees setting value given).symm
    exact congrArg Config.mk (funext each)

/-- A well-typed configuration is loaded as it was saved, whatever its texts are, if no variable of
the environment or of the environment file is set for it. It can be saved where there is room for
the file. What comes back is another configuration, or none, only where a variable says otherwise
or the environment file cannot be taken. -/
theorem load_save (typed : config.WellTyped) (s : Surroundings) :
    (s.files.HasRoom s.configFile → ∃ after, config.save s = (after, .ok ())) ∧
    ∀ after, config.save s = (after, .ok ()) →
      let environment := after.readVariables.1.environment
      (after.readVariables.2 = .ok () → Unset environment →
        (load after).2 = ⟨.ok config, []⟩) ∧
      ((load after).2.value = .ok config ↔ after.readVariables.2 = .ok () ∧
        ∀ setting value, overriding? environment setting = some value →
          value = config.value setting) := by
  refine ⟨exists_save typed, fun after saved => ⟨fun read unset => ?_, ?_⟩⟩
  · have loaded := load_of_gives (ofFile_save typed saved) read
    rw [loaded, overrideAll_of_unset unset]
    rfl
  · rw [load_of_saved typed saved, overrideAll_eq_self_iff]
    simp only [value?_of_wellTyped typed, Option.some.injEq, eq_comm]

end Loading

/-- A configuration with texts that JSON escapes, and packs whose names hold commas and blanks. -/
def escaping : Config where
  value?
    | .marker => some (.text "\"\\\n")
    | .hidesPasswords => some (.bool false)
    | .platform => some (.text "beos")
    | .packs => some (textList ["a,b", " c ", "", "é😀"])
    | .separator => some (.text "\r\u2028")
    | .panelId => some (.text "/")

theorem wellTyped_escaping : escaping.WellTyped := by
  intro setting
  cases setting <;> exact ⟨_, rfl, _, rfl⟩

/-- A directory without files, and an environment that names it. -/
def homeGiven : Surroundings where
  files := .emptyAt ["home"]
  environment := .ofList [("HOME", "/home")]
  configFile := ⟨false, ["config", "config.json"]⟩

theorem hasRoom_homeGiven : homeGiven.files.HasRoom homeGiven.configFile where
  start := rfl
  way := by
    have passed : (homeGiven.files.origin homeGiven.configFile).passed
        homeGiven.configFile.parent.names = [["home"], ["home", "config"]] := rfl
    have entries : homeGiven.files.entry? ["home"] = some .directory ∧
        homeGiven.files.entry? ["home", "config"] = none := ⟨rfl, rfl⟩
    rw [passed]
    simp [entries]
  last := ⟨"config.json", rfl, by decide, by decide, by decide⟩

/-- The same directory after a configuration was saved in it. -/
def homeAfter (config : Config) : Surroundings :=
  { homeGiven with
    files := (homeGiven.files.put ["home", "config"] .directory).put
      ["home", "config", "config.json"] (.file (Json.write config.toData).toUTF8.toList) }

theorem save_homeGiven (typed : config.WellTyped) :
    config.save homeGiven = (homeAfter config, .ok ()) :=
  save_eq_ok_iff.2 ⟨isWhole_of_wellTyped typed, _, _, rfl, rfl, rfl⟩

/-- There is no environment file here. -/
theorem readVariables_homeAfter (config : Config) :
    (homeAfter config).readVariables =
      ({ homeAfter config with hasReadVariables := true }, .ok ()) :=
  Surroundings.readVariables_of_absent rfl rfl rfl

theorem unset_homeGiven : Unset homeGiven.environment := by
  intro name named
  rw [Bool.eq_false_iff]
  intro present
  have only : name ∈ ["HOME"] := OrderedMap.contains_iff.1 present
  rw [List.mem_singleton.1 only] at named
  revert named
  decide

/-- All texts come back, and so do packs that the environment could not name. -/
theorem escaping_loaded : ∃ after, escaping.save homeGiven = (after, .ok ()) ∧
    (load after).2 = ⟨.ok escaping, []⟩ ∧ after.hasReadVariables = false := by
  obtain ⟨saves, loads⟩ := load_save wellTyped_escaping homeGiven
  obtain ⟨after, saved⟩ := saves hasRoom_homeGiven
  have here : after = homeAfter escaping := by
    rw [save_homeGiven wellTyped_escaping] at saved
    exact (congrArg Prod.fst saved).symm
  subst here
  refine ⟨_, saved, (loads _ saved).1 ?_ ?_, rfl⟩
  · rw [readVariables_homeAfter]
  · rw [readVariables_homeAfter]
    exact unset_homeGiven

end Config

end InputPanel
