import InputPanel.Config
import InputPanel.Proofs.FileTree
import InputPanel.Proofs.Json.Faults
import InputPanel.Proofs.OrderedMap
import Mathlib.Data.List.Basic

/-!
# Layers of the configuration

A setting is as the environment says, else as the config file says, else as it
is by default. A file that cannot be opened or is no JSON is left out with a
warning. There is content that loading does not get over: bytes that are no
text, an integer that is too long, lists and mappings in one another that are too
deep, JSON that is refused as settings. The environment file can be such content
too.
-/

namespace InputPanel

namespace Config

variable {environment : OrderedMap String} {config : Config} {setting : Setting}

/-! ## The environment over the file -/

/-- The value that the environment gives a setting, if it gives one that is taken. -/
def overriding? (environment : OrderedMap String) (setting : Setting) : Option Data :=
  match environment.get? setting.variableName with
  | some text => if text.isEmpty then none else ofVariable? setting text
  | none => none

theorem value?_set (config : Config) (setting : Setting) (value : Data) (other : Setting) :
    (config.set setting value).value? other =
      if other = setting then some value else config.value? other :=
  rfl

theorem value_overrideOne (environment : OrderedMap String) (config : Config) (setting : Setting) :
    (overrideOne environment config setting).value =
      ((overriding? environment setting).map (config.set setting)).getD config := by
  unfold overrideOne overriding?
  cases environment.get? setting.variableName with
  | none => rfl
  | some text =>
    cases empty : text.isEmpty
    · cases taken : ofVariable? setting text <;> simp [empty, taken]
    · simp [empty]

/-- What is in effect for a setting: what the environment gives, else what there was. -/
theorem value?_overrideAll (environment : OrderedMap String) (config : Config)
    (setting : Setting) :
    (overrideAll environment config).value.value? setting =
      (overriding? environment setting).or (config.value? setting) := by
  have each : ∀ (settings : List Setting) (config : Config),
      (settings.foldl (fun made one => (overrideOne environment made one).value) config).value?
        setting =
      if setting ∈ settings then (overriding? environment setting).or (config.value? setting)
      else config.value? setting := by
    intro settings
    induction settings with
    | nil => intro config; rfl
    | cons one settings ih =>
      intro config
      rw [List.foldl_cons, ih, value_overrideOne]
      by_cases same : setting = one
      · subst same
        cases overriding? environment setting <;> simp [value?_set]
      · cases overriding? environment one <;> simp [value?_set, same]
  have inside : setting ∈ Setting.all := by cases setting <;> decide
  rw [overrideAll, Noted.value_foldlM, each, if_pos inside]

/-! ## Content that is refused -/

/-- How an entry of a section is refused, if it is: under a name that takes no such value. -/
def refusal? (entry : Data × Data) : Option Failure :=
  let name := entry.1.plainText
  if name = "__class__" then some .typeMismatch
  else if name = "__weakref__" then some .missingMember
  else if name = "__dict__" && !entry.2.isMap then some .typeMismatch
  else none

/-- The entries of a section; there are none if it is missing or no mapping. -/
def sectionOf (entries : List (Data × Data)) (zone : String) : List (Data × Data) :=
  match entry? entries zone with
  | some (.map inner) => inner
  | _ => []

/-- How content is refused, if it is: for the first entry that a section refuses, or as something
other than a mapping in which a section seems to be. -/
def refused? : Data → Option Failure
  | .map entries => zones.findSome? fun zone => (sectionOf entries zone).findSome? refusal?
  | value => if mentionsZone value then some .typeMismatch else none

theorem applyEntry_eq_error_iff {zone : String} {entry : Data × Data} {failure : Failure} :
    applyEntry zone config entry.1 entry.2 = .error failure ↔ refusal? entry = some failure := by
  obtain ⟨key, given⟩ := entry
  unfold applyEntry
  split
  case h_1 name => simp [refusal?, name]
  case h_2 name => simp [refusal?, name]
  case h_3 name same => simp_all [refusal?, Data.isMap]
  case h_4 name other =>
    have flat : given.isMap = false := by
      cases given with
      | map entries => exact absurd rfl (other entries)
      | _ => rfl
    simp [refusal?, name, flat]
  case h_5 notClass notWeak notDict _ =>
    have taken : refusal? (key, given) = none := by
      simp only [refusal?]
      rw [if_neg notClass, if_neg notWeak, if_neg (by simpa using fun is => absurd is notDict)]
    rw [taken]
    split <;> simp

theorem applyZone_eq_error_iff {zone : String} {entries : List (Data × Data)} {failure : Failure} :
    applyZone entries config zone = .error failure ↔
      (sectionOf entries zone).findSome? refusal? = some failure := by
  have each : ∀ config entry failure, applyEntry zone config entry.1 entry.2 = .error failure ↔
      refusal? entry = some failure := fun _ _ _ => applyEntry_eq_error_iff
  unfold applyZone sectionOf
  cases entry? entries zone with
  | none => simp
  | some found =>
    cases found with
    | map inner => exact foldlM_eq_error_iff each
    | _ => simp

/-- Content is applied unless it is refused. -/
theorem applyData_eq_error_iff {data : Data} {failure : Failure} :
    applyData config data = .error failure ↔ refused? data = some failure := by
  cases data with
  | map entries =>
    have each : ∀ config zone failure, applyZone entries config zone = .error failure ↔
        (sectionOf entries zone).findSome? refusal? = some failure :=
      fun _ _ _ => applyZone_eq_error_iff
    exact foldlM_eq_error_iff each
  | _ =>
    simp only [applyData, refused?]
    split <;> simp

end Config

namespace Surroundings

/-- What the config file says, as JSON. -/
def content (s : Surroundings) : Except Failure Data := do
  Json.read s.readers.room (← s.files.readText s.configFile)

/-- What the config file gives over the defaults, and what is noted. -/
inductive FileGives (s : Surroundings) : Config → List Notice → Prop where
  | missing (away : s.files.has s.configFile = false) : FileGives s .defaults []
  | ignored {failure : Failure} (there : s.files.has s.configFile = true)
      (useless : s.content = .error failure)
      (expected : failure = .malformedJson ∨ failure.isOfFiles = true) :
      FileGives s .defaults [.warning ("Failed to load config from " ++ s.configFile.text ++ ": " ++
        failure.bracketed)]
  | applied {data : Data} {config : Config} (said : s.content = .ok data)
      (taken : Config.applyData .defaults data = .ok config) : FileGives s config []

/-- What the config file holds that loading does not get over, and how it fails. -/
inductive FileStops (s : Surroundings) : Failure → Prop where
  | undecodable {bytes : List UInt8} (held : s.files.read s.configFile = .ok bytes)
      (broken : String.fromUTF8? ⟨bytes.toArray⟩ = none) : FileStops s .undecodable
  | longNumber (said : s.content = .error .badValue) : FileStops s .badValue
  | deep (said : s.content = .error .tooDeep) : FileStops s .tooDeep
  | refused {data : Data} {failure : Failure} (said : s.content = .ok data)
      (refuses : Config.refused? data = some failure) : FileStops s failure

/-- How the environment file, if it is still to be read, stops its reader. -/
def VariablesStop (s : Surroundings) (failure : Failure) : Prop :=
  s.hasReadVariables = false ∧ (s.readers.environmentFile s.files s.environment).2 = .error failure

/-- How loading stops: by the config file, or else by the environment file. -/
def Stops (s : Surroundings) (failure : Failure) : Prop :=
  s.FileStops failure ∨ (∀ earlier, ¬ s.FileStops earlier) ∧ s.VariablesStop failure

variable {s : Surroundings} {failure : Failure}

theorem content_of_read {bytes : List UInt8} (held : s.files.read s.configFile = .ok bytes) :
    s.content = (do Json.read s.readers.room (← FileTree.textOf bytes)) := by
  rw [content, FileTree.readText, held]
  rfl

theorem content_of_missing (away : s.files.has s.configFile = false) :
    ∃ failure, s.content = .error failure ∧ failure.isOfFiles = true := by
  cases held : s.files.read s.configFile with
  | error failure =>
    refine ⟨failure, ?_, FileTree.isOfFiles_of_read held⟩
    rw [content, FileTree.readText, held]
    rfl
  | ok bytes =>
    rw [FileTree.has_of_read held] at away
    cases away

theorem content_eq_error (h : s.content = .error failure) :
    failure = .malformedJson ∨ failure.isOfFiles = true ∨ s.FileStops failure := by
  have said := h
  rw [content, bind_eq_error_iff, FileTree.readText, bind_eq_error_iff] at said
  obtain (unread | ⟨bytes, held, undecoded⟩) | ⟨text, -, unsaid⟩ := said
  · exact .inr (.inl (FileTree.isOfFiles_of_read unread))
  · obtain ⟨broken, rfl⟩ := FileTree.textOf_eq_error_iff.1 undecoded
    exact .inr (.inr (.undecodable held broken))
  · have kinds := Json.failsBy_read s.readers.room text failure unsaid
    simp only [Json.faults, List.mem_cons, List.not_mem_nil, or_false] at kinds
    obtain rfl | rfl | rfl := kinds
    · exact .inl rfl
    · exact .inr (.inr (.longNumber h))
    · exact .inr (.inr (.deep h))

theorem content_of_fileStops (stops : s.FileStops failure) :
    s.content = .error failure ∧ failure ≠ .malformedJson ∧ failure.isOfFiles = false ∨
      ∃ data, s.content = .ok data ∧ Config.refused? data = some failure := by
  cases stops with
  | undecodable held broken =>
    have undecoded := FileTree.textOf_eq_error_iff.2 ⟨broken, rfl⟩
    rw [content_of_read held, undecoded]
    exact .inl ⟨rfl, by decide, rfl⟩
  | longNumber said => exact .inl ⟨said, by decide, rfl⟩
  | deep said => exact .inl ⟨said, by decide, rfl⟩
  | refused said refuses => exact .inr ⟨_, said, refuses⟩

theorem fileStops_unique {other : Failure} (first : s.FileStops failure)
    (second : s.FileStops other) : failure = other := by
  have one := content_of_fileStops first
  have two := content_of_fileStops second
  obtain ⟨said, -⟩ | ⟨data, said, refuses⟩ := one <;>
    obtain ⟨again, -⟩ | ⟨more, again, refusesToo⟩ := two <;> simp_all

/-- Only variables are taken from the environment file. -/
theorem readVariables_keeps (s : Surroundings) :
    s.readVariables.1.files = s.files ∧ s.readVariables.1.configFile = s.configFile ∧
      s.readVariables.1.readers = s.readers := by
  unfold readVariables
  split <;> exact ⟨rfl, rfl, rfl⟩

/-- Without an environment file, nothing is taken. -/
theorem readVariables_of_absent (standard : s.readers = .standard)
    (unread : s.hasReadVariables = false) (absent : EnvironmentFile.bytes? s.files = none) :
    s.readVariables = ({ s with hasReadVariables := true }, .ok ()) := by
  have read : s.readers.environmentFile s.files s.environment = (s.environment, .ok ()) := by
    rw [standard]
    simp only [Readers.standard, EnvironmentFile.load, absent, Option.map_none]
  rw [readVariables, unread, read]
  rfl

theorem readVariables_eq_error_iff :
    s.readVariables.2 = .error failure ↔ s.VariablesStop failure := by
  unfold readVariables VariablesStop
  cases s.hasReadVariables <;> simp

end Surroundings

namespace Config

theorem ofFile_of_content {s : Surroundings} (there : s.files.has s.configFile = true) :
    ofFile s = match s.content with
      | .ok data => pure (applyData defaults data)
      | .error failure =>
        if failure == .malformedJson || failure.isOfFiles then do
          Noted.note (.warning ("Failed to load config from " ++ s.configFile.text ++ ": " ++
            failure.bracketed))
          return .ok defaults
        else return .error failure := by
  rw [ofFile, if_pos there]
  rfl

theorem ofFile_cases (s : Surroundings) :
    (∃ config notices, ofFile s = ⟨.ok config, notices⟩ ∧ s.FileGives config notices) ∨
      ∃ failure, ofFile s = ⟨.error failure, []⟩ ∧ s.FileStops failure := by
  cases there : s.files.has s.configFile with
  | false => exact .inl ⟨defaults, [], by rw [ofFile, there]; rfl, .missing there⟩
  | true =>
    rw [ofFile_of_content there]
    cases said : s.content with
    | ok data =>
      cases taken : applyData defaults data with
      | ok config => exact .inl ⟨config, [], by simp only [taken]; rfl, .applied said taken⟩
      | error failure =>
        have refuses := applyData_eq_error_iff.1 taken
        exact .inr ⟨failure, by simp only [taken]; rfl, .refused said refuses⟩
    | error failure =>
      by_cases expected : failure = .malformedJson ∨ failure.isOfFiles = true
      · have noted : (failure == .malformedJson || failure.isOfFiles) = true := by
          simpa using expected
        refine .inl ⟨defaults, _, ?_, .ignored there said expected⟩
        simp only [noted]
        rfl
      · have unexpected : (failure == .malformedJson || failure.isOfFiles) = false := by
          simpa using expected
        refine .inr ⟨failure, by simp only [unexpected]; rfl, ?_⟩
        obtain rfl | opened | stops := Surroundings.content_eq_error said
        · exact absurd (.inl rfl) expected
        · exact absurd (.inr opened) expected
        · exact stops

/-- What the file gives and what makes it stop exclude each other. -/
theorem not_fileStops_of_gives {s : Surroundings} {config : Config} {notices : List Notice}
    (gives : s.FileGives config notices) (failure : Failure) : ¬ s.FileStops failure := by
  intro stops
  have found := Surroundings.content_of_fileStops stops
  cases gives with
  | missing away =>
    obtain ⟨first, said, opened⟩ := Surroundings.content_of_missing away
    simp_all
  | ignored there useless expected =>
    simp_all
  | applied said taken =>
    simp only [said, reduceCtorEq, false_and, Except.ok.injEq, exists_eq_left', false_or] at found
    rw [applyData_eq_error_iff.2 found] at taken
    cases taken

theorem load_of_fileStops {s : Surroundings} {failure : Failure}
    (made : ofFile s = ⟨.error failure, []⟩) : load s = (s, ⟨.error failure, []⟩) := by
  simp only [load, made]

theorem load_of_variablesStop {s : Surroundings} {below : Config} {notices : List Notice}
    {failure : Failure} (made : ofFile s = ⟨.ok below, notices⟩)
    (read : s.readVariables.2 = .error failure) :
    load s = (s.readVariables.1, ⟨.error failure, notices⟩) := by
  simp only [load, made, read]

theorem load_of_gives {s : Surroundings} {below : Config} {notices : List Notice}
    (made : ofFile s = ⟨.ok below, notices⟩) (read : s.readVariables.2 = .ok ()) :
    load s = (s.readVariables.1,
      ⟨.ok (overrideAll s.readVariables.1.environment below).value,
        notices ++ (overrideAll s.readVariables.1.environment below).notices⟩) := by
  simp only [load, made, read]

theorem files_load (s : Surroundings) : (load s).1.files = s.files := by
  unfold load
  dsimp only
  split
  · rfl
  · split <;> exact s.readVariables_keeps.1

theorem load_eq_error_iff {s : Surroundings} {failure : Failure} :
    (load s).2.value = .error failure ↔ s.Stops failure := by
  obtain ⟨below, notices, made, gives⟩ | ⟨first, made, stops⟩ := ofFile_cases s
  · have passes := not_fileStops_of_gives gives
    have later : s.Stops failure ↔ s.readVariables.2 = .error failure := by
      rw [Surroundings.Stops, Surroundings.readVariables_eq_error_iff]
      simp [passes]
    rw [later]
    cases read : s.readVariables.2 with
    | error first => simp [load_of_variablesStop made read]
    | ok _ => simp [load_of_gives made read]
  · have only : s.Stops failure ↔ failure = first := by
      constructor
      · rintro (again | ⟨none, -⟩)
        · exact Surroundings.fileStops_unique again stops
        · exact absurd stops (none first)
      · rintro rfl
        exact .inl stops
    simp [load_of_fileStops made, only, eq_comm]

/-- Loading fails exactly by what the config file or the environment file holds. Otherwise each
setting is as the environment says, or as the file says, or as it is by default; the packs may be
taken away by the file. -/
theorem load_layers (s : Surroundings) :
    (∀ failure, (load s).2.value = .error failure ↔ s.Stops failure) ∧
      ((∀ failure, ¬ s.Stops failure) → ∃ config below notices,
        (load s).2.value = .ok config ∧ s.FileGives below notices ∧
        notices <+: (load s).2.notices ∧
        ∀ setting, config.value? setting =
          (overriding? s.readVariables.1.environment setting).or (below.value? setting)) := by
  refine ⟨fun failure => load_eq_error_iff, fun passes => ?_⟩
  obtain ⟨below, notices, made, gives⟩ | ⟨failure, made, stops⟩ := ofFile_cases s
  · cases read : s.readVariables.2 with
    | error failure =>
      exact absurd (load_eq_error_iff.1 (by rw [load_of_variablesStop made read])) (passes failure)
    | ok _ =>
      rw [load_of_gives made read]
      exact ⟨_, below, notices, rfl, gives, List.prefix_append _ _, value?_overrideAll _ _⟩
  · exact absurd (.inl stops) (passes failure)

/-- What the config file says where each of the layers gives a setting. -/
def layeredText : String := "\x7b\"console\": \x7b\"selected_marker\": \"*\"\x7d\x7d"

/-- A config file that gives the marker, and an environment that names a panel. -/
def layersGiven : Surroundings where
  files := (FileTree.emptyAt ["home"]).put ["home", "config.json"]
    (.file layeredText.toUTF8.toList)
  environment := .ofList [("USERINPUT_PANEL", "p")]
  configFile := ⟨false, ["config.json"]⟩

theorem eq_text_of_textOf? {value : Data} {text : String} (given : textOf? value = some text) :
    value = .text text := by
  cases value with
  | text => exact congrArg Data.text (Option.some.inj given)
  | _ => cases given

/-- The file gives the marker, and leaves the separator as it is. -/
theorem content_layersGiven : ∃ data below, layersGiven.content = .ok data ∧
    applyData defaults data = .ok below ∧ below.value? .marker = some (.text "*") ∧
    below.value? .separator = some (.text "") := by
  have bytes : layersGiven.files.read layersGiven.configFile =
      .ok layeredText.toUTF8.toList := rfl
  have text : FileTree.textOf layeredText.toUTF8.toList = .ok layeredText :=
    FileTree.textOf_toUTF8 (by decide)
  have said : layersGiven.content = Json.read layersGiven.readers.room layeredText := by
    simp only [Surroundings.content_of_read bytes, text, bind, Except.bind]
  have passes : (Json.read layersGiven.readers.room layeredText).toOption.any (fun data =>
      (applyData defaults data).toOption.any fun below =>
        (below.value? .marker).bind textOf? == some "*" &&
          (below.value? .separator).bind textOf? == some "") = true := by
    decide +kernel
  obtain ⟨data, read, tested⟩ := exists_ok_of_any passes
  obtain ⟨below, taken, tested⟩ := exists_ok_of_any tested
  rw [Bool.and_eq_true, beq_iff_eq, beq_iff_eq, Option.bind_eq_some_iff,
    Option.bind_eq_some_iff] at tested
  obtain ⟨⟨marker, given, isText⟩, separator, kept, isTextToo⟩ := tested
  refine ⟨data, below, said.trans read, taken, ?_, ?_⟩
  · rw [given, eq_text_of_textOf? isText]
  · rw [kept, eq_text_of_textOf? isTextToo]

theorem readVariables_layersGiven :
    layersGiven.readVariables = ({ layersGiven with hasReadVariables := true }, .ok ()) :=
  Surroundings.readVariables_of_absent rfl rfl rfl

theorem not_stops_layersGiven (failure : Failure) : ¬ layersGiven.Stops failure := by
  obtain ⟨data, below, said, taken, -⟩ := content_layersGiven
  have read : layersGiven.readVariables.2 = .ok () := by rw [readVariables_layersGiven]
  rintro (stops | ⟨-, stops⟩)
  · exact not_fileStops_of_gives (.applied said taken) failure stops
  · rw [← Surroundings.readVariables_eq_error_iff, read] at stops
    cases stops

/-- The environment, the file and the defaults each give a setting here. -/
theorem layers_meet : ∃ config, (load layersGiven).2.value = .ok config ∧
    config.value? .panelId = some (.text "p") ∧ config.value? .marker = some (.text "*") ∧
    config.value? .separator = some (.text "") := by
  obtain ⟨data, below, said, taken, marker, separator⟩ := content_layersGiven
  obtain ⟨config, found, notices, loaded, gives, -, layers⟩ :=
    (load_layers layersGiven).2 not_stops_layersGiven
  have same : found = below := by
    cases gives with
    | missing away =>
      obtain ⟨failure, failed, -⟩ := Surroundings.content_of_missing away
      rw [said] at failed
      cases failed
    | ignored there useless expected =>
      rw [said] at useless
      cases useless
    | applied saidToo takenToo =>
      rw [said] at saidToo
      cases saidToo
      exact Except.ok.inj (takenToo.symm.trans taken)
  rw [readVariables_layersGiven, same] at layers
  refine ⟨config, loaded, layers .panelId, ?_, ?_⟩
  · rw [layers .marker, ← marker]
    rfl
  · rw [layers .separator, ← separator]
    rfl

/-- A config file that holds a number. -/
def numberGiven : Surroundings where
  files := (FileTree.emptyAt ["home"]).put ["home", "config.json"] (.file "5".toUTF8.toList)
  environment := .empty
  configFile := ⟨false, ["config.json"]⟩

/-- A number is JSON, but loading does not get over it. -/
theorem number_not_ignored : (load numberGiven).2.value = .error .typeMismatch := by
  have bytes : numberGiven.files.read numberGiven.configFile = .ok "5".toUTF8.toList := rfl
  have text : FileTree.textOf "5".toUTF8.toList = .ok "5" := FileTree.textOf_toUTF8 (by decide)
  have said : numberGiven.content = .ok (.int 5) := by
    rw [Surroundings.content_of_read bytes, text]
    rfl
  exact load_eq_error_iff.2 (.inl (.refused said rfl))

end Config

end InputPanel
