import InputPanel.Proofs.Document.Loading
import InputPanel.Proofs.OrderedMap

/-!
# Property files that are structured documents

Such a file is to hold nothing or a flat mapping, of names to scalars. What is
read of a document is told here for all documents. A mapping is read whatever its
values are, a list or a mapping among them by its text, and a list or a scalar
that counts as false is read as if it were nothing. Only the other lists and
scalars are refused. A mapping breaks the loader if one of its keys or values has
no text.
-/

namespace InputPanel

/-- Whether a value has no parts. -/
def Data.isScalar : Data → Bool
  | .pair _ _ => false
  | .list _ => false
  | .collection _ => false
  | .map _ => false
  | .loop _ _ => false
  | _ => true

/-- The entries of a mapping; what is no mapping has none. -/
def Data.entries : Data → List (Data × Data)
  | .map entries => entries
  | _ => []

namespace Properties

/-- A structured property file with the value that its document is read as. -/
def Holds (readers : Readers) (tree : FileTree) (path : FilePath) (value : Data) : Prop :=
  path.isStructured = true ∧
    ∃ text, tree.readText path = .ok text ∧ readers.yaml text = .ok value

/-- The documents that a property file is meant to hold. -/
inductive Flat : Data → Prop where
  | nothing : Flat .null
  | mapping {entries : List (Data × Data)}
      (scalars : ∀ entry ∈ entries, entry.2.isScalar = true) : Flat (.map entries)

/-- The text that a value of a mapping is kept as. -/
inductive KeptAs : Data → String → Prop where
  | nothing : KeptAs .null ""
  | yes : KeptAs (.bool true) "true"
  | no : KeptAs (.bool false) "false"
  | other {value : Data} (given : value ≠ .null) (proper : ∀ b, value ≠ .bool b) :
      KeptAs value value.plainText

/-- The text that is kept under a name is that of the last entry whose key has this text. -/
def LastKept (entries : List (Data × Data)) (name text : String) : Prop :=
  ∃ before key value after, entries = before ++ (key, value) :: after ∧
    key.plainText = name ∧ KeptAs value text ∧ ∀ entry ∈ after, entry.1.plainText ≠ name

theorem keptAs_iff {value : Data} {text : String} :
    KeptAs value text ↔ value.scalarText = text := by
  constructor
  · intro kept
    cases kept with
    | nothing => rfl
    | yes => rfl
    | no => rfl
    | other given proper =>
      cases value with
      | null => exact absurd rfl given
      | bool b => exact absurd rfl (proper b)
      | _ => rfl
  · rintro rfl
    cases value with
    | null => exact .nothing
    | bool b =>
      cases b with
      | true => exact .yes
      | false => exact .no
    | _ => exact .other (by simp) (by simp)

/-- The names and texts of a mapping. -/
def entryTexts (entries : List (Data × Data)) : List (String × String) :=
  entries.map fun entry => (entry.1.plainText, entry.2.scalarText)

theorem get?_entryTexts_iff {entries : List (Data × Data)} {name text : String} :
    (OrderedMap.ofList (entryTexts entries)).get? name = some text ↔
      LastKept entries name text := by
  rw [OrderedMap.get?_ofList_eq_some_iff, entryTexts]
  constructor
  · rintro ⟨before, after, split, last⟩
    obtain ⟨front, rest, rfl, rfl, later⟩ := List.map_eq_append_iff.1 split
    obtain ⟨⟨key, value⟩, back, rfl, same, rfl⟩ := List.map_eq_cons_iff.1 later
    cases same
    refine ⟨front, key, value, back, rfl, rfl, keptAs_iff.2 rfl, fun entry present => ?_⟩
    exact last _ (List.mem_map_of_mem present)
  · rintro ⟨before, key, value, after, rfl, rfl, kept, last⟩
    obtain rfl := keptAs_iff.1 kept
    refine ⟨entryTexts before, entryTexts after, by simp [entryTexts], fun entry present => ?_⟩
    obtain ⟨later, inside, rfl⟩ := List.mem_map.1 present
    exact last later inside

variable {readers : Readers} {tree : FileTree} {path : FilePath} {value : Data}

/-- A file that holds a document is read as what the document says. -/
theorem load_of_holds (holds : Holds readers tree path value) :
    load readers tree path = ofDocument readers.room path value := by
  obtain ⟨structured, text, read, document⟩ := holds
  simp only [load, read, expecting, structured, document, bind, Except.bind, if_true]

/-- A mapping is loaded if its keys and values have texts, and breaks the loader otherwise. -/
theorem load_of_map {entries : List (Data × Data)}
    (holds : Holds readers tree path (.map entries)) :
    (HaveTexts readers.room entries →
      load readers tree path = .ok (.ofList (entryTexts entries))) ∧
    (¬ HaveTexts readers.room entries →
      ∃ failure ∈ Data.textFaults, load readers tree path = .error (.broken failure)) := by
  rw [load_of_holds holds, ofDocument, ← fault?_map_eq_none_iff]
  cases faulty : fault? readers.room (.map entries) with
  | none => exact ⟨fun _ => rfl, fun without => absurd rfl without⟩
  | some failure =>
    exact ⟨fun given => (by cases given),
      fun _ => ⟨failure, mem_textFaults_of_fault? faulty, rfl⟩⟩

/-- Without a mapping a document is read as nothing or refused. -/
theorem load_of_not_map (holds : Holds readers tree path value) (unmapped : value.isMap = false) :
    load readers tree path =
      if value.isTrue then .error (.useless (.propertiesNotMapping path))
      else .ok OrderedMap.empty := by
  have made : ofData path value =
      if value.isTrue then .error (.propertiesNotMapping path) else .ok OrderedMap.empty := by
    cases value with
    | map entries => cases unmapped
    | _ => rfl
  have faultless : fault? readers.room value = none := by
    cases value with
    | map entries => cases unmapped
    | _ => rfl
  rw [load_of_holds holds, ofDocument, faultless, made]
  cases value.isTrue <;> rfl

theorem flat_map_iff {entries : List (Data × Data)} :
    Flat (.map entries) ↔ ∀ entry ∈ entries, entry.2.isScalar = true := by
  constructor
  · rintro ⟨⟩
    assumption
  · exact .mapping

theorem flat_iff_of_not_map (unmapped : value.isMap = false) : Flat value ↔ value = .null := by
  constructor
  · rintro ⟨⟩
    · rfl
    · cases unmapped
  · rintro rfl
    exact .nothing

/-- Which documents are loaded although they are not flat. -/
theorem loaded_unflat_iff (holds : Holds readers tree path value) :
    (∃ properties, load readers tree path = .ok properties) ∧ ¬ Flat value ↔
      (∃ entries, value = .map entries ∧ HaveTexts readers.room entries ∧
        ∃ entry ∈ entries, entry.2.isScalar = false) ∨
      (value.isMap = false ∧ value.isTrue = false ∧ value ≠ .null) := by
  cases mapped : value.isMap with
  | true =>
    obtain ⟨entries, rfl⟩ : ∃ entries, value = .map entries := by
      cases value with
      | map entries => exact ⟨entries, rfl⟩
      | _ => cases mapped
    obtain ⟨structured, text, read, document⟩ := holds
    simp [exists_load_iff read structured document, flat_map_iff]
  | false =>
    have apart (entries : List (Data × Data)) : value ≠ .map entries := by
      rintro rfl
      cases mapped
    rw [flat_iff_of_not_map mapped, load_of_not_map holds mapped]
    cases value.isTrue <;> simp [apart]

/-- What is loaded of a document. A mapping gives one text for each text that a key has, unless a key
or a value has none, which breaks the loader. A list or a scalar that counts as false gives nothing,
and all others are refused. So the documents that are loaded although they are not flat are the
mappings with a list or a mapping in them, and the lists and scalars but null that count as false. -/
theorem structured_documents_loaded (holds : Holds readers tree path value) :
    (∀ entries, value = .map entries →
      (HaveTexts readers.room entries → ∃ properties, load readers tree path = .ok properties ∧
        properties.keys = (entries.map fun entry => entry.1.plainText).eraseDups ∧
        ∀ name text, properties.get? name = some text ↔ LastKept entries name text) ∧
      (¬ HaveTexts readers.room entries →
        ∃ failure ∈ Data.textFaults, load readers tree path = .error (.broken failure))) ∧
    (value.isMap = false → value.isTrue = false →
      load readers tree path = .ok OrderedMap.empty) ∧
    (value.isMap = false → value.isTrue = true →
      load readers tree path = .error (.useless (.propertiesNotMapping path))) ∧
    ((∃ properties, load readers tree path = .ok properties) ∧ ¬ Flat value ↔
      (∃ entries, value = .map entries ∧ HaveTexts readers.room entries ∧
        ∃ entry ∈ entries, entry.2.isScalar = false) ∨
      (value.isMap = false ∧ value.isTrue = false ∧ value ≠ .null)) := by
  refine ⟨?_, ?_, ?_, loaded_unflat_iff holds⟩
  · rintro entries rfl
    obtain ⟨loads, breaks⟩ := load_of_map holds
    refine ⟨fun texts => ⟨_, loads texts, ?_, fun name text => get?_entryTexts_iff⟩, breaks⟩
    rw [OrderedMap.keys_ofList, entryTexts, List.map_map]
    rfl
  · intro unmapped nothing
    rw [load_of_not_map holds unmapped, nothing]
    rfl
  · intro unmapped something
    rw [load_of_not_map holds unmapped, if_pos something]

/-- A directory with one structured file. -/
def directoryWith (text : String) : FileTree :=
  (FileTree.emptyAt ["home"]).put ["home", "p.yaml"] (.file text.toUTF8.toList)

def yamlPath : FilePath := ⟨false, ["p.yaml"]⟩

theorem exists_holds {text : String} {test : Data → Bool} (plain : '\r' ∉ text.toList)
    (passes : (Yaml.read text).toOption.any test = true) :
    ∃ value, Holds .standard (directoryWith text) yamlPath value ∧ test value = true := by
  obtain ⟨value, document, tested⟩ := exists_ok_of_any passes
  have bytes : (directoryWith text).read yamlPath = .ok text.toUTF8.toList := rfl
  refine ⟨value, ⟨by decide, text, ?_, document⟩, tested⟩
  rw [FileTree.readText, bytes]
  exact FileTree.textOf_toUTF8 plain

/-- An empty list. -/
theorem exists_holds_emptyList : ∃ value, Holds .standard (directoryWith "[]") yamlPath value ∧
    value.isMap = false ∧ value.isTrue = false ∧ value ≠ .null := by
  have passes : (Yaml.read "[]").toOption.any
      (fun v => !v.isMap && !v.isTrue && v.plainText == "[]") = true := by decide +kernel
  obtain ⟨value, holds, tested⟩ := exists_holds (by decide) passes
  simp only [Bool.and_eq_true, Bool.not_eq_true', beq_iff_eq] at tested
  obtain ⟨⟨unmapped, nothing⟩, text⟩ := tested
  refine ⟨value, holds, unmapped, nothing, ?_⟩
  rintro rfl
  revert text
  decide

/-- A mapping with an empty list in it. -/
theorem exists_holds_nestedList : ∃ entries,
    Holds .standard (directoryWith "a: []") yamlPath (.map entries) ∧
    entryTexts entries = [("a", "[]")] ∧ HaveTexts Readers.standard.room entries ∧
    ∃ entry ∈ entries, entry.2.isScalar = false := by
  have passes : (Yaml.read "a: []").toOption.any (fun v => entryTexts v.entries == [("a", "[]")] &&
      (fault? Readers.standard.room v).isNone &&
      v.entries.any fun entry => !entry.2.isScalar) = true := by decide +kernel
  obtain ⟨value, holds, tested⟩ := exists_holds (by decide) passes
  simp only [Bool.and_eq_true, beq_iff_eq, List.any_eq_true, Bool.not_eq_true',
    Option.isNone_iff_eq_none] at tested
  obtain ⟨⟨texts, faultless⟩, nested⟩ := tested
  have mapped : value = .map value.entries := by
    cases value with
    | map entries => rfl
    | _ => cases texts
  rw [mapped] at holds faultless
  exact ⟨value.entries, holds, texts, fault?_map_eq_none_iff.1 faultless, nested⟩

theorem nestedList_loaded : ∃ value,
    Holds .standard (directoryWith "a: []") yamlPath value ∧ ¬ Flat value ∧
    ∃ properties, load .standard (directoryWith "a: []") yamlPath = .ok properties := by
  obtain ⟨entries, holds, -, texts, nested⟩ := exists_holds_nestedList
  obtain ⟨loaded, unflat⟩ :=
    (structured_documents_loaded holds).2.2.2.2 (.inl ⟨entries, rfl, texts, nested⟩)
  exact ⟨_, holds, unflat, loaded⟩

/-- Neither an empty list nor a mapping with a list in it is flat, but both are loaded. -/
theorem unflat_documents_loaded :
    (∃ value, Holds .standard (directoryWith "[]") yamlPath value ∧ ¬ Flat value ∧
      load .standard (directoryWith "[]") yamlPath = .ok OrderedMap.empty) ∧
    ∃ value, Holds .standard (directoryWith "a: []") yamlPath value ∧ ¬ Flat value ∧
      load .standard (directoryWith "a: []") yamlPath = .ok (.ofList [("a", "[]")]) := by
  constructor
  · obtain ⟨value, holds, unmapped, nothing, given⟩ := exists_holds_emptyList
    refine ⟨value, holds, fun flat => given ((flat_iff_of_not_map unmapped).1 flat), ?_⟩
    rw [load_of_not_map holds unmapped, nothing]
    rfl
  · obtain ⟨entries, holds, written, texts, entry, present, nested⟩ := exists_holds_nestedList
    refine ⟨_, holds, fun flat => ?_, by rw [(load_of_map holds).1 texts, written]⟩
    rw [flat_map_iff.1 flat entry present] at nested
    cases nested

end Properties

end InputPanel
