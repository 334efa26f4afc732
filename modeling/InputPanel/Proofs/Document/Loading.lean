import InputPanel.Document
import InputPanel.Proofs.FileTree
import InputPanel.Proofs.Node.Faults

/-!
# Files that break their loaders

A file that is missing or cannot be opened is of no use, and so is one that the
reader of its format refuses as malformed. What else can go wrong with the content
breaks the loader: bytes that are no text, other failures of the reader, and what
it reads, if that is too deep or holds an integer that has no text.
-/

namespace InputPanel

variable {readers : Readers} {tree : FileTree} {path : FilePath} {failure : Failure}

theorem expecting_eq_broken_iff {α : Type} {isExpected : Failure → Bool}
    {error : Failure → SpecError} {result : Except Failure α} :
    expecting isExpected error result = .error (.broken failure) ↔
      result = .error failure ∧ isExpected failure = false := by
  cases result with
  | ok a => simp [expecting]
  | error cause =>
    cases expected : isExpected cause with
    | false =>
      simp only [expecting, expected]
      constructor
      · rintro ⟨⟩
        exact ⟨rfl, expected⟩
      · rintro ⟨⟨⟩, -⟩
        rfl
    | true =>
      simp only [expecting, expected]
      constructor
      · rintro ⟨⟩
      · rintro ⟨⟨⟩, unexpected⟩
        exact absurd (expected.symm.trans unexpected) (by decide)

/-- A step that is checked and what follows it break when one of them does. -/
theorem expecting_bind_eq_broken_iff {α β : Type} {isExpected : Failure → Bool}
    {error : Failure → SpecError} {result : Except Failure α} {next : α → Except LoadTrouble β} :
    expecting isExpected error result >>= next = .error (.broken failure) ↔
      (result = .error failure ∧ isExpected failure = false) ∨
        ∃ a, result = .ok a ∧ next a = .error (.broken failure) := by
  have given {a : α} : expecting isExpected error result = .ok a ↔ result = .ok a := by
    cases result <;> simp [expecting]
  simp only [bind_eq_error_iff, expecting_eq_broken_iff, given]

/-- A file whose bytes are read breaks a loader that opens it by what the bytes are, since not being
able to open it is expected. -/
theorem read_bind_eq_unexpected_iff {α : Type} {next : List UInt8 → Except Failure α}
    {malformed : Failure} :
    ((do next (← tree.read path)) = .error failure ∧
        (failure.isOfFiles || failure == malformed) = false) ↔
      ∃ bytes, tree.read path = .ok bytes ∧ next bytes = .error failure ∧
        failure.isOfFiles = false ∧ failure ≠ malformed := by
  rw [bind_eq_error_iff, Bool.or_eq_false_iff, beq_eq_false_iff_ne]
  constructor
  · rintro ⟨unread | ⟨bytes, read, failed⟩, unexpected, unlike⟩
    · exact absurd (FileTree.isOfFiles_of_read unread) (by simp [unexpected])
    · exact ⟨bytes, read, failed, unexpected, unlike⟩
  · rintro ⟨bytes, read, failed, unexpected, unlike⟩
    exact ⟨.inr ⟨bytes, read, failed⟩, unexpected, unlike⟩

namespace Properties

/-- How the bytes of a property file break the loader: they are no text, or, in a structured file,
the reader fails by something else than its own error, or an entry has no text. -/
inductive Breaks (readers : Readers) (isStructured : Bool) (bytes : List UInt8) : Failure → Prop
  | undecodable (broken : String.fromUTF8? ⟨bytes.toArray⟩ = none) :
      Breaks readers isStructured bytes .undecodable
  | reader {text : String} {failure : Failure} (decoded : FileTree.textOf bytes = .ok text)
      (structured : isStructured = true) (failed : readers.yaml text = .error failure)
      (unlike : failure ≠ .malformedYaml) : Breaks readers isStructured bytes failure
  | entries {text : String} {value : Data} {failure : Failure}
      (decoded : FileTree.textOf bytes = .ok text) (structured : isStructured = true)
      (said : readers.yaml text = .ok value)
      (faulty : fault? readers.room value = some failure) :
      Breaks readers isStructured bytes failure

theorem readText_breaks_iff :
    tree.readText path = .error failure ∧ failure.isOfFiles = false ↔
      ∃ bytes, tree.read path = .ok bytes ∧ String.fromUTF8? ⟨bytes.toArray⟩ = none ∧
        failure = .undecodable := by
  unfold FileTree.readText
  rw [bind_eq_error_iff]
  constructor
  · rintro ⟨unread | ⟨bytes, read, broken⟩, unexpected⟩
    · exact absurd (FileTree.isOfFiles_of_read unread) (by simp [unexpected])
    · exact ⟨bytes, read, FileTree.textOf_eq_error_iff.1 broken⟩
  · rintro ⟨bytes, read, broken⟩
    exact ⟨.inr ⟨bytes, read, FileTree.textOf_eq_error_iff.2 broken⟩, broken.2 ▸ rfl⟩

theorem mem_textFaults_of_fault? {room : Nat} {value : Data}
    (faulty : fault? room value = some failure) : failure ∈ Data.textFaults := by
  cases value with
  | map entries =>
    obtain ⟨entry, -, found⟩ := List.exists_of_findSome?_eq_some faulty
    obtain key | ⟨-, value⟩ := Option.or_eq_some_iff.1 found
    · exact Data.mem_textFaults key
    · exact Data.mem_textFaults value
  | _ => cases faulty

theorem ofDocument_eq_broken_iff {room : Nat} {value : Data} :
    ofDocument room path value = .error (.broken failure) ↔ fault? room value = some failure := by
  unfold ofDocument
  cases fault? room value with
  | some first => simp
  | none =>
    refine iff_of_false ?_ nofun
    cases ofData path value <;> rintro ⟨⟩

theorem load_eq_broken_iff :
    load readers tree path = .error (.broken failure) ↔
      ∃ bytes, tree.read path = .ok bytes ∧
        Breaks readers path.isStructured bytes failure := by
  have decodes {text : String} : tree.readText path = .ok text ↔
      ∃ bytes, tree.read path = .ok bytes ∧ FileTree.textOf bytes = .ok text := bind_eq_ok_iff
  rw [load, expecting_bind_eq_broken_iff, readText_breaks_iff]
  constructor
  · rintro (⟨bytes, read, broken, rfl⟩ | ⟨text, decoded, broken⟩)
    · exact ⟨bytes, read, .undecodable broken⟩
    · obtain ⟨bytes, read, decoded⟩ := decodes.1 decoded
      refine ⟨bytes, read, ?_⟩
      split at broken
      case isTrue structured =>
        obtain ⟨failed, unlike⟩ | ⟨value, said, faulty⟩ :=
          expecting_bind_eq_broken_iff.1 broken
        · exact .reader decoded structured failed (by simpa using unlike)
        · exact .entries decoded structured said (ofDocument_eq_broken_iff.1 faulty)
      case isFalse => cases broken
  · rintro ⟨bytes, read, breaks⟩
    cases breaks with
    | undecodable broken => exact .inl ⟨bytes, read, broken, rfl⟩
    | reader decoded structured failed unlike =>
      refine .inr ⟨_, decodes.2 ⟨bytes, read, decoded⟩, ?_⟩
      rw [if_pos structured]
      exact expecting_bind_eq_broken_iff.2 (.inl ⟨failed, by simpa using unlike⟩)
    | entries decoded structured said faulty =>
      refine .inr ⟨_, decodes.2 ⟨bytes, read, decoded⟩, ?_⟩
      rw [if_pos structured]
      exact expecting_bind_eq_broken_iff.2
        (.inr ⟨_, said, ofDocument_eq_broken_iff.2 faulty⟩)

/-- Whether there is room for the texts of the keys and values of a mapping. -/
def HaveTexts (room : Nat) (entries : List (Data × Data)) : Prop :=
  ∀ entry ∈ entries, entry.1.HasText room ∧ entry.2.HasText room

theorem fault?_map_eq_none_iff {room : Nat} {entries : List (Data × Data)} :
    fault? room (.map entries) = none ↔ HaveTexts room entries := by
  simp only [fault?, List.findSome?_eq_none_iff, Option.or_eq_none_iff,
    Data.textFault?_eq_none_iff, HaveTexts]

/-- A mapping is loaded exactly if its keys and values have texts. -/
theorem exists_load_iff {text : String} {entries : List (Data × Data)}
    (read : tree.readText path = .ok text) (structured : path.isStructured = true)
    (said : readers.yaml text = .ok (.map entries)) :
    (∃ properties, load readers tree path = .ok properties) ↔
      HaveTexts readers.room entries := by
  have loaded : load readers tree path = ofDocument readers.room path (.map entries) := by
    simp only [load, read, expecting, structured, said, bind, Except.bind, if_true]
  rw [loaded, ofDocument, ← fault?_map_eq_none_iff]
  cases fault? readers.room (.map entries) with
  | some failure => exact iff_of_false (by rintro ⟨properties, ⟨⟩⟩) nofun
  | none => exact iff_of_true ⟨_, rfl⟩ rfl

end Properties

namespace Document

/-- How the bytes of a document break the loader: the reader of the format fails by something else
than its own error, or what it reads does not become a node. -/
inductive Breaks (readers : Readers) (bytes : List UInt8) : Bool → Failure → Prop
  | yamlReader {failure : Failure} (failed : readers.yamlFile bytes = .error failure)
      (unexpected : failure.isOfFiles = false) (unlike : failure ≠ .malformedYaml) :
      Breaks readers bytes true failure
  | yamlContent {value : Data} {failure : Failure} (said : readers.yamlFile bytes = .ok value)
      (mapped : value.isMap = true) (faulty : Node.fault? readers.room value = some failure) :
      Breaks readers bytes true failure
  | xmlReader {failure : Failure} (failed : readers.xml bytes = .error failure)
      (unexpected : failure.isOfFiles = false) (unlike : failure ≠ .malformedXml) :
      Breaks readers bytes false failure
  | xmlContent {root : Node} (said : readers.xml bytes = .ok root)
      (deep : root.fits readers.room = false) : Breaks readers bytes false .tooDeep

theorem ofDocument_eq_broken_iff {room : Nat} {value : Data} :
    ofDocument room path value = .error (.broken failure) ↔
      value.isMap = true ∧ Node.fault? room value = some failure := by
  unfold ofDocument
  cases value.isMap with
  | false => simp
  | true => cases Node.fault? room value <;> simp

theorem ofElement_eq_broken_iff {room : Nat} {root : Node} :
    ofElement room root = .error (.broken failure) ↔
      root.fits room = false ∧ failure = .tooDeep := by
  unfold ofElement
  cases root.fits room <;> simp [eq_comm]

theorem loadYaml_eq_broken_iff :
    loadYaml readers tree path = .error (.broken failure) ↔
      ∃ bytes, tree.read path = .ok bytes ∧ Breaks readers bytes true failure := by
  unfold loadYaml
  refine expecting_bind_eq_broken_iff.trans ?_
  rw [read_bind_eq_unexpected_iff]
  simp only [ofDocument_eq_broken_iff, bind_eq_ok_iff]
  constructor
  · rintro (⟨bytes, read, failed, unexpected, unlike⟩ |
      ⟨value, ⟨bytes, read, said⟩, mapped, faulty⟩)
    · exact ⟨bytes, read, .yamlReader failed unexpected unlike⟩
    · exact ⟨bytes, read, .yamlContent said mapped faulty⟩
  · rintro ⟨bytes, read, breaks⟩
    cases breaks with
    | yamlReader failed unexpected unlike => exact .inl ⟨bytes, read, failed, unexpected, unlike⟩
    | yamlContent said mapped faulty => exact .inr ⟨_, ⟨bytes, read, said⟩, mapped, faulty⟩

theorem loadXml_eq_broken_iff :
    loadXml readers tree path = .error (.broken failure) ↔
      ∃ bytes, tree.read path = .ok bytes ∧ Breaks readers bytes false failure := by
  unfold loadXml
  refine expecting_bind_eq_broken_iff.trans ?_
  rw [read_bind_eq_unexpected_iff]
  simp only [ofElement_eq_broken_iff, bind_eq_ok_iff]
  constructor
  · rintro (⟨bytes, read, failed, unexpected, unlike⟩ | ⟨root, ⟨bytes, read, said⟩, deep, rfl⟩)
    · exact ⟨bytes, read, .xmlReader failed unexpected unlike⟩
    · exact ⟨bytes, read, .xmlContent said deep⟩
  · rintro ⟨bytes, read, breaks⟩
    cases breaks with
    | xmlReader failed unexpected unlike => exact .inl ⟨bytes, read, failed, unexpected, unlike⟩
    | xmlContent said deep => exact .inr ⟨_, ⟨bytes, read, said⟩, deep, rfl⟩

theorem load_eq_broken_iff :
    load readers tree path = .error (.broken failure) ↔
      ∃ bytes, tree.read path = .ok bytes ∧ Breaks readers bytes path.isStructured failure := by
  unfold load
  cases there : tree.has path with
  | false =>
    have unread {bytes : List UInt8} : tree.read path ≠ .ok bytes := fun read =>
      absurd (FileTree.has_of_read read) (by simp [there])
    simp [unread]
  | true =>
    cases path.isStructured with
    | false => simpa using loadXml_eq_broken_iff
    | true => simpa using loadYaml_eq_broken_iff

/-- A YAML document is loaded exactly if it is a tree of nodes. -/
theorem load_eq_ok_iff {bytes : List UInt8} {value : Data} (read : tree.read path = .ok bytes)
    (structured : path.isStructured = true) (said : readers.yamlFile bytes = .ok value)
    (mapped : value.isMap = true) :
    load readers tree path = .ok (Node.ofData "userInput" value) ↔
      value.IsTree readers.room := by
  have loaded : load readers tree path = ofDocument readers.room path value := by
    simp only [load, FileTree.has_of_read read, structured, loadYaml, read, said, expecting, bind,
      Except.bind, Bool.not_true, Bool.false_eq_true, if_false, if_true]
  rw [loaded, ofDocument, if_pos mapped, ← Node.fault?_eq_none_iff]
  cases Node.fault? readers.room value <;> simp

end Document

namespace LoadedPanel

variable {id : Option Data}

theorem load_eq_broken_iff :
    load readers tree path id = .error (.broken failure) ↔
      Document.load readers tree path = .error (.broken failure) := by
  rw [load, bind_eq_error_iff, or_iff_left]
  rintro ⟨root, -, broken⟩
  split at broken <;> cases broken

end LoadedPanel

/-- Whether the readers of documents fail by their own errors only, and by those of decoding where
they decode. -/
structure Readers.Proper (readers : Readers) : Prop where
  yaml : ∀ text, FailsBy [.malformedYaml] (readers.yaml text)
  yamlFile : ∀ bytes, FailsBy [.malformedYaml, .undecodable] (readers.yamlFile bytes)
  xml : ∀ bytes, FailsBy [.malformedXml] (readers.xml bytes)

/-- What breaks the loaders of files whose readers are proper. -/
def loaderFaults : List Failure := [.undecodable, .badValue, .tooDeep]

theorem mem_loaderFaults_of_textFaults (faulty : failure ∈ Data.textFaults) :
    failure ∈ loaderFaults :=
  List.mem_cons_of_mem _ faulty

theorem Properties.Breaks.mem_loaderFaults (proper : readers.Proper) {isStructured : Bool}
    {bytes : List UInt8} (breaks : Breaks readers isStructured bytes failure) :
    failure ∈ loaderFaults := by
  cases breaks with
  | undecodable => decide
  | reader _ _ failed unlike =>
    exact absurd (List.mem_singleton.1 (proper.yaml _ failure failed)) unlike
  | entries _ _ _ faulty => exact mem_loaderFaults_of_textFaults (mem_textFaults_of_fault? faulty)

theorem Document.Breaks.mem_loaderFaults (proper : readers.Proper) {isStructured : Bool}
    {bytes : List UInt8} (breaks : Breaks readers bytes isStructured failure) :
    failure ∈ loaderFaults := by
  cases breaks with
  | yamlReader failed _ unlike =>
    obtain same | decoding := List.mem_cons.1 (proper.yamlFile _ failure failed)
    · exact absurd same unlike
    · exact List.mem_cons.2 (.inl (List.mem_singleton.1 decoding))
  | yamlContent _ _ faulty =>
    exact mem_loaderFaults_of_textFaults (Node.mem_textFaults_of_fault? faulty)
  | xmlReader failed _ unlike =>
    exact absurd (List.mem_singleton.1 (proper.xml _ failure failed)) unlike
  | xmlContent => decide

/-- Loaders break exactly on files that can be read but whose bytes break them: by no text, by a
reader that fails unlike a reader of its format, or by what is read. Of what is read as a mapping,
properties are loaded if its keys and values have texts, and a document if it is a tree of nodes. If
readers fail by their own errors only, there are three kinds of failure that are let out. -/
theorem loaders_break_iff (readers : Readers) (tree : FileTree) (path : FilePath)
    (id : Option Data) (failure : Failure) :
    (Properties.load readers tree path = .error (.broken failure) ↔
      ∃ bytes, tree.read path = .ok bytes ∧
        Properties.Breaks readers path.isStructured bytes failure) ∧
    (Document.load readers tree path = .error (.broken failure) ↔
      ∃ bytes, tree.read path = .ok bytes ∧
        Document.Breaks readers bytes path.isStructured failure) ∧
    (LoadedPanel.load readers tree path id = .error (.broken failure) ↔
      Document.load readers tree path = .error (.broken failure)) ∧
    (∀ text entries, tree.readText path = .ok text → path.isStructured = true →
      readers.yaml text = .ok (.map entries) →
        ((∃ properties, Properties.load readers tree path = .ok properties) ↔
          Properties.HaveTexts readers.room entries)) ∧
    (∀ bytes value, tree.read path = .ok bytes → path.isStructured = true →
      readers.yamlFile bytes = .ok value → value.isMap = true →
        (Document.load readers tree path = .ok (Node.ofData "userInput" value) ↔
          value.IsTree readers.room)) ∧
    (readers.Proper →
      Properties.load readers tree path = .error (.broken failure) ∨
        Document.load readers tree path = .error (.broken failure) → failure ∈ loaderFaults) := by
  refine ⟨Properties.load_eq_broken_iff, Document.load_eq_broken_iff,
    LoadedPanel.load_eq_broken_iff, fun _ _ => Properties.exists_load_iff,
    fun _ _ => Document.load_eq_ok_iff, fun proper broken => ?_⟩
  obtain broken | broken := broken
  · obtain ⟨bytes, -, breaks⟩ := Properties.load_eq_broken_iff.1 broken
    exact breaks.mem_loaderFaults proper
  · obtain ⟨bytes, -, breaks⟩ := Document.load_eq_broken_iff.1 broken
    exact breaks.mem_loaderFaults proper

namespace Readers

/-- A result whose failure is taken for another one. -/
def failingBy {α : Type} (failure : Failure) : Except Failure α → Except Failure α
  | .ok a => .ok a
  | .error _ => .error failure

theorem failsBy_failingBy {α : Type} (failure : Failure) (result : Except Failure α) :
    FailsBy [failure] (failingBy failure result) := by
  cases result with
  | ok a => exact .ok a
  | error _ => exact .error (List.mem_singleton_self _)

/-- The standard readers, with no errors of documents but their own. -/
def strict : Readers :=
  { standard with
    yaml := fun text => failingBy .malformedYaml (Yaml.read text)
    yamlFile := fun bytes => do failingBy .malformedYaml (Yaml.read (← FileTree.textOf bytes))
    xml := fun bytes => failingBy .malformedXml (Xml.read bytes) }

theorem proper_strict : strict.Proper where
  yaml _ := failsBy_failingBy _ _
  yamlFile bytes := by
    refine .bind (fun failure failed => ?_) fun text =>
      (failsBy_failingBy _ (Yaml.read text)).mono (by simp)
    rw [(FileTree.textOf_eq_error_iff.1 failed).2]
    decide
  xml _ := failsBy_failingBy _ _

end Readers

def panelPath : FilePath := ⟨false, ["panel.yaml"]⟩

/-- A directory with one file. -/
def directoryOf (bytes : List UInt8) : FileTree :=
  (FileTree.emptyAt ["home"]).put ["home", "panel.yaml"] (.file bytes)

theorem read_directoryOf (bytes : List UInt8) : (directoryOf bytes).read panelPath = .ok bytes := rfl

theorem isStructured_panelPath : panelPath.isStructured = true := by decide

/-- A mapping that stands in itself. -/
def knot : String := "&x \x7ba: *x\x7d"

theorem exists_knot : ∃ value, Readers.strict.yamlFile knot.toUTF8.toList = .ok value ∧
    value.isMap = true ∧ Node.fault? Readers.strict.room value = some .tooDeep := by
  have text : FileTree.textOf knot.toUTF8.toList = .ok knot := FileTree.textOf_toUTF8 (by decide)
  have passes : (Yaml.read knot).toOption.any (fun value =>
      value.isMap && Node.fault? Readers.strict.room value == some .tooDeep) = true := by
    decide +kernel
  obtain ⟨value, said, tested⟩ := exists_ok_of_any passes
  rw [Bool.and_eq_true, beq_iff_eq] at tested
  refine ⟨value, ?_, tested⟩
  simp only [Readers.strict, text, bind, Except.bind, said]
  rfl

/-- Such a mapping is no tree of nodes, and breaks the loader of documents. -/
theorem knot_breaks_loader : Readers.strict.Proper ∧
    (∃ value, Readers.strict.yamlFile knot.toUTF8.toList = .ok value ∧
      ¬ value.IsTree Readers.strict.room) ∧
    Document.load .strict (directoryOf knot.toUTF8.toList) panelPath = .error (.broken .tooDeep) ∧
    Failure.tooDeep ∈ loaderFaults := by
  obtain ⟨value, said, mapped, deep⟩ := exists_knot
  obtain ⟨-, breaks, -, -, loads, kinds⟩ := loaders_break_iff .strict
    (directoryOf knot.toUTF8.toList) panelPath none .tooDeep
  have broken := breaks.2 ⟨_, read_directoryOf _, by
    rw [isStructured_panelPath]
    exact .yamlContent said mapped deep⟩
  refine ⟨Readers.proper_strict, ⟨value, said, fun tree => ?_⟩, broken,
    kinds Readers.proper_strict (.inr broken)⟩
  rw [(loads _ value (read_directoryOf _) isStructured_panelPath said mapped).2 tree] at broken
  cases broken

/-- The only byte of the file begins no character. The readers fail by their own errors only. -/
theorem undecodable_breaks_loaders : Readers.strict.Proper ∧
    Properties.load .strict (directoryOf [0xff]) panelPath = .error (.broken .undecodable) ∧
    Document.load .strict (directoryOf [0xff]) panelPath = .error (.broken .undecodable) ∧
    LoadedPanel.load .strict (directoryOf [0xff]) panelPath none =
      .error (.broken .undecodable) := by
  have broken : String.fromUTF8? ⟨[0xff].toArray⟩ = none := by decide
  have failed : Readers.strict.yamlFile [0xff] = .error .undecodable :=
    bind_eq_error_iff.2 (.inl (FileTree.textOf_eq_error_iff.2 ⟨broken, rfl⟩))
  have unloaded : Document.load .strict (directoryOf [0xff]) panelPath =
      .error (.broken .undecodable) :=
    Document.load_eq_broken_iff.2 ⟨[0xff], read_directoryOf _, by
      rw [isStructured_panelPath]
      exact .yamlReader failed rfl (by decide)⟩
  exact ⟨Readers.proper_strict,
    Properties.load_eq_broken_iff.2 ⟨[0xff], read_directoryOf _, .undecodable broken⟩, unloaded,
    LoadedPanel.load_eq_broken_iff.2 unloaded⟩

end InputPanel
