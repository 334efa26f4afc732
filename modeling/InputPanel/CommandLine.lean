import InputPanel.Text.Blank

/-!
# Command lines

Options begin with a hyphen. A long one has two hyphens and may have its value
after an equals sign; short ones may be written together, the last with its
value. A value may also be the next word, whatever that looks like. Two hyphens
alone end the options.
-/

namespace InputPanel

/-- An option: the names it goes by, and whether it takes a value. -/
structure OptionForm where
  names : List String
  takesValue : Bool
deriving DecidableEq, Repr

namespace OptionForm

/-- The name under which the option is looked up. -/
def name (form : OptionForm) : String := form.names.headD ""

def flag (names : List String) : OptionForm := ⟨names, false⟩

def valued (names : List String) : OptionForm := ⟨names, true⟩

end OptionForm

/-- The words of a command line: options with their values, and the others. -/
structure CommandLine where
  options : List (String × String)
  words : List String
deriving DecidableEq, Repr

namespace CommandLine

def empty : CommandLine := ⟨[], []⟩

def withOptions (options : List (String × String)) (line : CommandLine) : CommandLine :=
  { line with options := options ++ line.options }

def withWord (word : String) (line : CommandLine) : CommandLine :=
  { line with words := word :: line.words }

def find? (forms : List OptionForm) (name : String) : Option OptionForm :=
  forms.find? fun form => form.names.contains name

/-- What one word gives: options with their values, and an option that awaits its value. -/
abbrev WordReading := List (String × String) × Option String

/-- Short options written together, without the hyphen. -/
def readTogether (forms : List OptionForm) : List Char → Option WordReading
  | [] => some ([], none)
  | c :: rest => do
    let form ← find? forms (String.ofList ['-', c])
    if form.takesValue then
      if rest.isEmpty then return ([], some form.name)
      else return ([(form.name, String.ofList rest)], none)
    else
      let (options, awaited) ← readTogether forms rest
      return ((form.name, "") :: options, awaited)

def readWord (forms : List OptionForm) (word : List Char) : Option WordReading :=
  if ['-', '-'].isPrefixOf word then do
    match Text.cutAt '=' word with
    | some (name, value) =>
      let form ← find? forms (String.ofList name)
      if form.takesValue then return ([(form.name, String.ofList value)], none) else none
    | none =>
      let form ← find? forms (String.ofList word)
      if form.takesValue then return ([], some form.name) else return ([(form.name, "")], none)
  else readTogether forms (word.drop 1)

def isOption (word : String) : Bool := word.startsWith "-" && 1 < word.length

/-- Reads words; unless options may be mixed with other words, the first of these ends them. -/
def parse (forms : List OptionForm) (mixed : Bool) : List String → Option CommandLine
  | [] => some empty
  | word :: rest =>
    if word = "--" then some ⟨[], rest⟩
    else if isOption word then
      match readWord forms word.toList, rest with
      | none, _ => none
      | some (options, none), rest => (parse forms mixed rest).map (withOptions options)
      | some (options, some name), value :: rest =>
        (parse forms mixed rest).map (withOptions (options ++ [(name, value)]))
      | some (_, some _), [] => none
    else if mixed then (parse forms mixed rest).map (withWord word)
    else some ⟨[], word :: rest⟩

def has (line : CommandLine) (name : String) : Bool :=
  line.options.any fun option => option.1 == name

/-- The values of an option, in order. -/
def values (line : CommandLine) (name : String) : List String :=
  (line.options.filter fun option => option.1 == name).map Prod.snd

/-- The value of an option; the last one counts. -/
def value? (line : CommandLine) (name : String) : Option String := (line.values name).getLast?

end CommandLine

end InputPanel
