/-!
# Kinds of failure, and notices

A plugin, an evaluated expression or a reader of some format fails in one of a
few ways. Messages show only the kind, in angle brackets. A plugin may also
stop with a message of its own. A notice is a line for the log.
-/

namespace InputPanel

inductive Failure where
  | typeMismatch
  | badValue
  | missingKey
  | missingMember
  | missingModule
  | badSyntax
  | badPattern
  | outOfRange
  | outOfBounds
  | tooDeep
  | undecodable
  | unencodable
  | untranslatable
  | unknownCodec
  | malformedXml
  | malformedYaml
  | malformedJson
  | fileNotFound
  | isDirectory
  | notDirectory
  | fileExists
deriving DecidableEq, Repr

namespace Failure

/-- The name under which a kind of failure is reported. -/
def label : Failure → String
  | typeMismatch => "TypeError"
  | badValue => "ValueError"
  | missingKey => "KeyError"
  | missingMember => "AttributeError"
  | missingModule => "ImportError"
  | badSyntax => "SyntaxError"
  | badPattern => "RegexError"
  | outOfRange => "OverflowError"
  | outOfBounds => "IndexError"
  | tooDeep => "RecursionError"
  | undecodable => "UnicodeDecodeError"
  | unencodable => "UnicodeEncodeError"
  | untranslatable => "UnicodeError"
  | unknownCodec => "LookupError"
  | malformedXml => "ParseError"
  | malformedYaml => "YAMLError"
  | malformedJson => "JSONDecodeError"
  | fileNotFound => "FileNotFoundError"
  | isDirectory => "IsADirectoryError"
  | notDirectory => "NotADirectoryError"
  | fileExists => "FileExistsError"

def bracketed (failure : Failure) : String := "<" ++ failure.label ++ ">"

/-- The failures of opening a file. -/
def isOfFiles : Failure → Bool
  | fileNotFound => true
  | isDirectory => true
  | notDirectory => true
  | fileExists => true
  | _ => false

end Failure

/-- How code that is plugged in stops without a result. -/
inductive Crash where
  | reported (message : String)
  | failed (failure : Failure)
deriving DecidableEq, Repr

namespace Crash

/-- The text in the log. -/
def text : Crash → String
  | reported message => message
  | failed failure => failure.bracketed

/-- The kind alone, as it is shown inside another message. -/
def bracketed : Crash → String
  | reported _ => "<PluginError>"
  | failed failure => failure.bracketed

end Crash

inductive Level where
  | debug
  | info
  | warning
deriving DecidableEq, Repr

namespace Level

def name : Level → String
  | debug => "DEBUG"
  | info => "INFO"
  | warning => "WARNING"

/-- Whether a log that leaves out what is less severe than `least` shows a level. -/
def isShown (least : Level) : Level → Bool
  | debug => least == debug
  | info => least != warning
  | warning => true

end Level

/-- A line for the log. -/
structure Notice where
  level : Level
  text : String
deriving DecidableEq, Repr

namespace Notice

def warning (text : String) : Notice := ⟨.warning, text⟩

def info (text : String) : Notice := ⟨.info, text⟩

def debug (text : String) : Notice := ⟨.debug, text⟩

/-- The line as the log shows it. -/
def line (notice : Notice) : String := notice.level.name ++ ": " ++ notice.text

/-- The lines that a log shows. -/
def lines (least : Level) (notices : List Notice) : List String :=
  (notices.filter fun notice => Level.isShown least notice.level).map line

end Notice

/-- A value with the notices that making it gave rise to, in order. -/
structure Noted (α : Type) where
  value : α
  notices : List Notice := []

namespace Noted

def note (notice : Notice) : Noted Unit := ⟨(), [notice]⟩

instance : Monad Noted where
  pure a := ⟨a, []⟩
  bind x f := let y := f x.value; ⟨y.value, x.notices ++ y.notices⟩

@[simp] theorem value_bind {α β : Type} (x : Noted α) (f : α → Noted β) :
    (x >>= f).value = (f x.value).value := rfl

@[simp] theorem value_pure {α : Type} (a : α) : (pure a : Noted α).value = a := rfl

end Noted

end InputPanel
