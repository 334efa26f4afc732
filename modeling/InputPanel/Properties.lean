import InputPanel.OrderedMap
import InputPanel.Text.Blank

/-!
# Property text

Each line is a name, `=` or `:`, and a value; a line that is blank or begins
with `#` or `!` holds nothing. A backslash takes the next character as it is,
except that `n`, `r`, `t` and `f` stand for control characters. Writing escapes
backslashes, line feeds, carriage returns, tabs and form feeds everywhere, a
leading space, and in names also spaces, separators and a leading comment mark.
-/

namespace InputPanel.Properties

def unescapeChar (c : Char) : Char :=
  if c = 'n' then '\n' else if c = 'r' then '\r' else if c = 't' then '\t'
  else if c = 'f' then '\x0c' else c

def unescape : List Char → List Char
  | [] => []
  | ['\\'] => ['\\']
  | '\\' :: c :: rest => unescapeChar c :: unescape rest
  | c :: rest => c :: unescape rest

/-- The two characters that stand for a control character or a backslash. -/
def controlEscape? (c : Char) : Option (List Char) :=
  if c = '\\' then some ['\\', '\\']
  else if c = '\n' then some ['\\', 'n']
  else if c = '\r' then some ['\\', 'r']
  else if c = '\t' then some ['\\', 't']
  else if c = '\x0c' then some ['\\', 'f']
  else none

/-- Characters of a name that a reader would take for its end. -/
def isNameMark (c : Char) : Bool := c = '=' || c = ':' || c = ' '

def isCommentMark (c : Char) : Bool := c = '#' || c = '!'

/-- One character of a name, `first` if it is the leading one. -/
def escapeNameChar (first : Bool) (c : Char) : List Char :=
  match controlEscape? c with
  | some escaped => escaped
  | none => if isNameMark c || (first && isCommentMark c) then ['\\', c] else [c]

def escapeValueChar (first : Bool) (c : Char) : List Char :=
  match controlEscape? c with
  | some escaped => escaped
  | none => if first && c = ' ' then ['\\', c] else [c]

def escapeName : List Char → List Char
  | [] => []
  | c :: rest => escapeNameChar true c ++ rest.flatMap (escapeNameChar false)

def escapeValue : List Char → List Char
  | [] => []
  | c :: rest => escapeValueChar true c ++ rest.flatMap (escapeValueChar false)

/-- The text before and after the first separator that no backslash takes; a backslash takes the
character after it. -/
def splitLine : List Char → List Char × List Char
  | [] => ([], [])
  | ['\\'] => (['\\'], [])
  | '\\' :: c :: rest =>
    let (name, value) := splitLine rest
    ('\\' :: c :: name, value)
  | c :: rest =>
    if c = '=' || c = ':' then ([], rest)
    else
      let (name, value) := splitLine rest
      (c :: name, value)

/-- Blanks that may stand between a separator and the value. -/
def isValueMargin (c : Char) : Bool := c = ' ' || c = '\t' || c = '\x0c'

/-- The entry of a line; none for a blank line or a comment. -/
def parseLine? (line : List Char) : Option (String × String) :=
  match Text.trimLeft line with
  | [] => none
  | c :: rest =>
    if isCommentMark c then none
    else
      let (name, value) := splitLine (c :: rest)
      some (String.ofList (unescape (Text.trimRight name)),
        String.ofList (unescape (value.dropWhile isValueMargin)))

def parseEntries (text : List Char) : List (String × String) :=
  (Text.lines text).filterMap parseLine?

def parse (text : String) : OrderedMap String := .ofList (parseEntries text.toList)

def writeEntry (entry : String × String) : List Char :=
  escapeName entry.1.toList ++ '=' :: escapeValue entry.2.toList ++ ['\n']

def write (values : OrderedMap String) : String :=
  String.ofList (values.toList.flatMap writeEntry)

/-- A line without a value for each name. -/
def template (names : List String) : String :=
  String.ofList (names.flatMap fun name => escapeName name.toList ++ ['=', '\n'])

end InputPanel.Properties
