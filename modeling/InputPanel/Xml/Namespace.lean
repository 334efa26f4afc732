import InputPanel.Xml.Name

/-!
# Namespaces

A prefix stands for the namespace that the nearest element around declares for
it. A name in a namespace is written with the namespace before it in braces. A
name of an element without a prefix is in the default namespace, if there is one.
-/

namespace InputPanel.Xml

/-- The namespaces of prefixes, latest first; the default has the empty prefix. -/
abbrev Scope := List (String × String)

/-- The address of a part of the web standards, which names a namespace. -/
def standardAddress (parts : List String) : String :=
  "http:" ++ "/".intercalate ("" :: "" :: "www.w3.org" :: parts)

def xmlNamespace : String := standardAddress ["XML", "1998", "namespace"]

def declarationNamespace : String := standardAddress ["2000", "xmlns", ""]

namespace Scope

def initial : Scope := [("xml", xmlNamespace)]

/-- Declares the namespace of a prefix, or the default one. -/
def bind? (scope : Scope) (leading : Option String) (uri : String) : Option Scope :=
  if (leading.isSome && uri.isEmpty) || leading == some "xmlns" || uri.contains '\x7d' then none
  else if (leading == some "xml") != (uri == xmlNamespace) then none
  else if uri == declarationNamespace then none
  else some ((leading.getD "", uri) :: scope)

def within (uri base : String) : String := "\x7b" ++ uri ++ "\x7d" ++ base

/-- The name of an element, with its namespace. -/
def elementName? (scope : Scope) (name : Name) : Option String :=
  match name.leading, scope.lookup (name.leading.getD "") with
  | none, none => some name.base
  | none, some uri => some (if uri.isEmpty then name.base else within uri name.base)
  | some _, some uri => some (within uri name.base)
  | some _, none => none

/-- The name of an attribute, with its namespace. -/
def attributeName? (scope : Scope) (name : Name) : Option String :=
  if name.leading.isNone then some name.base else scope.elementName? name

end Scope

/-- The prefix that an attribute declares a namespace for, if it does that. -/
def Name.declared? (name : Name) : Option (Option String) :=
  match name.leading with
  | none => if name.base = "xmlns" then some none else none
  | some leading => if leading = "xmlns" then some (some name.base) else none

end InputPanel.Xml
