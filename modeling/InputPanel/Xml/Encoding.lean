import InputPanel.Failure
import InputPanel.Text.Case
import InputPanel.Xml.Charset
import InputPanel.Xml.Declaration

/-!
# From bytes to the text of a document

A byte order mark or a zero among the first two bytes shows units of two bytes.
Otherwise a byte is a unit, and the declaration may name the encoding. A name
that does not fit the size of the units is a fault of the document. The text is
given without mark and declaration, with uniform line ends.
-/

namespace InputPanel.Xml

inductive Encoding where
  | utf8
  | utf16 (bigEndian : Bool)
  | single (charset : Charset)

def malformed {α : Type} : Except Failure α := .error .malformedXml

/-- What an option holds; without it the document is malformed. -/
def required {α : Type} : Option α → Except Failure α
  | some a => .ok a
  | none => malformed

/-- The units of two bytes each, and whether no byte is left over. -/
def unitsOf (bigEndian : Bool) : List UInt8 → List Nat × Bool
  | [] => ([], true)
  | [_] => ([], false)
  | a :: b :: rest =>
    let unit := if bigEndian then a.toNat * 256 + b.toNat else b.toNat * 256 + a.toNat
    let (units, whole) := unitsOf bigEndian rest
    (unit :: units, whole)

/-- The characters of units up to one that makes none, and whether all make some. A surrogate stands
only in a pair. -/
def charsOfUnits : List Nat → List Char × Bool
  | [] => ([], true)
  | unit :: rest =>
    if 0xd800 ≤ unit ∧ unit < 0xdc00 then
      match rest with
      | low :: rest =>
        if 0xdc00 ≤ low ∧ low < 0xe000 then
          let (chars, whole) := charsOfUnits rest
          (Char.ofNat (0x10000 + (unit - 0xd800) * 0x400 + (low - 0xdc00)) :: chars, whole)
        else ([], false)
      | [] => ([], false)
    else if 0xdc00 ≤ unit ∧ unit < 0xe000 then ([], false)
    else
      let (chars, whole) := charsOfUnits rest
      (Char.ofNat unit :: chars, whole)

namespace Encoding

/-- The characters of wide bytes up to some that make none, and whether all make some. -/
def decodeWide (bigEndian : Bool) (bytes : List UInt8) : List Char × Bool :=
  let (units, even) := unitsOf bigEndian bytes
  let (chars, whole) := charsOfUnits units
  (chars, even && whole)

def decode (encoding : Encoding) (bytes : List UInt8) : Option (List Char) :=
  match encoding with
  | utf8 => (String.fromUTF8? ⟨bytes.toArray⟩).map String.toList
  | utf16 bigEndian =>
    let (chars, whole) := decodeWide bigEndian bytes
    if whole then some chars else none
  | single charset => bytes.mapM charset.char?

/-- The encoding with a name that readers of documents have to know. -/
def known? (name : String) : Option Encoding :=
  match String.ofList (name.toList.map Char.toLower) with
  | "utf-8" => some utf8
  | "utf-16" => some (utf16 true)
  | "utf-16be" => some (utf16 true)
  | "utf-16le" => some (utf16 false)
  | "iso-8859-1" => some (single latin1)
  | "us-ascii" => some (single ascii)
  | _ => none

/-- The encoding with any other name. -/
def other (name : String) : Except Failure Encoding :=
  let name := charsetName name
  match charsets.find? fun charset => charset.names.contains name with
  | some charset => .ok (single charset)
  | none =>
    if foreignCharsets.contains name then malformed
    else if wideCharsets.contains name then .error .badValue
    else if name == "punycode" then .error .undecodable
    else if ["idna", "undefined"].contains name then .error .untranslatable
    else .error .unknownCodec

/-- The encoding of a document whose units are bytes. -/
def ofNarrow : Option String → Except Failure Encoding
  | none => .ok utf8
  | some name =>
    match known? name with
    | some (utf16 _) => malformed
    | some encoding => .ok encoding
    | none => other name

/-- Whether a document with units of two bytes may name this encoding. -/
def checkWide (bigEndian : Bool) : Option String → Except Failure Unit
  | none => .ok ()
  | some name =>
    match String.ofList (name.toList.map Char.toLower), known? name with
    | "utf-16", _ => .ok ()
    | _, some (utf16 order) => if order = bigEndian then .ok () else malformed
    | _, some _ => malformed
    | _, none => do
      let _ ← other name
      malformed

end Encoding

/-- The declaration of a document and the text after it. -/
def textOf (bytes : List UInt8) : Except Failure (Declaration × List Char) := do
  let (declaration, text) ← match bytes with
    | 0xfe :: 0xff :: rest => wide true rest
    | 0xff :: 0xfe :: rest => wide false rest
    | 0xef :: 0xbb :: 0xbf :: rest => narrow rest
    | 0 :: _ :: _ => wide true bytes
    | _ :: 0 :: _ => wide false bytes
    | _ => narrow bytes
  if text.all isAllowed then return (declaration, Text.unifyLineEnds text) else malformed
where
  wide (bigEndian : Bool) (bytes : List UInt8) : Except Failure (Declaration × List Char) := do
    let (readable, whole) := Encoding.decodeWide bigEndian bytes
    -- The encoding that is named is looked at before what follows it.
    let (declaration, text) ← required (Declaration.read? readable)
    Encoding.checkWide bigEndian declaration.encoding
    if whole then return (declaration, text) else malformed
  narrow (bytes : List UInt8) : Except Failure (Declaration × List Char) := do
    let view := bytes.map fun byte => Char.ofNat byte.toNat
    let (declaration, rest) ← required (Declaration.read? view)
    let encoding ← Encoding.ofNarrow declaration.encoding
    let text ← required (encoding.decode (bytes.drop (bytes.length - rest.length)))
    return (declaration, text)

end InputPanel.Xml
