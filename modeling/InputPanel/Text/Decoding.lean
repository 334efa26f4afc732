/-!
# Faults in UTF-8

The first fault in a row of bytes is a byte that begins no character, or a
character that is broken off by another byte or by the end.
-/

namespace InputPanel.Text

/-- What is wrong with some bytes: where they begin, how many they are, and why. -/
structure EncodingFault where
  position : Nat
  first : UInt8
  length : Nat
  reason : String

/-- The number of bytes after the first, and the bounds of the second; nothing for a byte that
begins no character. -/
def continuation? (byte : UInt8) : Option (Nat × UInt8 × UInt8) :=
  if byte < 0x80 then some (0, 0x80, 0xbf)
  else if byte < 0xc2 then none
  else if byte < 0xe0 then some (1, 0x80, 0xbf)
  else if byte == 0xe0 then some (2, 0xa0, 0xbf)
  else if byte == 0xed then some (2, 0x80, 0x9f)
  else if byte < 0xf0 then some (2, 0x80, 0xbf)
  else if byte == 0xf0 then some (3, 0x90, 0xbf)
  else if byte < 0xf4 then some (3, 0x80, 0xbf)
  else if byte == 0xf4 then some (3, 0x80, 0x8f)
  else none

/-- How many of the awaited bytes come next, and whether the row ends before the others. -/
def continued : Nat → UInt8 → UInt8 → List UInt8 → Nat × Bool
  | 0, _, _, _ => (0, false)
  | _, _, _, [] => (0, true)
  | awaited + 1, least, greatest, byte :: rest =>
    if least ≤ byte ∧ byte ≤ greatest then
      let (count, ended) := continued awaited 0x80 0xbf rest
      (count + 1, ended)
    else (0, false)

/-- The first fault; `skip` bytes belong to a character that is complete. -/
def faultFrom (position skip : Nat) : List UInt8 → Option EncodingFault
  | [] => none
  | byte :: rest =>
    match skip with
    | skip + 1 => faultFrom (position + 1) skip rest
    | 0 =>
      match continuation? byte with
      | none => some ⟨position, byte, 1, "invalid start byte"⟩
      | some (awaited, least, greatest) =>
        let (count, ended) := continued awaited least greatest rest
        if count = awaited then faultFrom (position + 1) awaited rest
        else if ended then some ⟨position, byte, count + 1, "unexpected end of data"⟩
        else some ⟨position, byte, count + 1, "invalid continuation byte"⟩

def encodingFault? (bytes : List UInt8) : Option EncodingFault := faultFrom 0 0 bytes

end InputPanel.Text
