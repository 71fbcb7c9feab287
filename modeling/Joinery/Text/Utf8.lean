/-!
# Texts in bytes

Bytes are a text in UTF-8 or stop being one somewhere. `textBreak` says where, for a message about them.
-/

namespace Joinery.Text

/-- Where bytes stop being a text. -/
structure TextBreak where
  /-- The bytes before are characters. -/
  index : Nat
  /-- The number of bytes behind that begin no character, or nothing where the bytes end too early. -/
  size : Option Nat
  deriving DecidableEq

def TextBreak.message : TextBreak → String
  | ⟨index, some size⟩ => s!"invalid utf-8 sequence of {size} bytes from index {index}"
  | ⟨index, none⟩ => s!"incomplete utf-8 byte sequence from index {index}"

/-- The bytes that go on with a character, by its first byte: the lowest and the highest of each. -/
def goingOn (first : UInt8) : Option (List (UInt8 × UInt8)) :=
  let any := (0x80, 0xbf)
  if first < 0x80 then some []
  else if first < 0xc2 then none
  else if first < 0xe0 then some [any]
  -- No number in more bytes than it needs, none of a half of a pair, and none that is too high.
  else if first = 0xe0 then some [(0xa0, 0xbf), any]
  else if first = 0xed then some [(0x80, 0x9f), any]
  else if first < 0xf0 then some [any, any]
  else if first = 0xf0 then some [(0x90, 0xbf), any, any]
  else if first < 0xf4 then some [any, any, any]
  else if first = 0xf4 then some [(0x80, 0x8f), any, any]
  else none

/-- Goes on within the character at an index, of which some bytes are seen and others have to follow. -/
def textBreakFrom (index seen : Nat) : List (UInt8 × UInt8) → List UInt8 → TextBreak
  | [], [] => ⟨index + seen, none⟩
  | _ :: _, [] => ⟨index, none⟩
  | [], b :: rest =>
    match goingOn b with
    | none => ⟨index + seen, some 1⟩
    | some expected => textBreakFrom (index + seen) 1 expected rest
  | (low, high) :: expected, b :: rest =>
    if low ≤ b ∧ b ≤ high then textBreakFrom index (seen + 1) expected rest
    else ⟨index, some seen⟩

/-- Where bytes that are no text stop being one. -/
def textBreak (bytes : List UInt8) : TextBreak :=
  textBreakFrom 0 0 [] bytes

end Joinery.Text
