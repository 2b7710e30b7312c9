/-!
# Texts as bytes

`encode` is the UTF-8 form of a text. `decode` reads bytes as UTF-8 and says which bytes could not be read: a byte
that starts nothing, or the bytes of a character that was begun and does not go on.
-/

namespace BuildTree.Text

/-- The form of a file. -/
abbrev Bytes :=
  List UInt8

/-- What is wrong with bytes: where, how many of them, and why. -/
structure DecodeFault where
  start : Nat
  bytes : Bytes
  reason : String
deriving DecidableEq, Repr

def encode (s : String) : Bytes :=
  s.toUTF8.toList

/-- How a character begins: how many bytes follow, the first bits, and the range of the byte that follows. -/
structure Lead where
  following : Nat
  bits : Nat
  low : Nat
  high : Nat

/-- How the character of a first byte beyond ASCII goes on, if it can be a first byte. -/
def lead? (b : Nat) : Option Lead :=
  if 0xc2 ≤ b ∧ b ≤ 0xdf then some ⟨1, b - 0xc0, 0x80, 0xbf⟩
  else if b = 0xe0 then some ⟨2, b - 0xe0, 0xa0, 0xbf⟩
  else if b = 0xed then some ⟨2, b - 0xe0, 0x80, 0x9f⟩
  else if 0xe1 ≤ b ∧ b ≤ 0xef then some ⟨2, b - 0xe0, 0x80, 0xbf⟩
  else if b = 0xf0 then some ⟨3, b - 0xf0, 0x90, 0xbf⟩
  else if b = 0xf4 then some ⟨3, b - 0xf0, 0x80, 0x8f⟩
  else if 0xf1 ≤ b ∧ b ≤ 0xf3 then some ⟨3, b - 0xf0, 0x80, 0xbf⟩
  else none

structure Pending where
  start : Nat
  bytes : Bytes
  lead : Lead

/-- Bytes read as UTF-8 from a place, after the characters found so far, the last one first. -/
def decodeFrom (place : Nat) (found : List Char) : Option Pending → Bytes → Except DecodeFault (List Char)
  | none, [] => .ok found.reverse
  | some p, [] => .error ⟨p.start, p.bytes, "unexpected end of data"⟩
  | none, b :: rest =>
    if b < 0x80 then decodeFrom (place + 1) (Char.ofNat b.toNat :: found) none rest
    else match lead? b.toNat with
      | none => .error ⟨place, [b], "invalid start byte"⟩
      | some lead => decodeFrom (place + 1) found (some ⟨place, [b], lead⟩) rest
  | some p, b :: rest =>
    if p.lead.low ≤ b.toNat ∧ b.toNat ≤ p.lead.high then
      let bits := p.lead.bits * 64 + (b.toNat - 0x80)
      if p.lead.following = 1 then decodeFrom (place + 1) (Char.ofNat bits :: found) none rest
      else decodeFrom (place + 1) found
        (some ⟨p.start, p.bytes ++ [b], ⟨p.lead.following - 1, bits, 0x80, 0xbf⟩⟩) rest
    else .error ⟨p.start, p.bytes, "invalid continuation byte"⟩

def decode (bytes : Bytes) : Except DecodeFault (List Char) :=
  decodeFrom 0 [] none bytes

end BuildTree.Text
