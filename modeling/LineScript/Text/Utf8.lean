import LineScript.Text.Quoted

/-!
Reading UTF-8. Bytes are taken one at a time; a first byte says which bytes may follow it, and the
first byte out of place is reported with those that it leaves unfinished.
-/

namespace LineScript.Text.Utf8

inductive Reason where
  | badStart
  | badContinuation
  | cutShort
  deriving DecidableEq, Repr

def Reason.text : Reason → String
  | .badStart => "invalid start byte"
  | .badContinuation => "invalid continuation byte"
  | .cutShort => "unexpected end of data"

/-- Ill-formed bytes: where they begin, the bytes themselves, and what is wrong. -/
structure Flaw where
  start : Nat
  bytes : List UInt8
  reason : Reason
  deriving DecidableEq, Repr

def Flaw.message (flaw : Flaw) : String :=
  let place := match flaw.bytes with
    | [byte] => "byte 0x" ++ String.ofList (hexChars 2 byte.toNat) ++ s!" in position {flaw.start}"
    | bytes => s!"bytes in position {flaw.start}-{flaw.start + bytes.length - 1}"
  "'utf-8' codec can't decode " ++ place ++ ": " ++ flaw.reason.text

/-- A character that is not finished: its bytes so far, latest first, the bits they carry, and the
bounds of each byte to come. -/
structure Pending where
  bytes : List UInt8
  bits : Nat
  owed : List (Nat × Nat)
  deriving DecidableEq, Repr

def Pending.idle : Pending := ⟨[], 0, []⟩

/-- The bits that a first byte carries and the bounds of the bytes that must follow it. Overlong
forms, surrogates and code points beyond the last plane are ruled out by the second byte. -/
def firstByte (byte : Nat) : Option (Nat × List (Nat × Nat)) :=
  let any := (0x80, 0xBF)
  if byte < 0x80 then some (byte, [])
  else if byte < 0xC2 then none
  else if byte < 0xE0 then some (byte - 0xC0, [any])
  else if byte = 0xE0 then some (0, [(0xA0, 0xBF), any])
  else if byte = 0xED then some (0xD, [(0x80, 0x9F), any])
  else if byte < 0xF0 then some (byte - 0xE0, [any, any])
  else if byte = 0xF0 then some (0, [(0x90, 0xBF), any, any])
  else if byte < 0xF4 then some (byte - 0xF0, [any, any, any])
  else if byte = 0xF4 then some (4, [(0x80, 0x8F), any, any])
  else none

def decodeFrom (position : Nat) (pending : Pending) : List UInt8 → Except Flaw (List Char)
  | [] =>
    if pending.owed.isEmpty then .ok []
    else .error ⟨position - pending.bytes.length, pending.bytes.reverse, .cutShort⟩
  | byte :: rest =>
    match pending.owed with
    | (low, high) :: owed =>
      if low ≤ byte.toNat && byte.toNat ≤ high then
        let bits := 64 * pending.bits + (byte.toNat - 0x80)
        if owed.isEmpty then
          (Char.ofNat bits :: ·) <$> decodeFrom (position + 1) .idle rest
        else decodeFrom (position + 1) ⟨byte :: pending.bytes, bits, owed⟩ rest
      else .error ⟨position - pending.bytes.length, pending.bytes.reverse, .badContinuation⟩
    | [] =>
      match firstByte byte.toNat with
      | none => .error ⟨position, [byte], .badStart⟩
      | some (bits, []) => (Char.ofNat bits :: ·) <$> decodeFrom (position + 1) .idle rest
      | some (bits, owed) => decodeFrom (position + 1) ⟨[byte], bits, owed⟩ rest

/-- The characters that bytes write. -/
def decode (bytes : List UInt8) : Except Flaw (List Char) :=
  decodeFrom 0 .idle bytes

end LineScript.Text.Utf8
