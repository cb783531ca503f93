/-!
# Reading UTF-8

Bytes are read strictly: no byte is skipped or replaced. The first sequence that is none is refused
with the reason and with the bytes that were looked at.
-/

namespace Sidekick.Text.Utf8

inductive Reason where
  | invalidStart
  | invalidContinuation
  | unexpectedEnd
  deriving DecidableEq

/-- Bytes that are no UTF-8: the first byte refused, and the place and number of the bytes. -/
structure Malformed where
  reason : Reason
  first : UInt8
  position : Nat
  length : Nat
  deriving DecidableEq

/-- A byte with two decimal, hence hexadecimal, figures. -/
def hexByte (b : UInt8) : String :=
  String.ofList [Nat.digitChar (b.toNat / 16), Nat.digitChar (b.toNat % 16)]

def Reason.message : Reason → String
  | .invalidStart => "invalid start byte"
  | .invalidContinuation => "invalid continuation byte"
  | .unexpectedEnd => "unexpected end of data"

def Malformed.message (m : Malformed) : String :=
  let place :=
    if m.length = 1 then "byte 0x" ++ hexByte m.first ++ " in position " ++ toString m.position
    else "bytes in position " ++ toString m.position ++ "-" ++ toString (m.position + m.length - 1)
  "'utf-8' codec can't decode " ++ place ++ ": " ++ m.reason.message

/-- What a first byte announces: the bits it carries and the bounds of each byte to follow. -/
def announced? (b : Nat) : Option (Nat × List (Nat × Nat)) :=
  let any := (0x80, 0xBF)
  if b < 0x80 then some (b, [])
  else if b < 0xC2 then none
  else if b < 0xE0 then some (b - 0xC0, [any])
  else if b < 0xF0 then
    let second := if b = 0xE0 then (0xA0, 0xBF) else if b = 0xED then (0x80, 0x9F) else any
    some (b - 0xE0, [second, any])
  else if b < 0xF5 then
    let second := if b = 0xF0 then (0x90, 0xBF) else if b = 0xF4 then (0x80, 0x8F) else any
    some (b - 0xF0, [second, any, any])
  else none

/-- Reads the bytes that were announced, on top of the bits read so far; `seen` counts the bytes
of the sequence up to here. -/
def continued (bits seen : Nat) :
    List (Nat × Nat) → List UInt8 → Except (Reason × Nat) (Nat × List UInt8)
  | [], bytes => .ok (bits, bytes)
  | _ :: _, [] => .error (.unexpectedEnd, seen)
  | (low, high) :: bounds, b :: bytes =>
    if low ≤ b.toNat ∧ b.toNat ≤ high then
      continued (64 * bits + (b.toNat - 0x80)) (seen + 1) bounds bytes
    else .error (.invalidContinuation, seen)

theorem length_continued {bits seen : Nat} {bounds : List (Nat × Nat)} {bytes rest : List UInt8}
    {n : Nat} (h : continued bits seen bounds bytes = .ok (n, rest)) :
    rest.length ≤ bytes.length := by
  induction bounds generalizing bits seen bytes with
  | nil =>
    simp only [continued, Except.ok.injEq, Prod.mk.injEq] at h
    simp [h.2]
  | cons bound bounds ih =>
    cases bytes with
    | nil => simp [continued] at h
    | cons b bytes =>
      simp only [continued] at h
      split at h
      · exact Nat.le_succ_of_le (ih h)
      · simp at h

def decodeFrom (position : Nat) (bytes : List UInt8) : Except Malformed (List Char) :=
  match bytes with
  | [] => .ok []
  | b :: bytes =>
    match announced? b.toNat with
    | none => .error ⟨.invalidStart, b, position, 1⟩
    | some (bits, bounds) =>
      match h : continued bits 1 bounds bytes with
      | .error (reason, length) => .error ⟨reason, b, position, length⟩
      | .ok (n, rest) =>
        have := length_continued h
        (decodeFrom (position + 1 + bounds.length) rest).map (Char.ofNat n :: ·)
termination_by bytes.length

def decode (bytes : List UInt8) : Except Malformed (List Char) := decodeFrom 0 bytes

end Sidekick.Text.Utf8
