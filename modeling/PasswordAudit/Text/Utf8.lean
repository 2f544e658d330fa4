import PasswordAudit.Text.Basic

/-! UTF-8. Writing is total. Reading refuses the first octet at which the text cannot go on, and
says which octets of the broken sequence had been accepted until then. -/
namespace PasswordAudit.Text.Utf8

abbrev Octets := List UInt8

def encodePoint (c : Char) : Octets :=
  let n := c.toNat
  let tail (shift : Nat) : UInt8 := UInt8.ofNat (0x80 + n / shift % 64)
  if n < 0x80 then [UInt8.ofNat n]
  else if n < 0x800 then [UInt8.ofNat (0xC0 + n / 64), tail 1]
  else if n < 0x10000 then [UInt8.ofNat (0xE0 + n / 4096), tail 64, tail 1]
  else [UInt8.ofNat (0xF0 + n / 262144), tail 4096, tail 64, tail 1]

def encode (text : Text) : Octets := text.flatMap encodePoint

inductive Reason
  | invalidStart
  | invalidContinuation
  | unexpectedEnd
  deriving DecidableEq

/-- A sequence that cannot be read: where it starts, its first octet, and how many of its octets
had been accepted, the first included. -/
structure Fault where
  position : Nat
  octet : UInt8
  accepted : Nat
  reason : Reason
  deriving DecidableEq

/-- How many octets follow a first octet, and the range in which the second one lies. It leaves out
overlong forms, surrogates and what is above U+10FFFF. -/
def following (first : UInt8) : Option (Nat × Nat × Nat) :=
  let n := first.toNat
  if n < 0x80 then some (0, 0x80, 0xBF)
  else if n < 0xC2 then none
  else if n < 0xE0 then some (1, 0x80, 0xBF)
  else if n = 0xE0 then some (2, 0xA0, 0xBF)
  else if n = 0xED then some (2, 0x80, 0x9F)
  else if n < 0xF0 then some (2, 0x80, 0xBF)
  else if n = 0xF0 then some (3, 0x90, 0xBF)
  else if n < 0xF4 then some (3, 0x80, 0xBF)
  else if n = 0xF4 then some (3, 0x80, 0x8F)
  else none

/-- The payload bits of a first octet that `count` octets follow. -/
def leading (count : Nat) (first : UInt8) : Nat :=
  match count with
  | 0 => first.toNat
  | 1 => first.toNat - 0xC0
  | 2 => first.toNat - 0xE0
  | _ => first.toNat - 0xF0

/-- A sequence under way: its start, its first octet, the octets accepted, the value so far, how
many octets are still to come, and the range of the next one. -/
structure Pending where
  position : Nat
  first : UInt8
  accepted : Nat
  value : Nat
  missing : Nat
  low : Nat
  high : Nat

def Pending.fault (p : Pending) (reason : Reason) : Fault :=
  ⟨p.position, p.first, p.accepted, reason⟩

def run (position : Nat) (pending : Option Pending) : Octets → Except Fault Text
  | [] => match pending with
    | none => .ok []
    | some p => .error (p.fault .unexpectedEnd)
  | octet :: rest =>
    match pending with
    | none => match following octet with
      | none => .error ⟨position, octet, 1, .invalidStart⟩
      | some (0, _, _) => (run (position + 1) none rest).map (Char.ofNat octet.toNat :: ·)
      | some (count, low, high) =>
        run (position + 1) (some ⟨position, octet, 1, leading count octet, count, low, high⟩) rest
    | some p =>
      if octet.toNat < p.low || p.high < octet.toNat then .error (p.fault .invalidContinuation)
      else
        let value := p.value * 64 + (octet.toNat - 0x80)
        if p.missing ≤ 1 then (run (position + 1) none rest).map (Char.ofNat value :: ·)
        else
          run (position + 1)
            (some ⟨p.position, p.first, p.accepted + 1, value, p.missing - 1, 0x80, 0xBF⟩) rest

def decode (octets : Octets) : Except Fault Text := run 0 none octets

def Reason.message : Reason → Text
  | .invalidStart => "invalid start byte"
  | .invalidContinuation => "invalid continuation byte"
  | .unexpectedEnd => "unexpected end of data"

def Fault.message (fault : Fault) : Text :=
  let position := Nat.toDigits 10 fault.position
  let place : Text :=
    if fault.accepted = 1 then
      "byte 0x" ++ padded 16 2 fault.octet.toNat ++ " in position " ++ position
    else
      "bytes in position " ++ position ++ "-"
        ++ Nat.toDigits 10 (fault.position + fault.accepted - 1)
  "'utf-8' codec can't decode " ++ place ++ ": " ++ fault.reason.message

end PasswordAudit.Text.Utf8
