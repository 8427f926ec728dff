import JqTemplate.Text.Quoted

namespace JqTemplate.Text

namespace Utf8

inductive Reason where
  | invalidStart
  | invalidContinuation
  | unexpectedEnd
  deriving DecidableEq, Repr

def Reason.text : Reason → String
  | .invalidStart => "invalid start byte"
  | .invalidContinuation => "invalid continuation byte"
  | .unexpectedEnd => "unexpected end of data"

/-- Here `first` is the octet at `position`, the first of the `count` octets at fault. -/
structure Fault where
  position : Nat
  count : Nat
  first : Nat
  reason : Reason
  deriving DecidableEq, Repr

def hexOctet (b : Nat) : String := "0x" ++ String.ofList (hexDigits 2 b)

def Fault.message (f : Fault) : String :=
  let place :=
    if f.count = 1 then s!"byte {hexOctet f.first} in position {f.position}"
    else s!"bytes in position {f.position}-{f.position + f.count - 1}"
  "'utf-8' codec can't decode " ++ place ++ ": " ++ f.reason.text

/-- What an initial octet asks for: the continuation octets that follow it, the least and
the greatest value of the first of these, and the bits that it brings itself. -/
structure Lead where
  follow : Nat
  low : Nat
  high : Nat
  bits : Nat
  deriving DecidableEq, Repr

def lead (b : Nat) : Option Lead :=
  if b < 0x80 then some ⟨0, 0x80, 0xbf, b⟩
  else if b < 0xc2 then none
  else if b < 0xe0 then some ⟨1, 0x80, 0xbf, b - 0xc0⟩
  else if b = 0xe0 then some ⟨2, 0xa0, 0xbf, 0⟩
  else if b = 0xed then some ⟨2, 0x80, 0x9f, 0xd⟩
  else if b < 0xf0 then some ⟨2, 0x80, 0xbf, b - 0xe0⟩
  else if b = 0xf0 then some ⟨3, 0x90, 0xbf, 0⟩
  else if b < 0xf4 then some ⟨3, 0x80, 0xbf, b - 0xf0⟩
  else if b = 0xf4 then some ⟨3, 0x80, 0x8f, 4⟩
  else none

structure Partial where
  first : Nat
  position : Nat
  seen : Nat
  need : Lead
  deriving DecidableEq, Repr

def Partial.fault (p : Partial) (reason : Reason) : Fault := ⟨p.position, p.seen, p.first, reason⟩

def decodeFrom : (position : Nat) → Option Partial → List Nat → Except Fault (List Char)
  | _, none, [] => .ok []
  | _, some p, [] => .error (p.fault .unexpectedEnd)
  | position, none, b :: rest =>
    match lead b with
    | none => .error ⟨position, 1, b, .invalidStart⟩
    | some need =>
      if need.follow = 0 then
        (decodeFrom (position + 1) none rest).map (fun cs => Char.ofNat need.bits :: cs)
      else decodeFrom (position + 1) (some ⟨b, position, 1, need⟩) rest
  | position, some p, b :: rest =>
    if p.need.low ≤ b ∧ b ≤ p.need.high then
      let value := p.need.bits * 64 + (b - 0x80)
      if p.need.follow = 1 then
        (decodeFrom (position + 1) none rest).map (fun cs => Char.ofNat value :: cs)
      else
        decodeFrom (position + 1)
          (some { p with seen := p.seen + 1, need := ⟨p.need.follow - 1, 0x80, 0xbf, value⟩ }) rest
    else .error (p.fault .invalidContinuation)

def encodeChar (c : Char) : List Nat :=
  let n := c.toNat
  let follow (shift : Nat) := 0x80 + n / Nat.pow 64 shift % 64
  if n < 0x80 then [n]
  else if n < 0x800 then [0xc0 + n / 64, follow 0]
  else if n < 0x10000 then [0xe0 + n / 4096, follow 1, follow 0]
  else [0xf0 + n / 262144, follow 2, follow 1, follow 0]

def encode (text : List Char) : List Nat := text.flatMap encodeChar

def decode (octets : List Nat) : Except Fault (List Char) := decodeFrom 0 none octets

end Utf8

end JqTemplate.Text
