import PropertyFile.Text

/-! Strict UTF-8, in which overlong forms, surrogates and numbers above the last code point never
arise. -/

namespace PropertyFile.Utf8

inductive Reason
  | start
  | continuation
  | truncated
  deriving DecidableEq, Repr

structure Fault where
  reason : Reason
  position : Nat
  length : Nat
  first : Nat
  deriving DecidableEq, Repr

structure Begun where
  position : Nat
  first : Nat
  code : Nat
  due : Nat
  low : Nat
  high : Nat
  deriving DecidableEq, Repr

def begin? (position b : Nat) : Option Begun :=
  let begun (mark due low high : Nat) := some (Begun.mk position b (b - mark) due low high)
  if 0xC2 ≤ b ∧ b ≤ 0xDF then begun 0xC0 1 0x80 0xBF
  else if 0xE0 ≤ b ∧ b ≤ 0xEF then
    begun 0xE0 2 (if b = 0xE0 then 0xA0 else 0x80) (if b = 0xED then 0x9F else 0xBF)
  else if 0xF0 ≤ b ∧ b ≤ 0xF4 then
    begun 0xF0 3 (if b = 0xF0 then 0x90 else 0x80) (if b = 0xF4 then 0x8F else 0xBF)
  else none

def decodeFrom (position : Nat) : Option Begun → List UInt8 → Except Fault Text
  | none, [] => .ok []
  | some s, [] => .error ⟨.truncated, s.position, position - s.position, s.first⟩
  | none, b :: bytes =>
    if b.toNat < 0x80 then (decodeFrom (position + 1) none bytes).map (.ofNat b.toNat :: ·)
    else match begin? position b.toNat with
      | some s => decodeFrom (position + 1) (some s) bytes
      | none => .error ⟨.start, position, 1, b.toNat⟩
  | some s, b :: bytes =>
    if s.low ≤ b.toNat ∧ b.toNat ≤ s.high then
      let code := s.code * 64 + (b.toNat - 0x80)
      if s.due ≤ 1 then (decodeFrom (position + 1) none bytes).map (.ofNat code :: ·)
      else
        decodeFrom (position + 1)
          (some { s with code := code, due := s.due - 1, low := 0x80, high := 0xBF }) bytes
    else .error ⟨.continuation, s.position, position - s.position, s.first⟩

def decode (bytes : List UInt8) : Except Fault Text := decodeFrom 0 none bytes

def readable (bytes : List UInt8) : Text :=
  match decode bytes with
  | .ok t => t
  | .error f => (decode (bytes.take f.position)).toOption.getD []

structure EncodingFault where
  first : Nat
  last : Nat
  point : CodePoint
  deriving DecidableEq, Repr

def encodingFault? (through : CodePoint → Bool) (t : Text) : Option EncodingFault :=
  let encodable (c : CodePoint) : Bool := !c.isHalf || through c
  let position := (t.takeWhile encodable).length
  match t.dropWhile encodable with
  | [] => none
  | c :: u => some ⟨position, position + (u.takeWhile CodePoint.isHalf).length, c⟩

def encode (t : Text) : List UInt8 :=
  t.flatMap fun c => String.utf8EncodeChar c.toChar

def Reason.text : Reason → Text
  | .start => "invalid start byte"
  | .continuation => "invalid continuation byte"
  | .truncated => "unexpected end of data"

def Fault.message (f : Fault) : Text :=
  let place : Text :=
    if f.length = 1 then
      "byte 0x" ++ Text.hex 2 f.first ++ " in position " ++ Text.ofNat f.position
    else
      "bytes in position " ++ Text.ofNat f.position ++ "-" ++
        Text.ofNat (f.position + f.length - 1)
  "'utf-8' codec can't decode " ++ place ++ ": " ++ f.reason.text

def EncodingFault.message (f : EncodingFault) : Text :=
  let place : Text :=
    if f.first = f.last then
      "character '\\u" ++ Text.hex 4 f.point.toNat ++ "' in position " ++ Text.ofNat f.first
    else "characters in position " ++ Text.ofNat f.first ++ "-" ++ Text.ofNat f.last
  "'utf-8' codec can't encode " ++ place ++ ": surrogates not allowed"

end PropertyFile.Utf8
