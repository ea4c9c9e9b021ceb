import TxCourier.Bytes.Basic

/-! # UTF-8 with replacement

Every byte string gives a text: octets that are no part of a character are replaced, one mark for
each longest beginning of a character that cannot be finished. -/
namespace TxCourier.Utf8

/-- The beginning of a character: how many octets it still needs, the range of the next one, and
the bits read so far. -/
structure Started where
  owed : Nat
  low : UInt8
  high : UInt8
  bits : Nat

/-- What an octet between characters does: it is a character, begins one, or neither. -/
inductive First where
  | whole (c : Char)
  | started (s : Started)
  | stray

def first (x : UInt8) : First :=
  let n := x.toNat
  if n < 0x80 then .whole (Char.ofNat n)
  else if n < 0xC2 then .stray
  else if n < 0xE0 then .started ⟨1, 0x80, 0xBF, n - 0xC0⟩
  else if n = 0xE0 then .started ⟨2, 0xA0, 0xBF, 0⟩
  else if n = 0xED then .started ⟨2, 0x80, 0x9F, 0xD⟩
  else if n < 0xF0 then .started ⟨2, 0x80, 0xBF, n - 0xE0⟩
  else if n = 0xF0 then .started ⟨3, 0x90, 0xBF, 0⟩
  else if n < 0xF4 then .started ⟨3, 0x80, 0xBF, n - 0xF0⟩
  else if n = 0xF4 then .started ⟨3, 0x80, 0x8F, 4⟩
  else .stray

/-- What stands for octets that are no character. -/
def replacement : Char := '\uFFFD'

/-- The state between two octets, and the characters so far, newest first. -/
structure State where
  started : Option Started
  newestFirst : List Char

def State.begin (cs : List Char) (x : UInt8) : State :=
  match first x with
  | .whole c => ⟨none, c :: cs⟩
  | .started s => ⟨some s, cs⟩
  | .stray => ⟨none, replacement :: cs⟩

def State.push (st : State) (x : UInt8) : State :=
  match st.started with
  | none => begin st.newestFirst x
  | some s =>
    if s.low ≤ x ∧ x ≤ s.high then
      let bits := 64 * s.bits + (x.toNat - 0x80)
      if s.owed = 1 then ⟨none, Char.ofNat bits :: st.newestFirst⟩
      else ⟨some ⟨s.owed - 1, 0x80, 0xBF, bits⟩, st.newestFirst⟩
    else begin (replacement :: st.newestFirst) x

def State.finish (st : State) : List Char :=
  match st.started with
  | none => st.newestFirst.reverse
  | some _ => (replacement :: st.newestFirst).reverse

/-- The text of a byte string. -/
def decode (b : Bytes) : String := String.ofList (b.foldl State.push ⟨none, []⟩).finish

end TxCourier.Utf8
