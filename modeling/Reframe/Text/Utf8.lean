import Reframe.Bytes

/-
  This file defines the reading of bytes as UTF-8.  What is
  not UTF-8 is read as replacement characters: one for each
  longest run of bytes that begins a character and cannot
  be continued.

  Key definitions include:
    * `Utf8.Owed`
    * `Utf8.Reading`
    * `Utf8.Reading.step`
    * `Utf8.lossy`
    * `Utf8.text?`
-/

namespace Reframe

namespace Utf8

/-
  A character whose first bytes were read: the number of
  bytes still owed, the range of the next one, and the bits
  read so far.
-/
structure Owed where
  count : Nat
  low : Nat
  high : Nat
  bits : Nat
deriving DecidableEq, Repr

/- The character that a byte begins. -/
def Owed.ofFirst?
    (b : Nat) : Option Owed :=
  if 0xC2 ≤ b ∧ b ≤ 0xDF then
    some ⟨1, 0x80, 0xBF, b % 0x20⟩
  else if b = 0xE0 then some ⟨2, 0xA0, 0xBF, 0⟩
  else if b = 0xED then some ⟨2, 0x80, 0x9F, 0xD⟩
  else if 0xE1 ≤ b ∧ b ≤ 0xEF then
    some ⟨2, 0x80, 0xBF, b % 0x10⟩
  else if b = 0xF0 then some ⟨3, 0x90, 0xBF, 0⟩
  else if 0xF1 ≤ b ∧ b ≤ 0xF3 then
    some ⟨3, 0x80, 0xBF, b % 8⟩
  else if b = 0xF4 then some ⟨3, 0x80, 0x8F, 4⟩
  else none

/- Stands for bytes that are not UTF-8. -/
def replacement : Char :=
  '\ufffd'

/-
  A reading: the characters read, last one first, and the
  character under way.
-/
structure Reading where
  chars : List Char := []
  owed : Option Owed := none
deriving DecidableEq, Repr

namespace Reading

/- Read a byte between two characters. -/
def start
    (r : Reading)
    (b : Nat) : Reading :=
  if b < 0x80 then ⟨Char.ofNat b :: r.chars, none⟩
  else
    match Owed.ofFirst? b with
    | some o => ⟨r.chars, some o⟩
    | none => ⟨replacement :: r.chars, none⟩

def step
    (r : Reading)
    (byte : UInt8) : Reading :=
  let b := byte.toNat
  match r.owed with
  | none => r.start b
  | some o =>
      if o.low ≤ b ∧ b ≤ o.high then
        let bits := 64 * o.bits + b % 64
        if o.count = 1 then
          ⟨Char.ofNat bits :: r.chars, none⟩
        else
          ⟨r.chars, some ⟨o.count - 1, 0x80, 0xBF, bits⟩⟩
      else
        Reading.start ⟨replacement :: r.chars, none⟩ b

/- The text read when no byte follows. -/
def finish
    (r : Reading) : List Char :=
  match r.owed with
  | none => r.chars.reverse
  | some _ => (replacement :: r.chars).reverse

end Reading

/- Read bytes as text, with replacements. -/
def lossy
    (bs : Bytes) : String :=
  String.ofList (bs.foldl Reading.step {}).finish

/- Read bytes as text, if they are UTF-8 throughout. -/
def text?
    (bs : Bytes) : Option String :=
  let s := lossy bs
  if Bytes.ofText s = bs then some s else none

end Utf8

end Reframe
