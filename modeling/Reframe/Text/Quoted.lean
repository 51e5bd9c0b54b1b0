import Reframe.Bytes
import Reframe.Text.Printable
import Reframe.Text.Extender
import Reframe.Text.Ignorable

/-
  This file defines the quoted forms of texts and byte
  strings, as diagnostics show them.

  A quote, a backslash and the usual controls get a short
  escape.  Of a text, characters that have no printed form,
  would join the one in front or leave no mark are written
  by code point; of a byte string, all bytes outside
  printable ASCII are written by value.

  Key definitions include:
    * `Text.quoted`
    * `Text.quotedBytes`
-/

namespace Reframe

namespace Text

/- The digits of a number in base sixteen. -/
def hexDigits
    (n : Nat) : List Char :=
  Nat.toDigits 16 n

/- The short escape of a character, if it has one. -/
def shortEscape?
    (c : Char) : Option (List Char) :=
  if c = '"' then some ['\\', '"']
  else if c = '\\' then some ['\\', '\\']
  else if c = '\n' then some ['\\', 'n']
  else if c = '\r' then some ['\\', 'r']
  else if c = '\t' then some ['\\', 't']
  else if c = '\x00' then some ['\\', '0']
  else none

def quotedChar
    (c : Char) : List Char :=
  match shortEscape? c with
  | some cs => cs
  | none =>
      if IsPrintable c ∧ ¬ IsExtender c ∧ ¬ IsIgnorable c
      then [c]
      else
        ['\\', 'u', '\x7b'] ++ hexDigits c.toNat ++ ['\x7d']

def quotedByte
    (b : UInt8) : List Char :=
  let c := Char.ofNat b.toNat
  match shortEscape? c with
  | some cs => cs
  | none =>
      if 0x20 ≤ b ∧ b < 0x7F then [c]
      else
        ['\\', 'x'] ++
          hexDigits (b.toNat / 16) ++
          hexDigits (b.toNat % 16)

def quoted
    (s : String) : String :=
  String.ofList
    (['"'] ++ s.toList.flatMap quotedChar ++ ['"'])

def quotedBytes
    (bs : Bytes) : String :=
  String.ofList
    (['b', '"'] ++ bs.flatMap quotedByte ++ ['"'])

end Text

end Reframe
