import Reframe.Json.Basic
import Reframe.Text.Numeral

/-
  This file defines the reading of JSON texts.

  Key definitions include:
    * `Json.IsSpace`
    * `Json.readNumber?`
    * `Json.readText?`
    * `Json.parse?`
-/

namespace Reframe

namespace Json

------------------------------------------------------------
-- White Space
------------------------------------------------------------

/- A character may stand between the parts of a value. -/
def IsSpace
    (c : Char) : Prop :=
  c = ' ' ∨ c = '\n' ∨ c = '\r' ∨ c = '\t'

instance
    (c : Char) :
    Decidable (IsSpace c) := by
  unfold IsSpace
  infer_instance

/- Drop white space. -/
def skip
    (cs : List Char) : List Char :=
  cs.dropWhile (fun c => IsSpace c)

------------------------------------------------------------
-- Numbers
------------------------------------------------------------

/- Digits and what follows them. -/
def spanDigits
    (cs : List Char) : List Char × List Char :=
  cs.span (fun c => Numeral.IsDigit c)

/- The digits behind a point, if there is one. -/
def readFraction?
    (cs : List Char) :
    Option (Option (List Char) × List Char) :=
  match cs with
  | '.' :: rest =>
      match spanDigits rest with
      | ([], _) => none
      | (ds, rest) => some (some ds, rest)
  | _ => some (none, cs)

/- The power of ten behind an `e`, if there is one. -/
def readExponent?
    (cs : List Char) :
    Option (Option Int × List Char) :=
  match cs with
  | e :: rest =>
      if e = 'e' ∨ e = 'E' then
        let (negative, rest) :=
          match rest with
          | '-' :: rest => (true, rest)
          | '+' :: rest => (false, rest)
          | _ => (false, rest)
        match spanDigits rest with
        | ([], _) => none
        | (ds, rest) =>
            let n : Int := Numeral.value ds
            some (some (if negative then -n else n), rest)
      else some (none, cs)
  | [] => some (none, cs)

/-
  The digits of a number count as long as they amount to
  less than this.
-/
def significandLimit : Nat :=
  18446744073709551616

/-
  The number that digits amount to, begun with a number for
  the digits in front, and the digits from the first one on
  that would lead past the limit.
-/
def readSignificand
    (n : Nat) : List Char → Nat × List Char
| [] => (n, [])
| d :: ds =>
    let m := 10 * n + Numeral.digit d
    if m < significandLimit then readSignificand m ds
    else (n, d :: ds)

/- The highest power of ten among the doubles. -/
def topPower : Nat :=
  308

/- The double next to a power of ten. -/
def powerOfTen
    (n : Nat) : Float :=
  Float.ofScientific 1 false n

/-
  A number divided by a power of ten, at most by the highest
  one at a time.
-/
def scaledDown
    (x : Float)
    (n : Nat) : Float :=
  if n ≤ topPower then x / powerOfTen n
  else if x == 0.0 then x
  else scaledDown (x / powerOfTen topPower) (n - topPower)
termination_by n
decreasing_by
  unfold topPower at *
  omega

/-
  The number `significand * 10 ^ power`, if it is finite.
  It is rounded at each step: for the significand, and for
  the power that it is multiplied with or divided by.
-/
def scaledDouble?
    (negative : Bool)
    (significand : Nat)
    (power : Int) : Option JsonNumber :=
  let x := Float.ofScientific significand false 0
  let scaled :=
    if power < 0 then scaledDown x power.natAbs
    else if significand = 0 then x
    else x * powerOfTen (min power.natAbs (topPower + 1))
  if scaled.isFinite then
    some
      (.double
        (if negative then -scaled else scaled).toBits)
  else none

/-
  The value of a number: a whole one as long as it fits in
  64 bits, otherwise a floating point number.
-/
def numberOf?
    (negative : Bool)
    (whole : List Char)
    (fraction : Option (List Char))
    (exponent : Option Int) : Option JsonNumber :=
  let n := Numeral.value whole
  let (front, beyond) := readSignificand 0 whole
  match fraction, exponent with
  | none, none =>
      if negative = false ∧ n < Nat.pow 2 64 then some (.whole n)
      else if negative ∧ 0 < n ∧ n ≤ Nat.pow 2 63 then
        some (.whole (-(n : Int)))
      else scaledDouble? negative front beyond.length
  | _, _ =>
      let ds := fraction.getD []
      let (significand, rest) := readSignificand front ds
      let places := (ds.length : Int) - rest.length
      scaledDouble? negative significand
        (exponent.getD 0 + beyond.length - places)

/- Read a number. -/
def readNumber?
    (cs : List Char) : Option (JsonNumber × List Char) := do
  let (negative, cs) :=
    match cs with
    | '-' :: rest => (true, rest)
    | _ => (false, cs)
  let (whole, cs) := spanDigits cs
  if whole = [] ∨ (whole.head? = some '0' ∧ 1 < whole.length)
  then none
  else
    let (fraction, cs) ← readFraction? cs
    let (exponent, cs) ← readExponent? cs
    let n ← numberOf? negative whole fraction exponent
    some (n, cs)

------------------------------------------------------------
-- Texts
------------------------------------------------------------

/- The value of a digit of base sixteen. -/
def hexValue?
    (c : Char) : Option Nat :=
  if Numeral.IsDigit c then some (Numeral.digit c)
  else if 'a' ≤ c ∧ c ≤ 'f' then
    some (c.toNat - 'a'.toNat + 10)
  else if 'A' ≤ c ∧ c ≤ 'F' then
    some (c.toNat - 'A'.toNat + 10)
  else none

/- Four digits of base sixteen. -/
def unit?
    (a b c d : Char) : Option Nat :=
  match hexValue? a, hexValue? b, hexValue? c, hexValue? d with
  | some a, some b, some c, some d =>
      some (((a * 16 + b) * 16 + c) * 16 + d)
  | _, _, _, _ => none

/- The character of a short escape. -/
def shortEscape?
    (c : Char) : Option Char :=
  if c = '"' then some '"'
  else if c = '\\' then some '\\'
  else if c = '/' then some '/'
  else if c = 'b' then some '\x08'
  else if c = 'f' then some '\x0c'
  else if c = 'n' then some '\n'
  else if c = 'r' then some '\r'
  else if c = 't' then some '\t'
  else none

/- The first half of a character outside the basic plane. -/
def IsHighHalf
    (n : Nat) : Prop :=
  0xD800 ≤ n ∧ n ≤ 0xDBFF

instance
    (n : Nat) :
    Decidable (IsHighHalf n) := by
  unfold IsHighHalf
  infer_instance

/- The second half of a character outside the basic plane. -/
def IsLowHalf
    (n : Nat) : Prop :=
  0xDC00 ≤ n ∧ n ≤ 0xDFFF

instance
    (n : Nat) :
    Decidable (IsLowHalf n) := by
  unfold IsLowHalf
  infer_instance

/-
  Read the rest of a text, behind its first quote.  The
  characters read so far come last one first.
-/
def readText?
    (read : List Char) :
    List Char → Option (String × List Char)
| '"' :: rest => some (String.ofList read.reverse, rest)
| '\\' :: 'u' :: a :: b :: c :: d :: rest =>
    match unit? a b c d with
    | none => none
    | some n =>
        if IsHighHalf n then
          match rest with
          | '\\' :: 'u' :: e :: f :: g :: h :: rest =>
              match unit? e f g h with
              | none => none
              | some m =>
                  if IsLowHalf m then
                    let code :=
                      0x10000 + (n - 0xD800) * 0x400 +
                        (m - 0xDC00)
                    readText? (Char.ofNat code :: read) rest
                  else none
          | _ => none
        else if IsLowHalf n then none
        else readText? (Char.ofNat n :: read) rest
| '\\' :: c :: rest =>
    match shortEscape? c with
    | none => none
    | some c => readText? (c :: read) rest
| c :: rest =>
    if c.toNat < 0x20 ∨ c = '\\' then none
    else readText? (c :: read) rest
| [] => none

------------------------------------------------------------
-- Values
------------------------------------------------------------

/- Drop the given characters at the front. -/
def expect?
    (word : List Char)
    (cs : List Char) : Option (List Char) :=
  if word.isPrefixOf cs then some (cs.drop word.length)
  else none

/- How deep arrays and objects may lie in each other. -/
def depthLimit : Nat :=
  127

mutual

/-
  Read a value.  No reading takes more steps than it has
  characters.
-/
def readValue?
    (steps depth : Nat)
    (cs : List Char) : Option (Json × List Char) :=
  match steps with
  | 0 => none
  | steps + 1 =>
      match skip cs with
      | '"' :: rest =>
          (readText? [] rest).map
            (fun p => (.text p.1, p.2))
      | '[' :: rest =>
          match depth with
          | 0 => none
          | depth + 1 =>
              match skip rest with
              | ']' :: rest => some (.array [], rest)
              | rest =>
                  (readItems? steps depth rest).map
                    (fun p => (.array p.1, p.2))
      | '\x7b' :: rest =>
          match depth with
          | 0 => none
          | depth + 1 =>
              match skip rest with
              | '\x7d' :: rest => some (.object [], rest)
              | rest =>
                  (readFields? steps depth rest).map
                    (fun p => (.object p.1, p.2))
      | 'n' :: rest =>
          (expect? ['u', 'l', 'l'] rest).map
            (fun rest => (.null, rest))
      | 't' :: rest =>
          (expect? ['r', 'u', 'e'] rest).map
            (fun rest => (.bool true, rest))
      | 'f' :: rest =>
          (expect? ['a', 'l', 's', 'e'] rest).map
            (fun rest => (.bool false, rest))
      | cs =>
          (readNumber? cs).map
            (fun p => (.number p.1, p.2))

/- Read the items of an array, up to its bracket. -/
def readItems?
    (steps depth : Nat)
    (cs : List Char) : Option (List Json × List Char) :=
  match steps with
  | 0 => none
  | steps + 1 =>
      match readValue? steps depth cs with
      | none => none
      | some (v, rest) =>
          match skip rest with
          | ',' :: rest =>
              (readItems? steps depth rest).map
                (fun p => (v :: p.1, p.2))
          | ']' :: rest => some ([v], rest)
          | _ => none

/- Read the fields of an object, up to its brace. -/
def readFields?
    (steps depth : Nat)
    (cs : List Char) :
    Option (List (String × Json) × List Char) :=
  match steps with
  | 0 => none
  | steps + 1 =>
      match skip cs with
      | '"' :: rest =>
          match readText? [] rest with
          | none => none
          | some (k, rest) =>
              match skip rest with
              | ':' :: rest =>
                  match readValue? steps depth rest with
                  | none => none
                  | some (v, rest) =>
                      match skip rest with
                      | ',' :: rest =>
                          (readFields? steps depth rest).map
                            (fun p => ((k, v) :: p.1, p.2))
                      | '\x7d' :: rest =>
                          some ([(k, v)], rest)
                      | _ => none
              | _ => none
      | _ => none

end

/- Read a text that holds one value and nothing else. -/
def parse?
    (s : String) : Option Json :=
  let cs := s.toList
  match readValue? (2 * cs.length + 2) depthLimit cs with
  | none => none
  | some (v, rest) =>
      match skip rest with
      | [] => some v
      | _ => none

end Json

end Reframe
