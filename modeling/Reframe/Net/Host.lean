import Reframe.Net.Address
import Reframe.Text.PlainForm
import Reframe.Text.Utf8

/-
  This file defines hosts as addresses of resources name
  them: by an address in one of its spellings, or by a name.

  An address of four bytes may have its last bytes written
  as one number, and each number in base ten, eight or
  sixteen.

  Key definitions include:
    * `IpAddress.ofNumbers?`
    * `IpAddress.ofSpelling?`
    * `Host`
    * `Host.ofText?`
    * `Host.address?`
-/

namespace Reframe

------------------------------------------------------------
-- Spellings Of Addresses
------------------------------------------------------------

namespace IpAddress

def digitIn?
    (base : Nat)
    (c : Char) : Option Nat :=
  if IsHexDigit c ∧ hexDigit c < base then
    some (hexDigit c)
  else none

/- The value of a row of digits, zero for an empty one. -/
def valueIn?
    (base : Nat)
    (cs : List Char) : Option Nat :=
  (cs.mapM (digitIn? base)).map
    (fun ds => ds.foldl (fun n d => base * n + d) 0)

/-
  Read a number: base sixteen behind `0x`, base eight behind
  any other zero in front, and base ten else.
-/
def number? : List Char → Option Nat
| [] => none
| '0' :: 'x' :: cs => valueIn? 16 cs
| '0' :: c :: cs => valueIn? 8 (c :: cs)
| cs => valueIn? 10 cs

/- The lowest bytes of a number, highest first. -/
def lowBytes
    (n : Nat) : Nat → List Nat
| 0 => []
| count + 1 =>
    n / Nat.pow 256 count % 256 :: lowBytes n count

@[simp]
theorem length_lowBytes
    (n count : Nat) :
    (lowBytes n count).length = count := by
  induction count with
  | zero => rfl
  | succ count ih =>
      simp [lowBytes, ih]

def AreBytes
    (ns : List Nat) : Prop :=
  ∀ n ∈ ns, n ≤ 255

instance
    (ns : List Nat) :
    Decidable (AreBytes ns) :=
  List.decidableBAll (fun n => n ≤ 255) ns

/-
  The address of up to four numbers: a byte for each, and
  all bytes that are left for the last.
-/
def ofNumbers?
    (front : List Nat)
    (last : Nat) : Option IpAddress :=
  let room := 4 - front.length
  if 0 < room ∧ AreBytes front ∧
      last < Nat.pow 256 room then
    match front ++ lowBytes last room with
    | [a, b, c, d] => some (.v4 a b c d)
    | _ => none
  else none

def dropFullStop
    (cs : List Char) : List Char :=
  if cs.getLast? = some '.' then cs.dropLast else cs

/- Read numbers with dots in between. -/
def ofSpelling?
    (cs : List Char) : Option IpAddress :=
  match (splitAt '.' (dropFullStop cs)).mapM number? with
  | none => none
  | some ns =>
      match ns.getLast? with
      | none => none
      | some last => ofNumbers? ns.dropLast last

end IpAddress

------------------------------------------------------------
-- Escapes
------------------------------------------------------------

/- The byte that two digits of base sixteen write. -/
def Bytes.escaped?
    (x y : UInt8) : Option UInt8 :=
  match IpAddress.digitIn? 16 (Char.ofNat x.toNat),
    IpAddress.digitIn? 16 (Char.ofNat y.toNat) with
  | some h, some l => some (UInt8.ofNat (16 * h + l))
  | _, _ => none

/-
  Bytes with those in place that were written as a percent
  sign and two digits.
-/
def Bytes.unescaped : Bytes → Bytes
| 0x25 :: x :: y :: rest =>
    match Bytes.escaped? x y with
    | some b => b :: unescaped rest
    | none => 0x25 :: unescaped (x :: y :: rest)
| b :: rest => b :: unescaped rest
| [] => []

------------------------------------------------------------
-- Hosts
------------------------------------------------------------

inductive Host where
| address (a : IpAddress)
/- The host of a name, which is in plain form. -/
| name (s : String)
deriving DecidableEq, Repr

namespace Host

/- Characters that no name has in it. -/
def specials : List Char :=
  [' ', '#', '%', '/', ':', '<', '>', '?', '@', '[', '\\',
    ']', '^', '|', '\x7F']

/- A name cannot have the character in it. -/
def IsSpecial
    (c : Char) : Prop :=
  c.toNat < 0x20 ∨ c ∈ specials

instance
    (c : Char) :
    Decidable (IsSpecial c) := by
  unfold IsSpecial
  infer_instance

def ofPlain?
    (cs : List Char) : Option Host :=
  if cs = [] ∨ cs.any (fun c => IsSpecial c) then none
  else
    match IpAddress.ofSpelling? cs with
    | some a => some (.address a)
    | none => some (.name (String.ofList cs))

/-
  Read a host.  Characters may be escaped, and they count by
  their plain form.
-/
def ofText?
    (cs : List Char) : Option Host :=
  let bytes :=
    Bytes.unescaped (Bytes.ofText (String.ofList cs))
  match Utf8.text? bytes with
  | none => none
  | some s => ofPlain? (s.toList.flatMap Text.plainForm)

def selfName : String :=
  "localhost"

/-
  The address of a host.  No name is known but that of the
  host itself.
-/
def address? : Host → Option IpAddress
| .address a => some a
| .name s => if s = selfName then some .loopback else none

end Host

end Reframe
