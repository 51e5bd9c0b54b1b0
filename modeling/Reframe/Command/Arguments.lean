import Reframe.Net.Address

/-
  This file defines how the arguments of a command are told
  apart: options with or without a value, flags, and values
  that stand for themselves.

  Key definitions include:
    * `ValueKind`
    * `ValueKind.Allows`
    * `OptionSpec`
    * `ArgumentSpec`
    * `Matches`
    * `ArgumentSpec.parse`
-/

namespace Reframe

------------------------------------------------------------
-- Values
------------------------------------------------------------

/- What a value has to be. -/
inductive ValueKind where
/- Any text. -/
| text
/- A text that is not empty. -/
| path
/- A whole number, with or without a plus sign. -/
| number (limit : Nat)
/- A whole number, with or without any sign. -/
| signed (limit : Nat)
/- The address of a host. -/
| host
/- The address of a socket. -/
| socket
/- One of several names. -/
| oneOf (names : List String)
deriving DecidableEq, Repr

namespace ValueKind

/- A whole number that may be written with a minus sign. -/
def signed?
    (limit : Nat)
    (cs : List Char) : Option Nat :=
  match cs with
  | '-' :: ds =>
      if Numeral.IsDigits ds ∧ Numeral.value ds = 0 then
        some 0
      else none
  | _ => Numeral.parse? limit cs

/- A text is a value of a kind. -/
def Allows
    (k : ValueKind)
    (s : String) : Prop :=
  match k with
  | .text => True
  | .path => s ≠ ""
  | .number limit =>
      (Numeral.parse? limit s.toList).isSome = true
  | .signed limit =>
      (signed? limit s.toList).isSome = true
  | .host => (IpAddress.parse? s.toList).isSome = true
  | .socket => (SocketAddress.parse? s.toList).isSome = true
  | .oneOf names => s ∈ names

instance
    (k : ValueKind)
    (s : String) :
    Decidable (k.Allows s) := by
  cases k <;> unfold Allows <;> infer_instance

end ValueKind

------------------------------------------------------------
-- Specifications
------------------------------------------------------------

/-
  An option: its name, what its value has to be, if it takes
  one, and whether it may be given more than once.
-/
structure OptionSpec where
  name : String
  value : Option ValueKind
  repeatable : Bool := false
deriving DecidableEq, Repr

/-
  What a command takes: its options, the values that stand
  for themselves, and what all further ones have to be, if
  there may be further ones.
-/
structure ArgumentSpec where
  options : List OptionSpec
  positions : List ValueKind := []
  further : Option ValueKind := none
deriving DecidableEq, Repr

/-
  What was given: values by the name of their option, flags
  with an empty value, and the values that stand for
  themselves, all in order.
-/
structure Matches where
  options : List (String × String) := []
  positions : List String := []
deriving DecidableEq, Repr

namespace Matches

/- The values of an option. -/
def all
    (m : Matches)
    (name : String) : List String :=
  (m.options.filter (fun o => o.1 = name)).map
    Prod.snd

/- The value of an option that is given at most once. -/
def value?
    (m : Matches)
    (name : String) : Option String :=
  (m.all name).head?

/- The value of an option, or the one it has by default. -/
def text
    (m : Matches)
    (name standard : String) : String :=
  (m.value? name).getD standard

/- The largest number that any option takes. -/
def numberLimit : Nat :=
  18446744073709551615

/- The number that an option has for a value. -/
def number?
    (m : Matches)
    (name : String) : Option Nat :=
  (m.value? name).bind
    (fun s => ValueKind.signed? numberLimit s.toList)

/- The number of an option, or the one it has by default. -/
def number
    (m : Matches)
    (name : String)
    (standard : Nat) : Nat :=
  (m.number? name).getD standard

/- A flag is given. -/
def Has
    (m : Matches)
    (name : String) : Prop :=
  (m.value? name).isSome = true

instance
    (m : Matches)
    (name : String) :
    Decidable (m.Has name) := by
  unfold Has
  infer_instance

/- The value at a place. -/
def position
    (m : Matches)
    (i : Nat) : String :=
  m.positions.getD i ""

/- Note an option. -/
def withOption
    (m : Matches)
    (name value : String) : Matches :=
  { m with options := m.options ++ [(name, value)] }

/- Note a value that stands for itself. -/
def withPosition
    (m : Matches)
    (value : String) : Matches :=
  { m with positions := m.positions ++ [value] }

end Matches

------------------------------------------------------------
-- Telling Arguments Apart
------------------------------------------------------------

/- What the arguments come to. -/
inductive ArgumentResult where
/- They are what the command takes. -/
| matched (m : Matches)
/- They ask how the command is used. -/
| help
/- They are of no use. -/
| refused
deriving DecidableEq, Repr

/- What one argument looks like. -/
inductive ArgumentShape where
/- All further arguments stand for themselves. -/
| escape
/- An option by name, perhaps with a value behind `=`. -/
| long (name : String) (value : Option String)
/- One-letter options. -/
| short (letters : List Char)
/- A value. -/
| plain
deriving DecidableEq, Repr

/- The shape of an argument. -/
def ArgumentShape.of
    (s : String) : ArgumentShape :=
  match s.toList with
  | ['-', '-'] => .escape
  | '-' :: '-' :: cs =>
      let name := cs.takeWhile (fun c => c ≠ '=')
      match cs.dropWhile (fun c => c ≠ '=') with
      | [] => .long (String.ofList name) none
      | _ :: value =>
          .long (String.ofList name)
            (some (String.ofList value))
  | '-' :: c :: cs => .short (c :: cs)
  | _ => .plain

namespace ArgumentSpec

/- The option of a name. -/
def option?
    (spec : ArgumentSpec)
    (name : String) : Option OptionSpec :=
  spec.options.find? (fun o => o.name = name)

/- Note a value for an option, if it may have that value. -/
def give?
    (o : OptionSpec)
    (value : String)
    (m : Matches) : Option Matches :=
  match o.value with
  | none => none
  | some kind =>
      if kind.Allows value ∧
          (o.repeatable = true ∨ ¬ m.Has o.name) then
        some (m.withOption o.name value)
      else none

/- Note a flag, if it was not given before. -/
def raise?
    (o : OptionSpec)
    (m : Matches) : Option Matches :=
  if m.Has o.name then none else some (m.withOption o.name "")

/- Note a value that stands for itself, if there may be. -/
def place?
    (spec : ArgumentSpec)
    (value : String)
    (m : Matches) : Option Matches :=
  let kind :=
    match spec.positions[m.positions.length]? with
    | some kind => some kind
    | none => spec.further
  match kind with
  | none => none
  | some kind =>
      if kind.Allows value then some (m.withPosition value)
      else none

/-
  All values that stand for themselves are there, one of the
  further ones included.
-/
def IsFilled
    (spec : ArgumentSpec)
    (m : Matches) : Prop :=
  spec.positions.length +
    (if spec.further.isSome then 1 else 0) ≤
      m.positions.length

instance
    (spec : ArgumentSpec)
    (m : Matches) :
    Decidable (spec.IsFilled m) := by
  unfold IsFilled
  infer_instance

/- Arguments that all stand for themselves. -/
def placeAll
    (spec : ArgumentSpec)
    (m : Matches) : List String → ArgumentResult
| [] => if spec.IsFilled m then .matched m else .refused
| s :: rest =>
    match spec.place? s m with
    | none => .refused
    | some m => placeAll spec m rest

/-
  Tell arguments apart, first one first.  `awaiting` is the
  option whose value comes next, if there is one.
-/
def parseFrom
    (spec : ArgumentSpec)
    (awaiting : Option OptionSpec)
    (m : Matches) : List String → ArgumentResult
| [] =>
    if awaiting = none ∧ spec.IsFilled m then .matched m
    else .refused
| s :: rest =>
    match awaiting, ArgumentShape.of s with
    | some o, .plain =>
        match give? o s m with
        | none => .refused
        | some m => parseFrom spec none m rest
    | some _, _ => .refused
    | none, .escape => spec.placeAll m rest
    | none, .plain =>
        match spec.place? s m with
        | none => .refused
        | some m => parseFrom spec none m rest
    | none, .short letters =>
        if letters.head? = some 'h' then .help else .refused
    | none, .long name value =>
        if name = "help" then
          if value = none then .help else .refused
        else
          match spec.option? name, value with
          | none, _ => .refused
          | some o, some value =>
              match give? o value m with
              | none => .refused
              | some m => parseFrom spec none m rest
          | some o, none =>
              if o.value = none then
                match raise? o m with
                | none => .refused
                | some m => parseFrom spec none m rest
              else parseFrom spec (some o) m rest

/- Tell the arguments of a command apart. -/
def parse
    (spec : ArgumentSpec)
    (arguments : List String) : ArgumentResult :=
  spec.parseFrom none {} arguments

end ArgumentSpec

end Reframe
