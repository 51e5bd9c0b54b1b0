import Reframe.Failure
import Reframe.Text.Blank
import Reframe.Text.Numeral

/-
  This file defines the values of flags that are read after
  the arguments were told apart: lengths of time, and fields
  with a name and a value.

  Key definitions include:
    * `Flag.duration`
    * `Flag.field`
-/

namespace Reframe

namespace Flag

/- The units of lengths of time. -/
inductive TimeUnit where
| seconds
| millis
deriving DecidableEq, Repr

def TimeUnit.times
    (u : TimeUnit)
    (n : Nat) : Duration :=
  match u with
  | .seconds => .ofSeconds n
  | .millis => .ofMillis n

/- Drop an ending, if the characters have it. -/
def dropEnding?
    (ending : List Char)
    (cs : List Char) : Option (List Char) :=
  if ending.isSuffixOf cs then
    some (cs.take (cs.length - ending.length))
  else none

/-
  Part a number from its unit.  Without a unit it counts
  seconds.
-/
def partUnit
    (cs : List Char) : List Char × TimeUnit :=
  match dropEnding? ['m', 's'] cs with
  | some front => (front, .millis)
  | none =>
      match dropEnding? ['s'] cs with
      | some front => (front, .seconds)
      | none => (cs, .seconds)

/- The largest number of units. -/
def unitLimit : Nat :=
  18446744073709551615

/-
  Read a length of time: a positive number with or without
  a unit, such as `500ms`, `2s` or `3`.
-/
def duration
    (s : String) : Except Failure Duration :=
  let cs := Text.trim s.toList
  if cs = [] then
    .error (.usage "duration must not be empty")
  else
    let (number, u) := partUnit cs
    match Numeral.parse? unitLimit number with
    | none =>
        .error (.usage
          ("invalid duration value: " ++ String.ofList cs))
    | some n =>
        if n = 0 then
          .error (.usage
            "duration must be greater than zero")
        else .ok (u.times n)

/- Characters in front of and behind the first `=`. -/
def splitEquals?
    (cs : List Char) : Option (List Char × List Char) :=
  let front := cs.takeWhile (fun c => c ≠ '=')
  match cs.dropWhile (fun c => c ≠ '=') with
  | [] => none
  | _ :: back => some (front, back)

/-
  Read a field: a name that is not blank, then `=` and the
  value.  White space around the name does not belong to it.
-/
def field
    (s : String) : Except Failure (String × String) :=
  let refusal : Failure :=
    .usage ("invalid parameter " ++ Text.quoted s ++
      ", expected KEY=VALUE")
  match splitEquals? s.toList with
  | none => .error refusal
  | some (front, back) =>
      let name := Text.trim front
      if name = [] then .error refusal
      else .ok (String.ofList name, String.ofList back)

end Flag

end Reframe
