import Reframe.Command.Basic
import Reframe.Command.Flag
import Reframe.Command.Session
import Reframe.Puller.Open

/-
  This file defines the command that pulls frames out of the
  live stream of a service.

  Key definitions include:
    * `PullArguments.emitFrames`
    * `PullArguments.run`
-/

namespace Reframe

namespace PullArguments

------------------------------------------------------------
-- Setting Up
------------------------------------------------------------

/- What the puller is opened with. -/
def config
    (a : PullArguments)
    (timeout : Duration)
    (extra : List (String × String)) : PullConfig where
  service :=
    { baseUrl := a.baseUrl
      device := a.device
      timeout := timeout }
  width := a.width
  height := a.height
  fps := a.fps
  extra := extra

/- Open the live stream. -/
def openPuller
    (c : PullConfig) : Action (Puller Unit) := do
  let s ← get
  match Puller.openAt c Decoder.identity s.network with
  | (.error e, network) =>
      set { s with network := network }
      throw (.ofClient "stream open failed" e)
  | (.ok p, network) =>
      set { s with network := network }
      pure p

------------------------------------------------------------
-- Pulling Frames
------------------------------------------------------------

/- Write and print frames as they come, until enough did. -/
def emitFrames
    (out : Option String)
    (count : Option Nat)
    (printed : Nat)
    (p : Puller Unit) : Action (Puller Unit) :=
  match _h : p.nextFrame with
  | (none, after) => pure after
  | (some f, after) => do
      Action.emit out p.label f
      if Action.IsEnough count (printed + 1) then pure after
      else emitFrames out count (printed + 1) after
termination_by p.reader.measure
decreasing_by exact Puller.measure_lt_of_nextFrame _h

/- Run the command. -/
def run
    (a : PullArguments) : Action Unit := do
  let timeout ← Action.ofResult (Flag.duration a.timeout)
  let extra ← Action.ofResult (a.params.mapM Flag.field)
  match a.out with
  | none => pure ()
  | some dir => Action.createOut dir
  let p ← openPuller (a.config timeout extra)
  let after ← emitFrames a.out a.count 0 p
  Action.printSummary "stats" after.stats.json

end PullArguments

end Reframe
