import Reframe.Command.FileTree
import Reframe.Failure
import Reframe.Net.Reach
import Reframe.Report.Printer

/-
  This file defines what commands work on: files, standard
  input, the network and the clock, and what they print.

  Key definitions include:
    * `Session`
    * `Action`
    * `Action.printFrame`
    * `Action.printSummary`
    * `Action.createOut`
    * `Action.emit`
    * `Action.IsEnough`
-/

namespace Reframe

/-
  What a command works on.  What was printed and what was
  sent come last one first.
-/
structure Session where
  files : FileTree := []
  network : Network := .isolated
  input : Bytes := []
  clock : Timestamp := .epoch
  format : OutputFormat := .json
  printed : List Bytes := []
  sent : List Bytes := []

namespace Session

def output
    (s : Session) : Bytes :=
  s.printed.reverse.flatten

def print
    (s : Session)
    (bs : Bytes) : Session :=
  { s with printed := bs :: s.printed }

end Session

/-
  A part of a command.  What was done before a failure stays
  done.
-/
abbrev Action :=
  ExceptT Failure (StateM Session)

namespace Action

/- Go on with a result, or fail. -/
def ofResult
    {α : Type}
    (r : Except Failure α) : Action α :=
  match r with
  | .ok a => pure a
  | .error e => throw e

/- Print the record of a frame. -/
def printFrame
    (r : FrameRecord) : Action Unit :=
  modify (fun s => s.print (s.format.frame r))

def printSummary
    (title : String)
    (value : Json) : Action Unit :=
  modify (fun s =>
    s.print (s.format.summary (.ofJson title value)))

/- Create the directory that frames are written to. -/
def createOut
    (dir : String) : Action Unit := do
  let s ← get
  let (result, files) :=
    s.files.createDirectories (.ofText dir)
  set { s with files := files }
  match result with
  | .error e => throw (.ofIo ("failed creating " ++ dir) e)
  | .ok () => pure ()

/- The name of the file of a frame in a directory. -/
def frameFile
    (dir : String)
    (f : ScannedFrame) : String :=
  FilePath.below dir s!"frame-{f.sequence}.jpg"

/- Write a frame into a directory. -/
def saveFrame
    (dir : String)
    (f : ScannedFrame) : Action Unit := do
  let s ← get
  let name := frameFile dir f
  match s.files.write (.ofText name) f.data with
  | .error e => throw (.ofIo ("failed writing " ++ name) e)
  | .ok files => set { s with files := files }

/-
  Write a frame into a directory, if one is given, and print
  its record.
-/
def emit
    (out : Option String)
    (source : String)
    (f : ScannedFrame) : Action Unit := do
  match out with
  | none => pure ()
  | some dir => saveFrame dir f
  let s ← get
  printFrame (.ofScanned source s.clock f)

/-
  As many frames were printed as were asked for.  Commands
  ask this behind each frame.
-/
def IsEnough
    (count : Option Nat)
    (printed : Nat) : Prop :=
  ∃ n ∈ count, n ≤ printed

instance
    (count : Option Nat)
    (printed : Nat) :
    Decidable (IsEnough count printed) := by
  unfold IsEnough
  cases count <;> infer_instance

end Action

end Reframe
