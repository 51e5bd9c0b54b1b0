import Reframe.Command.Basic
import Reframe.Command.Session

/-
  This file defines the command that cuts the frames out of
  a file or of standard input.

  Key definitions include:
    * `Action.emitFrames`
    * `ScanArguments.openInput`
    * `ScanArguments.run`
-/

namespace Reframe

/-
  How many bytes standard input hands out before it reads
  on, unless more are asked for at once.
-/
def inputBufferSize : Nat :=
  8192

/- Standard input, read in chunks of a size. -/
def standardInput
    (chunkSize : Nat)
    (content : Bytes) : ByteSource :=
  if inputBufferSize ≤ chunkSize then [.data content]
  else
    (ByteSource.pieces inputBufferSize content).map .data

/-
  Where frames come from: a name for it, the place of the
  file, if it is one, and what there is to read.
-/
structure ScanInput where
  label : String
  place : Option (List String)
  source : ByteSource
deriving DecidableEq, Repr

/-
  The file of a frame is the file that the frame was read
  from.
-/
def Overwrites
    (files : FileTree)
    (out : Option String)
    (input : ScanInput)
    (f : ScannedFrame) : Prop :=
  match out, input.place with
  | some dir, some place =>
      (files.resolve (.ofText
        (Action.frameFile dir f))).toOption = some place
  | _, _ => False

instance
    (files : FileTree)
    (out : Option String)
    (input : ScanInput)
    (f : ScannedFrame) :
    Decidable (Overwrites files out input f) := by
  unfold Overwrites
  split <;> infer_instance

namespace Action

/-
  Write and print frames as they are read, until they are
  enough.  A frame is no longer than what was read up to its
  end, so nothing is left to be read of a file that it is
  written over.
-/
def emitFrames
    (out : Option String)
    (input : ScanInput)
    (count : Option Nat)
    (printed : Nat)
    (r : FrameReader) : Action FrameReader :=
  match _h : r.read with
  | (.error e, _) => throw (.ofFrame "scan failed" e)
  | (.ok none, after) => pure after
  | (.ok (some f), after) => do
      emit out input.label f
      let s ← get
      if IsEnough count (printed + 1) then pure after
      else if Overwrites s.files out input f then
        emitFrames out input count (printed + 1) after.cutOff
      else
        emitFrames out input count (printed + 1) after
termination_by r.measure
decreasing_by
  · exact FrameReader.measure_cutOff_lt_of_read _h
  · exact FrameReader.measure_lt_of_read _h

end Action

namespace ScanArguments

/- Open the file, or standard input if it is named `-`. -/
def openInput
    (a : ScanArguments) : Action ScanInput := do
  let s ← get
  if a.input = "-" then
    pure
      ⟨"stdin", none, standardInput a.chunkSize s.input⟩
  else
    match s.files.open? (.ofText a.input) with
    | .error e =>
        throw (.ofIo ("failed opening " ++ a.input) e)
    | .ok (_, .directory) =>
        pure ⟨a.input, none, [.fail .isADirectory]⟩
    | .ok (place, .file content) =>
        pure ⟨a.input, some place, [.data content]⟩

/- Run the command. -/
def run
    (a : ScanArguments) : Action Unit := do
  if a.chunkSize = 0 then
    throw (.usage "--chunk-size must be greater than zero")
  match a.out with
  | none => pure ()
  | some dir => Action.createOut dir
  let input ← a.openInput
  let reader :=
    FrameReader.ofSource input.source
      (a.maxFrameSize.getD defaultFrameLimit) a.chunkSize
  if ¬ reader.HasBuffer then
    throw .bufferSize
  let after ←
    Action.emitFrames a.out input a.count 0 reader
  Action.printSummary "stats" after.stats.json

end ScanArguments

end Reframe
