import Reframe.Command.Basic
import Reframe.Command.Flag
import Reframe.Command.Session

/-
  This file defines the command that sends files as frames,
  each file one frame, with numbers that go up by one.

  Key definitions include:
    * `SendReport`
    * `SendRun`
    * `SendRun.sendAll`
    * `sendFrames`
    * `SendArguments.run`
-/

namespace Reframe

------------------------------------------------------------
-- Sending Frames
------------------------------------------------------------

/-
  What was sent: the number of frames and of their bytes,
  and the first and last number of a frame.
-/
structure SendReport where
  frames : Nat := 0
  bytes : Nat := 0
  firstId : UInt32
  lastId : UInt32
deriving DecidableEq, Repr

/- The report as a JSON object. -/
def SendReport.json
    (r : SendReport) : Json :=
  .object
    [("frames", .ofNat r.frames),
      ("bytes", .ofNat r.bytes),
      ("first_id", .ofNat r.firstId.toNat),
      ("last_id", .ofNat r.lastId.toNat)]

/-
  How far sending got: the writer, the sink, the number of
  the next frame, the report so far, the datagrams that were
  offered and those that were accepted, last one first, and
  the failure, if any.
-/
structure SendRun where
  writer : FragmentWriter
  sink : DatagramSink
  nextId : UInt32
  report : SendReport
  offered : List Bytes := []
  accepted : List Bytes := []
  failure : Option FrameError := none

namespace SendRun

/- Before the first frame. -/
def start
    (writer : FragmentWriter)
    (sink : DatagramSink)
    (startId : UInt32) : SendRun where
  writer := writer
  sink := sink
  nextId := startId
  report := { firstId := startId, lastId := startId }

/- Send the next frame, unless one has failed. -/
def sendOne
    (r : SendRun)
    (data : Bytes) : SendRun :=
  match r.failure with
  | some _ => r
  | none =>
      let s := r.writer.sendWithId r.nextId data r.sink
      let tried :=
        { r with
          writer := s.writer
          sink := s.delivery.sink
          offered := s.delivery.offered ++ r.offered
          accepted := s.delivery.accepted ++ r.accepted }
      match s.result with
      | .error e => { tried with failure := some e }
      | .ok frameId =>
          { tried with
            nextId := s.writer.nextFrameId
            report :=
              { r.report with
                frames := r.report.frames + 1
                bytes := r.report.bytes + data.length
                lastId := frameId } }

/- Send frames, first one first. -/
def sendAll
    (r : SendRun)
    (frames : List Bytes) : SendRun :=
  frames.foldl sendOne r

/- Send frames a number of times. -/
def sendPasses
    (frames : List Bytes) : Nat → SendRun → SendRun
| 0, r => r
| n + 1, r =>
    match r.failure with
    | some _ => r
    | none => sendPasses frames n (r.sendAll frames)

/- The report, or why a frame failed. -/
def result
    (r : SendRun) : Except FrameError SendReport :=
  match r.failure with
  | some e => .error e
  | none => .ok r.report

/- The accepted datagrams, first one first. -/
def datagrams
    (r : SendRun) : List Bytes :=
  r.accepted.reverse

end SendRun

/- Send frames a number of times, from a number on. -/
def sendFrames
    (writer : FragmentWriter)
    (sink : DatagramSink)
    (frames : List Bytes)
    (startId : UInt32)
    (passes : Nat) : SendRun :=
  SendRun.sendPasses frames passes
    (.start writer sink startId)

------------------------------------------------------------
-- The Command
------------------------------------------------------------

namespace SendArguments

/- Read the files, first one first. -/
def loadFrames : List String → Action (List Bytes)
| [] => pure []
| name :: names => do
    let s ← get
    match s.files.read (.ofText name) with
    | .error e =>
        throw (.ofIo ("failed reading " ++ name) e)
    | .ok content =>
        let rest ← loadFrames names
        pure (content :: rest)

/- The address to send from. -/
def localAddress
    (a : SendArguments) : SocketAddress :=
  match a.address.host with
  | .v4 _ _ _ _ => ⟨.anyV4, 0, 0⟩
  | .v6 _ => ⟨.anyV6, 0, 0⟩

/- Open a sink for datagrams to the address. -/
def openSink
    (a : SendArguments) : Action DatagramSink := do
  let s ← get
  match s.network.bind a.localAddress with
  | .error e => throw (.ofTransport "bind failed" e)
  | .ok _ =>
      match s.network.connect a.address with
      | .error e => throw (.ofTransport "connect failed" e)
      | .ok sink => pure sink

/- Run the command. -/
def run
    (a : SendArguments) : Action Unit := do
  if a.mtu = 0 then
    throw (.usage "--mtu must be greater than zero")
  match a.interval with
  | none => pure ()
  | some text =>
      let _ ← Action.ofResult (Flag.duration text)
  let frames ← loadFrames a.files
  let sink ← a.openSink
  let writer := FragmentWriter.withMtu a.mtu
  if ¬ writer.HasBuffer then
    throw .bufferSize
  let r :=
    sendFrames writer sink frames a.startId a.passes
  modify (fun s => { s with sent := r.accepted ++ s.sent })
  match r.result with
  | .error e => throw (.ofFrame "send failed" e)
  | .ok report => Action.printSummary "sent" report.json

end SendArguments

end Reframe
