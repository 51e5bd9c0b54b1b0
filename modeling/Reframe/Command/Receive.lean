import Reframe.Command.Basic
import Reframe.Command.Flag
import Reframe.Command.Session
import Reframe.Receiver.Open

/-
  This file defines the command that starts a stream of
  datagrams and prints the frames that are rebuilt.

  Key definitions include:
    * `ReceiveArguments.decoderOf`
    * `ReceiveArguments.run`
-/

namespace Reframe

namespace ReceiveArguments

------------------------------------------------------------
-- Setting Up
------------------------------------------------------------

/- The decoder that was asked for. -/
def decoderOf
    (codec : VideoCodec)
    (decode : Bool) : Except Failure (Decoder Unit) :=
  if decode = false then .ok .identity
  else
    match codec with
    | .mjpeg => .ok (.jpeg Decoder.noPicture)
    | .h264 =>
        .error (.usage
          ("--decode supports mjpeg only, not " ++
            codec.name))

/- The codec that was asked for. -/
def codecOf
    (name : String) : Except Failure VideoCodec :=
  match VideoCodec.ofName name with
  | .ok c => .ok c
  | .error e => .error (.ofFrame "invalid --codec" e)

/- What the receiver is opened with. -/
def config
    (a : ReceiveArguments)
    (codec : VideoCodec)
    (timeout : Duration) : ReceiverConfig where
  service :=
    { baseUrl := a.baseUrl
      device := a.device
      timeout := timeout }
  bindAddress := ⟨a.bind, a.port, 0⟩
  targetHost := a.target
  codec := codec
  width := a.width
  height := a.height
  fps := a.fps
  bitrate := a.bitrate
  gop := a.gop

------------------------------------------------------------
-- Printing Frames
------------------------------------------------------------

/- A receiver that reports gaps to its service. -/
abbrev Served :=
  Receiver Unit ServiceFeedback

/- Take in a batch of datagrams. -/
def takeBatch
    (r : Served)
    (batch : List Bytes) : Served :=
  batch.foldl (fun r datagram => r.receive datagram 0) r

/- How receiving ended, and the receiver at its end. -/
structure Ending where
  failure : Option Failure
  receiver : Served

/-
  Take in datagrams batch by batch, and print the picture
  that is there after each, if it is a new one.  Once there
  are no more datagrams, the time for the next picture runs
  out.
-/
def printFrames
    (source : String)
    (count : Option Nat)
    (idle : Duration)
    (seen printed : Nat)
    (r : Served) : List (List Bytes) → Action Ending
| [] =>
    pure
      { failure := some ⟨ExitCode.timeout,
          "no frame received for " ++ idle.text⟩
        receiver := r }
| batch :: rest => do
    let r := takeBatch r batch
    match r.latest.newer? seen with
    | none =>
        printFrames source count idle seen printed r rest
    | some (image, generation) =>
        let s ← get
        Action.printFrame
          (.ofImage source (generation - 1) s.clock.text
            image)
        if Action.IsEnough count (printed + 1) then
          pure ⟨none, r⟩
        else
          printFrames source count idle generation
            (printed + 1) r rest

/- Open the receiver. -/
def openReceiver
    (c : ReceiverConfig)
    (decoder : Decoder Unit) :
    Action (Receiver.Opened Unit ServiceFeedback) := do
  let s ← get
  match Receiver.openAt c decoder s.network with
  | (.error e, network) =>
      set { s with network := network }
      throw (.ofClient "stream start failed" e)
  | (.ok opened, network) =>
      set { s with network := network }
      pure opened

/- Take over the network from the requests of a receiver. -/
def keepNetwork
    (r : Served)
    (s : Session) : Session :=
  match r.feedback with
  | none => s
  | some c => { s with network := c.sink.state.network }

/- Run the command. -/
def run
    (a : ReceiveArguments) : Action Unit := do
  let codec ← Action.ofResult (codecOf a.codec)
  let idle ← Action.ofResult (Flag.duration a.idleTimeout)
  let timeout ← Action.ofResult (Flag.duration a.timeout)
  let decoder ← Action.ofResult (decoderOf codec a.decode)
  let opened ← openReceiver (a.config codec timeout) decoder
  let s ← get
  let ending ←
    printFrames ("udp://" ++ opened.address.text) a.count
      idle 0 0 opened.receiver s.network.batches
  modify (keepNetwork ending.receiver)
  Action.printSummary "stats"
    (ending.receiver.close ⟨0⟩).stats.json
  match ending.failure with
  | none => pure ()
  | some e => throw e

end ReceiveArguments

end Reframe
