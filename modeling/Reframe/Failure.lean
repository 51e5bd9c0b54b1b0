import Reframe.ClientError

/-
  This file defines how failures end a command: with a
  message and an exit code that tells their class.

  Key definitions include:
    * `ExitCode.success`
    * `IoError.exitCode`
    * `TransportError.exitCode`
    * `FrameError.exitCode`
    * `ClientError.exitCode`
    * `Failure`
    * `Failure.because`
-/

namespace Reframe

------------------------------------------------------------
-- Exit Codes
------------------------------------------------------------

namespace ExitCode

def success : Nat :=
  0

/- The stream ended or was closed too early. -/
def failure : Nat :=
  1

/- The arguments cannot be understood. -/
def badArguments : Nat :=
  2

/- The network or the service failed. -/
def transport : Nat :=
  3

/- Data are not what they should be. -/
def dataInvalid : Nat :=
  60

/- An argument has a value that is of no use. -/
def usage : Nat :=
  64

/- A buffer was to be larger than a buffer can be. -/
def bufferSize : Nat :=
  101

def timeout : Nat :=
  124

/- Anything else failed. -/
def internal : Nat :=
  125

end ExitCode

def IoError.exitCode
    (e : IoError) : Nat :=
  match e.kind with
  | .timedOut | .wouldBlock => ExitCode.timeout
  | .notFound | .invalidInput => ExitCode.usage
  | .connectionRefused | .connectionReset
  | .addressInUse | .addressNotAvailable =>
      ExitCode.transport
  | _ => ExitCode.internal

def TransportError.exitCode
    (e : TransportError) : Nat :=
  if e.IsTimeout then ExitCode.timeout
  else
    match e with
    | .bind _ source => source.exitCode
    | .io source => source.exitCode
    | _ => ExitCode.transport

def FrameError.exitCode
    (e : FrameError) : Nat :=
  match e with
  | .io source => source.exitCode
  | .connectionClosed => ExitCode.failure
  | .unknownCodec _ => ExitCode.usage
  | .payloadTooLarge _ _ => ExitCode.dataInvalid
  | _ =>
      if e.IsMalformedFragment then ExitCode.dataInvalid
      else ExitCode.internal

def ClientError.exitCode : ClientError → Nat
| .connection source => source.exitCode
| .frame source => source.exitCode
| .decode _ => ExitCode.dataInvalid
| .json _ => ExitCode.dataInvalid
| .timeout _ => ExitCode.timeout
| .closed => ExitCode.failure

------------------------------------------------------------
-- Failed Commands
------------------------------------------------------------

/-
  The end of a command that failed.  Without a message there
  is nothing to complain about.
-/
structure Failure where
  code : Nat
  message : String
deriving DecidableEq, Repr

namespace Failure

/- An argument has a value that is of no use. -/
def usage
    (message : String) : Failure :=
  ⟨ExitCode.usage, message⟩

/- A buffer was to be larger than a buffer can be. -/
def bufferSize : Failure :=
  ⟨ExitCode.bufferSize, ""⟩

def complaint
    (f : Failure) : Option String :=
  if f.message = "" then none else some f.message

/- What failed, and why. -/
def because
    (what : String)
    (code : Nat)
    (why : String) : Failure :=
  ⟨code, what ++ ": " ++ why⟩

def ofIo
    (what : String)
    (e : IoError) : Failure :=
  because what e.exitCode e.text

def ofTransport
    (what : String)
    (e : TransportError) : Failure :=
  because what e.exitCode e.message

def ofFrame
    (what : String)
    (e : FrameError) : Failure :=
  because what e.exitCode e.message

def ofClient
    (what : String)
    (e : ClientError) : Failure :=
  because what e.exitCode e.message

end Failure

end Reframe
