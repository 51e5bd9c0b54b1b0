/-
  This file defines failures of reads, writes and sockets:
  the class of the failure, by which callers act, and its
  wording, which is only passed on.

  Key definitions include:
    * `IoKind`
    * `IoKind.IsTimeout`
    * `IoError`
    * `IoError.ofSystem`
-/

namespace Reframe

/-
  The classes of failure that some caller tells apart.  All
  further ones are `other`.
-/
inductive IoKind where
| notFound
| permissionDenied
| connectionRefused
| connectionReset
| connectionAborted
| notConnected
| addressInUse
| addressNotAvailable
| networkUnreachable
| brokenPipe
| alreadyExists
| wouldBlock
| notADirectory
| isADirectory
| invalidInput
| invalidData
| timedOut
| interrupted
| unexpectedEnd
| other
deriving DecidableEq, Repr

namespace IoKind

/- The failure means that time ran out. -/
def IsTimeout
    (k : IoKind) : Prop :=
  k = .timedOut ∨ k = .wouldBlock

instance
    (k : IoKind) :
    Decidable k.IsTimeout := by
  unfold IsTimeout
  infer_instance

end IoKind

/-
  A failed operation: its class and what the system says
  about it.
-/
structure IoError where
  kind : IoKind
  text : String
deriving DecidableEq, Repr

namespace IoError

/- A failure that the operating system reports by number. -/
def ofSystem
    (kind : IoKind)
    (wording : String)
    (number : Nat) : IoError where
  kind := kind
  text := s!"{wording} (os error {number})"

def noSuchFile : IoError :=
  ofSystem .notFound "No such file or directory" 2

/- The name of a new directory is taken by a file. -/
def fileExists : IoError :=
  ofSystem .alreadyExists "File exists" 17

/- A path goes on below a file. -/
def notADirectory : IoError :=
  ofSystem .notADirectory "Not a directory" 20

def isADirectory : IoError :=
  ofSystem .isADirectory "Is a directory" 21

/- An operation does not go with what it is given. -/
def invalidArgument : IoError :=
  ofSystem .invalidInput "Invalid argument" 22

def nameTooLong : IoError :=
  ofSystem .other "File name too long" 36

def messageTooLong : IoError :=
  ofSystem .other "Message too long" 90

def addressInUse : IoError :=
  ofSystem .addressInUse "Address already in use" 98

/- The address to bind is not one of the host's own. -/
def addressNotAvailable : IoError :=
  ofSystem .addressNotAvailable
    "Cannot assign requested address" 99

def networkUnreachable : IoError :=
  ofSystem .networkUnreachable "Network is unreachable" 101

end IoError

end Reframe
