import Reframe.Duration

/-
  This file defines the loop in which a receiver takes in
  datagrams, as far as its beginning and end are concerned.

  The loop looks whether it is to go on, then waits for a
  datagram, and looks again only after that.  Closing tells
  it to end and waits for that, but no longer than a given
  time: a loop that takes longer is left to itself.

  The loop's thread is left out, and so is the clock: how
  long a wait takes comes with what happens to the loop.

  Key definitions include:
    * `ReceiveLoop`
    * `ReceiveLoop.look`
    * `ReceiveLoop.silence`
    * `ReceiveLoop.close`
-/

namespace Reframe

/-
  A loop: how long it waits for a datagram, how long it is
  waited for at the closing, whether it is to go on, whether
  someone holds on to it, and whether it has ended.
-/
structure ReceiveLoop where
  receiveTimeout : Duration
  closeTimeout : Duration
  isOpen : Bool := true
  attached : Bool := true
  ended : Bool := false
deriving DecidableEq, Repr

namespace ReceiveLoop

/- The loop goes on, and is held on to. -/
def running
    (l : ReceiveLoop) : Bool :=
  l.attached && !l.ended && l.isOpen

/- End if the loop is not to go on. -/
def look
    (l : ReceiveLoop) : ReceiveLoop :=
  if l.isOpen then l else { l with ended := true }

/-
  No datagram has arrived since the loop began to wait.  The
  wait ends once it has taken its time.
-/
def silence
    (l : ReceiveLoop)
    (waited : Duration) : ReceiveLoop :=
  if l.receiveTimeout.nanos ≤ waited.nanos then l.look
  else l

/-
  Tell the loop to end, and wait for that unless this was
  done before.  The loop looks again after the time that is
  left, and is left to itself if it is not waited for so
  long.
-/
def close
    (l : ReceiveLoop)
    (left : Duration) : ReceiveLoop :=
  let told := { l with isOpen := false }
  if told.attached then
    let released := { told with attached := false }
    if left.nanos ≤ l.closeTimeout.nanos then released.look
    else released
  else told

/- A loop that was told to end, and that nobody waits for. -/
def detached
    (l : ReceiveLoop) : ReceiveLoop :=
  { l with isOpen := false, attached := false }

/- A loop that was told to end, and did. -/
def stopped
    (l : ReceiveLoop) : ReceiveLoop :=
  { l.detached with ended := true }

@[simp]
theorem look_detached
    (l : ReceiveLoop) :
    l.detached.look = l.stopped := rfl

@[simp]
theorem look_stopped
    (l : ReceiveLoop) :
    l.stopped.look = l.stopped := rfl

@[simp]
theorem silence_stopped
    (l : ReceiveLoop)
    (waited : Duration) :
    l.stopped.silence waited = l.stopped := by
  simp [silence]

@[simp]
theorem close_detached
    (l : ReceiveLoop)
    (left : Duration) :
    l.detached.close left = l.detached := rfl

@[simp]
theorem close_stopped
    (l : ReceiveLoop)
    (left : Duration) :
    l.stopped.close left = l.stopped := rfl

end ReceiveLoop

end Reframe
