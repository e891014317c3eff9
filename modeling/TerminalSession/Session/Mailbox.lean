/-!
# Mailboxes

The bounded queue between the process and the session.

## Main definitions

* `ProcessEvent`: output of the process, or its end
* `Mailbox`: the events that wait, oldest first
* `Mailbox.offer`: the process puts an event in
* `Mailbox.drain`: the session takes all of them

## Design notes

* Either side can close the queue. Once the process has closed it, the events that wait can still be
  taken; once the session has closed it, nothing can be put in.
-/

namespace TerminalSession

/-- What a process tells: a piece of its output, or that it has ended by itself. -/
inductive ProcessEvent where
  | data (bytes : List UInt8)
  | exited
  deriving DecidableEq, Repr, Inhabited

/-- What comes of offering an event. Nothing waits for room: an event that finds none is dropped,
and its sender is told. -/
inductive Delivery where
  | accepted
  | full
  | closed
  deriving DecidableEq, Repr, Inhabited

/-- The events that wait for the session, oldest first. Either side can close it; what is inside can
still be taken out when the process has closed it. -/
structure Mailbox where
  capacity : Nat
  queue : List ProcessEvent := []
  /-- The process has not closed the queue. -/
  senderOpen : Bool := true
  /-- The session has not closed the queue. -/
  receiverOpen : Bool := true
  deriving DecidableEq, Repr, Inhabited

namespace Mailbox

/-- An empty queue; it has room for one event at least. -/
def empty (capacity : Nat) : Mailbox := { capacity := max capacity 1 }

/-- The process puts an event in, if the queue is open and has room. That it is closed is told
before that it is full. -/
def offer (m : Mailbox) (event : ProcessEvent) : Mailbox × Delivery :=
  if !m.senderOpen || !m.receiverOpen then (m, .closed)
  else if m.capacity ≤ m.queue.length then (m, .full)
  else ({ m with queue := m.queue ++ [event] }, .accepted)

/-- The process closes the queue. What waits can still be taken. -/
def hangUp (m : Mailbox) : Mailbox := { m with senderOpen := false }

/-- The session closes the queue; what waits is lost. -/
def close (m : Mailbox) : Mailbox := { m with queue := [], receiverOpen := false }

/-- Whether nothing more can come: the process has closed a queue that the session still reads. -/
def disconnected (m : Mailbox) : Bool := m.receiverOpen && !m.senderOpen

/-- The session takes all events that wait. -/
def drain (m : Mailbox) : Mailbox × List ProcessEvent := ({ m with queue := [] }, m.queue)

end Mailbox

end TerminalSession
