import Handoff.Shutdown.Receiver

/-!
Shutdown channels with any number of senders and receivers, all held under names.
-/

namespace Handoff.Shutdown

/-- A receiver: its channel, and how many of the channel's requests it has passed. -/
structure Receiver where
  channel : Nat
  position : Nat
deriving DecidableEq, Repr

/-- Channels by number, with the count of requests sent on each; and who holds an end of which. -/
structure Hub where
  sent : List Nat
  senders : List (String × Nat)
  receivers : List (String × Receiver)
deriving DecidableEq, Repr

/-- An operation on a hub. -/
inductive Action
  -- Opens a channel and holds its sender under a name.
  | create (sender : String)
  -- Holds a further sender of a sender's channel.
  | clone (sender source : String)
  -- Holds a receiver of a sender's channel, which will find later requests.
  | subscribe (receiver source : String)
  -- Sends a request.
  | trigger (sender : String)
  -- Receives without waiting.
  | receive (receiver : String)
  | dropSender (sender : String)
  | dropReceiver (receiver : String)
deriving DecidableEq, Repr

/-- The answer to an operation. -/
inductive Reply
  | created
  | cloned
  | subscribed
  -- The number of receivers that will find the request.
  | notified (count : Nat)
  | received (reception : Reception)
  | dropped
  -- Nothing is held under the name.
  | absent
deriving DecidableEq, Repr

namespace Hub

/-- One channel, whose sender is held under `name`. -/
def single (name : String) : Hub := ⟨[0], [(name, 0)], []⟩

def without {α : Type} (name : String) (held : List (String × α)) : List (String × α) :=
  held.filter (fun entry => entry.1 ≠ name)

/-- A list of named things with `x` under `name`, in place of what was held there. -/
def hold {α : Type} (name : String) (x : α) (held : List (String × α)) : List (String × α) :=
  (name, x) :: without name held

def sentOn (hub : Hub) (channel : Nat) : Nat := hub.sent[channel]?.getD 0

def isAlive (hub : Hub) (channel : Nat) : Bool := hub.senders.any (fun entry => entry.2 == channel)

def audience (hub : Hub) (channel : Nat) : Nat :=
  hub.receivers.countP (fun entry => entry.2.channel == channel)

/-- Carries out an operation. A request without receivers is lost. -/
def act (hub : Hub) : Action → Hub × Reply
  | .create sender =>
    ({ hub with sent := hub.sent ++ [0], senders := hold sender hub.sent.length hub.senders }, .created)
  | .clone sender source =>
    match hub.senders.lookup source with
    | some channel => ({ hub with senders := hold sender channel hub.senders }, .cloned)
    | none => (hub, .absent)
  | .subscribe receiver source =>
    match hub.senders.lookup source with
    | some channel =>
      ({ hub with receivers := hold receiver ⟨channel, hub.sentOn channel⟩ hub.receivers }, .subscribed)
    | none => (hub, .absent)
  | .trigger sender =>
    match hub.senders.lookup sender with
    | some channel =>
      if hub.audience channel = 0 then (hub, .notified 0)
      else ({ hub with sent := hub.sent.set channel (hub.sentOn channel + 1) },
        .notified (hub.audience channel))
    | none => (hub, .absent)
  | .receive receiver =>
    match hub.receivers.lookup receiver with
    | some r =>
      let (reception, position) := Shutdown.receive (hub.sentOn r.channel) (hub.isAlive r.channel) r.position
      ({ hub with receivers := hold receiver { r with position } hub.receivers }, .received reception)
    | none => (hub, .absent)
  | .dropSender sender =>
    match hub.senders.lookup sender with
    | some _ => ({ hub with senders := without sender hub.senders }, .dropped)
    | none => (hub, .absent)
  | .dropReceiver receiver =>
    match hub.receivers.lookup receiver with
    | some _ => ({ hub with receivers := without receiver hub.receivers }, .dropped)
    | none => (hub, .absent)

/-- Carries out operations in order, and gives all answers. -/
def run (hub : Hub) : List Action → Hub × List Reply
  | [] => (hub, [])
  | action :: rest =>
    let (next, reply) := hub.act action
    let (last, replies) := run next rest
    (last, reply :: replies)

end Hub

end Handoff.Shutdown
