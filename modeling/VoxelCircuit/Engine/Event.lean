import VoxelCircuit.Block.Id
import VoxelCircuit.Space.Position

/-! # Events

What an engine lets others know, and where it sends it. Sending never waits and
never fails: what a channel does not take, because it is full or nobody receives from
it any more, is dropped and counted.
-/

namespace VoxelCircuit

/-- Something that happened in a grid. -/
inductive Event where
  /-- A block became one of another type. -/
  | became (pos : Pos) (before after : BlockId)
deriving DecidableEq

/-- What events can be sent to. Those who send make no use of the answer. -/
class Sink (σ : Type) where
  /-- The sink after an event is sent to it, and whether it took the event. -/
  notify : σ → Event → σ × Bool

/-- What can be asked of a channel for events. None of it waits. -/
class Channel (χ : Type) where
  /-- The channel after an event is sent, and whether it took the event. -/
  send : χ → Event → χ × Bool
  /-- The channel after receiving the event that has waited longest, if there is one. -/
  receive : χ → χ × Option Event
  /-- The channel after its receiver is gone. -/
  hangUp : χ → χ

/-- A first-in first-out queue of events with a limited number of places. -/
structure EventChannel where
  /-- The number of places. -/
  capacity : Nat
  /-- The events waiting to be received, the oldest first. -/
  waiting : List Event
  /-- Whether somebody may still receive from the channel. -/
  connected : Bool
deriving DecidableEq

namespace EventChannel

/-- An empty channel. -/
def ofCapacity (capacity : Nat) : EventChannel :=
  ⟨capacity, [], true⟩

/-- The channel after sending an event: the event waits if there is a place for it
and somebody to receive it, and is not taken otherwise. -/
def send (channel : EventChannel) (event : Event) : EventChannel × Bool :=
  if channel.connected ∧ channel.waiting.length < channel.capacity then
    ({ channel with waiting := channel.waiting ++ [event] }, true)
  else (channel, false)

/-- The channel after receiving the event that has waited longest, if there is one. -/
def receive (channel : EventChannel) : EventChannel × Option Event :=
  ({ channel with waiting := channel.waiting.tail }, channel.waiting.head?)

/-- The channel after its receiver is gone, with all that was waiting. -/
def hangUp (channel : EventChannel) : EventChannel :=
  { channel with waiting := [], connected := false }

instance : Channel EventChannel where
  send := send
  receive := receive
  hangUp := hangUp

end EventChannel

/-- A sink that sends events over a channel. -/
structure ChannelSink (χ : Type) where
  /-- The channel. -/
  queue : χ
  /-- The number of events dropped so far. -/
  dropped : Nat
deriving DecidableEq

namespace ChannelSink

variable {χ : Type}

/-- A sink over a channel, before any event. -/
def ofChannel (channel : χ) : ChannelSink χ := ⟨channel, 0⟩

/-- The sink after an event, which is dropped if the channel does not take it. -/
def notify [Channel χ] (sink : ChannelSink χ) (event : Event) : ChannelSink χ × Bool :=
  let sent := Channel.send sink.queue event
  (⟨sent.1, if sent.2 then sink.dropped else sink.dropped + 1⟩, sent.2)

instance [Channel χ] : Sink (ChannelSink χ) where
  notify := notify

end ChannelSink

/-- Where engines send their events. -/
inductive EventSink where
  /-- Nowhere. -/
  | ignore
  /-- To a record of all events, the oldest first. -/
  | record (events : List Event)
  /-- To a channel. -/
  | channel (sink : ChannelSink EventChannel)
deriving DecidableEq

/-- The sink after an event, and whether it took the event. -/
def EventSink.notify (sink : EventSink) (event : Event) : EventSink × Bool :=
  match sink with
  | ignore => (ignore, false)
  | record events => (record (events ++ [event]), true)
  | channel sink =>
    let (after, taken) := sink.notify event
    (channel after, taken)

instance : Sink EventSink where
  notify := EventSink.notify

end VoxelCircuit
