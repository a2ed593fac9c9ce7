import Mathlib.Logic.Function.Basic
import VoxelCircuit.Proofs.Calls
import VoxelCircuit.Proofs.Engine.Replacement

/-! # The delivery of events

An engine sends its events over a channel that may be full, may be received from at any time and
may lose its receiver. Each block that an engine replaces is told of in one event, which the
channel takes or drops. What it takes it delivers in order and once, and what it drops is
counted; of all this nothing comes back to the engine (`VoxelCircuit.Engine.events_delivered`).
Nothing is assumed of the channel but that it is a first-in first-out queue of its capacity
(`VoxelCircuit.Channel.IsQueue`): with any such channel a session goes as with the one that
engines run with (`VoxelCircuit.Engine.Session.calls_seen`).
-/

namespace VoxelCircuit

/-- A channel is a first-in first-out queue, of which its capacity, the events that wait and whether
there is a receiver can be seen: sending fails exactly when the queue is full or the receiver is
gone. -/
structure Channel.IsQueue {χ : Type} [Channel χ] (seen : χ → EventChannel) : Prop where
  takes : ∀ channel event, (seen channel).connected = true →
    (seen channel).waiting.length < (seen channel).capacity →
      (send channel event).2 = true ∧ seen (send channel event).1 =
        { seen channel with waiting := (seen channel).waiting ++ [event] }
  fails : ∀ channel event, (seen channel).connected = false ∨
    (seen channel).capacity ≤ (seen channel).waiting.length →
      (send channel event).2 = false ∧ seen (send channel event).1 = seen channel
  receives : ∀ channel, (receive channel).2 = (seen channel).waiting.head? ∧
    seen (receive channel).1 = { seen channel with waiting := (seen channel).waiting.tail }
  hangsUp : ∀ channel, seen (hangUp channel) =
    { seen channel with waiting := [], connected := false }

namespace EventChannel

/-- An event is taken while somebody may receive it and there is a place for it. -/
theorem send_of_room {queue : EventChannel} (heard : queue.connected = true)
    (room : queue.waiting.length < queue.capacity) (event : Event) :
    queue.send event = ({ queue with waiting := queue.waiting ++ [event] }, true) :=
  if_pos ⟨heard, room⟩

/-- A queue that is full or has lost its receiver takes no event. -/
theorem send_of_refused {queue : EventChannel}
    (refused : queue.connected = false ∨ queue.capacity ≤ queue.waiting.length) (event : Event) :
    queue.send event = (queue, false) := by
  refine if_neg fun able => ?_
  rcases refused with gone | full
  · exact Bool.false_ne_true (gone.symm.trans able.1)
  · exact Nat.not_lt.mpr full able.2

/-- A queue takes an event, or it is full or has lost its receiver. -/
theorem room_or_refused (queue : EventChannel) :
    (queue.connected = true ∧ queue.waiting.length < queue.capacity) ∨
      (queue.connected = false ∨ queue.capacity ≤ queue.waiting.length) := by
  cases queue.connected with
  | false => exact .inr (.inl rfl)
  | true => exact (Nat.lt_or_ge _ _).imp (⟨rfl, ·⟩) .inr

/-- The channel that engines run with is such a queue. -/
theorem isQueue : Channel.IsQueue (id : EventChannel → EventChannel) where
  takes queue event heard room := by
    have sent : Channel.send queue event = _ := send_of_room heard room event
    rw [sent]
    exact ⟨rfl, rfl⟩
  fails queue event refused := by
    have sent : Channel.send queue event = _ := send_of_refused refused event
    rw [sent]
    exact ⟨rfl, rfl⟩
  receives _ := ⟨rfl, rfl⟩
  hangsUp _ := rfl

end EventChannel

/-- What is seen of a queue is sent to alike, and answers alike. -/
theorem Channel.IsQueue.send_seen {χ : Type} [Channel χ] {seen : χ → EventChannel}
    (isQueue : IsQueue seen) (channel : χ) (event : Event) :
    (seen channel).send event = (send channel event).map seen id := by
  rcases (seen channel).room_or_refused with able | refused
  · obtain ⟨taken, after⟩ := isQueue.takes channel event able.1 able.2
    rw [EventChannel.send_of_room able.1 able.2, Prod.map, after, taken]
    rfl
  · obtain ⟨untaken, after⟩ := isQueue.fails channel event refused
    rw [EventChannel.send_of_refused refused, Prod.map, after, untaken]
    rfl

/-- What is seen of a sink over a channel. -/
def ChannelSink.seenBy {χ : Type} (seen : χ → EventChannel) (sink : ChannelSink χ) :
    ChannelSink EventChannel :=
  ⟨seen sink.queue, sink.dropped⟩

/-- What is seen of a sink over a queue is notified alike, and answers alike. -/
theorem ChannelSink.notify_seenBy {χ : Type} [Channel χ] {seen : χ → EventChannel}
    (isQueue : Channel.IsQueue seen) (sink : ChannelSink χ) (event : Event) :
    (sink.seenBy seen).notify event = (sink.notify event).map (seenBy seen) id := by
  have sent : Channel.send (sink.seenBy seen).queue event =
      (Channel.send sink.queue event).map seen id := isQueue.send_seen sink.queue event
  rw [notify, notify, sent]
  rfl

private theorem ChannelSink.notify_eq (queue : EventChannel) (dropped : Nat) (event : Event) :
    Sink.notify (ChannelSink.mk queue dropped) event = (⟨(queue.send event).1,
      if (queue.send event).2 then dropped else dropped + 1⟩, (queue.send event).2) :=
  rfl

/-- An event that a queue takes waits there. -/
theorem ChannelSink.notify_of_room {queue : EventChannel} (heard : queue.connected = true)
    (room : queue.waiting.length < queue.capacity) (dropped : Nat) (event : Event) :
    Sink.notify (ChannelSink.mk queue dropped) event =
      (⟨{ queue with waiting := queue.waiting ++ [event] }, dropped⟩, true) := by
  rw [notify_eq, EventChannel.send_of_room heard room]
  rfl

/-- An event that a queue does not take is counted. -/
theorem ChannelSink.notify_of_refused {queue : EventChannel}
    (refused : queue.connected = false ∨ queue.capacity ≤ queue.waiting.length) (dropped : Nat)
    (event : Event) : Sink.notify (ChannelSink.mk queue dropped) event =
      (⟨queue, dropped + 1⟩, false) := by
  rw [notify_eq, EventChannel.send_of_refused refused]
  rfl

namespace Engine

variable {σ τ χ ι γ : Type}

/-- An engine, and the grids that events are dispatched to. -/
structure Session (σ ι γ : Type) where
  /-- The engine. -/
  engine : Engine σ
  /-- The grids. -/
  grids : ι → γ

/-- A session of an engine with a sink for its events in place of its own. -/
def Session.start (engine : Engine τ) (grids : ι → γ) (sink : σ) : Session σ ι γ :=
  ⟨engine.sendingTo sink, grids⟩

/-- An event for the block at a position of one of the grids. -/
structure Stimulus (ι : Type) where
  /-- The grid. -/
  place : ι
  /-- The position of the block. -/
  pos : Pos
  /-- The event. -/
  event : Signal

/-- What happens in a session. -/
inductive SessionCall (ι : Type) where
  /-- Dispatch an event. -/
  | dispatch (stimulus : Stimulus ι)
  /-- Receive one of the events sent. -/
  | receive
  /-- Drop the receiver. -/
  | hangUp

/-- The event that is dispatched. -/
def SessionCall.stimulus? : SessionCall ι → Option (Stimulus ι)
  | dispatch stimulus => some stimulus
  | receive | hangUp => none

/-- What a dispatch comes to, but for the engine and the events that it sent. -/
structure Result (γ : Type) where
  /-- The grid after it. -/
  grid : γ
  /-- The reports of the compilation. -/
  reports : List Report
  /-- The type that the block became, if it became another, or what went wrong. -/
  outcome : Except EngineError (Option BlockId)

/-- The result of a dispatch. -/
def Dispatch.result (dispatched : Dispatch σ γ) : Result γ :=
  ⟨dispatched.grid, dispatched.reports, dispatched.outcome⟩

namespace Result

/-- Whether a block was replaced. -/
def replaced (result : Result γ) : Bool :=
  match result.outcome with
  | .ok (some _) => true
  | .ok none | .error _ => false

/-- The replacement of a block that was dispatched to in a grid, if the result tells of one. -/
def replacement? [Grid γ] (result : Result γ) (before : γ) (pos : Pos) : Option Event :=
  match result.outcome with
  | .ok (some id) => some (.became pos (Grid.blockId before pos) id)
  | .ok none | .error _ => none

/-- A block was replaced if there is a replacement to tell of. -/
theorem replaced_eq [Grid γ] (result : Result γ) (before : γ) (pos : Pos) :
    result.replaced = (result.replacement? before pos).isSome := by
  unfold replaced replacement?
  split <;> rfl

end Result

/-- What is seen of a call. -/
inductive SessionAnswer (γ : Type) where
  /-- The result of a dispatch, the replacement that was made, and what was sent with whether the
  channel took it. -/
  | dispatched (result : Result γ) (replacement : Option Event) (sent : Option (Event × Bool))
  /-- The event received, if there was one. -/
  | received (event : Option Event)
  /-- The receiver is gone. -/
  | hungUp

namespace SessionAnswer

/-- The result of a dispatch. -/
def result? : SessionAnswer γ → Option (Result γ)
  | dispatched result .. => some result
  | received _ | hungUp => none

/-- Whether a dispatch has answered that the block became one of another type. -/
def replaced (answer : SessionAnswer γ) : Bool :=
  answer.result?.any Result.replaced

/-- The replacement that was made. -/
def replacements : SessionAnswer γ → List Event
  | dispatched _ replacement _ => replacement.toList
  | received _ | hungUp => []

/-- The event that the channel took. -/
def accepted : SessionAnswer γ → List Event
  | dispatched _ _ sent => ((sent.filter Prod.snd).map Prod.fst).toList
  | received _ | hungUp => []

/-- The event that was received. -/
def delivered : SessionAnswer γ → List Event
  | received event => event.toList
  | dispatched .. | hungUp => []

end SessionAnswer

/-- What is seen of an engine that sends its events over a channel. -/
def seenBy (seen : χ → EventChannel) (engine : Engine (ChannelSink χ)) :
    Engine (ChannelSink EventChannel) :=
  engine.sendingTo (engine.events.seenBy seen)

/-- Let the sink of an engine know of an event, if there is one. -/
def tell [Sink σ] (engine : Engine σ) : Option Event → Engine σ × Option (Event × Bool)
  | none => (engine, none)
  | some event =>
    let told := Sink.notify engine.events event
    ({ engine with events := told.1 }, some (event, told.2))

namespace Session

/-- Dispatch an event in a session. -/
def dispatch [Sink σ] [EditableGrid γ] [DecidableEq ι] (session : Session σ ι γ)
    (stimulus : Stimulus ι) : Session σ ι γ × SessionAnswer γ :=
  let before := session.grids stimulus.place
  let done := session.engine.dispatch before stimulus.pos stimulus.event
  (⟨done.engine, Function.update session.grids stimulus.place done.grid⟩,
    .dispatched done.result (done.result.replacement? before stimulus.pos) done.sent)

/-- The session with the channel in another state. -/
def withQueue (session : Session (ChannelSink χ) ι γ) (queue : χ) : Session (ChannelSink χ) ι γ :=
  ⟨session.engine.sendingTo ⟨queue, session.engine.events.dropped⟩, session.grids⟩

/-- Do what happens in a session of an engine that sends its events over a channel. -/
def perform [Channel χ] [EditableGrid γ] [DecidableEq ι] (session : Session (ChannelSink χ) ι γ) :
    SessionCall ι → Session (ChannelSink χ) ι γ × SessionAnswer γ
  | .dispatch stimulus => session.dispatch stimulus
  | .receive =>
    let received := Channel.receive session.engine.events.queue
    (session.withQueue received.1, .received received.2)
  | .hangUp => (session.withQueue (Channel.hangUp session.engine.events.queue), .hungUp)

/-- What is seen of a session of an engine that sends its events over a channel. -/
def seenBy (seen : χ → EventChannel) (session : Session (ChannelSink χ) ι γ) :
    Session (ChannelSink EventChannel) ι γ :=
  ⟨session.engine.seenBy seen, session.grids⟩

end Session

/-- How a sink over a channel and the answers of a session hang together, from one state of the
sink to a later one. -/
structure Delivers (first : ChannelSink EventChannel) (answers : List (SessionAnswer γ))
    (last : ChannelSink EventChannel) : Prop where
  capacity : last.queue.capacity = first.queue.capacity
  bounded : first.queue.waiting.length ≤ first.queue.capacity →
    last.queue.waiting.length ≤ last.queue.capacity
  counted : answers.countP SessionAnswer.replaced + first.dropped =
    (answers.flatMap SessionAnswer.accepted).length + last.dropped
  among : (answers.flatMap SessionAnswer.accepted).Sublist
    (answers.flatMap SessionAnswer.replacements)
  inOrder : answers.flatMap SessionAnswer.delivered ++ last.queue.waiting <+:
    first.queue.waiting ++ answers.flatMap SessionAnswer.accepted
  kept : last.queue.connected = true → first.queue.connected = true ∧
    answers.flatMap SessionAnswer.delivered ++ last.queue.waiting =
      first.queue.waiting ++ answers.flatMap SessionAnswer.accepted
  closed : first.queue.connected = false → answers.flatMap SessionAnswer.accepted = []

namespace Delivers

variable {first middle last : ChannelSink EventChannel} {answers others : List (SessionAnswer γ)}

/-- Where nothing is sent or received, the sink stays as it is. -/
theorem idle (sink : ChannelSink EventChannel)
    (replaced : answers.countP SessionAnswer.replaced = 0)
    (accepted : answers.flatMap SessionAnswer.accepted = [])
    (delivered : answers.flatMap SessionAnswer.delivered = []) : Delivers sink answers sink where
  capacity := rfl
  bounded := id
  counted := by rw [replaced, accepted, List.length_nil]
  among := accepted ▸ List.nil_sublist _
  inOrder := by
    rw [delivered, accepted, List.append_nil]
    exact List.prefix_rfl
  kept heard := by
    rw [delivered, accepted, List.append_nil]
    exact ⟨heard, rfl⟩
  closed _ := accepted

/-- What is delivered from one state to a second and from there to a third is delivered from the
first to the third. -/
theorem trans (before : Delivers first answers middle) (after : Delivers middle others last) :
    Delivers first (answers ++ others) last where
  capacity := after.capacity.trans before.capacity
  bounded := after.bounded ∘ before.bounded
  counted := by
    have one := before.counted
    have two := after.counted
    rw [List.countP_append, List.flatMap_append, List.length_append]
    omega
  among := by
    rw [List.flatMap_append, List.flatMap_append]
    exact before.among.append after.among
  inOrder := by
    rw [List.flatMap_append, List.flatMap_append, List.append_assoc]
    have later := (List.prefix_append_right_inj (answers.flatMap SessionAnswer.delivered)).mpr
      after.inOrder
    cases heard : middle.queue.connected with
    | true =>
        rw [← List.append_assoc _ middle.queue.waiting, (before.kept heard).2,
          List.append_assoc] at later
        exact later
    | false =>
        -- Once the receiver is gone nothing more is taken, so that nothing comes after.
        rw [after.closed heard, List.append_nil] at later ⊢
        exact later.trans before.inOrder
  kept heard := by
    obtain ⟨still, same⟩ := after.kept heard
    obtain ⟨ever, before⟩ := before.kept still
    refine ⟨ever, ?_⟩
    rw [List.flatMap_append, List.flatMap_append, List.append_assoc, same, ← List.append_assoc,
      before, List.append_assoc]
  closed gone := by
    have silent : middle.queue.connected = false := by
      rw [← Bool.not_eq_true]
      exact fun heard => Bool.false_ne_true (gone.symm.trans (before.kept heard).1)
    rw [List.flatMap_append, before.closed gone, after.closed silent]
    rfl

/-- The event of a replacement is taken, or else dropped and counted. -/
theorem told (engine : Engine (ChannelSink EventChannel)) {result : Result γ}
    {replacement : Option Event} (replaced : result.replaced = replacement.isSome) :
    Delivers engine.events [.dispatched result replacement (engine.tell replacement).2]
      (engine.tell replacement).1.events := by
  have count : ∀ sent, [SessionAnswer.dispatched result replacement sent].countP
      SessionAnswer.replaced = replacement.isSome.toNat := by
    intro sent
    rw [← replaced, List.countP_singleton]
    change (if result.replaced = true then 1 else 0) = _
    cases result.replaced <;> rfl
  cases replacement with
  | none => exact .idle _ (count _) rfl rfl
  | some event =>
      obtain ⟨options, within, keeps, queue, dropped⟩ := engine
      rcases queue.room_or_refused with able | refused
      · simp only [tell, ChannelSink.notify_of_room able.1 able.2]
        refine ⟨rfl, fun _ => ?_, ?_, .refl _, List.prefix_rfl, fun _ => ⟨able.1, rfl⟩, ?_⟩
        · rw [List.length_append]
          exact able.2
        · rw [count]
          rfl
        · intro gone
          exact (Bool.false_ne_true (gone.symm.trans able.1)).elim
      · simp only [tell, ChannelSink.notify_of_refused refused]
        refine ⟨rfl, id, ?_, List.nil_sublist _, ?_, fun heard => ⟨heard, ?_⟩, fun _ => rfl⟩
        · rw [count]
          exact (Nat.add_comm 1 dropped).trans (Nat.zero_add _).symm
        · exact (List.append_nil queue.waiting).symm ▸ List.prefix_rfl
        · exact (List.append_nil _).symm

/-- The event that has waited longest is received. -/
theorem received (queue : EventChannel) (dropped : Nat) :
    Delivers ⟨queue, dropped⟩ [(.received queue.receive.2 : SessionAnswer γ)]
      ⟨queue.receive.1, dropped⟩ := by
  have split : queue.waiting.head?.toList ++ queue.waiting.tail = queue.waiting := by
    cases queue.waiting <;> rfl
  have same : [(SessionAnswer.received queue.receive.2 : SessionAnswer γ)].flatMap
      SessionAnswer.delivered ++ queue.receive.1.waiting = queue.waiting ++ [] := by
    rw [List.append_nil, List.flatMap_singleton]
    exact split
  have fewer : queue.receive.1.waiting.length ≤ queue.waiting.length :=
    (List.tail_sublist queue.waiting).length_le
  refine ⟨rfl, fun within => ?_, rfl, .slnil, ?_, fun heard => ⟨heard, same⟩, fun _ => rfl⟩
  · exact fewer.trans within
  · exact same ▸ List.prefix_rfl

/-- When the receiver is gone nothing waits any more. -/
theorem hungUp (queue : EventChannel) (dropped : Nat) :
    Delivers ⟨queue, dropped⟩ [(.hungUp : SessionAnswer γ)] ⟨queue.hangUp, dropped⟩ where
  capacity := rfl
  bounded _ := Nat.zero_le _
  counted := rfl
  among := .slnil
  inOrder := List.nil_prefix
  kept heard := (Bool.false_ne_true heard).elim
  closed _ := rfl

end Delivers

variable [EditableGrid γ]

section Dispatch

variable [Sink σ] [Sink τ] (engine : Engine σ) (grid : γ) (pos : Pos) (event : Signal)

/-- The one event that dispatching sends is that of the replacement that it results in. -/
theorem dispatch_tells :
    ((engine.dispatch grid pos event).engine, (engine.dispatch grid pos event).sent) =
      engine.tell ((engine.dispatch grid pos event).result.replacement? grid pos) := by
  unfold dispatch
  cases Grid.interior grid pos with
  | none => rfl
  | some interior =>
      simp only
      cases (engine.evaluateEmbedded interior grid pos (some event)).outcome with
      | error error => rfl
      | ok outcome =>
          simp only
          cases outcome.replacement with
          | none => rfl
          | some id =>
              simp only [become]
              by_cases same : Grid.blockId grid pos = id
              · rw [if_pos same]
                rfl
              · rw [if_neg same]
                cases EditableGrid.apply grid (.replaceBlock pos id (Grid.datum grid pos)) <;> rfl

/-- What dispatching results in depends on the options of the engine and on nothing else of
it. -/
theorem dispatch_congr {other : Engine τ} (same : other.options = engine.options) :
    (other.dispatch grid pos event).result = (engine.dispatch grid pos event).result ∧
      (other.dispatch grid pos event).engine.options =
        (engine.dispatch grid pos event).engine.options := by
  have answers : ∀ interior, other.evaluateEmbedded interior grid pos (some event) =
      engine.evaluateEmbedded interior grid pos (some event) := by
    intro interior
    rw [evaluateEmbedded, evaluateEmbedded, same]
  unfold dispatch
  cases Grid.interior grid pos with
  | none => exact ⟨rfl, same⟩
  | some interior =>
      simp only [answers]
      cases (engine.evaluateEmbedded interior grid pos (some event)).outcome with
      | error error => exact ⟨rfl, same⟩
      | ok outcome =>
          simp only
          cases outcome.replacement with
          | none => exact ⟨rfl, same⟩
          | some id =>
              simp only [become]
              by_cases own : Grid.blockId grid pos = id
              · rw [if_pos own, if_pos own]
                exact ⟨rfl, same⟩
              · rw [if_neg own, if_neg own]
                cases EditableGrid.apply grid (.replaceBlock pos id (Grid.datum grid pos)) with
                | error error => exact ⟨rfl, same⟩
                | ok after => exact ⟨rfl, same⟩

end Dispatch

/-- What is seen of an engine over a queue is told alike, and answers alike. -/
theorem tell_seenBy [Channel χ] {seen : χ → EventChannel} (isQueue : Channel.IsQueue seen)
    (engine : Engine (ChannelSink χ)) (event : Option Event) :
    (engine.seenBy seen).tell event = (engine.tell event).map (seenBy seen) id := by
  cases event with
  | none => rfl
  | some event =>
      have notified : Sink.notify (engine.events.seenBy seen) event =
          (Sink.notify engine.events event).map (ChannelSink.seenBy seen) id :=
        ChannelSink.notify_seenBy isQueue engine.events event
      simp only [tell, seenBy, sendingTo, notified, Prod.map, id]

namespace Session

variable [DecidableEq ι]

section Queue

variable [Channel χ] {seen : χ → EventChannel}

/-- What is seen of a session over a queue goes alike, and is answered alike. -/
theorem perform_seen (isQueue : Channel.IsQueue seen) (session : Session (ChannelSink χ) ι γ)
    (call : SessionCall ι) :
    (session.seenBy seen).perform call = (session.perform call).map (seenBy seen) id := by
  cases call with
  | dispatch stimulus =>
      obtain ⟨engine, grids⟩ := session
      obtain ⟨place, pos, event⟩ := stimulus
      -- The result does not depend on the sink, and so both sinks are told the same.
      have options : (engine.seenBy seen).options = engine.options := rfl
      have result : ((engine.seenBy seen).dispatch (grids place) pos event).result =
          (engine.dispatch (grids place) pos event).result :=
        (engine.dispatch_congr (grids place) pos event options).1
      have grid : ((engine.seenBy seen).dispatch (grids place) pos event).grid =
          (engine.dispatch (grids place) pos event).grid := congrArg Result.grid result
      have tells := (engine.seenBy seen).dispatch_tells (grids place) pos event
      rw [result, tell_seenBy isQueue, ← engine.dispatch_tells, Prod.map, Prod.mk.injEq] at tells
      simp only [perform, dispatch, seenBy, result, grid, tells, Prod.map, id]
  | receive =>
      obtain ⟨event, after⟩ := isQueue.receives session.engine.events.queue
      rw [perform, perform, Prod.map, event]
      have left : (session.withQueue (Channel.receive session.engine.events.queue).1).seenBy seen =
          (session.seenBy seen).withQueue (seen (Channel.receive session.engine.events.queue).1) :=
        rfl
      rw [left, after]
      rfl
  | hangUp =>
      have left : (session.withQueue (Channel.hangUp session.engine.events.queue)).seenBy seen =
          (session.seenBy seen).withQueue (seen (Channel.hangUp session.engine.events.queue)) :=
        rfl
      rw [perform, perform, Prod.map, left, isQueue.hangsUp]
      rfl

/-- What is seen of a session over a queue goes as with the channel that engines run with, whatever
happens, and all is answered alike. -/
theorem calls_seen (isQueue : Channel.IsQueue seen) (session : Session (ChannelSink χ) ι γ)
    (calls : List (SessionCall ι)) :
    runCalls perform (session.seenBy seen) calls =
      (runCalls perform session calls).map (seenBy seen) id := by
  let related (there : Session (ChannelSink EventChannel) ι γ)
      (here : Session (ChannelSink χ) ι γ) : Prop := there = here.seenBy seen
  have step : ∀ {there here} call, related there here →
      (there.perform call).2 = (here.perform call).2 ∧
        related (there.perform call).1 (here.perform call).1 := by
    intro there here call same
    cases same
    rw [perform_seen isQueue]
    exact ⟨rfl, rfl⟩
  have start : related (session.seenBy seen) session := rfl
  obtain ⟨answers, last⟩ := runCalls_related step start calls
  exact Prod.ext last answers

end Queue

/-- What happens in a session is delivered by its sink. -/
theorem perform_delivers (session : Session (ChannelSink EventChannel) ι γ)
    (call : SessionCall ι) :
    Delivers session.engine.events [(session.perform call).2]
      (session.perform call).1.engine.events := by
  obtain ⟨engine, grids⟩ := session
  cases call with
  | dispatch stimulus =>
      obtain ⟨place, pos, event⟩ := stimulus
      have tells := engine.dispatch_tells (grids place) pos event
      have replaced := (engine.dispatch (grids place) pos event).result.replaced_eq
        (grids place) pos
      have told := Delivers.told engine replaced
      rw [← tells] at told
      exact told
  | receive => exact .received engine.events.queue engine.events.dropped
  | hangUp => exact .hungUp engine.events.queue engine.events.dropped

/-- All that happens in a session is delivered by its sink. -/
theorem calls_deliver (session : Session (ChannelSink EventChannel) ι γ)
    (calls : List (SessionCall ι)) :
    Delivers session.engine.events (runCalls perform session calls).2
      (runCalls perform session calls).1.engine.events := by
  induction calls generalizing session with
  | nil => exact .idle _ rfl rfl rfl
  | cons call rest ih => exact (session.perform_delivers call).trans (ih _)

/-- The results of a session, and its grids, are those that its dispatches have alone, whatever
sink the events are sent to. -/
theorem calls_alone [Channel χ] [Sink τ] {session : Session (ChannelSink χ) ι γ}
    {other : Session τ ι γ} (options : other.engine.options = session.engine.options)
    (grids : other.grids = session.grids) (calls : List (SessionCall ι)) :
    (runCalls perform session calls).2.filterMap SessionAnswer.result? =
        (runCalls dispatch other (calls.filterMap SessionCall.stimulus?)).2.filterMap
          SessionAnswer.result? ∧
      (runCalls perform session calls).1.grids =
        (runCalls dispatch other (calls.filterMap SessionCall.stimulus?)).1.grids := by
  induction calls generalizing session other with
  | nil => exact ⟨rfl, grids.symm⟩
  | cons call rest ih =>
      cases call with
      | receive | hangUp => exact ih options grids
      | dispatch stimulus =>
          obtain ⟨engine, blocks⟩ := session
          obtain ⟨second, _⟩ := other
          cases grids
          obtain ⟨result, kept⟩ := engine.dispatch_congr (blocks stimulus.place) stimulus.pos
            stimulus.event options
          have grid : (second.dispatch (blocks stimulus.place) stimulus.pos stimulus.event).grid =
              (engine.dispatch (blocks stimulus.place) stimulus.pos stimulus.event).grid :=
            congrArg Result.grid result
          have updated : ((dispatch (⟨second, blocks⟩ : Session τ ι γ) stimulus).1).grids =
              (dispatch (⟨engine, blocks⟩ : Session (ChannelSink χ) ι γ) stimulus).1.grids :=
            congrArg (Function.update blocks stimulus.place) grid
          obtain ⟨results, last⟩ := @ih (dispatch ⟨engine, blocks⟩ stimulus).1
            (dispatch ⟨second, blocks⟩ stimulus).1 kept updated
          exact ⟨congrArg₂ List.cons result.symm results, last⟩

end Session

/-- **The delivery of events.** An engine sends its events over a channel that is a first-in
first-out queue of some capacity, while events are dispatched to blocks of any grids, received and,
at any time, heard no more. As many dispatches replace a block as events are taken and dropped. The
events taken are among those of the replacements, in their order. Those received are the first of
those taken, in their order and once each; while there is a receiver, all others that were taken are
waiting. What dispatches result in, and the grids, are the same with any other sink and without any
receiving. All is answered as it is with the channel that engines run with. -/
theorem events_delivered [Channel χ] {seen : χ → EventChannel} (isQueue : Channel.IsQueue seen)
    (fresh : χ) (vacant : (seen fresh).waiting = []) (heard : (seen fresh).connected = true)
    [DecidableEq ι] (engine : Engine σ) (grids : ι → γ) (calls : List (SessionCall ι)) :
    let run := runCalls Session.perform (.start engine grids (.ofChannel fresh)) calls
    let sink := run.1.engine.events
    let accepted := run.2.flatMap SessionAnswer.accepted
    let delivered := run.2.flatMap SessionAnswer.delivered
    (seen sink.queue).waiting.length ≤ (seen fresh).capacity ∧
    run.2.countP SessionAnswer.replaced = accepted.length + sink.dropped ∧
    accepted.Sublist (run.2.flatMap SessionAnswer.replacements) ∧
    delivered <+: accepted ∧
    ((seen sink.queue).connected = true → accepted = delivered ++ (seen sink.queue).waiting) ∧
    (∀ {τ : Type} [Sink τ] (other : τ),
      let alone := runCalls Session.dispatch (.start engine grids other)
        (calls.filterMap SessionCall.stimulus?)
      run.2.filterMap SessionAnswer.result? = alone.2.filterMap SessionAnswer.result? ∧
        run.1.grids = alone.1.grids) ∧
    run.2 = (runCalls Session.perform (.start engine grids
      (.ofChannel (EventChannel.ofCapacity (seen fresh).capacity))) calls).2 := by
  intro run sink accepted delivered
  have opened : (Session.start engine grids (ChannelSink.ofChannel fresh)).seenBy seen =
      .start engine grids (.ofChannel (EventChannel.ofCapacity (seen fresh).capacity)) := by
    have unused : seen fresh = .ofCapacity (seen fresh).capacity := by
      rw [EventChannel.ofCapacity, ← vacant, ← heard]
    rw [← unused]
    rfl
  -- What is seen of the session is delivered, and all is answered as in what is seen.
  have same := Session.calls_seen isQueue (.start engine grids (.ofChannel fresh)) calls
  rw [opened] at same
  have delivers := Session.calls_deliver
    (.start engine grids (.ofChannel (EventChannel.ofCapacity (seen fresh).capacity))) calls
  rw [same] at delivers
  refine ⟨?_, delivers.counted, delivers.among, ?_, ?_, ?_, ?_⟩
  · exact (delivers.bounded (Nat.zero_le _)).trans_eq delivers.capacity
  · exact (List.prefix_append _ _).trans delivers.inOrder
  · exact fun still => (delivers.kept still).2.symm
  · intro τ _ other
    have options : (Session.start engine grids other).engine.options =
      (Session.start engine grids (ChannelSink.ofChannel fresh)).engine.options := rfl
    exact Session.calls_alone options rfl calls
  · exact (congrArg Prod.snd same).symm

/-- Three chips are told to become stone, while there is room for one event. Between the second
and the third one a chip is told of a type that there is not, and the receiver is dropped. -/
def chipsTold : List (SessionCall (Fin 3)) :=
  [.dispatch ⟨0, .origin, .number (.ofInt 20)⟩, .dispatch ⟨1, .origin, .number (.ofInt 20)⟩,
    .receive, .receive, .dispatch ⟨2, .origin, .number (.ofInt 99)⟩, .hangUp,
    .dispatch ⟨2, .origin, .number (.ofInt 20)⟩]

/-- The chips are told by an engine with a channel of one place. -/
def chipsToldRun : Session (ChannelSink EventChannel) (Fin 3) (World EndlessChip) ×
    List (SessionAnswer (World EndlessChip)) :=
  runCalls Session.perform (.start usual (fun _ => World.voxel (chipAround obeying))
    (.ofChannel (.ofCapacity 1))) chipsTold

/-- All three become stone. One event is delivered, and two are dropped. -/
theorem chipsTold_delivered :
    chipsToldRun.1.engine.events.dropped = 2 ∧
      chipsToldRun.2.countP SessionAnswer.replaced = 3 ∧
      chipsToldRun.2.flatMap SessionAnswer.accepted = [.became .origin ⟨30⟩ ⟨20⟩] ∧
      chipsToldRun.2.flatMap SessionAnswer.delivered = [.became .origin ⟨30⟩ ⟨20⟩] ∧
      chipsToldRun.2.filterMap SessionAnswer.result? =
        (runCalls Session.dispatch (.start usual (fun _ => World.voxel (chipAround obeying))
          (EventSink.record [])) (chipsTold.filterMap SessionCall.stimulus?)).2.filterMap
            SessionAnswer.result? := by
  have replaced : chipsToldRun.2.countP SessionAnswer.replaced = 3 := by decide +kernel
  have accepted : chipsToldRun.2.flatMap SessionAnswer.accepted =
      [.became .origin ⟨30⟩ ⟨20⟩] := by
    decide +kernel
  have delivered : chipsToldRun.2.flatMap SessionAnswer.delivered =
      [.became .origin ⟨30⟩ ⟨20⟩] := by
    decide +kernel
  obtain ⟨_, counted, _, _, _, alone, _⟩ := events_delivered EventChannel.isQueue
    (.ofCapacity 1) rfl rfl usual (fun _ : Fin 3 => World.voxel (chipAround obeying)) chipsTold
  rw [← chipsToldRun, replaced, accepted, List.length_singleton] at counted
  refine ⟨by omega, replaced, accepted, delivered, ?_⟩
  exact (alone (EventSink.record [])).1

end Engine

end VoxelCircuit
