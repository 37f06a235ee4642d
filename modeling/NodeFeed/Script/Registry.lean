import NodeFeed.Registry
import NodeFeed.Script.Queue

/-!
Scripts on a bare registry: queues under chosen identities, frames dispatched to them, and receivers
that are known by name.
-/

namespace NodeFeed.Script

inductive RegistryStep where
  | insert (topic : Topic) (id : QueueId) (capacity : Nat) (name : String) (closed : Bool)
  | remove (topic : Topic) (id : QueueId)
  | dispatch (frame : Frame)
  | closeAll
  | ids (topic : Topic)
  | isEmpty (topic : Topic)
  | dropReceiver (name : String)
  | receive (name : String) (step : Receiving)

inductive RegistryAnswer where
  | done
  | removed (r : Removed)
  | dispatched (r : Except DecodeError DispatchCount)
  | report (closed : List (Topic × Nat))
  | ids (ids : List QueueId)
  | flag (b : Bool)
  | received (answer : Received Event)
  | noReceiver
  | overflow

structure Shelf where
  registry : Registry
  receivers : List (String × Nat)

namespace Shelf

def empty : Shelf := ⟨.empty, []⟩

def without (receivers : List (String × Nat)) (name : String) : List (String × Nat) :=
  receivers.filter fun r => r.1 != name

def run (s : Shelf) : RegistryStep → RegistryAnswer × Shelf
  | .insert topic id capacity name closed =>
    if topic.canReserve capacity then
      let queue : Queue Event := Queue.make capacity
      let queue := if closed then queue.close.2 else queue
      (.done, {
        registry := s.registry.insert topic id queue
        receivers := (name, s.registry.queues.length) :: without s.receivers name })
    else (.overflow, s)
  | .remove topic id =>
    let (removed, registry) := s.registry.remove topic id
    (.removed removed, { s with registry })
  | .dispatch frame =>
    match frame.decode with
    | .error e => (.dispatched (.error e), s)
    | .ok n =>
      let (count, registry) := s.registry.dispatch n
      (.dispatched (.ok count), { s with registry })
  | .closeAll =>
    let (report, registry) := s.registry.closeAll
    (.report report, { s with registry })
  | .ids topic => (.ids ((s.registry.lists.get topic).map (·.id)), s)
  | .isEmpty topic => (.flag (s.registry.isEmpty topic), s)
  | .dropReceiver name =>
    (.flag (s.receivers.lookup name).isSome, { s with receivers := without s.receivers name })
  | .receive name step =>
    match (s.receivers.lookup name).bind fun place =>
        (s.registry.queue? place).map fun q => (place, q) with
    | none => (.noReceiver, s)
    | some (place, q) =>
      let (answer, q) := step.run q
      (.received answer, { s with registry := s.registry.putQueue place q })

end Shelf

structure RegistryEntry where
  answer : RegistryAnswer
  live : List Nat

def runRegistryFrom (s : Shelf) : List RegistryStep → List RegistryEntry
  | [] => []
  | step :: rest =>
    let (answer, s) := s.run step
    ⟨answer, Topic.all.map s.registry.live⟩ :: runRegistryFrom s rest

def RegistryAnswer.overflows : RegistryAnswer → Bool
  | .overflow => true
  | _ => false

def runRegistry (steps : List RegistryStep) : Except Overflow (List RegistryEntry) :=
  let entries := runRegistryFrom .empty steps
  if entries.any fun e => e.answer.overflows then .error .overflow else .ok entries

end NodeFeed.Script
