import NodeFeed.Registry
import NodeFeed.Lifecycle
import NodeFeed.Report

/-!
The state that callers and handler share: the registry, the link to the handler, two one-way signals
and the lifecycle. Each function below is one section under the registry's lock, or one step outside
of it, so any order of calls is an order of these functions.

Subscribing to a topic that nobody hears sends a command first and lists the queue only if the send
succeeded; cancelling the last queue of a topic takes it off the list first and sends after that.

`nextId` never wraps: fewer than `2 ^ 64` subscriptions of one subscriber are assumed.
-/

namespace NodeFeed

structure Outcome (σ ρ : Type) where
  answer : ρ
  state : σ
  log : List Report

structure Backend where
  registry : Registry
  link : Link
  exited : Bool
  stopped : Bool
  lifecycle : Lifecycle
  nextId : QueueId
  capacity : Nat
  seen : Bool
  deriving DecidableEq, Repr

structure Subscription where
  topic : Topic
  id : QueueId
  place : Nat
  deriving DecidableEq, Repr

inductive Subscribed where
  | added (s : Subscription)
  | refused (e : SubscribeError)
  | overflow
  deriving DecidableEq, Repr

namespace Backend

def fresh (capacity : Nat) : Backend where
  registry := .empty
  link := .fresh
  exited := false
  stopped := false
  lifecycle := .initializing
  nextId := 0
  capacity := capacity
  seen := false

def advance (b : Backend) (s : Lifecycle) : Backend :=
  { b with lifecycle := b.lifecycle.advance s }

def enlist (b : Backend) (t : Topic) : Outcome Backend Subscribed :=
  let id := b.nextId
  let b := { b with nextId := id + 1 }
  if t.canReserve b.capacity then
    let place := b.registry.queues.length
    let registry := b.registry.insert t id (Queue.make b.capacity)
    ⟨.added ⟨t, id, place⟩, { b with registry }, [.subscriptionAdded t id (registry.live t)]⟩
  else ⟨.overflow, b, []⟩

def subscribe (b : Backend) (t : Topic) : Outcome Backend Subscribed :=
  if b.exited then ⟨.refused .exited, b, []⟩
  else if b.registry.isEmpty t then
    match b.link.send (.subscribe t) with
    | .error e => ⟨.refused (.control Verb.subscribe.name t e), b, []⟩
    | .ok link => enlist { b with link } t
  else b.enlist t

def cancel (b : Backend) (t : Topic) (id : QueueId) : Outcome Backend (Except SubscribeError Unit) :=
  if b.exited then ⟨.error .exited, b, []⟩
  else
    match b.registry.remove t id with
    | (.absent, _) => ⟨.ok (), b, []⟩
    | (.closed nowEmpty, registry) =>
      let b := { b with registry }
      let log := [.subscriptionCancelled t id (registry.live t)]
      if nowEmpty then
        match b.link.send (.unsubscribe t) with
        | .error e => ⟨.error (.control Verb.unsubscribe.name t e), b, log⟩
        | .ok link => ⟨.ok (), { b with link }, log⟩
      else ⟨.ok (), b, log⟩

def release (b : Backend) (t : Topic) (id : QueueId) : Outcome Backend Unit :=
  let r := b.cancel t id
  match r.answer with
  | .ok () | .error .exited => ⟨(), r.state, r.log⟩
  | .error e => ⟨(), r.state, r.log ++ [.releaseFailed t id e]⟩

def requestTerm (b : Backend) : Except CloseError Backend :=
  if b.exited then .ok b
  else
    match b.link.send .term with
    | .error e => .error (.control e)
    | .ok link => .ok ({ b with link }.advance .shuttingDown)

def retire (b : Backend) : List (Topic × Nat) × Backend :=
  let (report, registry) := b.registry.closeAll
  (report, { b with registry, exited := true, link := b.link.drop })

def stop (b : Backend) : Backend := { b with stopped := true }

def exitGuard (b : Backend) : Backend := (b.retire.2.advance .exited).stop

def dispatch (b : Backend) (f : Frame) : Except DecodeError (Notification × DispatchCount × Backend) :=
  match f.decode with
  | .error e => .error e
  | .ok n =>
    let (count, registry) := b.registry.dispatch n
    .ok (n, count, { b with registry })

theorem enlistCases (b : Backend) (t : Topic) :
    (t.canReserve b.capacity = true ∧
      b.enlist t = ⟨.added ⟨t, b.nextId, b.registry.queues.length⟩,
        { b with
          nextId := b.nextId + 1
          registry := b.registry.insert t b.nextId (Queue.make b.capacity) },
        [.subscriptionAdded t b.nextId
          ((b.registry.insert t b.nextId (Queue.make b.capacity)).live t)]⟩) ∨
    (t.canReserve b.capacity = false ∧
      b.enlist t = ⟨.overflow, { b with nextId := b.nextId + 1 }, []⟩) := by
  unfold enlist
  cases fits : t.canReserve b.capacity with
  | true => exact .inl ⟨rfl, by simp [fits]⟩
  | false => exact .inr ⟨rfl, by simp [fits]⟩

theorem subscribeCases (b : Backend) (t : Topic) :
    (b.exited = true ∧ b.subscribe t = ⟨.refused .exited, b, []⟩) ∨
    (b.exited = false ∧ b.registry.isEmpty t = true ∧
      ∃ why, b.link.send (.subscribe t) = .error why ∧
        b.subscribe t = ⟨.refused (.control Verb.subscribe.name t why), b, []⟩) ∨
    (b.exited = false ∧ b.registry.isEmpty t = true ∧
      ∃ link, b.link.send (.subscribe t) = .ok link ∧
        b.subscribe t = enlist { b with link } t) ∨
    (b.exited = false ∧ b.registry.isEmpty t = false ∧ b.subscribe t = b.enlist t) := by
  unfold subscribe
  cases gone : b.exited with
  | true => exact .inl ⟨rfl, rfl⟩
  | false =>
    cases none : b.registry.isEmpty t with
    | false => exact .inr (.inr (.inr ⟨rfl, rfl, rfl⟩))
    | true =>
      cases sent : b.link.send (.subscribe t) with
      | error why => exact .inr (.inl ⟨rfl, rfl, why, rfl, by simp⟩)
      | ok link => exact .inr (.inr (.inl ⟨rfl, rfl, link, rfl, by simp⟩))

theorem cancelCases (b : Backend) (t : Topic) (id : QueueId) :
    (b.exited = true ∧ b.cancel t id = ⟨.error .exited, b, []⟩) ∨
    (b.exited = false ∧ b.registry.entry? t id = none ∧ b.cancel t id = ⟨.ok (), b, []⟩) ∨
    (b.exited = false ∧ ∃ entry, b.registry.entry? t id = some entry ∧
      let registry := (b.registry.remove t id).2
      let log := [.subscriptionCancelled t id (registry.live t)]
      (registry.isEmpty t = false ∧ b.cancel t id = ⟨.ok (), { b with registry }, log⟩) ∨
      (registry.isEmpty t = true ∧ ∃ link, b.link.send (.unsubscribe t) = .ok link ∧
        b.cancel t id = ⟨.ok (), { b with registry, link }, log⟩) ∨
      (registry.isEmpty t = true ∧ ∃ why, b.link.send (.unsubscribe t) = .error why ∧
        b.cancel t id = ⟨.error (.control Verb.unsubscribe.name t why), { b with registry }, log⟩)) := by
  unfold cancel
  cases gone : b.exited with
  | true => exact .inl ⟨rfl, rfl⟩
  | false =>
    refine .inr ?_
    cases found : b.registry.entry? t id with
    | none => exact .inl ⟨rfl, rfl, by simp [Registry.remove, found]⟩
    | some entry =>
      refine .inr ⟨rfl, entry, rfl, ?_⟩
      simp only [Registry.remove, found, Registry.isEmpty, Topic.Table.setAt]
      cases last : ((b.registry.lists.get t).eraseP fun e => e.id == id).isEmpty with
      | false => exact .inl ⟨rfl, by simp⟩
      | true =>
        cases sent : b.link.send (.unsubscribe t) with
        | ok link => exact .inr (.inl ⟨rfl, link, rfl, by simp⟩)
        | error why => exact .inr (.inr ⟨rfl, why, rfl, by simp⟩)

theorem releaseState (b : Backend) (t : Topic) (id : QueueId) :
    (b.release t id).state = (b.cancel t id).state := by
  simp only [release]
  split <;> rfl

theorem requestTermCases (b : Backend) :
    (b.exited = true ∧ b.requestTerm = .ok b) ∨
    (b.exited = false ∧ ∃ why, b.link.send .term = .error why ∧
      b.requestTerm = .error (.control why)) ∨
    (b.exited = false ∧ ∃ link, b.link.send .term = .ok link ∧
      b.requestTerm = .ok ({ b with link }.advance .shuttingDown)) := by
  unfold requestTerm
  cases gone : b.exited with
  | true => exact .inl ⟨rfl, rfl⟩
  | false =>
    cases sent : b.link.send .term with
    | error why => exact .inr (.inl ⟨rfl, why, rfl, by simp⟩)
    | ok link => exact .inr (.inr ⟨rfl, link, rfl, by simp⟩)

end Backend
end NodeFeed
