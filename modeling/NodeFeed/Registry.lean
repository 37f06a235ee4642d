import NodeFeed.Frame
import NodeFeed.Queue

/-!
Which queues hear which topic. The registry keeps, for each topic, the listed queues in the order they
came, each under an identity; and it keeps the contents of every queue ever made, listed or not, since
a consumer reads on after its queue has left the list. A queue is known by its place in `queues`.

Identities are natural numbers, handed out from zero on, where the program counts them in 64 bits that
wrap: everything said of identities assumes fewer than `2 ^ 64` subscriptions of one subscriber.
-/

namespace NodeFeed

def Topic.eventSize : Topic → Nat
  | .hashTx | .hashBlock => 36
  | .rawTx | .rawBlock => 24
  | .sequence => 56

def Topic.canReserve (t : Topic) (capacity : Nat) : Bool := Queue.canReserve t.eventSize capacity

abbrev QueueId := Nat

structure Entry where
  id : QueueId
  place : Nat
  deriving DecidableEq, Repr

structure Registry where
  lists : Topic.Table (List Entry)
  queues : List (Queue Event)
  deriving DecidableEq, Repr

structure DispatchCount where
  delivered : Nat
  displaced : Nat
  deriving DecidableEq, Repr

inductive Removed where
  | absent
  | closed (nowEmpty : Bool)
  deriving DecidableEq, Repr

def DispatchCount.ofPushes (outcomes : List Push) : DispatchCount :=
  ⟨outcomes.count .delivered, outcomes.count .displacedOldest⟩

namespace Registry

def empty : Registry := ⟨.replicate [], []⟩

def live (r : Registry) (t : Topic) : Nat := (r.lists.get t).length

def isEmpty (r : Registry) (t : Topic) : Bool := (r.lists.get t).isEmpty

def insert (r : Registry) (t : Topic) (id : QueueId) (q : Queue Event) : Registry :=
  { lists := r.lists.set t (r.lists.get t ++ [⟨id, r.queues.length⟩])
    queues := r.queues ++ [q] }

def entry? (r : Registry) (t : Topic) (id : QueueId) : Option Entry :=
  (r.lists.get t).find? fun e => e.id == id

def onEach {β : Type} (act : Queue Event → β × Queue Event) :
    List Entry → List (Queue Event) → List (Nat × β) × List (Queue Event)
  | [], queues => ([], queues)
  | entry :: rest, queues =>
    match queues[entry.place]? with
    | none => onEach act rest queues
    | some q =>
      let (answer, q) := act q
      let (answers, queues) := onEach act rest (queues.set entry.place q)
      ((entry.place, answer) :: answers, queues)

def closeEach (entries : List Entry) (queues : List (Queue Event)) :
    List (Nat × Bool) × List (Queue Event) :=
  onEach Queue.close entries queues

def pushEach (e : Event) (entries : List Entry) (queues : List (Queue Event)) :
    List (Nat × Push) × List (Queue Event) :=
  onEach (fun q => q.push e) entries queues

def remove (r : Registry) (t : Topic) (id : QueueId) : Removed × Registry :=
  match r.entry? t id with
  | none => (.absent, r)
  | some entry =>
    let rest := (r.lists.get t).eraseP fun e => e.id == id
    (.closed rest.isEmpty,
      { lists := r.lists.set t rest, queues := (closeEach [entry] r.queues).2 })

def deliver (r : Registry) (n : Notification) : List (Nat × Push) × Registry :=
  let (outcomes, queues) := pushEach n.event (r.lists.get n.topic) r.queues
  (outcomes, { r with queues })

def dispatch (r : Registry) (n : Notification) : DispatchCount × Registry :=
  let (outcomes, r) := r.deliver n
  (.ofPushes (outcomes.map (·.2)), r)

def closeTopic (r : Registry) (t : Topic) : List (Nat × Bool) × Registry :=
  let (outcomes, queues) := closeEach (r.lists.get t) r.queues
  (outcomes, { lists := r.lists.set t [], queues })

def closeTopics (r : Registry) : List Topic → List (Topic × List (Nat × Bool)) × Registry
  | [] => ([], r)
  | t :: rest =>
    if r.isEmpty t then closeTopics r rest
    else
      let (outcomes, r) := r.closeTopic t
      let (told, r) := closeTopics r rest
      ((t, outcomes) :: told, r)

def closeAll (r : Registry) : List (Topic × Nat) × Registry :=
  let (told, r) := r.closeTopics Topic.all
  (told.map fun (t, outcomes) => (t, outcomes.countP (·.2)), r)

def queue? (r : Registry) (place : Nat) : Option (Queue Event) := r.queues[place]?

def putQueue (r : Registry) (place : Nat) (q : Queue Event) : Registry :=
  { r with queues := r.queues.set place q }

end Registry
end NodeFeed
