import NodeFeed.Handler
import NodeFeed.Proofs.RegistryView
import NodeFeed.Proofs.Run

/-!
Everything that callers, consumers, the publisher and the handler can do to an open subscriber, one
undivided step each: `release` is the drop of a receiver, `receive` one look of a consumer at its
queue, `pass` the work of one stage of shutdown, and after `fault` sends fail or succeed again. The acts
carry no order of their own: a stage may be passed at any time and repeatedly, and frames may be read
after the handler has left. So a statement about all lists of acts covers every real interleaving.

What an act tells is read off the program's answers. `Change` says once what an act does to the
registry and what it tells; what is proved of runs starts from there.
-/

namespace NodeFeed

inductive Act where
  | subscribe (t : Topic)
  | cancel (t : Topic) (id : QueueId)
  | release (t : Topic) (id : QueueId)
  | requestTerm
  | receive (place : Nat)
  | start
  | frame (f : Frame)
  | control
  | fail (why : Errno)
  | panic
  | pass (stage : Stage)
  | fault (cause : Option Errno)
  deriving DecidableEq, Repr

namespace Act

def retires : Act → Bool
  | .pass .emptying | .pass .guarding => true
  | _ => false

def strikes? : Act → Option (Topic × QueueId)
  | .cancel t id | .release t id => some (t, id)
  | _ => none

theorem strikesStays {a : Act} {queue : Topic × QueueId} (asked : a.strikes? = some queue) :
    a.retires = false := by
  cases a <;> first | rfl | cases asked

end Act

structure Told where
  made : List Subscription := []
  removed : List Topic := []
  closed : List (Nat × Bool) := []
  reported : List (Topic × Nat) := []

namespace Subscribed

def made : Subscribed → List Subscription
  | added s => [s]
  | refused _ | overflow => []

end Subscribed

namespace Backend

def receive (b : Backend) (place : Nat) : Backend :=
  match b.registry.queue? place with
  | none => b
  | some q => { b with registry := b.registry.putQueue place q.tryRecv.2 }

def asked (b : Backend) : Backend :=
  match b.requestTerm with
  | .error _ => b
  | .ok next => next

theorem askedCases (b : Backend) :
    b.asked = b ∨ ∃ link, b.link.send .term = .ok link ∧
      b.asked = { b with link }.advance .shuttingDown := by
  unfold asked
  rcases b.requestTermCases with ⟨-, done⟩ | ⟨-, why, -, done⟩ | ⟨-, link, sent, done⟩ <;> rw [done]
  · exact .inl rfl
  · exact .inl rfl
  · exact .inr ⟨link, sent, rfl⟩

structure Calls (b next : Backend) (c : Command) : Prop where
  rest : next = { b with registry := next.registry, link := next.link, nextId := next.nextId }
  sent : next.link = b.link ∨ b.link.send c = .ok next.link

theorem subscribeCalls (b : Backend) (t : Topic) : b.Calls (b.subscribe t).state (.subscribe t) := by
  have enlisted {c : Backend} (rest : c = { b with link := c.link })
      (sent : c.link = b.link ∨ b.link.send (.subscribe t) = .ok c.link) :
      b.Calls (c.enlist t).state (.subscribe t) := by
    rcases c.enlistCases t with ⟨-, done⟩ | ⟨-, done⟩ <;> rw [done] <;> exact ⟨by rw [rest], sent⟩
  rcases b.subscribeCases t with
    ⟨-, done⟩ | ⟨-, -, why, -, done⟩ | ⟨-, -, link, sent, done⟩ | ⟨-, -, done⟩ <;> rw [done]
  · exact ⟨rfl, .inl rfl⟩
  · exact ⟨rfl, .inl rfl⟩
  · exact enlisted rfl (.inr sent)
  · exact enlisted rfl (.inl rfl)

theorem cancelCalls (b : Backend) (t : Topic) (id : QueueId) :
    b.Calls (b.cancel t id).state (.unsubscribe t) := by
  rcases b.cancelCases t id with ⟨-, done⟩ | ⟨-, -, done⟩ | ⟨-, entry, -, rest⟩
  · exact done ▸ ⟨rfl, .inl rfl⟩
  · exact done ▸ ⟨rfl, .inl rfl⟩
  · rcases rest with ⟨-, done⟩ | ⟨-, link, sent, done⟩ | ⟨-, why, -, done⟩ <;> rw [done]
    · exact ⟨rfl, .inl rfl⟩
    · exact ⟨rfl, .inr sent⟩
    · exact ⟨rfl, .inl rfl⟩

theorem releaseCalls (b : Backend) (t : Topic) (id : QueueId) :
    b.Calls (b.release t id).state (.unsubscribe t) :=
  b.releaseState t id ▸ b.cancelCalls t id

def tellCancel (b : Backend) (t : Topic) (id : QueueId) : Told :=
  if b.exited then {}
  else
    match (b.registry.remove t id).1 with
    | .absent => {}
    | .closed _ =>
      { removed := [t]
        closed := (Registry.closeEach (b.registry.entry? t id).toList b.registry.queues).1 }

def tellRetire (b : Backend) : Told where
  closed := (b.registry.closeTopics Topic.all).1.flatMap (·.2)
  reported := b.retire.1

end Backend

namespace Engine

def act (e : Engine) : Act → Engine
  | .subscribe t => { e with backend := (e.backend.subscribe t).state }
  | .cancel t id => { e with backend := (e.backend.cancel t id).state }
  | .release t id => { e with backend := (e.backend.release t id).state }
  | .requestTerm => { e with backend := e.backend.asked }
  | .receive place => { e with backend := e.backend.receive place }
  | .start => { e with backend := e.backend.advance .running }
  | .frame f => (e.onFrame f).1
  | .control => e.onControl.1
  | .fail why => (e.pollFails why).1
  | .panic => e.panic
  | .pass stage => { e with stage }.proceed.1
  | .fault cause => { e with backend := { e.backend with link := { e.backend.link with fault := cause } } }

def tell (e : Engine) : Act → Told
  | .subscribe t => { made := (e.backend.subscribe t).answer.made }
  | .cancel t id | .release t id => e.backend.tellCancel t id
  | .pass .emptying | .pass .guarding => e.backend.tellRetire
  | _ => {}

def opening (capacity : Nat) (filters : Filters) : Engine :=
  ⟨Backend.fresh capacity, filters, .polling⟩

def run (e : Engine) (acts : List Act) : Engine := Run.after act e acts

def history {β : Type} (e : Engine) (tell : Engine → Act → List β) (acts : List Act) : List β :=
  Run.told act tell e acts

def made (e : Engine) (acts : List Act) : List Subscription :=
  e.history (fun e a => (e.tell a).made) acts

def removed (e : Engine) (acts : List Act) : List Topic :=
  e.history (fun e a => (e.tell a).removed) acts

def closed (e : Engine) (acts : List Act) : List (Nat × Bool) :=
  e.history (fun e a => (e.tell a).closed) acts

def reported (e : Engine) (acts : List Act) : List (Topic × Nat) :=
  e.history (fun e a => (e.tell a).reported) acts

variable {β : Type} (e : Engine) (tell : Engine → Act → List β)

theorem runAppend (first rest : List Act) : e.run (first ++ rest) = (e.run first).run rest :=
  Run.afterAppend e first rest

theorem runSnoc (acts : List Act) (a : Act) : e.run (acts ++ [a]) = (e.run acts).act a :=
  Run.afterSnoc e acts a

theorem historyAppend (first rest : List Act) :
    e.history tell (first ++ rest) = e.history tell first ++ (e.run first).history tell rest :=
  Run.toldAppend e first rest

theorem historySnoc (acts : List Act) (a : Act) :
    e.history tell (acts ++ [a]) = e.history tell acts ++ tell (e.run acts) a :=
  Run.toldSnoc e acts a

theorem shutdownActs : (e.run [.pass .leaving, .pass .emptying]).backend = e.shutdown.1.backend :=
  rfl

theorem exitGuardActs :
    (e.run [.pass .guarding, .pass .marking, .pass .signalling]).backend = e.backend.exitGuard :=
  rfl

theorem proceedAct : e.proceed.1 = e.act (.pass e.stage) := rfl

end Engine

open Registry in
inductive Change (b : Backend) (a : Act) (next : Backend) : Told → Prop where
  | kept
      (lists : next.registry.lists = b.registry.lists)
      (length : next.registry.queues.length = b.registry.queues.length)
      (states : ∀ p, shut? next.registry.queues p = shut? b.registry.queues p)
      (order : b.nextId ≤ next.nextId)
      (exited : next.exited = b.exited)
      (idle : ∀ {t id}, a.strikes? = some (t, id) →
        b.exited = true ∨ b.registry.entry? t id = none)
      (stays : a.retires = false) :
      Change b a next {}
  | listed (t : Topic)
      (asked : a = .subscribe t)
      (live : b.exited = false)
      (registry : next.registry = b.registry.insert t b.nextId (Queue.make b.capacity))
      (used : next.nextId = b.nextId + 1)
      (exited : next.exited = false) :
      Change b a next { made := [⟨t, b.nextId, b.registry.queues.length⟩] }
  | struck (t : Topic) (id : QueueId) (entry : Entry)
      (asked : a.strikes? = some (t, id))
      (live : b.exited = false)
      (found : b.registry.entry? t id = some entry)
      (registry : next.registry = (b.registry.remove t id).2)
      (unused : next.nextId = b.nextId)
      (exited : next.exited = false) :
      Change b a next { removed := [t], closed := (closeEach [entry] b.registry.queues).1 }
  | retired
      (asked : a.retires = true)
      (registry : next.registry = b.registry.closeAll.2)
      (unused : next.nextId = b.nextId)
      (exited : next.exited = true) :
      Change b a next b.tellRetire

namespace Change

open Registry

variable {b next : Backend} {a : Act}

theorem still (registry : next.registry = b.registry) (unused : next.nextId = b.nextId)
    (exited : next.exited = b.exited)
    (idle : ∀ {t id}, a.strikes? = some (t, id) → b.exited = true ∨ b.registry.entry? t id = none)
    (stays : a.retires = false) : Change b a next {} :=
  .kept (registry ▸ rfl) (registry ▸ rfl) (fun _ => registry ▸ rfl) (Nat.le_of_eq unused.symm) exited idle stays

theorem ofEnlist {c : Backend} (t : Topic) (live : b.exited = false)
    (same : c.registry = b.registry ∧ c.nextId = b.nextId ∧ c.exited = b.exited ∧
      c.capacity = b.capacity) :
    Change b (.subscribe t) (c.enlist t).state { made := (c.enlist t).answer.made } := by
  obtain ⟨registry, id, exited, capacity⟩ := same
  rcases c.enlistCases t with ⟨-, done⟩ | ⟨-, done⟩ <;> rw [done]
  · simp only [registry, id, capacity, Subscribed.made]
    exact .listed t rfl live rfl rfl (exited.trans live)
  · exact .kept (registry ▸ rfl) (registry ▸ rfl) (fun _ => registry ▸ rfl)
      (id ▸ Nat.le_succ _) exited (fun none => nomatch none) rfl

theorem ofSubscribe (b : Backend) (t : Topic) :
    Change b (.subscribe t) (b.subscribe t).state { made := (b.subscribe t).answer.made } := by
  rcases b.subscribeCases t with
    ⟨-, done⟩ | ⟨-, -, why, -, done⟩ | ⟨live, -, link, -, done⟩ | ⟨live, -, done⟩ <;> rw [done]
  · exact .still rfl rfl rfl (fun none => nomatch none) rfl
  · exact .still rfl rfl rfl (fun none => nomatch none) rfl
  · exact ofEnlist t live ⟨rfl, rfl, rfl, rfl⟩
  · exact ofEnlist t live ⟨rfl, rfl, rfl, rfl⟩

theorem ofCancel {t : Topic} {id : QueueId} (asked : a.strikes? = some (t, id))
    (stays : a.retires = false) :
    Change b a (b.cancel t id).state (b.tellCancel t id) := by
  unfold Backend.tellCancel
  rcases b.cancelCases t id with ⟨gone, done⟩ | ⟨live, absent, done⟩ | ⟨live, entry, found, rest⟩
  · rw [done, gone]
    exact .still rfl rfl rfl (fun _ => .inl gone) stays
  · rw [done, live, b.registry.removeAbsent absent]
    refine .still rfl rfl rfl (fun other => .inr ?_) stays
    cases asked.symm.trans other
    exact absent
  · have struck {c : Backend} := @Change.struck b a c t id entry asked live found
    rw [live, b.registry.removeFound found, found]
    rcases rest with ⟨-, done⟩ | ⟨-, link, -, done⟩ | ⟨-, why, -, done⟩ <;>
      (rw [done]; exact struck rfl rfl live)

theorem exitedAfter {told : Told} (change : Change b a next told) :
    next.exited = (b.exited || a.retires) := by
  cases change with
  | kept _ _ _ _ exited _ stays => simp [exited, stays]
  | listed t asked live _ _ exited =>
    subst asked
    simp [exited, live, Act.retires]
  | struck t id entry asked live _ _ _ exited =>
    simp [exited, live, Act.strikesStays asked]
  | retired asked _ _ exited => simp [exited, asked]

theorem grows {told : Told} (change : Change b a next told) :
    b.registry.queues.length ≤ next.registry.queues.length := by
  cases change with
  | kept _ length => exact Nat.le_of_eq length.symm
  | listed t _ _ registry => simp [registry, Registry.insert]
  | struck t id entry _ _ found registry =>
    rw [registry, removeFound _ found]
    exact Nat.le_of_eq (onEachLength _).symm
  | retired _ registry =>
    rw [registry]
    exact Nat.le_of_eq (closeTopicsLength _ Topic.all).symm

end Change

open Registry in
theorem Engine.changes (e : Engine) (a : Act) :
    Change e.backend a (e.act a).backend (e.tell a) := by
  have still {next : Backend} {a : Act} (registry : next.registry = e.backend.registry)
      (unused : next.nextId = e.backend.nextId) (exited : next.exited = e.backend.exited)
      (idle : a.strikes? = none) (stays : a.retires = false) : Change e.backend a next {} :=
    .still registry unused exited (fun some => nomatch idle.symm.trans some) stays
  cases a with
  | subscribe t => exact .ofSubscribe e.backend t
  | cancel t id => exact .ofCancel rfl rfl
  | release t id =>
    have released : Change e.backend (.release t id) (e.backend.release t id).state
        (e.backend.tellCancel t id) := e.backend.releaseState t id ▸ .ofCancel rfl rfl
    exact released
  | requestTerm =>
    simp only [act, tell]
    rcases e.backend.askedCases with done | ⟨link, -, done⟩ <;>
      (rw [done]; exact still rfl rfl rfl rfl rfl)
  | receive place =>
    simp only [act, Backend.receive, Registry.queue?, tell]
    cases found : e.backend.registry.queues[place]? with
    | none => exact still rfl rfl rfl rfl rfl
    | some q =>
      exact .kept rfl List.length_set (putQueueShut found) (Nat.le_refl _) rfl
        (fun none => nomatch none) rfl
  | frame f =>
    simp only [act, tell]
    rcases e.onFrameCases f with ⟨why, -, done⟩ | ⟨n, -, done⟩ <;> rw [done]
    · exact still rfl rfl rfl rfl rfl
    · exact .kept (e.backend.registry.deliverLists n) (e.backend.registry.deliverLength n)
        (e.backend.registry.deliverShut n) (Nat.le_refl _) rfl (fun none => nomatch none) rfl
  | control =>
    simp only [act, tell]
    rcases e.onControlCases with
      ⟨-, done⟩ | ⟨f, rest, -, ⟨filters, -, done⟩ | ⟨-, done⟩ | ⟨why, -, done⟩⟩ <;>
      (rw [done]; exact still rfl rfl rfl rfl rfl)
  | pass stage => cases stage with
    | emptying => exact .retired rfl rfl rfl rfl
    | guarding => exact .retired rfl rfl rfl rfl
    | polling => exact still rfl rfl rfl rfl rfl
    | leaving => exact still rfl rfl rfl rfl rfl
    | marking => exact still rfl rfl rfl rfl rfl
    | signalling => exact still rfl rfl rfl rfl rfl
    | gone => exact still rfl rfl rfl rfl rfl
  | start => exact still rfl rfl rfl rfl rfl
  | fail why => exact still rfl rfl rfl rfl rfl
  | panic => exact still rfl rfl rfl rfl rfl
  | fault cause => exact still rfl rfl rfl rfl rfl

end NodeFeed
