import NodeFeed.Proofs.FilterAgreement

/-!
What the calls of a consumer answer while sends through the open front succeed: it depends on the call,
the capacity and whether shutdown has begun, and on nothing that the lists or the other queues hold.
-/

namespace NodeFeed

namespace Backend

variable {b next : Backend}

structure Sending (b : Backend) : Prop where
  sends : b.link.fault = none
  front : b.link.front = !b.exited

theorem Calls.same {c : Command} (calls : b.Calls next c) :
    next.exited = b.exited ∧ next.capacity = b.capacity := by
  rw [calls.rest]
  exact ⟨rfl, rfl⟩

structure Links (b : Backend) (a : Act) (next : Backend) : Prop where
  capacity : next.capacity = b.capacity
  front : next.link.front = (b.link.front && !a.retires)
  fault : (∀ cause, a ≠ .fault cause) → next.link.fault = b.link.fault

theorem Calls.links {c : Command} (calls : b.Calls next c) {a : Act} (stays : a.retires = false) :
    b.Links a next := by
  have capacity := calls.same.2
  rcases calls.sent with same | sent
  · exact ⟨capacity, by simp [same, stays], fun _ => by rw [same]⟩
  · obtain ⟨-, -, longer⟩ := Link.sentOnly sent
    exact ⟨capacity, by simp [longer, stays], fun _ => by rw [longer]⟩

theorem Sending.send (h : b.Sending) (live : b.exited = false) {c : Command} {why : Errno} :
    b.link.send c ≠ .error why := by
  have front : b.link.front = true := by simp [h.front, live]
  simp [Link.sendOpen front h.sends c]

theorem Sending.cancelAnswer (h : b.Sending) (t : Topic) (id : QueueId) :
    (b.cancel t id).answer = if b.exited then .error .exited else .ok () := by
  rcases b.cancelCases t id with ⟨gone, done⟩ | ⟨live, -, done⟩ | ⟨live, entry, -, rest⟩
  · simp [done, gone]
  · simp [done, live]
  · rcases rest with ⟨-, done⟩ | ⟨-, link, -, done⟩ | ⟨-, why, failed, -⟩
    · simp [done, live]
    · simp [done, live]
    · exact absurd failed (h.send live)

theorem enlistTold (b : Backend) (t : Topic) :
    (t.canReserve b.capacity = true ∧ ∃ s, (b.enlist t).answer = .added s ∧ s.topic = t ∧
      (b.enlist t).state.registry.queue? s.place = some (Queue.make b.capacity)) ∨
    (t.canReserve b.capacity = false ∧ (b.enlist t).answer = .overflow) := by
  rcases b.enlistCases t with ⟨fits, done⟩ | ⟨large, done⟩ <;> rw [done]
  · exact .inl ⟨fits, _, rfl, rfl, List.getElem?_concat_length⟩
  · exact .inr ⟨large, rfl⟩

theorem Sending.subscribeTold (h : b.Sending) (t : Topic) :
    (b.exited = true ∧ (b.subscribe t).answer = .refused .exited) ∨
    (b.exited = false ∧ t.canReserve b.capacity = true ∧ ∃ s, (b.subscribe t).answer = .added s ∧
      s.topic = t ∧
      (b.subscribe t).state.registry.queue? s.place = some (Queue.make b.capacity)) ∨
    (b.exited = false ∧ t.canReserve b.capacity = false ∧ (b.subscribe t).answer = .overflow) := by
  rcases b.subscribeCases t with
    ⟨gone, done⟩ | ⟨live, -, why, failed, -⟩ | ⟨live, -, link, -, done⟩ | ⟨live, -, done⟩
  · exact .inl ⟨gone, by rw [done]⟩
  · exact absurd failed (h.send live)
  · rw [done]
    exact .inr ((enlistTold { b with link } t).imp (⟨live, ·⟩) (⟨live, ·⟩))
  · rw [done]
    exact .inr ((b.enlistTold t).imp (⟨live, ·⟩) (⟨live, ·⟩))

end Backend

theorem Act.quietStays (a : Act) (quiet : a.quiet = true) : a.retires = false := by
  cases a with
  | pass stage => cases stage <;> first | rfl | cases quiet
  | _ => rfl

namespace Engine

variable {e : Engine}

theorem links (e : Engine) (a : Act) : e.backend.Links a (e.act a).backend := by
  cases quiet : a.quiet with
  | true =>
    obtain ⟨cmds, sent, -, -, -⟩ := e.quietAct quiet
    exact ⟨sent.capacity, by simp [sent.front, a.quietStays quiet], fun _ => sent.fault⟩
  | false =>
    cases a with
    | subscribe t => exact (e.backend.subscribeCalls t).links rfl
    | cancel t id => exact (e.backend.cancelCalls t id).links rfl
    | release t id => exact (e.backend.releaseCalls t id).links rfl
    | control =>
      simp only [act]
      rcases e.onControlCases with
        ⟨-, done⟩ | ⟨f, rest, -, ⟨filters, -, done⟩ | ⟨-, done⟩ | ⟨why, -, done⟩⟩ <;> rw [done] <;>
        exact ⟨rfl, (Bool.and_true _).symm, fun _ => rfl⟩
    | fault cause => exact ⟨rfl, (Bool.and_true _).symm, fun healthy => absurd rfl (healthy cause)⟩
    | pass stage =>
      cases stage with
      | emptying => exact ⟨rfl, (Bool.and_false _).symm, fun _ => rfl⟩
      | guarding => exact ⟨rfl, (Bool.and_false _).symm, fun _ => rfl⟩
      | _ => cases quiet
    | _ => cases quiet

theorem frontAct (h : e.backend.link.front = !e.backend.exited) (a : Act) :
    (e.act a).backend.link.front = !(e.act a).backend.exited := by
  rw [(e.links a).front, (e.changes a).exitedAfter, h, Bool.not_or]

theorem sendingAct (h : e.backend.Sending) {a : Act} (healthy : ∀ cause, a ≠ .fault cause) :
    (e.act a).backend.Sending where
  sends := ((e.links a).fault healthy).trans h.sends
  front := frontAct h.front a

theorem capacityRun (e : Engine) (acts : List Act) :
    (e.run acts).backend.capacity = e.backend.capacity := by
  induction acts generalizing e with
  | nil => rfl
  | cons a rest ih => exact (ih (e.act a)).trans (e.links a).capacity

end Engine

end NodeFeed
