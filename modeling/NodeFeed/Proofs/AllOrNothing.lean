import Mathlib.Algebra.GroupWithZero.Nat
import NodeFeed.Config
import NodeFeed.Proofs.CloseRule

/-!
Whether a subscribe call does all that it is to do or nothing. The command goes out before the queue is made,
and nothing takes it back; so the call is whole exactly if making the queue cannot fail once the command is
out. Where somebody hears the topic already a queue of this size has been made, and no command is sent. So
all depends on the bytes that one queue of the topic needs, and on whether a send fails first.
-/

namespace NodeFeed

namespace Backend

def Whole (b : Backend) (t : Topic) : Prop :=
  (b.subscribe t).state.link.pending = b.link.pending ++ [(Command.subscribe t).encode] →
    ∃ entry, (b.subscribe t).state.registry.lists.get t = b.registry.lists.get t ++ [entry] ∧
      (b.subscribe t).state.registry.queue? entry.place = some (Queue.make b.capacity)

def commanded (b : Backend) (t : Topic) : Link :=
  if b.registry.isEmpty t then
    { b.link with pending := b.link.pending ++ [(Command.subscribe t).encode] }
  else b.link

inductive Attempt (b : Backend) (t : Topic) : Outcome Backend Subscribed → Prop where
  | refused (why : Errno)
      (unheard : b.registry.isEmpty t = true)
      (failed : b.link.send (.subscribe t) = .error why) :
      Attempt b t ⟨.refused (.control Verb.subscribe.name t why), b, []⟩
  | added
      (sends : b.registry.isEmpty t = true → b.link.fault = none)
      (fits : t.canReserve b.capacity = true) :
      Attempt b t ⟨.added ⟨t, b.nextId, b.registry.queues.length⟩,
        { b with
          link := b.commanded t
          nextId := b.nextId + 1
          registry := b.registry.insert t b.nextId (Queue.make b.capacity) },
        [.subscriptionAdded t b.nextId
          ((b.registry.insert t b.nextId (Queue.make b.capacity)).live t)]⟩
  | overflow
      (sends : b.registry.isEmpty t = true → b.link.fault = none)
      (large : t.canReserve b.capacity = false) :
      Attempt b t ⟨.overflow, { b with link := b.commanded t, nextId := b.nextId + 1 }, []⟩

variable {b : Backend} {t : Topic}

theorem enlistAttempt {link : Link} (sent : link = b.commanded t)
    (sends : b.registry.isEmpty t = true → b.link.fault = none) :
    Attempt b t (enlist { b with link } t) := by
  subst sent
  rcases enlistCases { b with link := b.commanded t } t with ⟨fits, done⟩ | ⟨large, done⟩ <;> rw [done]
  · exact .added sends fits
  · exact .overflow sends large

theorem subscribeAttempt (live : b.exited = false) (t : Topic) : Attempt b t (b.subscribe t) := by
  rcases b.subscribeCases t with
    ⟨gone, -⟩ | ⟨-, unheard, why, failed, done⟩ | ⟨-, unheard, link, sent, done⟩ | ⟨-, heard, done⟩
  · cases live.symm.trans gone
  · exact done ▸ .refused why unheard failed
  · obtain ⟨-, fault, longer⟩ := Link.sentOnly sent
    exact done ▸ enlistAttempt (by rw [longer, commanded, if_pos unheard]) fun _ => fault
  · have none : ¬ b.registry.isEmpty t = true := by simp [heard]
    exact done ▸ enlistAttempt (by rw [commanded, if_neg none]) fun empty => absurd empty none

theorem wholeIff (live : b.exited = false) (front : b.link.front = true)
    (heardFits : b.registry.isEmpty t = false → t.canReserve b.capacity = true) :
    b.Whole t ↔ t.canReserve b.capacity = true ∨ b.link.fault ≠ none := by
  unfold Whole
  have attempt := subscribeAttempt live t
  generalize b.subscribe t = outcome at attempt
  cases attempt with
  | refused why unheard failed =>
    have fault : b.link.fault ≠ none := fun sends => by
      cases (Link.sendOpen front sends _).symm.trans failed
    exact iff_of_true (fun sent => absurd (congrArg List.length sent) (by simp)) (.inr fault)
  | added sends fits =>
    refine iff_of_true (fun _ => ⟨⟨b.nextId, b.registry.queues.length⟩, ?_, ?_⟩) (.inl fits)
    · simp [Registry.insertLists]
    · exact List.getElem?_concat_length
  | overflow sends large =>
    have unheard : b.registry.isEmpty t = true := by
      by_contra heard
      cases large.symm.trans (heardFits (by simpa using heard))
    refine iff_of_false (fun whole => ?_) ?_
    · obtain ⟨entry, longer, -⟩ := whole (by simp [commanded, unheard])
      exact absurd (congrArg List.length longer) (by simp)
    · simp [large, sends unheard]

end Backend

namespace Engine

theorem frontRun {e : Engine} (h : e.backend.link.front = !e.backend.exited) (acts : List Act) :
    (e.run acts).backend.link.front = !(e.run acts).backend.exited := by
  induction acts generalizing e with
  | nil => exact h
  | cons a rest ih => exact ih (frontAct h a)

theorem heardFits {capacity : Nat} {filters : Filters} {acts : List Act} {t : Topic}
    (heard : ((opening capacity filters).run acts).backend.registry.isEmpty t = false) :
    t.canReserve capacity = true := by
  obtain ⟨entry, listed⟩ := List.exists_mem_of_ne_nil _ (List.isEmpty_eq_false_iff.mp heard)
  obtain ⟨s, mine, rfl, -⟩ := (tracksOpened capacity filters acts).owner listed
  obtain ⟨before, after, made⟩ := madeSomewhere mine
  have fits := Backend.addedFits made.answer
  rwa [capacityRun] at fits

structure Attempted (config : Config) (b : Backend) (t : Topic) : Prop where
  front : b.link.front = true
  outcome : b.Attempt t (b.subscribe t)
  whole : b.Whole t ↔ config.queueCapacity * t.eventSize < 2 ^ 63 ∨ b.link.fault ≠ none

theorem reservesIff (config : Config) (t : Topic) :
    t.canReserve config.queueCapacity = true ↔ config.queueCapacity * t.eventSize < 2 ^ 63 := by
  have one : max config.queueCapacity 1 = config.queueCapacity :=
    Nat.max_eq_left config.queueCapacityPositive
  simp [Topic.canReserve, Queue.canReserve, one]

theorem attempted (config : Config) (filters : Filters) {acts : List Act} (t : Topic)
    (live : ((opening config.queueCapacity filters).run acts).backend.exited = false) :
    Attempted config ((opening config.queueCapacity filters).run acts).backend t := by
  have front : ((opening config.queueCapacity filters).run acts).backend.link.front = true := by
    have opened := frontRun (e := opening config.queueCapacity filters) rfl acts
    rwa [live] at opened
  have room : ((opening config.queueCapacity filters).run acts).backend.capacity = config.queueCapacity :=
    capacityRun _ acts
  refine ⟨front, Backend.subscribeAttempt live t, ?_⟩
  rw [Backend.wholeIff live front fun heard => room.symm ▸ heardFits heard, room, reservesIff]

/-- Before shutdown a subscribe call is whole exactly if a queue of its topic can be made or the command
fails to be sent; so it is so in every state exactly if a queue can be made. -/
theorem subscribesWholeExactly (config : Config) (capacity : UInt64) (filters : Filters) (t : Topic) :
    let wide := config.withCapacity capacity
    (∀ acts, ((opening wide.queueCapacity filters).run acts).backend.exited = false →
      Attempted wide ((opening wide.queueCapacity filters).run acts).backend t) ∧
    ((∀ acts, ((opening wide.queueCapacity filters).run acts).backend.exited = false →
      ((opening wide.queueCapacity filters).run acts).backend.Whole t) ↔
        wide.queueCapacity * t.eventSize < 2 ^ 63) := by
  intro wide
  refine ⟨fun acts live => attempted wide filters t live, fun always => ?_, fun small acts live => ?_⟩
  · have fresh : ((opening wide.queueCapacity filters).run []).backend.exited = false := rfl
    rcases (attempted wide filters t fresh).whole.mp (always [] fresh) with small | fault
    · exact small
    · exact absurd rfl fault
  · exact (attempted wide filters t live).whole.mpr (.inl small)

theorem subscribesWholeAfterCancel :
    let wide := (Config.ofAddress "tcp://127.0.0.1:28332").withCapacity 16
    let acts := [.subscribe .rawTx, .control, .cancel .rawTx 0, .fault (some .eagain)]
    ((opening wide.queueCapacity .fresh).run acts).backend.exited = false ∧
      Attempted wide ((opening wide.queueCapacity .fresh).run acts).backend .rawTx := by
  intro wide acts
  have live : ((opening wide.queueCapacity .fresh).run acts).backend.exited = false := by decide
  exact ⟨live, (subscribesWholeExactly _ 16 .fresh .rawTx).1 acts live⟩

theorem commandWithoutQueue :
    let wide := (Config.ofAddress "tcp://127.0.0.1:28332").withCapacity 0x8000000000000000
    (opening wide.queueCapacity .fresh).backend.exited = false ∧
      (opening wide.queueCapacity .fresh).backend.link.front = true ∧
      ¬ (opening wide.queueCapacity .fresh).backend.Whole .hashTx := by
  refine ⟨rfl, rfl, fun whole => ?_⟩
  obtain ⟨entry, longer, -⟩ := whole (by decide)
  have none : ([] : List Entry) = [entry] := longer
  cases none

end Engine
end NodeFeed
