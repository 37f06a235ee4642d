import NodeFeed.Proofs.Answers
import NodeFeed.Proofs.CloseOnce
import NodeFeed.Proofs.Delivery

/-!
What holds once a close call has returned. After one that returned in order, every queue is closed and
nobody can subscribe. One that found the flag taken returns as well, but it says nothing of the handler:
it may return long before shutdown begins, or when the party that holds the flag is about to give it back.
The rule then holds exactly if shutdown has begun by itself.
-/

namespace NodeFeed

theorem Backend.addedFits {b : Backend} {t : Topic} {s : Subscription}
    (added : (b.subscribe t).answer = .added s) : t.canReserve b.capacity = true := by
  have enlisted (c : Backend) (same : c.capacity = b.capacity)
      (added : (c.enlist t).answer = .added s) : t.canReserve b.capacity = true := by
    rcases c.enlistCases t with ⟨fits, -⟩ | ⟨-, done⟩
    · exact same ▸ fits
    · rw [done] at added
      cases added
  rcases b.subscribeCases t with
    ⟨-, done⟩ | ⟨-, -, why, -, done⟩ | ⟨-, -, link, -, done⟩ | ⟨-, -, done⟩ <;> rw [done] at added
  · cases added
  · cases added
  · exact enlisted { b with link } rfl added
  · exact enlisted b rfl added

namespace Closing

variable {config : Config} {filters : Filters} {moves : List Move} {e : Engine}

structure Shut (config : Config) (filters : Filters) (moves : List Move) : Prop where
  closed : ∀ e, ((start config filters).run moves).subscriber.engine = some e →
    ∀ u ∈ (Engine.opening config.queueCapacity filters).made ((start config filters).played moves),
      ∃ q, e.backend.registry.queue? u.place = some q ∧ q.closed = true
  refused : ∀ more t u,
    (((start config filters).run (moves ++ more)).subscriber.subscribe t).answer ≠ .added u

def exited (c : Closing) : Bool := c.subscriber.engine.any fun e => e.backend.exited

theorem enabledEngine (filters : Filters) (enabled : config.isEnabled = true) (moves : List Move) :
    ∃ e, ((start config filters).run moves).subscriber.engine = some e := by
  rw [runEngine]
  simp [start, enabled]

theorem exitedStays (exited : ((start config filters).run moves).exited = true) (more : List Move)
    (later : ((start config filters).run (moves ++ more)).subscriber.engine = some e) :
    e.backend.exited = true := by
  rw [runAppend] at later
  have engine := runEngine ((start config filters).run moves) more
  rw [engine, Option.map_eq_some_iff] at later
  obtain ⟨first, there, rfl⟩ := later
  have gone : first.backend.exited = true := by simpa [Closing.exited, there] using exited
  exact (Engine.onwardRun (playedOrderly more there)).exited gone

theorem shutIfExited (exited : ((start config filters).run moves).exited = true) :
    Shut config filters moves where
  closed e there := by
    obtain ⟨same, -⟩ := startEngine there
    have gone : e.backend.exited = true := by simpa [Closing.exited, there] using exited
    rw [same] at gone ⊢
    exact (Engine.emptiedOpened config.queueCapacity filters gone).2
  refused more t u := by
    cases there : ((start config filters).run (moves ++ more)).subscriber.engine with
    | none => simp [Subscriber.subscribe, there]
    | some e =>
      have gone := exitedStays exited more there
      simp [Subscriber.subscribe, there, (Backend.refuses gone).subscribe]

theorem shutIfNoneFits (none : ∀ t : Topic, t.canReserve config.queueCapacity = false) :
    Shut config filters moves := by
  have unmade {acts : List Act} {t : Topic} {u : Subscription} :
      (((Engine.opening config.queueCapacity filters).run acts).backend.subscribe t).answer ≠
        .added u := by
    intro added
    have fits := Backend.addedFits added
    rw [Engine.capacityRun] at fits
    cases (none t).symm.trans fits
  refine ⟨fun e there u mine => ?_, fun more t u => ?_⟩
  · obtain ⟨before, after, made⟩ := Engine.madeSomewhere mine
    exact absurd made.answer unmade
  · cases there : ((start config filters).run (moves ++ more)).subscriber.engine with
    | none => simp [Subscriber.subscribe, there]
    | some e =>
      obtain ⟨rfl, -⟩ := startEngine there
      simpa [Subscriber.subscribe, there] using unmade

theorem openFits (there : ((start config filters).run moves).subscriber.engine = some e)
    (live : e.backend.exited = false) {t : Topic} (fits : t.canReserve config.queueCapacity = true) :
    ∃ more u, (((start config filters).run (moves ++ more)).subscriber.subscribe t).answer =
      .added u := by
  obtain ⟨same, orderly⟩ := startEngine there
  have ordered := Engine.orderedOpened config.queueCapacity filters orderly
  have capacity := (Engine.opening config.queueCapacity filters).capacityRun
    ((start config filters).played moves)
  rw [← same] at ordered capacity
  have sending : (e.act (.fault none)).backend.Sending := ⟨rfl, ordered.front⟩
  refine ⟨[.other (.fault none)], ?_⟩
  rw [runSnoc, mended there]
  rcases sending.subscribeTold t with ⟨gone, -⟩ | ⟨-, -, u, added, -⟩ | ⟨-, large, -⟩
  · cases live.symm.trans gone
  · exact ⟨u, by simp [withEngine, Subscriber.subscribe, added]⟩
  · cases fits.symm.trans (capacity ▸ large)

theorem shutExactly (enabled : config.isEnabled = true) :
    Shut config filters moves ↔ ((start config filters).run moves).exited = true ∨
      ∀ t : Topic, t.canReserve config.queueCapacity = false := by
  constructor
  · intro shut
    obtain ⟨e, there⟩ := enabledEngine filters enabled moves
    cases gone : e.backend.exited with
    | true => exact .inl (by simpa [exited, there] using gone)
    | false =>
      refine .inr fun t => ?_
      by_contra fits
      obtain ⟨more, u, added⟩ := openFits there gone (Bool.not_eq_false _ ▸ fits)
      exact shut.refused more t u added
  · rintro (exited | none)
    · exact shutIfExited exited
    · exact shutIfNoneFits none

theorem wonExited {i : Nat} (enabled : config.isEnabled = true)
    (won : ((start config filters).run moves).call? i = some (.ended (.ok ()))) :
    ((start config filters).run moves).exited = true := by
  obtain ⟨e, there⟩ := enabledEngine filters enabled moves
  have stopped := (guardedRun (startGuarded config filters) moves).woken i _ won rfl e there
  obtain ⟨same, orderly⟩ := startEngine there
  have ordered := Engine.orderedOpened config.queueCapacity filters orderly
  rw [← same] at ordered
  have gone : e.backend.exited = true := ordered.late (.inr (.inr (ordered.signalled.mp stopped)))
  simpa [exited, there] using gone

theorem lateReturns (c : Closing) (taken : c.subscriber.closed = true) :
    (c.run [.call, .step c.calls.length]).call? c.calls.length =
        some (.ended (.error .alreadyClosed)) ∧
      (c.run [.call, .step c.calls.length]).subscriber = c.subscriber := by
  have called : (c.move .call).call? c.calls.length = some .calling := by simp [move, call?]
  have late : (c.move .call).subscriber.closeStep .calling =
      ⟨.ended (.error .alreadyClosed), c.subscriber, []⟩ := by
    simp [move, Subscriber.closeStep, taken]
  exact stepsTo called late

structure CloseRule (config : Config) (filters : Filters) (moves : List Move) : Prop where
  won : ∀ i, ((start config filters).run moves).call? i = some (.ended (.ok ())) →
    Shut config filters moves
  late : ∀ i, ((start config filters).run moves).call? i =
      some (.ended (.error .alreadyClosed)) →
    (Shut config filters moves ↔ ((start config filters).run moves).exited = true ∨
      ∀ t : Topic, t.canReserve config.queueCapacity = false)
  anytime : ((start config filters).run moves).subscriber.closed = true →
    ∃ i, ((start config filters).run (moves ++ [.call, .step i])).call? i =
        some (.ended (.error .alreadyClosed)) ∧
      ((start config filters).run (moves ++ [.call, .step i])).subscriber =
        ((start config filters).run moves).subscriber

theorem closeRuleExactly (config : Config) (filters : Filters) (moves : List Move)
    (enabled : config.isEnabled = true) : CloseRule config filters moves where
  won _ won := (shutExactly enabled).mpr (.inl (wonExited enabled won))
  late _ _ := shutExactly enabled
  anytime taken := by
    simp only [runAppend]
    exact ⟨_, lateReturns _ taken⟩

def waitingAndLate : List Move :=
  [.other (.subscribe .hashTx), .call, .step 0, .step 0, .call, .step 1]

theorem ruleBehindTheRequest :
    (⟨"tcp://127.0.0.1:1", 0⟩ : Config).isEnabled = true ∧
      ((start ⟨"tcp://127.0.0.1:1", 0⟩ .fresh).run waitingAndLate).call? 1 =
        some (.ended (.error .alreadyClosed)) ∧
      ¬ Shut ⟨"tcp://127.0.0.1:1", 0⟩ .fresh waitingAndLate ∧
      CloseRule ⟨"tcp://127.0.0.1:1", 0⟩ .fresh waitingAndLate := by
  have enabled : (⟨"tcp://127.0.0.1:1", 0⟩ : Config).isEnabled = true := by decide
  have late : ((start ⟨"tcp://127.0.0.1:1", 0⟩ .fresh).run waitingAndLate).call? 1 =
      some (.ended (.error .alreadyClosed)) := rfl
  have rule := closeRuleExactly ⟨"tcp://127.0.0.1:1", 0⟩ .fresh waitingAndLate enabled
  refine ⟨enabled, late, ?_, rule⟩
  rw [rule.late 1 late]
  rintro (exited | none)
  · have running : ((start ⟨"tcp://127.0.0.1:1", 0⟩ .fresh).run waitingAndLate).exited = false := rfl
    cases running.symm.trans exited
  · exact absurd (none .hashTx) (by decide)

theorem lateBeforeShutdown :
    ¬ ∀ (config : Config) (filters : Filters) (moves : List Move) (i : Nat)
      (answer : Except CloseError Unit), config.isEnabled = true →
      answer = .ok () ∨ answer = .error .alreadyClosed →
      ((start config filters).run moves).call? i = some (.ended answer) →
        Shut config filters moves := by
  intro rule
  have late : ((start ⟨"tcp://127.0.0.1:1", 0⟩ .fresh).run waitingAndLate).call? 1 =
      some (.ended (.error .alreadyClosed)) := rfl
  have shut := rule ⟨"tcp://127.0.0.1:1", 0⟩ .fresh waitingAndLate 1 _ (by decide) (.inr rfl) late
  obtain ⟨q, there, closed⟩ := shut.closed _ rfl ⟨.hashTx, 0, 0⟩ (by decide)
  cases there
  cases closed

end Closing
end NodeFeed
