import NodeFeed.Proofs.Closing

/-!
A subscriber is closed once. A party that has taken the flag holds it until its request cannot be sent; at
most one party holds it, and the commands sent to stop, together with the parties about to send one, are
never more than that. A call that has seen the handler stop leaves nothing open behind it, and a call
whose request failed leaves everything as it was and the flag to the next.
-/

namespace NodeFeed

namespace CloseStage

def won : CloseStage → Bool
  | .ended (.ok ()) => true
  | _ => false

def woken : CloseStage → Bool
  | .joining | .ended (.ok ()) => true
  | _ => false

def holds : CloseStage → Bool
  | .asking | .waiting | .joining | .ended (.ok ()) => true
  | .calling | .ended (.error _) => false

end CloseStage

def DropStage.holds : DropStage → Bool
  | .asking | .joining => true
  | .calling | .ended => false

def terms (frames : List Frame) : Nat := frames.countP fun f => decide (Command.decode? f = some .term)

theorem termsSent (c : Command) : terms [c.encode] = if c = .term then 1 else 0 := by
  simp [terms, List.countP_cons, Command.encodedCommandRead]

def Act.command? : Act → Option Command
  | .subscribe t => some (.subscribe t)
  | .cancel t _ | .release t _ => some (.unsubscribe t)
  | .requestTerm => some .term
  | _ => none

namespace Backend

def Sent (b next : Backend) (c : Command) : Prop :=
  next.link.pending = b.link.pending ∨ next.link.pending = b.link.pending ++ [c.encode]

variable {b : Backend}

theorem sentLink {link : Link} {c : Command} (sent : b.link.send c = .ok link) :
    b.Sent { b with link } c := by
  obtain ⟨-, -, rfl⟩ := Link.sentOnly sent
  exact .inr rfl

theorem Calls.pending {next : Backend} {c : Command} (calls : b.Calls next c) : b.Sent next c := by
  rcases calls.sent with same | sent
  · exact .inl (by rw [same])
  · exact sentLink sent

theorem requestSent {next : Backend} (asked : b.requestTerm = .ok next) : b.Sent next .term := by
  rcases b.requestTermCases with ⟨-, done⟩ | ⟨-, why, -, done⟩ | ⟨-, link, sent, done⟩ <;>
    cases done.symm.trans asked
  · exact .inl rfl
  · exact sentLink sent

theorem askedSent (b : Backend) : b.Sent b.asked .term := by
  rcases b.askedCases with done | ⟨link, sent, done⟩ <;> rw [done]
  · exact .inl rfl
  · exact sentLink sent

theorem Sent.terms {next : Backend} {c : Command} (sent : b.Sent next c) :
    terms (next.link.pending.drop b.link.pending.length) ≤ if c = .term then 1 else 0 := by
  rcases sent with same | more
  · simp [same, NodeFeed.terms]
  · exact Nat.le_of_eq (by rw [more, List.drop_left, termsSent])

end Backend

namespace Engine

theorem pendingAct (e : Engine) (a : Act) :
    (∃ c, a.command? = some c ∧ e.backend.Sent (e.act a).backend c) ∨
      (e.act a).backend.link.pending <:+ e.backend.link.pending := by
  cases a with
  | subscribe t => exact .inl ⟨_, rfl, (e.backend.subscribeCalls t).pending⟩
  | cancel t id => exact .inl ⟨_, rfl, (e.backend.cancelCalls t id).pending⟩
  | release t id => exact .inl ⟨_, rfl, (e.backend.releaseCalls t id).pending⟩
  | requestTerm => exact .inl ⟨_, rfl, e.backend.askedSent⟩
  | receive place =>
    simp only [act, Backend.receive]
    split <;> exact .inr (List.suffix_refl _)
  | frame f =>
    simp only [act]
    rcases e.onFrameCases f with ⟨why, -, done⟩ | ⟨n, -, done⟩ <;>
      (rw [done]; exact .inr (List.suffix_refl _))
  | control =>
    simp only [act]
    rcases e.onControlCases with
      ⟨-, done⟩ | ⟨f, rest, pending, ⟨filters, -, done⟩ | ⟨-, done⟩ | ⟨why, -, done⟩⟩ <;> rw [done]
    · exact .inr (List.suffix_refl _)
    all_goals exact .inr (pending ▸ List.suffix_cons f rest)
  | pass stage => cases stage <;> exact .inr (List.suffix_refl _)
  | start => exact .inr (List.suffix_refl _)
  | fail why => exact .inr (List.suffix_refl _)
  | panic => exact .inr (List.suffix_refl _)
  | fault cause => exact .inr (List.suffix_refl _)

theorem termsAct (e : Engine) {a : Act} (other : a ≠ .requestTerm) :
    terms ((e.act a).backend.link.pending.drop e.backend.link.pending.length) = 0 := by
  rcases e.pendingAct a with ⟨c, command, sent⟩ | fewer
  · have quiet : c ≠ .term := fun same => by
      subst same
      cases a <;> first | exact other rfl | cases command
    simpa [quiet] using sent.terms
  · rw [List.drop_eq_nil_of_le fewer.length_le]
    rfl

end Engine

namespace Subscriber

def pending (s : Subscriber) : List Frame :=
  match s.engine with
  | some e => e.backend.link.pending
  | none => []

def sends (s next : Subscriber) : List Frame := next.pending.drop s.pending.length

variable {s next : Subscriber}

theorem sendsSame (same : next.engine = s.engine) : terms (s.sends next) = 0 := by
  simp [sends, pending, same, terms]

inductive Grips (s next : Subscriber) (holds asks : Bool) (holding asking : Bool) : Prop where
  | kept
      (closed : next.closed = s.closed)
      (holds : holding.toNat ≤ holds.toNat)
      (sent : terms (s.sends next) + asking.toNat ≤ asks.toNat)
  | won
      (free : s.closed = false)
      (closed : next.closed = true)
      (sent : terms (s.sends next) = 0)
      (before : holds = false ∧ asks = false)
  | failed
      (closed : next.closed = false)
      (sent : terms (s.sends next) = 0)
      (before : holds = true ∧ asks = true)
      (after : holding = false ∧ asking = false)

theorem gripSends {holds asks holding asking : Bool} (grips : s.Grips next holds asks holding asking) :
    terms (s.sends next) ≤ asks.toNat := by
  cases grips with
  | kept closed fewer few => exact Nat.le_trans (Nat.le_add_right _ _) few
  | won free closed sent before => exact sent ▸ Nat.zero_le _
  | failed closed sent before after => exact sent ▸ Nat.zero_le _

theorem termsAsked {e : Engine} {b : Backend} (there : s.engine = some e)
    (asked : e.backend.requestTerm = .ok b) (after : next.engine = some { e with backend := b }) :
    terms (s.sends next) ≤ 1 := by
  have sent := (Backend.requestSent asked).terms
  simpa [sends, pending, there, after] using sent

theorem closeGrips {stage answer : CloseStage} (steps : CloseStage.Steps s stage next answer) :
    s.Grips next stage.holds stage.asks answer.holds answer.asks := by
  have same {next : Subscriber} (engine : next.engine = s.engine) : terms (s.sends next) ≤ 0 :=
    Nat.le_of_eq (sendsSame engine)
  cases steps with
  | late => exact .kept rfl (Nat.le_refl _) (same rfl)
  | alone free none => exact .won free rfl (sendsSame rfl) ⟨rfl, rfl⟩
  | taken free there => exact .won free rfl (sendsSame rfl) ⟨rfl, rfl⟩
  | unasked none => exact .kept rfl (Nat.le_refl _) (Nat.le_succ_of_le (same rfl))
  | failed there failed => exact .failed rfl (sendsSame rfl) ⟨rfl, rfl⟩ ⟨rfl, rfl⟩
  | asked there asked => exact .kept rfl (Nat.le_refl _) (termsAsked there asked rfl)
  | waits => exact .kept rfl (Nat.le_refl _) (same rfl)
  | woken stopped => exact .kept rfl (Nat.le_refl _) (same rfl)
  | joined => exact .kept rfl (Nat.le_refl _) (same rfl)
  | ended answer => exact .kept rfl (Nat.le_refl _) (by simpa [CloseStage.asks] using same rfl)

theorem dropGrips (s : Subscriber) (stage : DropStage) :
    s.Grips (s.dropStep stage).state stage.holds stage.asks
      (s.dropStep stage).answer.holds (s.dropStep stage).answer.asks := by
  have same {next : Subscriber} (engine : next.engine = s.engine) : terms (s.sends next) ≤ 0 :=
    Nat.le_of_eq (sendsSame engine)
  cases stage with
  | calling =>
    simp only [dropStep]
    split
    case isTrue => exact .kept rfl (Nat.le_refl _) (same rfl)
    case isFalse free =>
      have free : s.closed = false := Bool.not_eq_true _ ▸ free
      split <;> exact .won free rfl (sendsSame rfl) ⟨rfl, rfl⟩
  | asking =>
    simp only [dropStep]
    split
    case h_1 => exact .kept rfl (Nat.zero_le _) (Nat.le_succ_of_le (same rfl))
    case h_2 e there =>
      split
      case h_1 => exact .kept rfl (Nat.zero_le _) (Nat.le_succ_of_le (same rfl))
      case h_2 b asked => exact .kept rfl (Nat.le_refl _) (termsAsked there asked rfl)
  | joining => exact .kept rfl (Nat.zero_le _) (same rfl)
  | ended => exact .kept rfl (Nat.le_refl _) (same rfl)

end Subscriber

theorem countSet {α : Type} {l : List α} {i : Nat} {x : α} (there : l[i]? = some x) (p : α → Bool)
    (y : α) : (l.set i y).countP p + (p x).toNat = l.countP p + (p y).toNat := by
  obtain ⟨inside, rfl⟩ := List.getElem?_eq_some_iff.mp there
  have few := List.boole_getElem_le_countP (p := p) inside
  rw [List.countP_set inside]
  cases first : p l[i] <;> cases later : p y <;> simp_all

namespace Closing

variable {c next : Closing} {acts : List Act}

def sends (c : Closing) (m : Move) : List Frame := c.subscriber.sends (c.move m).subscriber

def sent (c : Closing) (moves : List Move) : List Frame := Run.told move sends c moves

def holders (c : Closing) : Nat := c.calls.countP (·.any CloseStage.holds) + c.dropping.holds.toNat

def askers (c : Closing) : Nat := c.calls.countP (·.any CloseStage.asks) + c.dropping.asks.toNat

def winners (c : Closing) : Nat := c.calls.countP (·.any CloseStage.won)

/-- The flag is held by one party at most, who alone has asked or is about to; who was woken was woken
by the last signal. -/
structure Guarded (c : Closing) (sent : Nat) : Prop where
  holders : c.holders ≤ c.subscriber.closed.toNat
  askers : sent + c.askers ≤ c.subscriber.closed.toNat
  woken : ∀ i stage, c.call? i = some stage → stage.woken = true →
    ∀ e, c.subscriber.engine = some e → e.backend.stopped = true

theorem gripped {s next : Subscriber} {holds asks holding asking : Bool}
    (grips : s.Grips next holds asks holding asking) {sent H A H' A' : Nat}
    (holders : H ≤ s.closed.toNat) (askers : sent + A ≤ s.closed.toNat)
    (held : H' + holds.toNat = H + holding.toNat) (asked : A' + asks.toNat = A + asking.toNat) :
    H' ≤ next.closed.toNat ∧ sent + terms (s.sends next) + A' ≤ next.closed.toNat := by
  cases grips with
  | kept closed fewer few =>
    rw [closed]
    omega
  | won free closed quiet before =>
    obtain ⟨rfl, rfl⟩ := before
    have one := holding.toNat_le
    have also := asking.toNat_le
    rw [free, Bool.toNat_false] at holders askers
    rw [Bool.toNat_false] at held asked
    rw [closed, Bool.toNat_true]
    omega
  | failed closed quiet before after =>
    obtain ⟨rfl, rfl⟩ := before
    obtain ⟨rfl, rfl⟩ := after
    have one := s.closed.toNat_le
    rw [Bool.toNat_true, Bool.toNat_false] at held asked
    rw [closed, Bool.toNat_false]
    omega

theorem wokenFrom {s next : Subscriber} {before stage : CloseStage}
    (steps : CloseStage.Steps s before next stage) (woken : stage.woken = true) :
    before.woken = true ∨ ∀ e, s.engine = some e → e.backend.stopped = true := by
  cases steps with
  | alone _ none => exact .inr fun e there => nomatch none.symm.trans there
  | unasked none => exact .inr fun e there => nomatch none.symm.trans there
  | woken stopped => exact .inr stopped
  | joined => exact .inl rfl
  | ended answer => exact .inl woken
  | late => cases woken
  | taken => cases woken
  | failed => cases woken
  | asked => cases woken
  | waits => cases woken

theorem callsSet {i : Nat} {stage : CloseStage} (there : c.call? i = some stage)
    (p : CloseStage → Bool) (answer : CloseStage) :
    (c.calls.set i (some answer)).countP (·.any p) + (p stage).toNat =
      c.calls.countP (·.any p) + (p answer).toNat :=
  countSet (Option.join_eq_some_iff.mp there) (·.any p) (some answer)

theorem callsLeft {i : Nat} {stage : CloseStage} (there : c.call? i = some stage)
    (p : CloseStage → Bool) :
    (c.calls.set i none).countP (·.any p) + (p stage).toNat = c.calls.countP (·.any p) :=
  countSet (Option.join_eq_some_iff.mp there) (·.any p) none

theorem guardedFlag {sent : Nat} (h : c.Guarded sent) (moves : c.Moves acts next) :
    next.holders ≤ next.subscriber.closed.toNat ∧
      sent + terms (c.subscriber.sends next.subscriber) + next.askers ≤
        next.subscriber.closed.toNat := by
  obtain ⟨holding, asking, -⟩ := h
  have quiet : terms (c.subscriber.sends c.subscriber) = 0 := Subscriber.sendsSame rfl
  cases moves with
  | still => exact ⟨holding, by omega⟩
  | called =>
    refine ⟨by simpa [holders, CloseStage.holds] using holding, ?_⟩
    simpa [askers, CloseStage.asks, quiet] using asking
  | @stepped i stage answer _ there steps =>
    have held := callsSet there CloseStage.holds answer
    have asked := callsSet there CloseStage.asks answer
    simp only [holders, askers] at holding asking ⊢
    exact gripped (Subscriber.closeGrips steps) holding asking (by omega) (by omega)
  | left there apart =>
    have held := callsLeft there CloseStage.holds
    have asked := callsLeft there CloseStage.asks
    simp only [holders, askers, quiet] at holding asking ⊢
    omega
  | dropped =>
    simp only [holders, askers] at holding asking ⊢
    exact gripped (c.subscriber.dropGrips c.dropping) holding asking (by omega) (by omega)
  | @acted e a there timely other =>
    have none := e.termsAct other
    refine ⟨holding, ?_⟩
    simpa [askers, withEngine, Subscriber.sends, Subscriber.pending, there, none] using asking

theorem guardedMove {sent : Nat} (h : c.Guarded sent) (moves : c.Moves acts next) :
    next.Guarded (sent + terms (c.subscriber.sends next.subscriber)) where
  holders := (guardedFlag h moves).1
  askers := (guardedFlag h moves).2
  woken i stage there woken after later := by
    rw [moves.engine, Option.map_eq_some_iff] at later
    obtain ⟨e, engine, rfl⟩ := later
    have stopped : e.backend.stopped = true := by
      rcases moves.call there with old | ⟨-, rfl⟩ | ⟨before, held, steps⟩
      · exact h.woken i stage old woken e engine
      · cases woken
      · rcases wokenFrom steps woken with already | stopped
        · exact h.woken i before held already e engine
        · exact stopped e engine
    exact (Engine.onwardRun (moves.orderly e engine)).stopped stopped

theorem countApart (calls : List (Option CloseStage)) :
    calls.countP (·.any CloseStage.asks) + calls.countP (·.any CloseStage.won) ≤
      calls.countP (·.any CloseStage.holds) := by
  induction calls with
  | nil => exact Nat.le_refl 0
  | cons call rest ih =>
    simp only [List.countP_cons]
    rcases call with _ | _ | _ | _ | _ | _ | ⟨⟩ <;>
      simp [CloseStage.asks, CloseStage.won, CloseStage.holds] <;> omega

theorem askersNone {sent : Nat} (h : c.Guarded sent) {i : Nat}
    (won : c.call? i = some (.ended (.ok ()))) : c.askers = 0 := by
  have apart := countApart c.calls
  have one : 0 < c.calls.countP (·.any CloseStage.won) :=
    List.countP_pos_iff.mpr ⟨_, List.mem_of_getElem? (Option.join_eq_some_iff.mp won), rfl⟩
  have dropping : c.dropping.asks.toNat ≤ c.dropping.holds.toNat := by cases c.dropping <;> decide
  have few := c.subscriber.closed.toNat_le
  have holding := h.holders
  simp only [holders, askers] at holding ⊢
  omega

theorem winnersOne {sent : Nat} (h : c.Guarded sent) : c.winners ≤ 1 := by
  have apart := countApart c.calls
  have few := c.subscriber.closed.toNat_le
  have holding := h.holders
  simp only [holders, winners] at holding ⊢
  omega

theorem quietMove (none : c.askers = 0) (moves : c.Moves acts next) :
    terms (c.subscriber.sends next.subscriber) = 0 := by
  have quiet : terms (c.subscriber.sends c.subscriber) = 0 := Subscriber.sendsSame rfl
  unfold askers at none
  cases moves with
  | still => exact quiet
  | called => exact quiet
  | stepped there steps =>
    have asks := callsLeft there CloseStage.asks
    have few := Subscriber.gripSends (Subscriber.closeGrips steps)
    exact Nat.eq_zero_of_le_zero (Nat.le_trans few (by omega))
  | left there apart => exact quiet
  | dropped =>
    have few := Subscriber.gripSends (c.subscriber.dropGrips c.dropping)
    exact Nat.eq_zero_of_le_zero (Nat.le_trans few (by omega))
  | @acted e a there timely other =>
    simpa [withEngine, Subscriber.sends, Subscriber.pending, there] using e.termsAct other

theorem guardedRun {sent : Nat} (h : c.Guarded sent) (moves : List Move) :
    (c.run moves).Guarded (sent + terms (c.sent moves)) := by
  induction moves generalizing c sent with
  | nil => exact h
  | cons m rest ih =>
    have later := ih (guardedMove h (c.moves m))
    have split : terms (c.sent (m :: rest)) = terms (c.sends m) + terms ((c.move m).sent rest) :=
      List.countP_append
    rw [split, ← Nat.add_assoc]
    exact later

theorem quietRun {sent : Nat} (h : c.Guarded sent) (moves : List Move) {i : Nat}
    (won : c.call? i = some (.ended (.ok ()))) : terms (c.sent moves) = 0 := by
  induction moves generalizing c sent with
  | nil => rfl
  | cons m rest ih =>
    have first := quietMove (askersNone h won) (c.moves m)
    have later := ih (guardedMove h (c.moves m)) ((c.moves m).ended won)
    have split : terms (c.sent (m :: rest)) = terms (c.sends m) + terms ((c.move m).sent rest) :=
      List.countP_append
    rw [split, later]
    exact first

theorem pastStep {s next : Subscriber} {before stage : CloseStage}
    (steps : CloseStage.Steps s before next stage) (past : before = .waiting ∨ before.woken = true) :
    stage = .waiting ∨ stage.woken = true := by
  cases steps with
  | waits => exact .inl rfl
  | woken => exact .inr rfl
  | joined => exact .inr rfl
  | ended answer => exact past
  | late => rcases past with past | past <;> cases past
  | alone => rcases past with past | past <;> cases past
  | taken => rcases past with past | past <;> cases past
  | unasked => rcases past with past | past <;> cases past
  | failed => rcases past with past | past <;> cases past
  | asked => rcases past with past | past <;> cases past

structure Past (c : Closing) (i : Nat) : Prop where
  inside : i < c.calls.length
  stage : ∀ stage, c.call? i = some stage → stage = .waiting ∨ stage.woken = true

theorem pastMove {i : Nat} (h : c.Past i) (moves : c.Moves acts next) : next.Past i where
  inside := by
    have inside := h.inside
    cases moves <;> simp [withEngine] <;> omega
  stage stage there := by
    rcases moves.call there with old | ⟨beyond, -⟩ | ⟨before, held, steps⟩
    · exact h.stage stage old
    · exact absurd h.inside (Nat.not_lt.mpr beyond)
    · exact pastStep steps (h.stage before held)

theorem pastRun {i : Nat} (h : c.Past i) (moves : List Move) : (c.run moves).Past i := by
  induction moves generalizing c with
  | nil => exact h
  | cons m rest ih => exact ih (pastMove h (c.moves m))

theorem failedStep {i : Nat} {why : Errno} {after : List Move}
    (last : ((c.move (.step i)).run after).call? i = some (.ended (.error (.control why)))) :
    (c.move (.step i)).subscriber.engine = c.subscriber.engine ∧
      (c.call? i = some .asking → (c.move (.step i)).subscriber.closed = false) := by
  cases there : c.call? i with
  | none => exact ⟨by simp only [move, there], fun asking => by cases asking⟩
  | some stage =>
    obtain ⟨steps, now, inside⟩ := stepTaken there
    generalize (c.subscriber.closeStep stage).answer = answer at steps now
    generalize subscriber : (c.move (.step i)).subscriber = next at steps
    cases steps with
    | failed => exact ⟨rfl, fun _ => rfl⟩
    | unasked => cases (endedRun after now).symm.trans last
    | asked there asked =>
      -- a request that went out cannot come to this end, so the run after it is looked at
      have past : (c.move (.step i)).Past i := ⟨inside, fun stage held => by
        cases now.symm.trans held
        exact .inl rfl⟩
      rcases (pastRun past after).stage _ last with waiting | woken
      · cases waiting
      · cases woken
    | late => exact ⟨rfl, fun asking => by cases asking⟩
    | alone => exact ⟨rfl, fun asking => by cases asking⟩
    | taken => exact ⟨rfl, fun asking => by cases asking⟩
    | waits => exact ⟨rfl, fun asking => by cases asking⟩
    | woken => exact ⟨rfl, fun asking => by cases asking⟩
    | joined => exact ⟨rfl, fun asking => by cases asking⟩
    | ended => exact ⟨rfl, fun asking => by cases asking⟩

end Closing

namespace Stage

def ahead : Stage → List Stage
  | .polling | .leaving => [.leaving, .emptying, .guarding, .marking, .signalling]
  | .emptying => [.emptying, .guarding, .marking, .signalling]
  | .guarding => [.guarding, .marking, .signalling]
  | .marking => [.marking, .signalling]
  | .signalling => [.signalling]
  | .gone => []

def ending (stage : Stage) : List Act :=
  (if stage = .polling then [.fail .eterm] else []) ++ stage.ahead.map .pass

theorem endingOthers (stage : Stage) : ∀ a ∈ stage.ending, a ≠ .requestTerm := by
  cases stage <;> decide

end Stage

theorem Engine.endingOrderly (e : Engine) :
    e.Orderly e.stage.ending ∧ (e.run e.stage.ending).stage = .gone := by
  obtain ⟨backend, filters, stage⟩ := e
  cases stage <;>
    exact ⟨by simp [Orderly, Stage.ending, Stage.ahead, Act.timely, act, proceed, pollFails], rfl⟩

namespace Closing

variable {c : Closing} {e : Engine}

theorem waitingEnds {i : Nat} (waits : c.call? i = some .waiting)
    (there : c.subscriber.engine = some e) (ordered : e.flags.Ordered) :
    ∃ more, (c.run more).call? i = some (.ended (.ok ())) := by
  obtain ⟨orderly, gone⟩ := e.endingOrderly
  have stopped : (e.run e.stage.ending).backend.stopped = true :=
    (Engine.orderedRun ordered orderly).signalled.mpr gone
  have joins : (c.run (e.stage.ending.map .other ++ [.step i])).call? i = some .joining := by
    rw [runSnoc, othersRun there orderly e.stage.endingOthers]
    have woken : (c.withEngine (e.run e.stage.ending)).subscriber.closeStep .waiting =
        ⟨.joining, (c.withEngine (e.run e.stage.ending)).subscriber, []⟩ := by
      simp [Subscriber.closeStep, withEngine, stopped]
    exact (stepsTo (c := c.withEngine (e.run e.stage.ending)) waits woken).1
  refine ⟨e.stage.ending.map .other ++ [.step i] ++ [.step i], ?_⟩
  rw [runSnoc]
  exact (stepTaken joins).2.1

theorem requestSucceeds (ordered : e.flags.Ordered) (sends : e.backend.link.fault = none) :
    ∃ b, e.backend.requestTerm = .ok b := by
  rcases e.backend.requestTermCases with ⟨-, done⟩ | ⟨live, why, failed, -⟩ | ⟨-, link, -, done⟩
  · exact ⟨_, done⟩
  · have front : e.backend.link.front = true :=
      ordered.front.trans (by simp [Engine.flags, Backend.flags, live])
    cases (Link.sendOpen front sends _).symm.trans failed
  · exact ⟨_, done⟩

theorem askingEnds {i : Nat} (asks : c.call? i = some .asking)
    (there : c.subscriber.engine = some e) (ordered : e.flags.Ordered)
    (sends : e.backend.link.fault = none) :
    ∃ more, (c.run more).call? i = some (.ended (.ok ())) := by
  obtain ⟨b, asked⟩ := requestSucceeds ordered sends
  have waits : c.subscriber.closeStep .asking =
      ⟨.waiting, { c.subscriber with engine := some { e with backend := b } }, []⟩ := by
    simp [Subscriber.closeStep, there, asked]
  obtain ⟨now, subscriber⟩ := stepsTo asks waits
  have later : ({ e with backend := b } : Engine).flags.Ordered := by
    have turns := e.backend.askedTurns e.stage
    rw [Backend.asked, asked] at turns
    exact ordered.turns turns
  obtain ⟨more, ended⟩ := waitingEnds now (by rw [subscriber]) later
  exact ⟨.step i :: more, ended⟩

theorem callingEnds {i : Nat} (calls : c.call? i = some .calling)
    (free : c.subscriber.closed = false) (there : c.subscriber.engine = some e)
    (ordered : e.flags.Ordered) (sends : e.backend.link.fault = none) :
    ∃ more, (c.run more).call? i = some (.ended (.ok ())) := by
  have taken : c.subscriber.closeStep .calling =
      ⟨.asking, { c.subscriber with closed := true }, []⟩ := by
    simp [Subscriber.closeStep, free, there]
  obtain ⟨now, subscriber⟩ := stepsTo calls taken
  obtain ⟨more, ended⟩ := askingEnds now (by rw [subscriber, ← there]) ordered sends
  exact ⟨.step i :: more, ended⟩

theorem mended (there : c.subscriber.engine = some e) :
    c.move (.other (.fault none)) = c.withEngine (e.act (.fault none)) := by
  simp [move, there, may, Act.timely]

theorem freeEnds (free : c.subscriber.closed = false) (there : c.subscriber.engine = some e)
    (ordered : e.flags.Ordered) :
    ∃ more, (c.run more).call? c.calls.length = some (.ended (.ok ())) := by
  have calls : ((c.withEngine (e.act (.fault none))).move .call).call? c.calls.length =
      some .calling := by
    simp [move, call?, withEngine]
  obtain ⟨more, ended⟩ := callingEnds calls free rfl ordered rfl
  rw [← mended there] at ended
  exact ⟨.other (.fault none) :: .call :: more, ended⟩

theorem freeDrops (free : c.subscriber.closed = false) (there : c.subscriber.engine = some e)
    (ordered : e.flags.Ordered) (calling : c.dropping = .calling) :
    ∃ more, (c.run more).dropping = .joining := by
  obtain ⟨b, asked⟩ := requestSucceeds (e := e.act (.fault none)) ordered rfl
  refine ⟨[.other (.fault none), .drop, .drop], ?_⟩
  have first : c.run [.other (.fault none), .drop, .drop] =
    ((c.move (.other (.fault none))).move .drop).move .drop := rfl
  rw [first, mended there]
  simp [move, withEngine, Subscriber.dropStep, calling, free, asked]

theorem startGuarded (config : Config) (filters : Filters) : (start config filters).Guarded 0 where
  holders := Nat.zero_le _
  askers := Nat.zero_le _
  woken i stage there := by cases there

structure Down (s : Subscriber) (made : List Subscription) (e : Engine) : Prop where
  exited : e.backend.lifecycle = .exited
  empty : ∀ t, e.backend.registry.lists.get t = []
  closed : ∀ u ∈ made, ∃ q, e.backend.registry.queue? u.place = some q ∧ q.closed = true
  refuses : ∀ t, s.subscribe t = ⟨.refused .exited, s, []⟩

structure ClosedOnce (config : Config) (filters : Filters) (moves : List Move) : Prop where
  winner : ((start config filters).run moves).winners ≤ 1
  term : terms ((start config filters).sent moves) ≤ 1
  quiet : ∀ i, ((start config filters).run moves).call? i = some (.ended (.ok ())) →
    ∀ more, terms (((start config filters).run moves).sent more) = 0
  down : ∀ i, ((start config filters).run moves).call? i = some (.ended (.ok ())) →
    ∀ more e, ((start config filters).run (moves ++ more)).subscriber.engine = some e →
      Down ((start config filters).run (moves ++ more)).subscriber
        ((Engine.opening config.queueCapacity filters).made
          ((start config filters).played (moves ++ more))) e
  failed : ∀ i why before after, moves = before ++ .step i :: after →
    ((start config filters).run moves).call? i = some (.ended (.error (.control why))) →
    ((start config filters).run (before ++ [.step i])).subscriber.engine =
        ((start config filters).run before).subscriber.engine ∧
      (((start config filters).run before).call? i = some .asking →
        ((start config filters).run (before ++ [.step i])).subscriber.closed = false)
  again : ((start config filters).run moves).subscriber.closed = false →
    ((start config filters).run moves).subscriber.engine.isSome = true →
    (∃ more, ((start config filters).run (moves ++ more)).call?
        ((start config filters).run moves).calls.length = some (.ended (.ok ()))) ∧
      (((start config filters).run moves).dropping = .calling →
        ∃ more, ((start config filters).run (moves ++ more)).dropping = .joining)

theorem closesOnce (config : Config) (filters : Filters) (moves : List Move) :
    ClosedOnce config filters moves where
  winner := winnersOne (guardedRun (startGuarded config filters) moves)
  term := by
    have askers := (guardedRun (startGuarded config filters) moves).askers
    have few := ((start config filters).run moves).subscriber.closed.toNat_le
    omega
  quiet i won more := quietRun (guardedRun (startGuarded config filters) moves) more won
  down i won more e there := by
    have later : ((start config filters).run (moves ++ more)).call? i = some (.ended (.ok ())) := by
      rw [runAppend]
      exact endedRun more won
    have stopped := (guardedRun (startGuarded config filters) (moves ++ more)).woken i _ later rfl e there
    obtain ⟨same, orderly⟩ := startEngine there
    have ordered := Engine.orderedOpened config.queueCapacity filters orderly
    rw [← same] at ordered
    have gone := ordered.signalled.mp stopped
    have exited : e.backend.exited = true := ordered.late (.inr (.inr gone))
    obtain ⟨empty, closed⟩ := Engine.emptiedOpened config.queueCapacity filters (same ▸ exited)
    rw [← same] at empty closed
    exact {
      exited := ordered.marked.mpr (.inr gone)
      empty := empty
      closed := closed
      refuses := fun t => by
        simp only [Subscriber.subscribe, there, (Backend.refuses exited).subscribe]
        rw [← there] }
  failed i why before after same last := by
    subst same
    rw [runAppend] at last
    rw [runSnoc]
    exact failedStep last
  again free enabled := by
    obtain ⟨e, there⟩ := Option.isSome_iff_exists.mp enabled
    obtain ⟨same, orderly⟩ := startEngine there
    have ordered := Engine.orderedOpened config.queueCapacity filters orderly
    rw [← same] at ordered
    simp only [runAppend]
    exact ⟨freeEnds free there ordered, freeDrops free there ordered⟩

end Closing
end NodeFeed
