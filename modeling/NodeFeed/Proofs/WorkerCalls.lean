import NodeFeed.Proofs.Workshop

/-!
What a worker promises its consumer. Each event taken is one call, and a call begins when the one before
has ended; the closing call, if there is one, is the last, and comes when the queue is closed and all that
it held has been given. A worker that has returned makes no further call and has left its topic. A panic
of the consumer ends the call it happens in and shows nowhere else.
-/

namespace NodeFeed

open Registry

namespace Worker

variable {w next : Worker} {b : Backend} {e : Engine} {told said : List Call} {done : List Act}

def Fits (last : List Call) : WorkerStage → Prop
  | .handling => ∃ event, last = [.begins event]
  | .leaving _ | .ended _ => last = [] ∨ last = [.closes]
  | .spawned | .checking | .receiving | .closing => last = []

theorem fitsOne {stage : WorkerStage} (fits : Fits said stage) :
    said = [] ∨ (∃ event, said = [.begins event]) ∨ said = [.closes] := by
  cases stage with
  | handling => exact .inr (.inl fits)
  | leaving => exact fits.imp_right .inr
  | ended => exact fits.imp_right .inr
  | _ => exact .inl fits

structure InTurn (w : Worker) (told : List Call) : Prop where
  turns : ∃ events last, told = handled w.consumer events ++ last ∧ Fits last w.stage
  given : begun told = w.given
  closed : w.closedCalls = told.count .closes * w.consumer.hearsClosing.toNat

theorem handledCloses (c : Consumer) (events : List Event) : (handled c events).count .closes = 0 := by
  induction events using List.reverseRecOn with
  | nil => rfl
  | append_singleton events event ih => simp [handledSnoc, ih]

theorem closingOnce {c : Consumer} {events : List Event} {last : List Call} {stage : WorkerStage}
    (fits : Fits last stage) : (handled c events ++ last).count .closes ≤ 1 := by
  rw [List.count_append, handledCloses, Nat.zero_add]
  rcases fitsOne fits with rfl | ⟨event, rfl⟩ | rfl <;> simp

theorem InTurn.quiet (h : w.InTurn told) (stage : WorkerStage)
    (fits : ∀ last, Fits last w.stage → Fits last stage) :
    InTurn { w with stage } (told ++ []) := by
  obtain ⟨events, last, shape, there⟩ := h.turns
  rw [List.append_nil]
  exact ⟨⟨events, last, shape, fits last there⟩, h.given, h.closed⟩

theorem InTurn.step (h : w.InTurn told) (steps : w.Steps b said done next) : next.InTurn (told ++ said) := by
  obtain ⟨events, last, shape, there⟩ := h.turns
  cases steps with
  | starts here => exact h.quiet _ fun last fits => by rwa [here] at fits
  | heeds here => exact h.quiet _ fun last fits => by rw [here] at fits; exact .inl fits
  | goesOn here => exact h.quiet _ fun last fits => by rwa [here] at fits
  | waits here => exact h.quiet _ fun last fits => by rwa [here] at fits
  | drains here => exact h.quiet _ fun last fits => by rwa [here] at fits
  | holds here => exact h.quiet w.stage fun _ => id
  | leaves here => exact h.quiet _ fun last fits => by rwa [here] at fits
  | rests here => exact h.quiet w.stage fun _ => id
  | @takes here q event rest found held =>
    rw [here] at there
    cases there
    refine ⟨⟨events, [.begins event], by rw [shape, List.append_nil], event, rfl⟩, ?_, ?_⟩
    · rw [begunAppend, h.given]
      rfl
    · simp [h.closed]
  | returns here permits =>
    rw [here] at there
    obtain ⟨event, rfl⟩ := there
    have given : w.given = events ++ [event] := by
      rw [← h.given, shape, begunAppend, handledBegun]
      rfl
    have ended : w.panic? = w.consumer.panic? events.length := by
      simp [panic?, Consumer.panic?, given]
    refine ⟨⟨events ++ [event], [], ?_, rfl⟩, ?_, ?_⟩
    · simp [shape, handledSnoc, ended]
    · rw [begunAppend, h.given]
      exact List.append_nil _
    · simp [h.closed]
  | closes here failed =>
    rw [here] at there
    cases there
    refine ⟨⟨events, [.closes], by rw [shape, List.append_nil], .inr rfl⟩, ?_, ?_⟩
    · rw [begunAppend, h.given]
      exact List.append_nil _
    · simp [h.closed, Nat.add_mul]

theorem Steps.received (steps : w.Steps e.backend said done next) :
    begun said = e.received w.subscription.place done := by
  have receives : e.received w.subscription.place [.receive w.subscription.place] =
      e.receives w.subscription.place (.receive w.subscription.place) := List.append_nil _
  cases steps with
  | @takes _ q event rest found held =>
    have there : e.queue? w.subscription.place = some q := found
    simp [receives, Engine.receives, there, Queue.tryRecv, held, begun, Call.begun?]
  | @waits _ q found empty =>
    have there : e.queue? w.subscription.place = some q := found
    simp [receives, Engine.receives, there, Queue.tryRecv, empty, begun]
  | drains _ dry =>
    rw [receives]
    cases there : e.queue? w.subscription.place with
    | none => simp [Engine.receives, there, begun]
    | some q => simp [Engine.receives, there, Queue.tryRecv, (dry q there).1, begun]
  | _ => rfl

theorem Steps.closing (steps : w.Steps e.backend said done next) {q : Queue Event}
    (there : e.queue? w.subscription.place = some q)
    (closing : next.stage = .closing ∨ .closes ∈ said) :
    w.stage = .closing ∨ e.isShut w.subscription.place = true ∧ e.held w.subscription.place = [] := by
  cases steps with
  | drains _ dry =>
    obtain ⟨empty, closed⟩ := dry q there
    have found : e.backend.registry.queues[w.subscription.place]? = some q := there
    exact .inr ⟨by simp [Engine.isShut, shut?, found, closed], (Engine.heldThere there).trans empty⟩
  | closes here => exact .inl here
  | holds here => simp [here] at closing
  | rests here => simp [here] at closing
  | _ => simp at closing

theorem Steps.same (steps : w.Steps b said done next) :
    next.subscription = w.subscription ∧ next.consumer = w.consumer := by
  cases steps <;> exact ⟨rfl, rfl⟩

theorem Steps.released (steps : w.Steps b said done next) (returned : next.hasEnded = true) :
    w.hasEnded = true ∨ .release w.topic w.subscription.id ∈ done := by
  cases steps with
  | leaves here => exact .inr List.mem_cons_self
  | holds | rests => exact .inl returned
  | _ => cases returned

def withPanics (w : Worker) (panics : List (Nat × Option String)) : Worker :=
  { w with consumer := { w.consumer with panics } }

theorem stepPanics (w : Worker) (panics : List (Nat × Option String)) (b : Backend) :
    ((w.withPanics panics).step b).state = ((w.step b).state.1.withPanics panics, (w.step b).state.2) ∧
      ((w.withPanics panics).calls b).map Call.quiet = (w.calls b).map Call.quiet := by
  have state : ((w.withPanics panics).step b).state =
      ((w.step b).state.1.withPanics panics, (w.step b).state.2) := by
    have same : (w.withPanics panics).stage = w.stage := rfl
    cases stage : w.stage with
    | checking =>
      simp only [step, same, stage]
      cases told : w.stopping <;> simp [withPanics, told]
    | receiving =>
      simp only [step, stage, withPanics]
      split <;> rfl
    | handling =>
      simp only [step, stage, withPanics]
      split
      · simp only [stage]
      · rfl
    | closing =>
      simp only [step, stage, withPanics]
      split <;> split <;> rfl
    | spawned => simp only [step, same, stage]; rfl
    | leaving failed => simp only [step, same, stage]; rfl
    | ended failed => simp only [step, same, stage]
  refine ⟨state, ?_⟩
  have ending (stage : WorkerStage) :
      ((w.withPanics panics).overs stage).map Call.quiet = (w.overs stage).map Call.quiet := by
    unfold overs withPanics
    cases w.stage <;> cases stage <;> rfl
  rw [calls, calls, state, List.map_append, List.map_append]
  exact congrArg _ (ending _)

theorem Steps.ended (steps : w.Steps b said done next) (returned : w.hasEnded = true) :
    next.hasEnded = true ∧ said = [] := by
  cases steps with
  | rests => exact ⟨returned, rfl⟩
  | _ => simp_all [hasEnded]

end Worker

theorem Engine.receivedApart {e : Engine} {place : Nat} {acts : List Act}
    (apart : ∀ a ∈ acts, a ≠ .receive place) : e.received place acts = [] := by
  induction acts generalizing e with
  | nil => rfl
  | cons a rest ih =>
    obtain ⟨first, later⟩ := List.forall_mem_cons.mp apart
    have none := ih (e := e.act a) later
    unfold received history at none ⊢
    rw [Run.told, receivesApart first, none]
    rfl

namespace Workshop

open Engine (opening)

variable {e : Engine} {m : List Subscription} {s : Subscription} {c : Consumer} {x next : Workshop}
  {told said : List Call} {played done : List Act}

structure Keeps (e : Engine) (s : Subscription) (c : Consumer) (told : List Call)
    (played : List Act) (x : Workshop) : Prop where
  engine : x.engine = e.run played
  mine : x.worker.subscription = s
  consumer : x.worker.consumer = c
  inTurn : x.worker.InTurn told
  taken : begun told = e.received s.place played
  closing : x.worker.stage = .closing ∨ .closes ∈ told →
    x.engine.isShut s.place = true ∧ x.engine.held s.place = []
  released : x.worker.hasEnded = true → .release s.topic s.id ∈ played

theorem Keeps.tracked (h : Keeps e s c told played x) (tracks : e.Tracked m) :
    x.engine.Tracked (m ++ e.made played) := by
  rw [h.engine]
  exact Engine.tracksRun tracks played

theorem Keeps.roomy (h : Keeps e s c told played x) (tracks : e.Tracked m) (roomy : e.Roomy) :
    x.engine.Roomy := by
  rw [h.engine]
  exact Engine.roomyRun tracks roomy played

theorem receivedMove (moves : x.Moves said done next) :
    begun said = x.engine.received x.worker.subscription.place done := by
  cases moves with
  | works steps => exact steps.received
  | beside foreign => exact (Engine.receivedApart (foreignApart foreign)).symm

theorem keepsMove (tracks : e.Tracked m) (roomy : e.Roomy) (known : s ∈ m)
    (h : Keeps e s c told played x) (moves : x.Moves said done next) :
    Keeps e s c (told ++ said) (played ++ done) next := by
  have tracked := h.tracked tracks
  have wide := h.roomy tracks roomy
  obtain ⟨engine, rfl, rfl, inTurn, taken, closing, released⟩ := h
  obtain ⟨q, there, -⟩ := tracked.queue (List.mem_append_left _ known)
  have after : next.engine = e.run (played ++ done) := by
    rw [engineMove moves, engine, Engine.runAppend]
  have took : begun (told ++ said) = e.received x.worker.subscription.place (played ++ done) := by
    rw [begunAppend, taken, receivedMove moves, engine]
    exact (e.historyAppend (Engine.receives x.worker.subscription.place) played done).symm
  have dry (now : x.engine.isShut x.worker.subscription.place = true ∧
      x.engine.held x.worker.subscription.place = []) :
      next.engine.isShut x.worker.subscription.place = true ∧
        next.engine.held x.worker.subscription.place = [] := by
    have conserved := (Engine.shutRun tracked wide now.1 done).2
    rw [now.2] at conserved
    rw [engineMove moves]
    exact ⟨Engine.shutStays now.1 done, (List.append_eq_nil_iff.mp conserved.symm).2⟩
  cases moves with
  | works steps =>
    obtain ⟨subscription, consumer⟩ := steps.same
    refine ⟨after, subscription, consumer, inTurn.step steps, took, fun last => dry ?_, fun returned => ?_⟩
    · rcases last with stage | listed
      · exact (steps.closing there (.inl stage)).elim (closing ∘ .inl) id
      · rcases List.mem_append.mp listed with old | new
        · exact closing (.inr old)
        · exact (steps.closing there (.inr new)).elim (closing ∘ .inl) id
    · rcases steps.released returned with old | new
      · exact List.mem_append_left _ (released old)
      · exact List.mem_append_right _ new
  | beside foreign _ permits stage =>
    rw [List.append_nil] at took ⊢
    exact ⟨after, rfl, rfl, ⟨inTurn.turns, inTurn.given, inTurn.closed⟩, took, fun last => dry (closing last),
      fun returned => List.mem_append_left _ (released returned)⟩

theorem keepsRun (tracks : e.Tracked m) (roomy : e.Roomy) (known : s ∈ m) (c : Consumer)
    (moves : List Move) :
    Keeps e s c ((start e s c).calls moves) ((start e s c).played moves)
      ((start e s c).run moves) := by
  induction moves using List.reverseRecOn with
  | nil =>
    exact {
      engine := rfl
      mine := rfl
      consumer := rfl
      inTurn := ⟨⟨[], [], rfl, rfl⟩, rfl, (Nat.zero_mul _).symm⟩
      taken := rfl
      closing := fun last => by simp [calls, run, Run.after, Run.told, Workshop.start, Worker.spawn] at last
      released := fun returned => nomatch returned }
  | append_singleton moves k ih =>
    rw [runSnoc, calls, Workshop.played, Run.toldSnoc, Run.toldSnoc]
    exact keepsMove tracks roomy known ih (((start e s c).run moves).moves k)

theorem endedMove (returned : x.worker.hasEnded = true) (moves : x.Moves said done next) :
    next.worker.hasEnded = true ∧ said = [] := by
  cases moves with
  | works steps => exact steps.ended returned
  | beside => exact ⟨returned, rfl⟩

theorem endedRun (returned : x.worker.hasEnded = true) (moves : List Move) :
    (x.run moves).worker.hasEnded = true ∧ x.calls moves = [] := by
  induction moves using List.reverseRecOn with
  | nil => exact ⟨returned, rfl⟩
  | append_singleton moves k ih =>
    obtain ⟨still, none⟩ := endedMove ih.1 ((x.run moves).moves k)
    rw [runSnoc, calls, Run.toldSnoc]
    exact ⟨still, List.append_eq_nil_iff.mpr ⟨ih.2, none⟩⟩

structure Answered (x : Workshop) (moves : List Move) (answer : Except SubscribeError Unit) : Prop where
  origin : ∃ before after, moves = before ++ .stop :: after ∧ (x.run before).stopping = .cancelling ∧
    answer = Worker.stopAnswer ((x.run before).engine.backend.cancel
      (x.run before).worker.topic (x.run before).worker.subscription.id).answer

theorem Answered.later {answer : Except SubscribeError Unit} {moves : List Move}
    (h : Answered x moves answer) (k : Move) : Answered x (moves ++ [k]) answer := by
  obtain ⟨before, after, rfl, cancels, same⟩ := h.origin
  exact ⟨before, after ++ [k], by simp, cancels, same⟩

theorem stoppingMove (x : Workshop) {k : Move} (other : k ≠ .stop) : (x.move k).stopping = x.stopping := by
  cases k with
  | stop => exact absurd rfl other
  | other a =>
    simp only [move]
    split <;> rfl
  | _ => rfl

def Known (x : Workshop) (moves : List Move) : StopStage → Prop
  | .calling | .cancelling => True
  | .joining answer => Answered x moves answer
  | .ended answer => Answered x moves answer ∧ (x.run moves).worker.hasEnded = true

theorem knownLater {moves : List Move} {stage : StopStage} (h : Known x moves stage) (k : Move) :
    Known x (moves ++ [k]) stage := by
  cases stage with
  | joining answer => exact Answered.later h k
  | ended answer =>
    have still := endedMove h.2 ((x.run moves).moves k)
    exact ⟨h.1.later k, by rw [runSnoc]; exact still.1⟩
  | _ => trivial

theorem knownStop {moves : List Move} (h : Known x moves (x.run moves).stopping) :
    Known x (moves ++ [.stop]) ((x.run moves).move .stop).stopping := by
  have later := knownLater h .stop
  simp only [move]
  cases stage : (x.run moves).stopping with
  | calling => trivial
  | cancelling => exact ⟨moves, [], rfl, stage, rfl⟩
  | joining answer =>
    rw [stage] at later
    simp only [Worker.stopStep]
    split
    case isTrue returned =>
      refine ⟨later, ?_⟩
      rw [runSnoc]
      exact (endedMove returned ((x.run moves).moves .stop)).1
    case isFalse => exact later
  | ended answer =>
    rw [stage] at later
    exact later

theorem knownRun (fresh : x.stopping = .calling) (moves : List Move) :
    Known x moves (x.run moves).stopping := by
  induction moves using List.reverseRecOn with
  | nil =>
    have same : (x.run []).stopping = .calling := fresh
    rw [same]
    trivial
  | append_singleton moves k ih =>
    rw [runSnoc]
    by_cases stop : k = .stop
    · exact stop ▸ knownStop ih
    · rw [stoppingMove _ stop]
      exact knownLater ih k

theorem cancelAnswers (b : Backend) (t : Topic) (id : QueueId) :
    (b.cancel t id).answer = .ok () ∨ (b.cancel t id).answer = .error .exited ∨
      ∃ verb u why, (b.cancel t id).answer = .error (.control verb u why) := by
  rcases b.cancelCases t id with ⟨-, done⟩ | ⟨-, -, done⟩ | ⟨-, entry, -, rest⟩
  · exact .inr (.inl (by rw [done]))
  · exact .inl (by rw [done])
  · rcases rest with ⟨-, done⟩ | ⟨-, link, -, done⟩ | ⟨-, why, -, done⟩
    · exact .inl (by rw [done])
    · exact .inl (by rw [done])
    · exact .inr (.inr ⟨_, _, why, by rw [done]⟩)

def withPanics (x : Workshop) (panics : List (Nat × Option String)) : Workshop :=
  { x with worker := x.worker.withPanics panics }

theorem movePanics (x : Workshop) (panics : List (Nat × Option String)) (k : Move) :
    (x.withPanics panics).move k = (x.move k).withPanics panics ∧
      ((x.withPanics panics).callsOf k).map Call.quiet = (x.callsOf k).map Call.quiet := by
  cases k with
  | work =>
    obtain ⟨state, calls⟩ := x.worker.stepPanics panics x.engine.backend
    exact ⟨by simp only [move, withPanics, withBackend, state], calls⟩
  | permit count => exact ⟨rfl, rfl⟩
  | stop =>
    refine ⟨?_, rfl⟩
    simp only [move]
    cases stage : x.stopping with
    | joining answer =>
      have same : (x.withPanics panics).stopping = .joining answer := stage
      have returned : (x.withPanics panics).worker.hasEnded = x.worker.hasEnded := rfl
      simp only [same, Worker.stopStep, returned]
      split <;> rfl
    | _ => simp only [withPanics, stage]; rfl
  | other a =>
    refine ⟨?_, rfl⟩
    have same : allows (x.withPanics panics).worker a = allows x.worker a := rfl
    simp only [move, same]
    split <;> rfl

theorem runPanics (x : Workshop) (panics : List (Nat × Option String)) (moves : List Move) :
    (x.withPanics panics).run moves = (x.run moves).withPanics panics ∧
      ((x.withPanics panics).calls moves).map Call.quiet = (x.calls moves).map Call.quiet := by
  induction moves using List.reverseRecOn with
  | nil => exact ⟨rfl, rfl⟩
  | append_singleton moves k ih =>
    obtain ⟨state, quiet⟩ := movePanics (x.run moves) panics k
    rw [← ih.1] at state quiet
    refine ⟨by rw [runSnoc, runSnoc, state], ?_⟩
    rw [calls, calls, Run.toldSnoc, Run.toldSnoc, List.map_append, List.map_append]
    exact congrArg₂ (· ++ ·) ih.2 quiet

structure Stopped (x : Workshop) (s : Subscription) (moves : List Move)
    (answer : Except SubscribeError Unit) : Prop where
  returned : (x.run moves).worker.hasEnded = true
  shut : (x.run moves).engine.isShut s.place = true
  told : ∃ before after own, moves = before ++ .stop :: after ∧ (x.run before).stopping = .cancelling ∧
    own = ((x.run before).engine.backend.cancel s.topic s.id).answer ∧
    ((own = .ok () ∨ own = .error .exited) ∧ answer = .ok () ∨
      ∃ verb t why, own = .error (.control verb t why) ∧ answer = own)

structure Works (x : Workshop) (s : Subscription) (c : Consumer) (moves : List Move) : Prop where
  inTurn : ∃ events last, x.calls moves = handled c events ++ last ∧
    (last = [] ∨ (∃ event, last = [.begins event]) ∨ last = [.closes])
  once : (x.calls moves).count .closes ≤ 1
  taken : begun (x.calls moves) = x.engine.received s.place (x.played moves)
  inOrder : (begun (x.calls moves) ++ (x.run moves).engine.held s.place).Sublist
    (x.engine.held s.place ++ acceptedAt s.place (x.engine.pushed (x.played moves)))
  counted : (x.run moves).worker.given = begun (x.calls moves) ∧
    (x.run moves).worker.closedCalls = (x.calls moves).count .closes * c.hearsClosing.toNat
  panics : ∀ panics, ((x.withPanics panics).run moves).engine = (x.run moves).engine ∧
    ((x.withPanics panics).calls moves).map Call.quiet = (x.calls moves).map Call.quiet
  drained : .closes ∈ x.calls moves → (x.run moves).engine.isShut s.place = true ∧
    ∀ before after, moves = before ++ after → (x.run before).engine.isShut s.place = true →
      begun (x.calls moves) = begun (x.calls before) ++ (x.run before).engine.held s.place
  returned : (x.run moves).worker.hasEnded = true →
    (∀ more, x.calls (moves ++ more) = x.calls moves) ∧
    .release s.topic s.id ∈ x.played moves ∧
    ∀ t, s.id ∉ (x.run moves).engine.backend.registry.ids t
  stopped : ∀ answer, (x.run moves).stopping = .ended answer → Stopped x s moves answer

theorem offList (tracks : e.Tracked m) (known : s ∈ m) {acts : List Act}
    (released : .release s.topic s.id ∈ acts) :
    (e.run acts).isShut s.place = true ∧ ∀ t, s.id ∉ (e.run acts).backend.registry.ids t := by
  have later : (e.run acts).Tracked (m ++ e.made acts) := Engine.tracksRun tracks acts
  have mine := List.mem_append_left (e.made acts) known
  have off : s.entry ∉ (e.run acts).backend.registry.lists.get s.topic := fun listed => by
    have stays := ((Engine.listedRun tracks known acts).mp listed).2 _ released
    simp [Act.removes, Act.strikes?] at stays
  refine ⟨?_, fun t listed => off ((later.listedAs mine).mp listed).2⟩
  rw [Engine.isShut, later.shut s mine]
  simp [off]

theorem callsAppend (x : Workshop) (first rest : List Move) :
    x.calls (first ++ rest) = x.calls first ++ (x.run first).calls rest :=
  Run.toldAppend x first rest

theorem playedAppend (x : Workshop) (first rest : List Move) :
    x.played (first ++ rest) = x.played first ++ (x.run first).played rest :=
  Run.toldAppend x first rest

theorem stopAnswered {b : Backend} {t : Topic} {id : QueueId} {own answer : Except SubscribeError Unit}
    (mine : own = (b.cancel t id).answer) (same : answer = Worker.stopAnswer own) :
    (own = .ok () ∨ own = .error .exited) ∧ answer = .ok () ∨
      ∃ verb u why, own = .error (.control verb u why) ∧ answer = own := by
  rcases cancelAnswers b t id with done | done | ⟨verb, u, why, done⟩ <;> rw [mine.trans done] at same ⊢
  · exact .inl ⟨.inl rfl, same⟩
  · exact .inl ⟨.inr rfl, same⟩
  · exact .inr ⟨verb, u, why, rfl, same⟩

structure Fresh (x : Workshop) (m : List Subscription) (s : Subscription) (c : Consumer) : Prop where
  tracks : x.engine.Tracked m
  roomy : x.engine.Roomy
  known : s ∈ m
  started : x = start x.engine s c

namespace Fresh

theorem keeps (h : Fresh x m s c) (moves : List Move) :
    Keeps x.engine s c (x.calls moves) (x.played moves) (x.run moves) := by
  have kept := keepsRun h.tracks h.roomy h.known c moves
  rwa [← h.started] at kept

theorem calling (h : Fresh x m s c) : x.stopping = .calling := by rw [h.started]; rfl

theorem drained (h : Fresh x m s c) {before after : List Move}
    (closes : .closes ∈ x.calls (before ++ after))
    (shut : (x.run before).engine.isShut s.place = true) :
    begun (x.calls (before ++ after)) = begun (x.calls before) ++ (x.run before).engine.held s.place := by
  have early := h.keeps before
  have last := h.keeps (before ++ after)
  have left := (Engine.shutRun (early.tracked h.tracks) (early.roomy h.tracks h.roomy) shut
    ((x.run before).played after)).2
  have empty := (last.closing (.inr closes)).2
  rw [runAppend, runEngine (x.run before)] at empty
  rw [empty, List.append_nil] at left
  rw [last.taken, playedAppend, left, early.taken, early.engine]
  exact x.engine.historyAppend (Engine.receives s.place) (x.played before) _

theorem returned (h : Fresh x m s c) {moves : List Move}
    (returned : (x.run moves).worker.hasEnded = true) :
    (x.run moves).engine.isShut s.place = true ∧
      ∀ t, s.id ∉ (x.run moves).engine.backend.registry.ids t := by
  have here := h.keeps moves
  rw [here.engine]
  exact offList h.tracks h.known (here.released returned)

theorem stopped (h : Fresh x m s c) {moves : List Move} {answer : Except SubscribeError Unit}
    (ended : (x.run moves).stopping = .ended answer) : Stopped x s moves answer := by
  have told := knownRun h.calling moves
  rw [ended] at told
  obtain ⟨⟨before, after, split, cancels, same⟩, returned⟩ := told
  rw [Worker.topic, (h.keeps before).mine] at same
  exact {
    returned := returned
    shut := (h.returned returned).1
    told := ⟨before, after, _, split, cancels, rfl, stopAnswered rfl same⟩ }

theorem works (h : Fresh x m s c) (moves : List Move) : Works x s c moves := by
  have here := h.keeps moves
  obtain ⟨events, last, shape, fits⟩ := here.inTurn.turns
  have consumer := here.consumer
  have flow := (Engine.flowRun h.tracks h.roomy s.place (x.played moves)).conserved
  exact {
    inTurn := ⟨events, last, consumer ▸ shape, Worker.fitsOne fits⟩
    once := shape ▸ Worker.closingOnce fits
    taken := here.taken
    inOrder := by
      rw [flow, here.taken, here.engine, ← Engine.takenRun]
      exact (Departure.takenInOrder _).append (List.Sublist.refl _)
    counted := ⟨here.inTurn.given.symm, consumer ▸ here.inTurn.closed⟩
    panics := fun panics => by
      obtain ⟨state, quiet⟩ := runPanics x panics moves
      exact ⟨by rw [state]; rfl, quiet⟩
    drained := fun closes => by
      refine ⟨(here.closing (.inr closes)).1, fun before after split shut => ?_⟩
      subst split
      exact h.drained closes shut
    returned := fun returned => by
      refine ⟨fun more => ?_, here.released returned, (h.returned returned).2⟩
      rw [callsAppend, (endedRun returned more).2, List.append_nil]
    stopped := fun answer ended => h.stopped ended }

end Fresh

theorem freshOpened (capacity : Nat) (filters : Filters) (before : List Act)
    (mine : s ∈ (opening capacity filters).made before) (c : Consumer) :
    Fresh (start ((opening capacity filters).run before) s c)
      ((opening capacity filters).made before) s c where
  tracks := Engine.tracksOpened capacity filters before
  roomy := Engine.roomyOpened capacity filters before
  known := mine
  started := rfl

theorem workerKeepsItsPromises (capacity : Nat) (filters : Filters) (before : List Act)
    (s : Subscription) (mine : s ∈ (opening capacity filters).made before) (c : Consumer)
    (moves : List Move) :
    Works (start ((opening capacity filters).run before) s c) s c moves :=
  (freshOpened capacity filters before mine c).works moves

def stoppedWell (x : Workshop) : Bool :=
  match x.stopping with
  | .ended (.ok _) => true
  | _ => false

theorem stoppedWellEnds {x : Workshop} (well : x.stoppedWell = true) :
    x.stopping = .ended (.ok ()) := by
  unfold stoppedWell at well
  split at well
  case h_1 answered => exact answered
  case h_2 => cases well

theorem workerOutlivesAPanic :
    let event (c : UInt32) : Event := .raw ⟨[], c⟩
    let frame (c : UInt32) : Move := .other (.frame (Notification.rawTx ⟨[], c⟩).encode)
    let s : Subscription := ⟨.rawTx, 0, 0⟩
    let c : Consumer := ⟨"log", false, [(0, some "boom")], true, false⟩
    let x := start ((opening 2 .fresh).run [.subscribe .rawTx]) s c
    let moves := [.work, frame 1, frame 2, .work, .work, .other (.cancel .rawTx 0), frame 3] ++
      List.replicate 7 .work ++ [.stop, .work, .work, .stop, .stop]
    s ∈ (opening 2 .fresh).made [.subscribe .rawTx] ∧ Works x s c moves ∧
      x.calls moves = [.begins (event 1), .ends (some "boom"), .begins (event 2), .ends none, .closes] ∧
      (x.run moves).worker.hasEnded = true ∧ (x.run moves).stopping = .ended (.ok ()) := by
  intro event frame s c x moves
  have mine : s ∈ (opening 2 .fresh).made [.subscribe .rawTx] := by decide
  exact ⟨mine, workerKeepsItsPromises 2 .fresh _ s mine c moves, by decide, by decide,
    stoppedWellEnds (by decide)⟩

end Workshop
end NodeFeed
