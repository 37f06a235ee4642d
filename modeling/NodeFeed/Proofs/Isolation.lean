import NodeFeed.Script.Queue
import NodeFeed.Proofs.Answers
import NodeFeed.Proofs.Contents

/-!
Consumers do not influence each other. One consumer of a subscriber is picked out; its own steps are told
apart from the acts of everybody else, who may do anything but get hold of its subscription. What is left
of the subscriber when all that is none of its concern is taken away is `Alone`: one queue, and whether
shutdown has begun. Each step of the whole is then a step of `Alone` or nothing, with the same answer, so
two runs that agree in the consumer's concerns cannot be told apart by it.
-/

namespace NodeFeed

open Registry

inductive Own where
  | subscribe (t : Topic)
  | receive (how : Script.Receiving)
  | cancel
  | drop
  deriving DecidableEq, Repr

inductive Seen where
  | subscribed
  | overflow
  | refused (why : SubscribeError)
  | received (answer : Script.Received Event)
  | cancelled (answer : Except SubscribeError Unit)
  | dropped
  | nothing

inductive Concern where
  | own (o : Own)
  | heard (n : Notification)
  | down
  deriving DecidableEq, Repr

structure Alone where
  capacity : Nat
  exited : Bool
  mine : Option (Topic × Queue Event)
  dropped : Bool

namespace Alone

def held? (b : Alone) : Option (Topic × Queue Event) := if b.dropped then none else b.mine

def onMine (b : Alone) (change : Topic → Queue Event → Queue Event) : Alone :=
  { b with mine := b.mine.map fun (t, q) => (t, change t q) }

theorem onMineSame (b : Alone) : b.onMine (fun _ => id) = b := by
  obtain ⟨capacity, exited, mine, dropped⟩ := b
  cases mine <;> rfl

def close (b : Alone) : Alone := b.onMine fun _ q => { q with closed := true }

def ask (b : Alone) : Own → Seen × Alone
  | .subscribe t =>
    match b.mine with
    | some _ => (.nothing, b)
    | none =>
      if b.exited then (.refused .exited, b)
      else if t.canReserve b.capacity then
        (.subscribed, { b with mine := some (t, Queue.make b.capacity) })
      else (.overflow, b)
  | .receive how =>
    match b.held? with
    | none => (.nothing, b)
    | some (t, q) => (.received (how.run q).1, { b with mine := some (t, (how.run q).2) })
  | .cancel =>
    match b.mine with
    | none => (.nothing, b)
    | some _ => (.cancelled (if b.exited then .error .exited else .ok ()), b.close)
  | .drop =>
    match b.held? with
    | none => (.nothing, b)
    | some _ => (.dropped, { b.close with dropped := true })

def meet (b : Alone) : Concern → Alone
  | .own o => (b.ask o).2
  | .heard n => b.onMine fun t q => if n.topic = t then (q.push n.event).2 else q
  | .down => { b.close with exited := true }

def sees (b : Alone) : Concern → List Seen
  | .own o => [(b.ask o).1]
  | .heard _ | .down => []

def seen (b : Alone) (concerns : List Concern) : List Seen := Run.told meet sees b concerns

end Alone

structure Scene where
  engine : Engine
  mine : Option Subscription
  dropped : Bool

namespace Act

def addresses (s : Subscription) : Act → Bool
  | .receive place => place == s.place
  | a => a.strikes? == some (s.topic, s.id)

def concern? : Act → Option Concern
  | .frame f =>
    match f.decode with
    | .ok n => some (.heard n)
    | .error _ => none
  | .pass .emptying | .pass .guarding => some .down
  | _ => none

end Act

def downOnce : List Concern → List Concern
  | [] => []
  | .down :: rest => .down :: rest.filter (· ≠ .down)
  | c :: rest => c :: downOnce rest

namespace Scene

inductive Step where
  | own (o : Own)
  | other (a : Act)
  deriving DecidableEq, Repr

def Step.concern? : Step → Option Concern
  | .own o => some (.own o)
  | .other a => a.concern?

def concerns (steps : List Step) : List Concern := steps.filterMap Step.concern?

def opening (capacity : Nat) (filters : Filters) : Scene :=
  ⟨Engine.opening capacity filters, none, false⟩

def held? (c : Scene) : Option Subscription := if c.dropped then none else c.mine

def withBackend (c : Scene) (backend : Backend) : Scene :=
  { c with engine := { c.engine with backend } }

def allows (c : Scene) : Act → Bool
  | .fault _ => false
  | a => c.mine.all fun s => !a.addresses s

def ask (c : Scene) : Own → Seen × Scene
  | .subscribe t =>
    match c.mine with
    | some _ => (.nothing, c)
    | none =>
      let r := c.engine.backend.subscribe t
      match r.answer with
      | .added s => (.subscribed, { c.withBackend r.state with mine := some s })
      | .refused why => (.refused why, c.withBackend r.state)
      | .overflow => (.overflow, c.withBackend r.state)
  | .receive how =>
    match c.held? with
    | none => (.nothing, c)
    | some s =>
      match c.engine.queue? s.place with
      | none => (.nothing, c)
      | some q =>
        let registry := c.engine.backend.registry.putQueue s.place (how.run q).2
        (.received (how.run q).1, c.withBackend { c.engine.backend with registry })
  | .cancel =>
    match c.mine with
    | none => (.nothing, c)
    | some s =>
      let r := c.engine.backend.cancel s.topic s.id
      (.cancelled r.answer, c.withBackend r.state)
  | .drop =>
    match c.held? with
    | none => (.nothing, c)
    | some s =>
      let r := c.engine.backend.release s.topic s.id
      (.dropped, { c.withBackend r.state with dropped := true })

def step (c : Scene) : Step → Scene
  | .own o => (c.ask o).2
  | .other a => if c.allows a then { c with engine := c.engine.act a } else c

def sees (c : Scene) : Step → List Seen
  | .own o => [(c.ask o).1]
  | .other _ => []

def seen (c : Scene) (steps : List Step) : List Seen := Run.told step sees c steps

def alone (c : Scene) : Alone where
  capacity := c.engine.backend.capacity
  exited := c.engine.backend.exited
  mine := c.mine.bind fun s => (c.engine.queue? s.place).map fun q => (s.topic, q)
  dropped := c.dropped

end Scene

theorem receiveKeeps (how : Script.Receiving) (q : Queue Event) :
    (how.run q).2.closed = q.closed := by
  cases how with
  | tryRecv => rcases q.tryRecvCases with ⟨a, rest, -, done⟩ | ⟨-, done⟩ <;> simp [Script.Receiving.run, done]
  | recv =>
    rcases q.pollCases with ⟨a, rest, -, done⟩ | ⟨-, -, done⟩ | ⟨-, -, done⟩ <;>
      simp [Script.Receiving.run, done]
  | blockingRecv =>
    rcases q.pollCases with ⟨a, rest, -, done⟩ | ⟨-, -, done⟩ | ⟨-, -, done⟩ <;>
      simp [Script.Receiving.run, done]
  | drain => rfl
  | info => rfl
  | form => rfl

namespace Scene

variable {c : Scene}

structure Sound (c : Scene) : Prop where
  tracked : ∃ made, c.engine.Tracked made ∧ ∀ s, c.mine = some s → s ∈ made
  sending : c.engine.backend.Sending

structure Answers (c : Scene) (o : Own) : Prop where
  seen : (c.ask o).1 = (c.alone.ask o).1
  alone : (c.ask o).2.alone = (c.alone.ask o).2
  sound : (c.ask o).2.Sound

theorem Sound.queue (h : c.Sound) {s : Subscription} (mine : c.mine = some s) :
    ∃ q, c.engine.queue? s.place = some q ∧ c.alone.mine = some (s.topic, q) := by
  obtain ⟨made, tracked, known⟩ := h.tracked
  obtain ⟨q, there, -⟩ := tracked.queue (known s mine)
  exact ⟨q, there, by simp [alone, mine, there]⟩

theorem aloneHeld (c : Scene) :
    c.alone.held? = c.held?.bind fun s => (c.engine.queue? s.place).map fun q => (s.topic, q) := by
  cases dropped : c.dropped <;> simp [alone, Alone.held?, held?, dropped]

theorem answersBy {o : Own} {next : Scene} (told : Seen) (asked : c.ask o = (told, next))
    (alone : c.alone.ask o = (told, next.alone)) (sound : next.Sound) : c.Answers o :=
  ⟨by rw [asked, alone], by rw [asked, alone], by rw [asked]; exact sound⟩

theorem subscribeAnswers (h : c.Sound) (t : Topic) : c.Answers (.subscribe t) := by
  cases mine : c.mine with
  | some s =>
    obtain ⟨q, -, own⟩ := h.queue mine
    have asked : c.ask (.subscribe t) = (.nothing, c) := by simp [ask, mine]
    exact answersBy _ asked (by simp [Alone.ask, own]) h
  | none =>
    obtain ⟨⟨made, tracked, -⟩, sending⟩ := h
    have calls := c.engine.backend.subscribeCalls t
    obtain ⟨exited, capacity⟩ := calls.same
    have tracks := Engine.tracksAct tracked (.subscribe t)
    have sends := Engine.sendingAct (a := .subscribe t) sending fun _ => nofun
    have unmade : (c.withBackend (c.engine.backend.subscribe t).state).Sound :=
      ⟨⟨_, tracks, fun s own => nomatch mine.symm.trans own⟩, sends⟩
    rcases sending.subscribeTold t with
      ⟨gone, told⟩ | ⟨live, fits, s, told, topic, there⟩ | ⟨live, large, told⟩
    · refine answersBy (.refused .exited) (by simp only [ask, mine, told]) ?_ unmade
      simp [alone, Alone.ask, mine, withBackend, gone, exited, capacity]
    · have own : s ∈ made ++ (c.engine.tell (.subscribe t)).made := by
        simp [Engine.tell, told, Subscribed.made]
      refine answersBy .subscribed (by simp only [ask, mine, told]; rfl) ?_
        ⟨⟨_, tracks, fun u same => by cases same; exact own⟩, sends⟩
      simp [alone, Alone.ask, mine, withBackend, live, fits, exited, capacity, Engine.queue?, there, topic]
    · refine answersBy .overflow (by simp only [ask, mine, told]) ?_ unmade
      simp [alone, Alone.ask, mine, withBackend, live, large, exited, capacity]

theorem heldMine {s : Subscription} (held : c.held? = some s) : c.dropped = false ∧ c.mine = some s := by
  cases dropped : c.dropped with
  | true => simp [held?, dropped] at held
  | false => exact ⟨rfl, by simpa [held?, dropped] using held⟩

theorem receiveAnswers (h : c.Sound) (how : Script.Receiving) : c.Answers (.receive how) := by
  cases held : c.held? with
  | none =>
    have asked : c.ask (.receive how) = (.nothing, c) := by simp [ask, held]
    exact answersBy _ asked (by simp [Alone.ask, aloneHeld, held]) h
  | some s =>
    obtain ⟨dropped, mine⟩ := heldMine held
    obtain ⟨q, there, own⟩ := h.queue mine
    obtain ⟨⟨made, tracked, known⟩, sending⟩ := h
    have asked : c.ask (.receive how) = (.received (how.run q).1, c.withBackend { c.engine.backend with
        registry := c.engine.backend.registry.putQueue s.place (how.run q).2 }) := by
      simp [ask, held, there]
    refine answersBy _ asked ?_ ⟨⟨made, ?_, known⟩, ⟨sending.sends, sending.front⟩⟩
    · have taken : (c.engine.backend.registry.putQueue s.place (how.run q).2).queue? s.place =
          some (how.run q).2 :=
        (queueSet s.place (placeThere there)).trans (if_pos rfl)
      have after : c.alone.held? = some (s.topic, q) := by simp [aloneHeld, held, there]
      simp only [Alone.ask, after]
      simp [alone, withBackend, mine, Engine.queue?, taken]
    · exact tracked.sameLists rfl List.length_set (putQueueKeeps there (receiveKeeps how q)) (Nat.le_refl _)

theorem aloneCancelled (h : c.Sound) {s : Subscription} (mine : c.mine = some s) :
    (c.withBackend (c.engine.backend.cancel s.topic s.id).state).alone = c.alone.close ∧
      (c.withBackend (c.engine.backend.cancel s.topic s.id).state).Sound := by
  obtain ⟨q, there, -⟩ := h.queue mine
  obtain ⟨⟨made, tracked, known⟩, sending⟩ := h
  have calls := c.engine.backend.cancelCalls s.topic s.id
  obtain ⟨exited, capacity⟩ := calls.same
  have queue := Engine.cancelQueue tracked (known s mine) s.topic s.id
  have tracks : (c.engine.act (.cancel s.topic s.id)).Tracked _ := Engine.tracksAct tracked _
  have sends := Engine.sendingAct (a := .cancel s.topic s.id) sending fun _ => nofun
  refine ⟨?_, ⟨_, tracks, fun u own => List.mem_append_left _ (known u own)⟩, sends⟩
  have left : (c.withBackend (c.engine.backend.cancel s.topic s.id).state).engine.queue? s.place =
      some { q with closed := true } := by
    refine queue.trans ?_
    simp [there]
  simp only [alone, withBackend] at left ⊢
  simp [Alone.close, Alone.onMine, mine, exited, capacity, there, left]

theorem cancelAnswers (h : c.Sound) : c.Answers .cancel := by
  cases mine : c.mine with
  | none =>
    have asked : c.ask .cancel = (.nothing, c) := by simp [ask, mine]
    exact answersBy _ asked (by simp [Alone.ask, alone, mine]) h
  | some s =>
    obtain ⟨q, -, own⟩ := h.queue mine
    obtain ⟨closed, sound⟩ := aloneCancelled h mine
    have asked : c.ask .cancel = (.cancelled (if c.engine.backend.exited then .error .exited else .ok ()),
        c.withBackend (c.engine.backend.cancel s.topic s.id).state) := by
      simp [ask, mine, h.sending.cancelAnswer]
    refine answersBy _ asked ?_ sound
    rw [closed]
    simp [Alone.ask, own]
    rfl

theorem dropAnswers (h : c.Sound) : c.Answers .drop := by
  cases held : c.held? with
  | none =>
    have asked : c.ask .drop = (.nothing, c) := by simp [ask, held]
    exact answersBy _ asked (by simp [Alone.ask, aloneHeld, held]) h
  | some s =>
    obtain ⟨dropped, mine⟩ := heldMine held
    obtain ⟨q, there, -⟩ := h.queue mine
    obtain ⟨closed, sound⟩ := aloneCancelled h mine
    have asked : c.ask .drop = (.dropped,
        { c.withBackend (c.engine.backend.cancel s.topic s.id).state with dropped := true }) := by
      simp [ask, held, Backend.releaseState]
    refine answersBy _ asked ?_ ⟨sound.tracked, sound.sending⟩
    have after : c.alone.held? = some (s.topic, q) := by simp [aloneHeld, held, there]
    simp only [Alone.ask, after, ← closed]
    rfl

theorem answers (h : c.Sound) (o : Own) : c.Answers o := by
  cases o with
  | subscribe t => exact subscribeAnswers h t
  | receive how => exact receiveAnswers h how
  | cancel => exact cancelAnswers h
  | drop => exact dropAnswers h

theorem concernCases (a : Act) :
    (a.retires = true ∧ a.concern? = some .down) ∨
    (a.retires = false ∧ ∃ n, a.concern? = some (.heard n) ∧
      ∀ t, a.heard? t = if n.topic = t then some n.event else none) ∨
    (a.retires = false ∧ a.concern? = none ∧ ∀ t, a.heard? t = none) := by
  cases a with
  | frame f =>
    cases read : f.decode with
    | ok n => exact .inr (.inl ⟨rfl, n, by simp [Act.concern?, read], fun t => by simp [Act.heard?, read]⟩)
    | error why =>
      exact .inr (.inr ⟨rfl, by simp [Act.concern?, read], fun t => by simp [Act.heard?, read]⟩)
  | pass stage =>
    cases stage with
    | emptying => exact .inl ⟨rfl, rfl⟩
    | guarding => exact .inl ⟨rfl, rfl⟩
    | _ => exact .inr (.inr ⟨rfl, rfl, fun _ => rfl⟩)
  | _ => exact .inr (.inr ⟨rfl, rfl, fun _ => rfl⟩)

theorem allowedForeign {a : Act} (allowed : c.allows a = true) {s : Subscription}
    (mine : c.mine = some s) : a.addresses s = false := by
  cases a <;> simp_all [allows]

theorem foreignRemoves {a : Act} {s : Subscription} (foreign : a.addresses s = false) :
    a.removes s = a.retires := by
  unfold Act.removes
  cases a <;> simp_all [Act.addresses, Act.strikes?]

theorem foreignQueue (h : c.Sound) {a : Act} {s : Subscription} (mine : c.mine = some s)
    (foreign : a.addresses s = false) :
    (c.engine.act a).queue? s.place = (c.engine.queue? s.place).map (a.onQueue s) := by
  obtain ⟨made, tracked, known⟩ := h.tracked
  have apart : a ≠ .receive s.place := fun same => by simp [same, Act.addresses] at foreign
  exact Engine.queueAct tracked (known s mine) apart

theorem otherAlone (h : c.Sound) {a : Act} (allowed : c.allows a = true)
    (change : Topic → Queue Event → Queue Event)
    (same : ∀ s, a.removes s = a.retires → a.onQueue s = change s.topic) :
    ({ c with engine := c.engine.act a } : Scene).alone =
      { c.alone.onMine change with exited := c.alone.exited || a.retires } := by
  have capacity := (c.engine.links a).capacity
  have exited := (c.engine.changes a).exitedAfter
  cases mine : c.mine with
  | none => simp [alone, Alone.onMine, mine, capacity, exited]
  | some s =>
    have foreign := allowedForeign allowed mine
    obtain ⟨q, there, -⟩ := h.queue mine
    have queue := foreignQueue h mine foreign
    rw [there, same s (foreignRemoves foreign)] at queue
    simp [alone, Alone.onMine, mine, capacity, exited, queue, there]

theorem otherSound (h : c.Sound) {a : Act} (allowed : c.allows a = true) :
    ({ c with engine := c.engine.act a } : Scene).Sound := by
  obtain ⟨⟨made, tracked, known⟩, sending⟩ := h
  have healthy : ∀ cause, a ≠ .fault cause := fun cause same => by
    subst same
    cases allowed
  exact ⟨⟨_, Engine.tracksAct tracked a, fun u own => List.mem_append_left _ (known u own)⟩,
    Engine.sendingAct sending healthy⟩

theorem othersAlone (h : c.Sound) {a : Act} (allowed : c.allows a = true) :
    ({ c with engine := c.engine.act a } : Scene).alone = a.concern?.elim c.alone c.alone.meet := by
  rcases concernCases a with ⟨retires, down⟩ | ⟨stays, n, hears, heard⟩ | ⟨stays, quiet, silent⟩
  · rw [otherAlone h allowed (fun _ q => { q with closed := true })
      fun s removes => Act.onQueueRemoved (removes.trans retires), down, retires, Bool.or_true]
    rfl
  · rw [otherAlone h allowed (fun t q => if n.topic = t then (q.push n.event).2 else q)
      fun s removes => Act.onQueueHeard (removes.trans stays) heard, hears, stays, Bool.or_false]
    rfl
  · rw [otherAlone h allowed (fun _ => id)
      fun s removes => Act.onQueueStill (removes.trans stays) (silent s.topic), quiet, stays,
      Bool.or_false]
    exact Alone.onMineSame c.alone

theorem blockedConcern {a : Act} (blocked : c.allows a = false) : a.concern? = none := by
  cases a with
  | frame f => simp [allows, Act.addresses, Act.strikes?] at blocked
  | pass stage => simp [allows, Act.addresses, Act.strikes?] at blocked
  | _ => rfl

theorem otherSeen (b : Alone) (a : Act) (rest : List Step) :
    b.seen (concerns (.other a :: rest)) = (a.concern?.elim b b.meet).seen (concerns rest) := by
  rcases concernCases a with ⟨-, told⟩ | ⟨-, n, told, -⟩ | ⟨-, told, -⟩
  · rw [told, concerns, List.filterMap_cons_some (show (Step.other a).concern? = _ from told)]
    rfl
  · rw [told, concerns, List.filterMap_cons_some (show (Step.other a).concern? = _ from told)]
    rfl
  · rw [told, concerns, List.filterMap_cons_none (show (Step.other a).concern? = _ from told)]
    rfl

theorem seenAlone (h : c.Sound) (steps : List Step) :
    c.seen steps = c.alone.seen (concerns steps) := by
  induction steps generalizing c with
  | nil => rfl
  | cons x rest ih =>
    cases x with
    | own o =>
      obtain ⟨seen, alone, sound⟩ := answers h o
      have later := ih sound
      rw [alone] at later
      exact congrArg₂ (· ++ ·) (congrArg ([·]) seen) later
    | other a =>
      cases allowed : c.allows a with
      | false =>
        have stays : c.step (.other a) = c := by simp [step, allowed]
        have skipped : concerns (.other a :: rest) = concerns rest :=
          List.filterMap_cons_none (blockedConcern allowed)
        rw [skipped, ← ih h]
        exact congrArg (seen · rest) stays
      | true =>
        have acts : c.step (.other a) = { c with engine := c.engine.act a } := by
          simp [step, allowed]
        have first : c.seen (.other a :: rest) = (c.step (.other a)).seen rest := rfl
        rw [first, acts, ih (otherSound h allowed), othersAlone h allowed, otherSeen]

end Scene

namespace Alone

variable {b : Alone}

structure Settled (b : Alone) : Prop where
  exited : b.exited = true
  closed : ∀ t q, b.mine = some (t, q) → q.closed = true

theorem downSettles (b : Alone) : (b.meet .down).Settled where
  exited := rfl
  closed t q mine := by
    obtain ⟨⟨u, p⟩, -, same⟩ := Option.map_eq_some_iff.mp mine
    cases same
    rfl

theorem settledDown (h : b.Settled) : b.meet .down = b := by
  obtain ⟨capacity, exited, mine, dropped⟩ := b
  obtain ⟨rfl, closed⟩ := h
  cases mine with
  | none => rfl
  | some own =>
    obtain ⟨t, ⟨capacity, buffer, shut⟩⟩ := own
    obtain rfl : shut = true := closed t _ rfl
    rfl

theorem onMineSettled (h : b.Settled) (change : Topic → Queue Event → Queue Event)
    (keeps : ∀ t q, q.closed = true → (change t q).closed = true) : (b.onMine change).Settled where
  exited := h.exited
  closed t q mine := by
    obtain ⟨⟨u, p⟩, own, same⟩ := Option.map_eq_some_iff.mp mine
    cases same
    exact keeps t p (h.closed t p own)

theorem settledMeet (h : b.Settled) (x : Concern) : (b.meet x).Settled := by
  have closes : b.close.Settled := onMineSettled h _ fun _ _ _ => rfl
  cases x with
  | own o =>
    cases o with
    | subscribe t =>
      cases mine : b.mine <;> simpa [meet, ask, mine, h.exited] using h
    | receive how =>
      cases held : b.held? with
      | none => simpa [meet, ask, held] using h
      | some own =>
        obtain ⟨t, q⟩ := own
        have closed : q.closed = true := by
          cases dropped : b.dropped with
          | true => simp [held?, dropped] at held
          | false => exact h.closed t q (by simpa [held?, dropped] using held)
        simp only [meet, ask, held]
        refine ⟨h.exited, fun u p mine => ?_⟩
        cases mine
        exact (receiveKeeps how q).trans closed
    | cancel => cases mine : b.mine <;> simpa [meet, ask, mine] using by assumption
    | drop =>
      cases held : b.held? with
      | none => simpa [meet, ask, held] using h
      | some own =>
        simp only [meet, ask, held]
        exact ⟨closes.exited, closes.closed⟩
  | heard n =>
    have keeps : ∀ t (q : Queue Event), q.closed = true →
        (if n.topic = t then (q.push n.event).2 else q).closed = true := by
      intro t q closed
      split
      · exact (pushKeepsClosed q n.event).trans closed
      · exact closed
    exact onMineSettled h _ keeps
  | down => exact downSettles b

theorem settledSeen (h : b.Settled) (cs : List Concern) :
    b.seen cs = b.seen (cs.filter (· ≠ .down)) := by
  induction cs generalizing b with
  | nil => rfl
  | cons x rest ih =>
    have later := ih (settledMeet h x)
    by_cases down : x = .down
    · subst down
      rw [settledDown h] at later
      have again : b.seen (.down :: rest) = (b.meet .down).seen rest := rfl
      rw [again, settledDown h, later]
      simp
    · rw [List.filter_cons_of_pos (by simpa using down)]
      exact congrArg (b.sees x ++ ·) later

theorem downOnceSeen (b : Alone) (cs : List Concern) : b.seen cs = b.seen (downOnce cs) := by
  induction cs generalizing b with
  | nil => rfl
  | cons x rest ih =>
    cases x with
    | down => exact settledSeen (downSettles b) rest
    | own o => exact congrArg ((b.ask o).1 :: ·) (ih (b.ask o).2)
    | heard n => exact ih (b.meet (.heard n))

end Alone

namespace Scene

theorem openingSound (capacity : Nat) (filters : Filters) : (opening capacity filters).Sound where
  tracked := ⟨[], Tracks.start, fun _ none => nomatch none⟩
  sending := ⟨rfl, rfl⟩

/-- What a consumer sees is decided by its own steps, the frames that decode and the point where the
subscriber goes down, in the order in which these come. -/
theorem consumersIsolated (capacity : Nat) (filters others : Filters) (one two : List Step)
    (same : downOnce (concerns one) = downOnce (concerns two)) :
    (opening capacity filters).seen one = (opening capacity others).seen two := by
  rw [seenAlone (openingSound capacity filters), seenAlone (openingSound capacity others),
    Alone.downOnceSeen, same, ← Alone.downOnceSeen]
  rfl

theorem consumersIsolatedInACrowd :
    let frame : Frame := [Topic.hashTx.label, Hash.zero.bytes, [1, 0, 0, 0]]
    let quiet : List Step := [.own (.subscribe .hashTx), .other (.frame frame), .own (.receive .info),
      .own (.receive .tryRecv), .other .panic, .other (.pass .guarding), .own (.receive .recv)]
    let crowded : List Step := [.other (.subscribe .hashTx), .other (.subscribe .rawTx),
      .own (.subscribe .hashTx), .other (.frame [[1]]), .other (.frame frame), .other (.receive 0),
      .own (.receive .info), .other (.cancel .hashTx 0), .own (.receive .tryRecv), .other .requestTerm,
      .other (.pass .emptying), .other (.release .rawTx 1), .other (.pass .guarding),
      .own (.receive .recv)]
    downOnce (concerns quiet) = downOnce (concerns crowded) ∧
      (opening 1 .fresh).seen quiet = (opening 1 .fresh).seen crowded := by
  intro frame quiet crowded
  have same : downOnce (concerns quiet) = downOnce (concerns crowded) := by decide
  exact ⟨same, consumersIsolated 1 .fresh .fresh quiet crowded same⟩

end Scene
end NodeFeed
