import NodeFeed.Proofs.Contents

/-!
How events leave a queue: its holder takes them out, or pushes into the full queue displace the oldest
ones. An event that leaves is told apart by its way out, and the order is that of leaving. At every
point of every run what a queue has accepted is what has left it, followed by what it still holds; with
the span in which it accepts, that is all there is to say about delivery.
-/

namespace NodeFeed

open Registry

inductive Departure where
  | taken (event : Event)
  | displaced (event : Event)
  deriving DecidableEq, Repr

namespace Departure

def event : Departure → Event
  | taken event | displaced event => event

def taken? : Departure → Option Event
  | taken event => some event
  | displaced _ => none

def isDisplaced : Departure → Bool
  | taken _ => false
  | displaced _ => true

theorem takenOnly (events : List Event) :
    (events.map taken).map event = events ∧ (events.map taken).filterMap taken? = events ∧
      (events.map taken).countP isDisplaced = 0 := by
  simp [Function.comp_def, event, taken?, isDisplaced]

theorem displacedOnly (events : List Event) :
    (events.map displaced).map event = events ∧ (events.map displaced).filterMap taken? = [] ∧
      (events.map displaced).countP isDisplaced = events.length := by
  simp [Function.comp_def, event, taken?, isDisplaced]

theorem takenInOrder (left : List Departure) : (left.filterMap taken?).Sublist (left.map event) := by
  induction left with
  | nil => exact .slnil
  | cons d rest ih =>
    cases d with
    | taken e => exact ih.cons_cons e
    | displaced e => exact ih.cons e

end Departure

def displacedAt (place : Nat) (pushes : List Pushed) : Nat :=
  pushes.countP fun p => p.place = place ∧ p.outcome = .displacedOldest

namespace Engine

def held (e : Engine) (place : Nat) : List Event := ((e.queue? place).map (·.buffer)).getD []

def receives (place : Nat) (e : Engine) : Act → List Event
  | .receive there =>
    if there = place then
      match (e.queue? place).map Queue.tryRecv with
      | some (.ok event, _) => [event]
      | some (.error _, _) | none => []
    else []
  | _ => []

def displaces (place : Nat) (e : Engine) (a : Act) : List Event :=
  (e.held place).take (displacedAt place (e.pushes a))

def departs (place : Nat) (e : Engine) (a : Act) : List Departure :=
  (e.receives place a).map .taken ++ (e.displaces place a).map .displaced

def received (e : Engine) (place : Nat) (acts : List Act) : List Event :=
  e.history (receives place) acts

def departed (e : Engine) (place : Nat) (acts : List Act) : List Departure :=
  e.history (departs place) acts

variable {e : Engine} {m : List Subscription} {s : Subscription} {q : Queue Event} {place : Nat}

theorem heldThere (there : e.queue? place = some q) : e.held place = q.buffer := by
  simp [held, there]

theorem heldNone (nowhere : e.queue? place = none) : e.held place = [] := by
  simp [held, nowhere]

theorem answersHere {β : Type} {act : Queue Event → β × Queue Event} {queues : List (Queue Event)}
    {entries : List Entry} (once : (places entries).Nodup) (there : queues[place]? = some q) :
    (onEach act entries queues).1.filter (fun told => told.1 = place) =
      if place ∈ places entries then [(place, (act q).1)] else [] := by
  rw [onEachAnswers once]
  induction entries with
  | nil => rfl
  | cons entry rest ih =>
    obtain ⟨(fresh : entry.place ∉ places rest), later⟩ := List.nodup_cons.mp once
    have tail := ih later
    by_cases same : place = entry.place
    · subst same
      rw [if_neg fresh] at tail
      simp [there, tail, places]
    · have elsewhere : place ∈ places (entry :: rest) ↔ place ∈ places rest := by
        simp [places, same]
      simp only [elsewhere]
      cases found : queues[entry.place]? <;> simp [found, Ne.symm same, tail]

theorem pushesHere (h : e.Tracked m) (mine : s ∈ m) (there : e.queue? s.place = some q) (a : Act) :
    (e.pushes a).filter (fun p => p.place = s.place) =
      if s.entry ∈ e.backend.registry.lists.get s.topic then
        (a.heard? s.topic).toList.map fun event => ⟨s.place, (q.push event).1, event⟩
      else [] := by
  cases a with
  | frame f =>
    simp only [pushes, Act.heard?]
    cases f.decode with
    | error why => simp
    | ok n =>
      have told : (e.backend.registry.deliver n).1.filter (fun told => told.1 = s.place) =
          if s.place ∈ places (e.backend.registry.lists.get n.topic) then
            [(s.place, (q.push n.event).1)]
          else [] :=
        answersHere (h.wired.once n.topic) there
      simp only [h.listedAt mine] at told
      rw [List.filter_map]
      refine (congrArg (List.map _) told).trans ?_
      by_cases topic : n.topic = s.topic
      · by_cases listed : s.entry ∈ e.backend.registry.lists.get s.topic <;> simp [topic, listed]
      · simp [topic]
  | _ => simp [pushes, Act.heard?]

theorem displacedHere (place : Nat) (pushes : List Pushed) :
    displacedAt place pushes =
      (pushes.filter fun p => p.place = place).countP fun p => p.outcome = .displacedOldest := by
  simp [displacedAt, List.countP_filter, Bool.and_comm]

theorem displacedAppend (place : Nat) (first rest : List Pushed) :
    displacedAt place (first ++ rest) = displacedAt place first + displacedAt place rest :=
  List.countP_append

theorem receiveAct (there : e.queue? place = some q) :
    (e.act (.receive place)).queue? place = some q.tryRecv.2 := by
  unfold queue? at there ⊢
  simp only [act, Backend.receive, there]
  exact (queueSet place (placeThere there)).trans (if_pos rfl)

theorem receivesApart {a : Act} (apart : a ≠ .receive place) : e.receives place a = [] := by
  cases a with
  | receive there => exact if_neg fun same => apart (congrArg Act.receive same)
  | _ => rfl

theorem queueBorn (nowhere : e.queue? place = none) (a : Act) :
    (e.act a).queue? place = none ∨ (e.act a).queue? place = some (Queue.make e.backend.capacity) := by
  have beyond : e.backend.registry.queues.length ≤ place := List.getElem?_eq_none_iff.mp nowhere
  have kept (length : (e.act a).backend.registry.queues.length = e.backend.registry.queues.length) :
      (e.act a).queue? place = none :=
    List.getElem?_eq_none_iff.mpr (length ▸ beyond)
  have change := e.changes a
  generalize e.tell a = told at change
  cases change with
  | kept _ length => exact .inl (kept length)
  | listed t _ _ registry =>
    simp only [queue?, Registry.queue?, registry, Registry.insert, List.getElem?_append_right beyond]
    cases place - e.backend.registry.queues.length with
    | zero => exact .inr rfl
    | succ n => exact .inl rfl
  | struck t id entry _ _ found registry =>
    exact .inl (kept (by rw [registry, removeFound _ found]; exact onEachLength _))
  | retired _ registry => exact .inl (kept (by rw [registry]; exact closeTopicsLength _ Topic.all))

def Roomy (e : Engine) : Prop := ∀ place q, e.queue? place = some q → 0 < q.capacity

theorem onQueueCapacity (s : Subscription) (a : Act) (q : Queue Event) :
    (a.onQueue s q).capacity = q.capacity := by
  unfold Act.onQueue
  split
  · rfl
  · split
    · rcases q.pushCases _ with ⟨-, done⟩ | ⟨-, -, done⟩ | ⟨-, -, done⟩ <;> rw [done]
    · rfl

theorem tryRecvCapacity (q : Queue Event) : q.tryRecv.2.capacity = q.capacity := by
  rcases q.tryRecvCases with ⟨event, rest, -, done⟩ | ⟨-, done⟩ <;> rw [done]

theorem roomyAct (h : e.Tracked m) (roomy : e.Roomy) (a : Act) : (e.act a).Roomy := by
  intro place q found
  cases there : e.queue? place with
  | none =>
    rcases queueBorn there a with nowhere | made
    · cases nowhere.symm.trans found
    · cases made.symm.trans found
      exact Nat.lt_of_lt_of_le Nat.one_pos (Nat.le_max_right _ 1)
  | some old =>
    have room := roomy place old there
    obtain ⟨s, mine, rfl⟩ := placeOwned h there
    by_cases own : a = .receive s.place
    · subst own
      cases (receiveAct there).symm.trans found
      exact tryRecvCapacity old ▸ room
    · have after := queueAct h mine own
      rw [found, there] at after
      cases after
      exact onQueueCapacity s a old ▸ room

structure Flow (place : Nat) (e : Engine) (pushes : List Pushed) (left : List Departure)
    (next : Engine) : Prop where
  conserved : e.held place ++ acceptedAt place pushes = left.map Departure.event ++ next.held place
  displaced : left.countP Departure.isDisplaced = displacedAt place pushes

theorem Flow.trans {f g : Engine} {pushes more : List Pushed} {left gone : List Departure}
    (first : Flow place e pushes left f) (rest : Flow place f more gone g) :
    Flow place e (pushes ++ more) (left ++ gone) g where
  conserved := by
    rw [acceptedAppend, ← List.append_assoc, first.conserved, List.append_assoc, rest.conserved,
      List.map_append, List.append_assoc]
  displaced := by
    rw [List.countP_append, displacedAppend, first.displaced, rest.displaced]

theorem flowNowhere (nowhere : e.queue? place = none) (a : Act) :
    Flow place e (e.pushes a) (e.departs place a) (e.act a) := by
  have outside : ∀ told ∈ e.pushes a, told.place ≠ place := fun told listed same => by
    have inside := pushesInside e a told listed
    rw [same] at inside
    exact absurd (List.getElem?_eq_none_iff.mp nowhere) (Nat.not_le.mpr inside)
  have accepted : acceptedAt place (e.pushes a) = [] :=
    List.filterMap_eq_nil_iff.mpr fun told listed => if_neg fun here => outside told listed here.1
  have displaced : displacedAt place (e.pushes a) = 0 :=
    List.countP_eq_zero.mpr fun told listed => by simp [outside told listed]
  have empty : (e.act a).held place = [] := by
    rcases queueBorn nowhere a with nowhere | made
    · exact heldNone nowhere
    · exact heldThere made
  have received : e.receives place a = [] := by
    cases a with
    | receive there => simp [receives, nowhere]
    | _ => rfl
  have left : e.departs place a = [] := by
    simp [departs, received, displaces, displaced]
  exact ⟨by rw [left, heldNone nowhere, accepted, empty]; rfl, by rw [left, displaced]; rfl⟩

theorem flowReceive (there : e.queue? place = some q) :
    Flow place e (e.pushes (.receive place)) (e.departs place (.receive place))
      (e.act (.receive place)) := by
  have left : e.departs place (.receive place) = (e.receives place (.receive place)).map .taken := by
    simp [departs, displaces, displacedAt, pushes]
  have after := heldThere (receiveAct there)
  rw [left]
  refine ⟨?_, (Departure.takenOnly _).2.2⟩
  rw [(Departure.takenOnly _).1, heldThere there, after]
  rcases q.tryRecvCases with ⟨event, rest, held, done⟩ | ⟨empty, done⟩
  · simp [receives, there, done, held, pushes, acceptedAt]
  · simp [receives, there, done, pushes, acceptedAt]

theorem onQueueBuffer {a : Act} (silent : a.heard? s.topic = none ∨ q.closed = true) :
    (a.onQueue s q).buffer = q.buffer := by
  unfold Act.onQueue
  split
  · rfl
  · split
    case h_1 event heard =>
      rcases silent with none | closed
      · cases none.symm.trans heard
      · rw [pushClosed closed]
    case h_2 => rfl

theorem pushFlow (opened : q.closed = false) (room : 0 < q.capacity) (event : Event) {n : Nat}
    (out : n = [(q.push event).1].count .displacedOldest) :
    q.buffer ++ [event] = q.buffer.take n ++ (q.push event).2.buffer ∧ (q.buffer.take n).length = n := by
  subst out
  rcases q.pushCases event with ⟨closed, -⟩ | ⟨-, full, done⟩ | ⟨-, -, done⟩
  · cases opened.symm.trans closed
  · obtain ⟨oldest, rest, buffer⟩ := List.exists_cons_of_length_pos (Nat.lt_of_lt_of_le room full)
    simp [done, buffer]
  · simp [done]

theorem flowPush (h : e.Tracked m) (roomy : e.Roomy) (mine : s ∈ m)
    (there : e.queue? s.place = some q) {a : Act} (apart : a ≠ .receive s.place) :
    Flow s.place e (e.pushes a) (e.departs s.place a) (e.act a) := by
  have left : e.departs s.place a =
      (q.buffer.take (displacedAt s.place (e.pushes a))).map .displaced := by
    simp [departs, receivesApart apart, displaces, heldThere there]
  have after : (e.act a).held s.place = (a.onQueue s q).buffer :=
    heldThere ((queueAct h mine apart).trans (congrArg _ there))
  have told := (displacedHere s.place (e.pushes a)).trans
    (congrArg (List.countP _) (pushesHere h mine there a))
  have accepted := acceptedAct h mine a
  obtain ⟨p, same, closed⟩ := h.queue mine
  cases there.symm.trans same
  have still (silent : a.heard? s.topic = none ∨ q.closed = true)
      (refused : acceptedAt s.place (e.pushes a) = [])
      (kept : displacedAt s.place (e.pushes a) = 0) :
      Flow s.place e (e.pushes a) (e.departs s.place a) (e.act a) := by
    have nothing : e.departs s.place a = [] := by simp [left, kept]
    rw [nothing]
    exact ⟨by simp [refused, after, onQueueBuffer silent, heldThere there], by rw [kept]; rfl⟩
  by_cases listed : s.entry ∈ e.backend.registry.lists.get s.topic
  · rw [if_pos listed] at told accepted
    have opened : q.closed = false := by simpa [listed] using mt closed.mp
    cases heard : a.heard? s.topic with
    | none => exact still (.inl heard) (by rw [accepted, heard]; rfl) (by rw [told, heard]; rfl)
    | some event =>
      have stays : a.removes s = false := by
        by_contra removes
        cases (heardRemoving (by simpa using removes)).symm.trans heard
      have pushed : a.onQueue s q = (q.push event).2 := by simp [Act.onQueue, stays, heard]
      have one : displacedAt s.place (e.pushes a) = [(q.push event).1].count .displacedOldest := by
        rw [told, heard]
        simp [List.count_singleton, List.countP_singleton]
      obtain ⟨conserved, counted⟩ := pushFlow opened (roomy _ _ there) event one
      rw [left]
      refine ⟨?_, (Departure.displacedOnly _).2.2.trans counted⟩
      rw [(Departure.displacedOnly _).1, after, pushed, accepted, heard, heldThere there]
      exact conserved
  · rw [if_neg listed] at told accepted
    exact still (.inr (closed.mpr listed)) accepted told

theorem flowAct (h : e.Tracked m) (roomy : e.Roomy) (place : Nat) (a : Act) :
    Flow place e (e.pushes a) (e.departs place a) (e.act a) := by
  cases there : e.queue? place with
  | none => exact flowNowhere there a
  | some q =>
    obtain ⟨s, mine, rfl⟩ := placeOwned h there
    by_cases own : a = .receive s.place
    · exact own ▸ flowReceive there
    · exact flowPush h roomy mine there own

theorem roomyRun (h : e.Tracked m) (roomy : e.Roomy) (acts : List Act) : (e.run acts).Roomy := by
  induction acts using List.reverseRecOn with
  | nil => exact roomy
  | append_singleton acts a ih =>
    rw [runSnoc]
    exact roomyAct (tracksRun h acts) ih a

theorem flowRun (h : e.Tracked m) (roomy : e.Roomy) (place : Nat) (acts : List Act) :
    Flow place e (e.pushed acts) (e.departed place acts) (e.run acts) := by
  induction acts using List.reverseRecOn with
  | nil => exact ⟨by simp [pushed, departed, history, Run.told, acceptedAt, run, Run.after], rfl⟩
  | append_singleton acts a ih =>
    rw [runSnoc, pushed, departed, historySnoc, historySnoc]
    exact ih.trans (flowAct (tracksRun h acts) (roomyRun h roomy acts) place a)

theorem takenRun (e : Engine) (place : Nat) (acts : List Act) :
    (e.departed place acts).filterMap Departure.taken? = e.received place acts := by
  induction acts using List.reverseRecOn with
  | nil => rfl
  | append_singleton acts a ih =>
    rw [departed, received, historySnoc, historySnoc, List.filterMap_append, ← departed, ih, departs,
      List.filterMap_append, (Departure.takenOnly _).2.1, (Departure.displacedOnly _).2.1,
      List.append_nil]
    rfl

theorem openingTracked (capacity : Nat) (filters : Filters) : (opening capacity filters).Tracked [] :=
  .start

theorem openingRoomy (capacity : Nat) (filters : Filters) : (opening capacity filters).Roomy :=
  fun place _ found => nomatch (show ([] : List (Queue Event))[place]? = some _ from found)

theorem roomyOpened (capacity : Nat) (filters : Filters) (acts : List Act) :
    ((opening capacity filters).run acts).Roomy :=
  roomyRun (openingTracked capacity filters) (openingRoomy capacity filters) acts

theorem flowOpened (capacity : Nat) (filters : Filters) (place : Nat) (acts : List Act) :
    Flow place (opening capacity filters) ((opening capacity filters).pushed acts)
      ((opening capacity filters).departed place acts) ((opening capacity filters).run acts) :=
  flowRun (openingTracked capacity filters) (openingRoomy capacity filters) place acts

theorem shutAct (h : e.Tracked m) (shut : e.isShut place = true) (a : Act) :
    acceptedAt place (e.pushes a) = [] ∧ e.departs place a = (e.receives place a).map .taken := by
  have state : shut? e.backend.registry.queues place = some true := by simpa [isShut] using shut
  obtain ⟨q, there, closed⟩ := Option.map_eq_some_iff.mp state
  obtain ⟨s, mine, rfl⟩ := placeOwned h there
  have off : s.entry ∉ e.backend.registry.lists.get s.topic := by
    simpa [state] using h.shut s mine
  have none : displacedAt s.place (e.pushes a) = 0 := by
    rw [displacedHere, pushesHere h mine there, if_neg off]
    rfl
  exact ⟨by rw [acceptedAct h mine, if_neg off], by simp [departs, displaces, none]⟩

theorem shutRun (h : e.Tracked m) (roomy : e.Roomy) (shut : e.isShut place = true) (acts : List Act) :
    acceptedAt place (e.pushed acts) = [] ∧
      e.held place = e.received place acts ++ (e.run acts).held place := by
  have only : acceptedAt place (e.pushed acts) = [] ∧
      e.departed place acts = (e.received place acts).map .taken := by
    induction acts using List.reverseRecOn with
    | nil => exact ⟨rfl, rfl⟩
    | append_singleton acts a ih =>
      obtain ⟨refused, left⟩ := shutAct (tracksRun h acts) (shutStays shut acts) a
      rw [pushed, departed, received, historySnoc, historySnoc, historySnoc, acceptedAppend,
        List.map_append, ← pushed, ← departed, ← received, ih.1, ih.2, refused, left]
      exact ⟨rfl, rfl⟩
  have flow := (flowRun h roomy place acts).conserved
  rw [only.1, only.2, (Departure.takenOnly _).1, List.append_nil] at flow
  exact ⟨only.1, flow⟩

end Engine
end NodeFeed
