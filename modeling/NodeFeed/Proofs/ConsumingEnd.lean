import NodeFeed.Queue.Endpoint
import NodeFeed.Proofs.DropOldest

/-!
One consuming end over every interleaving of its own acts with pushes and the close. An act that the
end's owner cannot do is refused. Which hook ran, and how often, is a function of the answers alone;
and a stream answers poll for poll what the receiver it was made of would have answered, up to the
first answer that says closed. What a hook does when it runs is not part of this.
-/

namespace NodeFeed.Endpoint

variable {α : Type}

inductive Act (α : Type) where
  | push (a : α)
  | close
  | onRelease
  | tryRecv
  | poll
  | leave
  | intoStream
  | dropReceiver
  | next
  | dropStream
  deriving DecidableEq, Repr

inductive Answer (α : Type) where
  | refused
  | pushed (outcome : Push)
  | closed (first : Bool)
  | installed
  | received (answer : Except RecvError α)
  | polled (answer : Poll α)
  | left
  | turned
  | streamed (answer : Poll α)
  | dropped

namespace Answer

def installs : Answer α → Bool
  | installed => true
  | _ => false

def letsGo : Answer α → Bool
  | dropped | streamed .closed => true
  | _ => false

def poll? : Answer α → Option (Poll α)
  | polled answer | streamed answer => some answer
  | _ => none

end Answer

def installations (told : List (Answer α)) : Nat := told.countP Answer.installs

def polls (told : List (Answer α)) : List (Poll α) := told.filterMap Answer.poll?

theorem installationsSnoc (told : List (Answer α)) (x : Answer α) :
    installations (told ++ [x]) = installations told + x.installs.toNat := by
  cases h : x.installs <;> simp [installations, h]

theorem pollsPolled (answer : Poll α) (told : List (Answer α)) :
    polls (.polled answer :: told) = answer :: polls told := rfl

theorem pollsStreamed (answer : Poll α) (told : List (Answer α)) :
    polls (.streamed answer :: told) = answer :: polls told := rfl

def perform (e : Endpoint α) (a : Act α) : Answer α × Endpoint α :=
  match a, e.owner with
  | .push a, _ => let (outcome, channel) := e.channel.push a; (.pushed outcome, { e with channel })
  | .close, _ => let (first, channel) := e.channel.close; (.closed first, { e with channel })
  | .onRelease, .receiver => (.installed, e.onRelease)
  | .tryRecv, .receiver =>
    let (answer, channel) := e.channel.tryRecv
    (.received answer, { e with channel })
  | .poll, .receiver => let (answer, channel) := e.channel.poll; (.polled answer, { e with channel })
  | .leave, .receiver => (.left, { e with channel := e.channel.leave })
  | .intoStream, .receiver => (.turned, e.intoStream)
  | .dropReceiver, .receiver => (.dropped, e.dropReceiver)
  | .next, .stream => let (answer, e) := e.next; (.streamed answer, e)
  | .dropStream, .stream | .dropStream, .ended => (.dropped, e.dropStream)
  | _, _ => (.refused, e)

def act (e : Endpoint α) (a : Act α) : Endpoint α := (e.perform a).2

def run (e : Endpoint α) (acts : List (Act α)) : Endpoint α := Run.after act e acts

def answers (e : Endpoint α) (acts : List (Act α)) : List (Answer α) :=
  Run.told act (fun e a => [(e.perform a).1]) e acts

theorem runSnoc (e : Endpoint α) (acts : List (Act α)) (a : Act α) :
    e.run (acts ++ [a]) = (e.run acts).act a :=
  Run.afterSnoc e acts a

theorem answersSnoc (e : Endpoint α) (acts : List (Act α)) (a : Act α) :
    e.answers (acts ++ [a]) = e.answers acts ++ [((e.run acts).perform a).1] :=
  Run.toldSnoc e acts a

theorem answersCons (e : Endpoint α) (a : Act α) (acts : List (Act α)) :
    e.answers (a :: acts) = (e.perform a).1 :: (e.act a).answers acts := rfl

theorem runCons (e : Endpoint α) (a : Act α) (acts : List (Act α)) :
    e.run (a :: acts) = (e.act a).run acts := rfl

inductive Step (e : Endpoint α) : Answer α → Endpoint α → Prop where
  | refused : Step e .refused e
  | used {x : Answer α} (b : Channel.Act α) (installs : x.installs = false)
      (letsGo : x.letsGo = false) : Step e x { e with channel := e.channel.act b }
  | installed (owner : e.owner = .receiver) : Step e .installed e.onRelease
  | turned (owner : e.owner = .receiver) : Step e .turned e.intoStream
  | letGo {x : Answer α} {c : Channel α} {o : Owner} (held : e.owner = .receiver ∨ e.owner = .stream)
      (moved : c = e.channel ∨ ∃ b, c = e.channel.act b) (letsGo : x.letsGo = true)
      (gone : o = .ended ∨ o = .nobody) : Step e x { e.release with channel := c, owner := o }
  | discarded (owner : e.owner = .ended) : Step e .dropped { e with owner := .nobody }

theorem releaseChannel (e : Endpoint α) : e.release.channel = e.channel := by
  unfold release
  cases e.hook <;> rfl

theorem nextSteps (e : Endpoint α) :
    (e.channel.poll.1 = .closed ∧
      e.next = (.closed, { e.release with channel := e.channel.poll.2, owner := .ended })) ∨
    (e.channel.poll.1 ≠ .closed ∧
      e.next = (e.channel.poll.1, { e with channel := e.channel.poll.2 })) := by
  unfold next
  rcases e.channel.poll with ⟨answer, channel⟩
  cases answer with
  | closed => exact .inl ⟨rfl, by cases hook : e.hook <;> simp [release, hook]⟩
  | ready a => exact .inr ⟨by simp, rfl⟩
  | pending => exact .inr ⟨by simp, rfl⟩

theorem performSteps (e : Endpoint α) (a : Act α) : Step e (e.perform a).1 (e.act a) := by
  unfold act
  cases a with
  | push a => exact .used (.push a) rfl rfl
  | close => exact .used .close rfl rfl
  | onRelease =>
    cases owner : e.owner <;> simp only [perform, owner]
    case receiver => exact .installed owner
    all_goals exact .refused
  | tryRecv =>
    cases owner : e.owner <;> simp only [perform, owner]
    case receiver => exact owner ▸ .used .tryRecv rfl rfl
    all_goals exact .refused
  | poll =>
    cases owner : e.owner <;> simp only [perform, owner]
    case receiver => exact owner ▸ .used .poll rfl rfl
    all_goals exact .refused
  | leave =>
    cases owner : e.owner <;> simp only [perform, owner]
    case receiver => exact owner ▸ .used .leave rfl rfl
    all_goals exact .refused
  | intoStream =>
    cases owner : e.owner <;> simp only [perform, owner]
    case receiver => exact .turned owner
    all_goals exact .refused
  | dropReceiver =>
    cases owner : e.owner <;> simp only [perform, owner]
    case receiver =>
      simp only [dropReceiver, owner]
      exact .letGo (.inl owner) (.inl (releaseChannel e)) rfl (.inr rfl)
    all_goals exact .refused
  | next =>
    cases owner : e.owner <;> simp only [perform, owner]
    case stream =>
      rcases e.nextSteps with ⟨_, done⟩ | ⟨going, done⟩
      · rw [done]
        exact .letGo (.inr owner) (.inr ⟨.poll, rfl⟩) rfl (.inl rfl)
      · rw [done]
        refine .used .poll rfl ?_
        cases answer : e.channel.poll.1 with
        | closed => exact absurd answer going
        | ready a => rfl
        | pending => rfl
    all_goals exact .refused
  | dropStream =>
    cases owner : e.owner <;> simp only [perform, owner, dropStream]
    case stream => exact .letGo (.inr owner) (.inr ⟨.leave, rfl⟩) rfl (.inr rfl)
    case ended => exact .discarded owner
    all_goals exact .refused

def lastHook : Nat → Option Nat
  | 0 => none
  | k + 1 => some k

def runsOf : Nat → Bool → List Nat
  | 0, _ => []
  | k + 1, released => List.replicate k 0 ++ [released.toNat]

theorem runsOfLength (installed : Nat) (released : Bool) :
    (runsOf installed released).length = installed := by
  cases installed <;> simp [runsOf]

theorem runsOfHeld (installed : Nat) : runsOf installed false = List.replicate installed 0 := by
  cases installed with
  | zero => rfl
  | succ k => exact List.replicate_succ'.symm

structure Stand (installed : Nat) (released : Bool) (e : Endpoint α) : Prop where
  gone : released = true ↔ e.owner = .ended ∨ e.owner = .nobody
  hook : e.hook = if released then none else lastHook installed
  calls : e.calls = runsOf installed released

namespace Stand

variable {installed : Nat} {released : Bool} {e d : Endpoint α} {x : Answer α}

theorem held (s : Stand installed released e) (owner : e.owner = .receiver ∨ e.owner = .stream) :
    released = false := by
  cases released with
  | false => rfl
  | true =>
    rcases owner with owner | owner <;> simpa [owner] using s.gone

theorem install (s : Stand installed released e) (owner : e.owner = .receiver) :
    Stand (installed + 1) released e.onRelease := by
  cases s.held (.inl owner)
  have calls := s.calls
  rw [runsOfHeld] at calls
  constructor
  · exact s.gone
  · simp [onRelease, lastHook, calls]
  · simp [onRelease, runsOf, calls]

theorem release (s : Stand installed released e) (held : e.owner = .receiver ∨ e.owner = .stream)
    {c : Channel α} {o : Owner} (gone : o = .ended ∨ o = .nobody) :
    Stand installed true { e.release with channel := c, owner := o } := by
  cases s.held held
  have hook := s.hook
  have calls := s.calls
  rw [runsOfHeld] at calls
  cases installed with
  | zero =>
    have none : e.hook = none := hook
    constructor
    · simpa using gone
    · simp [Endpoint.release, none]
    · simp [Endpoint.release, none, calls, runsOf]
  | succ last =>
    have some : e.hook = some last := hook
    constructor
    · simpa using gone
    · simp [Endpoint.release, some]
    · have ran : (List.replicate last 0 ++ [0]).modify last (· + 1) = List.replicate last 0 ++ [1] := by
        simp [List.modify_eq_take_cons_drop]
      simpa [Endpoint.release, some, calls, runsOf, List.replicate_succ'] using ran

theorem step (s : Stand installed released e) (moves : Step e x d) :
    Stand (installed + x.installs.toNat) (released || x.letsGo) d := by
  cases moves with
  | refused => simpa [Answer.installs, Answer.letsGo] using s
  | used b installs letsGo =>
    rw [installs, letsGo, Bool.or_false]
    exact ⟨s.gone, s.hook, s.calls⟩
  | installed owner => simpa [Answer.installs, Answer.letsGo] using s.install owner
  | turned owner =>
    cases s.held (.inl owner)
    exact ⟨by simp [Answer.letsGo, intoStream], s.hook, s.calls⟩
  | letGo held moved letsGo gone =>
    have installs : x.installs = false := by cases x <;> simp_all [Answer.installs, Answer.letsGo]
    rw [installs, letsGo, Bool.or_true]
    exact s.release held gone
  | discarded owner =>
    have finished : released = true := s.gone.mpr (.inl owner)
    subst finished
    exact ⟨by simp [Answer.letsGo], s.hook, s.calls⟩

theorem run (capacity : Nat) (acts : List (Act α)) :
    Stand (installations ((make capacity).answers acts))
      (((make capacity).answers acts).any Answer.letsGo) ((make capacity).run acts) := by
  induction acts using List.reverseRecOn with
  | nil => exact ⟨by simp [Endpoint.run, answers, Run.after, Run.told, make], rfl, rfl⟩
  | append_singleton acts a ih =>
    rw [runSnoc, answersSnoc]
    simpa [installationsSnoc] using ih.step (performSteps ((make capacity).run acts) a)

end Stand

end NodeFeed.Endpoint

namespace NodeFeed.Channel

variable {α : Type}

def Act.onQueue (q : Queue α) : Act α → Queue α
  | push a => (q.push a).2
  | close => q.close.2
  | tryRecv => q.tryRecv.2
  | poll => q.poll.2
  | leave => q

theorem pollLooks {c : Channel α} (attended : Attended c) :
    c.poll.1 = c.queue.poll.1 ∧ c.poll.2.queue = c.queue.poll.2 := by
  rcases c.pollSteps with ⟨waits, done⟩ | ⟨a, rest, bell, held, _, done⟩ |
    ⟨bell, empty, closed, _, done⟩ | ⟨bell, empty, opened, done⟩
  · have looked : c.queue.poll = (.pending, c.queue) := by
      simp [Queue.poll, Queue.tryRecv, attended.empty waits, attended.opened waits]
    simp [done, looked]
  · simp [done, Queue.poll, Queue.tryRecv, held]
  · simp [done, Queue.poll, Queue.tryRecv, empty, closed]
  · simp [done, Queue.poll, Queue.tryRecv, empty, opened]

theorem actLooks {c : Channel α} (attended : Attended c) (b : Act α) :
    (c.act b).queue = b.onQueue c.queue := by
  cases b with
  | push a =>
    simp only [act, perform, push, Act.onQueue]
    rcases c.queue.pushCases a with ⟨_, done⟩ | ⟨_, _, done⟩ | ⟨_, _, done⟩ <;> rw [done] <;> rfl
  | close =>
    rcases c.closeCases with ⟨closed, done⟩ | ⟨_, done⟩
    · simp only [act, performClose done, Act.onQueue, Queue.close, ← closed]
    · simp only [act, performClose done, Act.onQueue, Queue.close, ring]
  | tryRecv => rfl
  | poll => exact (pollLooks attended).2
  | leave => rfl

end NodeFeed.Channel

namespace NodeFeed.Endpoint

variable {α : Type}

inductive Use (α : Type) where
  | push (a : α)
  | close
  | poll
  | leave
  deriving DecidableEq, Repr

namespace Use

def received : Use α → Act α
  | push a => .push a
  | close => .close
  | poll => .poll
  | leave => .leave

def streamed : Use α → Option (Act α)
  | push a => some (.push a)
  | close => some .close
  | poll => some .next
  | leave => none

end Use

def items (answers : List (Poll α)) : List α :=
  answers.filterMap fun
    | .ready a => some a
    | .closed | .pending => none

def untilEnd : List (Poll α) → List (Poll α)
  | [] => []
  | .closed :: _ => [.closed]
  | .ready a :: rest => .ready a :: untilEnd rest
  | .pending :: rest => .pending :: untilEnd rest

structure Alike (read streamed : List (Poll α)) (stream : Endpoint α) : Prop where
  answers : streamed = untilEnd read
  yields : items streamed = items read
  ends : stream.owner = .ended ↔ .closed ∈ read

structure Abreast (s r : Endpoint α) : Prop where
  streams : s.owner = .stream
  receives : r.owner = .receiver
  same : s.channel.queue = r.channel.queue
  attended : s.channel.Attended ∧ r.channel.Attended

theorem performPoll {e : Endpoint α} (receives : e.owner = .receiver) :
    e.perform .poll = (.polled e.channel.poll.1, { e with channel := e.channel.act .poll }) := by
  simp only [perform, receives]
  rfl

theorem performLeave {e : Endpoint α} (receives : e.owner = .receiver) :
    e.perform .leave = (.left, { e with channel := e.channel.act .leave }) := by
  simp only [perform, receives]
  rfl

namespace Abreast

variable {s r : Endpoint α}

theorem moved (abreast : Abreast s r) (b : Channel.Act α) :
    Abreast { s with channel := s.channel.act b } { r with channel := r.channel.act b } := by
  obtain ⟨streams, receives, same, left, right⟩ := abreast
  refine ⟨streams, receives, ?_, Channel.attendedAct left b, Channel.attendedAct right b⟩
  rw [Channel.actLooks left, Channel.actLooks right, same]

theorem gaveUp (abreast : Abreast s r) : Abreast s { r with channel := r.channel.act .leave } :=
  { abreast with
    same := abreast.same
    attended := ⟨abreast.attended.1, Channel.attendedAct abreast.attended.2 .leave⟩ }

theorem pollsSame (abreast : Abreast s r) : s.channel.poll.1 = r.channel.poll.1 := by
  rw [(Channel.pollLooks abreast.attended.1).1, (Channel.pollLooks abreast.attended.2).1, abreast.same]

end Abreast

theorem endedIsSilent {s : Endpoint α} (ended : s.owner = .ended) (uses : List (Use α)) :
    polls (s.answers (uses.filterMap Use.streamed)) = [] ∧
    (s.run (uses.filterMap Use.streamed)).owner = .ended := by
  induction uses generalizing s with
  | nil => exact ⟨rfl, ended⟩
  | cons use uses ih =>
    cases use with
    | push a => exact ih (s := s.act (.push a)) ended
    | close => exact ih (s := s.act .close) ended
    | leave => exact ih ended
    | poll =>
      have refused : s.perform .next = (.refused, s) := by simp only [perform, ended]
      have stays : s.act .next = s := congrArg Prod.snd refused
      simp only [List.filterMap_cons, Use.streamed, answersCons, runCons, refused, stays]
      exact ih ended

structure Drained (r : Endpoint α) : Prop where
  receives : r.owner = .receiver
  attended : r.channel.Attended
  closed : r.channel.queue.closed = true
  empty : r.channel.queue.buffer = []

theorem Drained.moved {r : Endpoint α} (drained : Drained r) (b : Channel.Act α) :
    Drained { r with channel := r.channel.act b } := by
  obtain ⟨receives, attended, closed, empty⟩ := drained
  obtain ⟨closedStill, emptyStill⟩ := Channel.endStays closed empty b
  exact ⟨receives, Channel.attendedAct attended b, closedStill, emptyStill⟩

theorem Drained.yieldsNothing {r : Endpoint α} (drained : Drained r) (uses : List (Use α)) :
    items (polls (r.answers (uses.map Use.received))) = [] := by
  induction uses generalizing r with
  | nil => rfl
  | cons use uses ih =>
    cases use with
    | push a => exact ih (drained.moved (.push a))
    | close => exact ih (drained.moved .close)
    | leave =>
      rw [List.map_cons, Use.received, answersCons, act, performLeave drained.receives]
      exact ih (drained.moved .leave)
    | poll =>
      have closed : r.channel.poll.1 = .closed :=
        (Channel.endAnswered drained.attended drained.closed drained.empty).2
      rw [List.map_cons, Use.received, answersCons, act, performPoll drained.receives, closed]
      exact ih (drained.moved .poll)

theorem Abreast.drained {s r : Endpoint α} (abreast : Abreast s r)
    (closed : s.channel.poll.1 = .closed) : Drained { r with channel := r.channel.act .poll } := by
  have heard : (r.channel.perform .poll).1 = .polled .closed := by
    rw [← closed, abreast.pollsSame]
    rfl
  obtain ⟨shut, empty⟩ := Channel.endTold r.channel .poll (by rw [heard]; rfl)
  exact Drained.moved ⟨abreast.receives, abreast.attended.2, shut, empty⟩ .poll

namespace Alike

variable {read streamed : List (Poll α)} {stream : Endpoint α}

theorem atEnd (silent : items read = []) (ended : stream.owner = .ended) :
    Alike (.closed :: read) [.closed] stream :=
  ⟨rfl, silent.symm, by simp [ended]⟩

theorem onward {answer : Poll α} (going : answer ≠ .closed) (alike : Alike read streamed stream) :
    Alike (answer :: read) (answer :: streamed) stream := by
  obtain ⟨answers, yields, ends⟩ := alike
  cases answer with
  | closed => exact absurd rfl going
  | ready a => exact ⟨congrArg (.ready a :: ·) answers, congrArg (a :: ·) yields, by simp [ends]⟩
  | pending => exact ⟨congrArg (.pending :: ·) answers, yields, by simp [ends]⟩

end Alike

theorem alike {s r : Endpoint α} (abreast : Abreast s r) (uses : List (Use α)) :
    Alike (polls (r.answers (uses.map Use.received))) (polls (s.answers (uses.filterMap Use.streamed)))
      (s.run (uses.filterMap Use.streamed)) := by
  induction uses generalizing s r with
  | nil => exact ⟨rfl, rfl, by simp [run, Run.after, answers, Run.told, polls, abreast.streams]⟩
  | cons use uses ih =>
    cases use with
    | push a => exact ih (abreast.moved (.push a))
    | close => exact ih (abreast.moved .close)
    | leave =>
      rw [List.map_cons, Use.received, answersCons, act, performLeave abreast.receives]
      exact ih abreast.gaveUp
    | poll =>
      have seen : s.perform .next = (.streamed s.next.1, s.next.2) := by
        simp only [perform, abreast.streams]
      have heard := performPoll abreast.receives
      rw [← abreast.pollsSame] at heard
      simp only [List.map_cons, List.filterMap_cons, Use.received, Use.streamed, answersCons, runCons,
        act, heard, seen, pollsPolled, pollsStreamed]
      rcases s.nextSteps with ⟨closed, done⟩ | ⟨going, done⟩
      · obtain ⟨silent, ended⟩ := endedIsSilent (s := s.next.2) (by rw [done]) uses
        rw [silent, done, closed]
        rw [done] at ended
        exact .atEnd ((abreast.drained closed).yieldsNothing uses) ended
      · rw [done]
        exact .onward going (ih (abreast.moved .poll))

theorem stepAttended {e d : Endpoint α} {x : Answer α} (attended : e.channel.Attended)
    (moves : Step e x d) : d.channel.Attended := by
  cases moves with
  | refused => exact attended
  | used b => exact Channel.attendedAct attended b
  | installed => exact attended
  | turned => exact attended
  | letGo held moved =>
    rcases moved with same | ⟨b, same⟩
    · rw [same]
      exact attended
    · rw [same]
      exact Channel.attendedAct attended b
  | discarded => exact attended

theorem attendedRun (capacity : Nat) (acts : List (Act α)) :
    ((make capacity).run acts).channel.Attended := by
  induction acts using List.reverseRecOn with
  | nil => exact Channel.attendedRun capacity []
  | append_singleton acts a ih =>
    rw [runSnoc]
    exact stepAttended ih (performSteps _ a)

end NodeFeed.Endpoint
