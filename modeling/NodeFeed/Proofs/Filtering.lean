import NodeFeed.Proofs.Departures
import NodeFeed.Proofs.Gaps

/-!
Two rules for labels. The publisher hands over a frame if an installed filter is the beginning of its first
part; reading it asks that this part is a label from end to end. No label is the beginning of another one,
so for every frame that decodes the two rules agree, and a frame that gets through on a longer label is
refused and reaches no queue.

A `Reception` is an open subscriber with the frames that were handed over to it and are still to be read.
Filters may change between the handing over and the reading; what counts is what was installed at the
handing over, and this is told with the frame.
-/

namespace NodeFeed

theorem Topic.labelPrefixFree {t u : Topic} (starts : t.label <+: u.label) : t = u := by
  revert starts
  cases t <;> cases u <;> decide

def Frame.elsewhere (t : Topic) (f : Frame) : Bool :=
  match f.decode with
  | .ok n => n.topic ≠ t
  | .error _ => false

theorem Frame.elsewhereIff {t : Topic} {f : Frame} :
    f.elsewhere t = true ↔ ∃ n, f.decode = .ok n ∧ n.topic ≠ t := by
  unfold elsewhere
  cases f.decode <;> simp

namespace Filters

def Installed (g : Filters) (t : Topic) : Prop := 0 < g.counts.get t

inductive Traffic where
  | install (t : Topic)
  | remove (t : Topic)
  | publish (f : Frame)
  deriving DecidableEq, Repr

def Traffic.concerns (t : Topic) : Traffic → Bool
  | .install u | .remove u => u = t
  | .publish _ => false

def Traffic.recount (u : Topic) (count : Nat) : Traffic → Nat
  | .install t => if u = t then count + 1 else count
  | .remove t => if u = t then count - 1 else count
  | .publish _ => count

def turn (g : Filters) : Traffic → Filters
  | .install t => (g.install t).toOption.getD g
  | .remove t => (g.remove t).toOption.getD g
  | .publish _ => g

def hands (g : Filters) : Traffic → List Frame
  | .publish f => if g.passes f then [f] else []
  | .install _ | .remove _ => []

def arrivals (g : Filters) (traffic : List Traffic) : List Frame := Run.told turn hands g traffic

structure Separates (g : Filters) (f : Frame) : Prop where
  handed : g.passes f = true ↔ ∃ label, f[0]? = some label ∧ ∃ t, g.Installed t ∧ t.label <+: label
  agrees : ∀ n, f.decode = .ok n → (g.passes f = true ↔ g.Installed n.topic)
  longer : ∀ (label : Bytes) (t : Topic), f[0]? = some label → t.label <+: label → t.label ≠ label →
    f.decode = .error (.unknownTopic (String.ofList (Text.ofUtf8Lossy label))) ∧
      ∀ e : Engine, (e.act (.frame f)).backend.registry = e.backend.registry ∧ e.pushes (.frame f) = []
  apart : ∀ t next, g.install t = .ok next ∨ g.remove t = .ok next →
    f.elsewhere t = true → next.passes f = g.passes f

variable {g h : Filters} {t : Topic} {f : Frame}

theorem passesIff : g.passes f = true ↔
    ∃ label, f[0]? = some label ∧ ∃ t, g.Installed t ∧ t.label <+: label := by
  cases f with
  | nil => simp [passes]
  | cons label rest => simp [passes, Installed, Topic.allListed]

theorem passesDecoded {n : Notification} (decoded : f.decode = .ok n) :
    g.passes f = true ↔ g.Installed n.topic := by
  have there := (Frame.decodedExactly.mp decoded).label
  rw [passesIff]
  constructor
  · rintro ⟨label, same, t, installed, starts⟩
    cases Option.some.inj (there.symm.trans same)
    exact Topic.labelPrefixFree starts ▸ installed
  · exact fun installed => ⟨_, there, n.topic, installed, List.prefix_refl _⟩

theorem unknownIfLonger {label : Bytes} (there : f[0]? = some label) (starts : t.label <+: label)
    (longer : t.label ≠ label) :
    f.decode = .error (.unknownTopic (String.ofList (Text.ofUtf8Lossy label))) := by
  have unknown : Topic.ofLabel? label = none := by
    cases known : Topic.ofLabel? label with
    | none => rfl
    | some u =>
      cases Topic.labelExact.mp known
      exact absurd (congrArg Topic.label (Topic.labelPrefixFree starts)) longer
  cases f with
  | nil => cases there
  | cons first rest =>
    cases Option.some.inj there
    rw [Frame.decode, unknown]

theorem refusedReachesNobody {why : DecodeError} (refused : f.decode = .error why) (e : Engine) :
    (e.act (.frame f)).backend.registry = e.backend.registry ∧ e.pushes (.frame f) = [] := by
  refine ⟨?_, by simp only [Engine.pushes, refused]⟩
  simp only [Engine.act]
  rcases e.onFrameCases f with ⟨-, -, done⟩ | ⟨n, decoded, -⟩
  · rw [done]
  · cases refused.symm.trans decoded

structure SameBut (t : Topic) (g h : Filters) : Prop where
  refusal : h.refusal = g.refusal
  counts : ∀ u, u ≠ t → h.counts.get u = g.counts.get u

theorem SameBut.refl (t : Topic) (g : Filters) : SameBut t g g := ⟨rfl, fun _ _ => rfl⟩

theorem SameBut.symm (same : SameBut t g h) : SameBut t h g :=
  ⟨same.refusal.symm, fun u other => (same.counts u other).symm⟩

theorem SameBut.trans {k : Filters} (first : SameBut t g h) (rest : SameBut t h k) : SameBut t g k :=
  ⟨rest.refusal.trans first.refusal, fun u other => (rest.counts u other).trans (first.counts u other)⟩

theorem SameBut.passes (same : SameBut t g h) (elsewhere : f.elsewhere t = true) :
    h.passes f = g.passes f := by
  obtain ⟨n, decoded, other⟩ := Frame.elsewhereIff.mp elsewhere
  rw [Bool.eq_iff_iff, passesDecoded decoded, passesDecoded decoded]
  unfold Installed
  rw [same.counts n.topic other]

theorem turned (g : Filters) (x : Traffic) : (g.turn x).refusal = g.refusal ∧
    ∀ u, (g.turn x).counts.get u =
      if g.refusal = none then x.recount u (g.counts.get u) else g.counts.get u := by
  cases refusal : g.refusal with
  | some why => cases x <;> simp [turn, install, remove, refusal, Except.toOption]
  | none =>
    cases x with
    | publish f => simp [turn, refusal, Traffic.recount]
    | install t =>
      simp only [turn, install, refusal, Except.toOption, Option.getD_some, Topic.Table.getSet,
        Traffic.recount]
      refine ⟨trivial, fun u => ?_⟩
      by_cases same : u = t <;> simp [same]
    | remove t =>
      simp only [turn, remove, refusal, Except.toOption, Option.getD_some, Topic.Table.getSet,
        Traffic.recount]
      refine ⟨trivial, fun u => ?_⟩
      by_cases same : u = t <;> simp [same]

theorem turnSameBut (g : Filters) {x : Traffic} (concerns : x.concerns t = true) :
    SameBut t g (g.turn x) := by
  obtain ⟨refusal, counts⟩ := g.turned x
  refine ⟨refusal, fun u other => ?_⟩
  have kept : x.recount u (g.counts.get u) = g.counts.get u := by
    cases x with
    | publish f => rfl
    | install v => exact if_neg fun same => other (same.trans (of_decide_eq_true concerns))
    | remove v => exact if_neg fun same => other (same.trans (of_decide_eq_true concerns))
  rw [counts, kept, ite_self]

theorem turnAlike (same : SameBut t g h) (x : Traffic) : SameBut t (g.turn x) (h.turn x) := by
  obtain ⟨refusal, counts⟩ := g.turned x
  obtain ⟨also, likewise⟩ := h.turned x
  refine ⟨also.trans (same.refusal.trans refusal.symm), fun u other => ?_⟩
  rw [counts, likewise, same.refusal, same.counts u other]

theorem changeSameBut {next : Filters} (change : g.install t = .ok next ∨ g.remove t = .ok next) :
    SameBut t g next := by
  rcases change with done | done
  · have turned := g.turnSameBut (x := .install t) (decide_eq_true rfl)
    simpa [turn, done, Except.toOption] using turned
  · have turned := g.turnSameBut (x := .remove t) (decide_eq_true rfl)
    simpa [turn, done, Except.toOption] using turned

theorem handsAlike (same : SameBut t g h) (x : Traffic) :
    (g.hands x).filter (Frame.elsewhere t) = (h.hands x).filter (Frame.elsewhere t) := by
  cases x with
  | install u => rfl
  | remove u => rfl
  | publish f =>
    simp only [hands]
    cases elsewhere : f.elsewhere t with
    | true => rw [same.passes elsewhere]
    | false => cases g.passes f <;> cases h.passes f <;> simp [elsewhere]

theorem arrivalsAlike (same : SameBut t g h) (traffic : List Traffic) :
    (g.arrivals traffic).filter (Frame.elsewhere t) =
      (h.arrivals (traffic.filter fun x => !x.concerns t)).filter (Frame.elsewhere t) := by
  induction traffic generalizing g h with
  | nil => rfl
  | cons x rest ih =>
    simp only [arrivals, Run.told, List.filter_append] at ih ⊢
    cases concerns : x.concerns t with
    | true =>
      have silent : g.hands x = [] := by cases x <;> first | rfl | cases concerns
      have turned := ih ((g.turnSameBut concerns).symm.trans same)
      simpa [concerns, silent] using turned
    | false =>
      simp [concerns, Run.told, handsAlike same x, ih (turnAlike same x)]

theorem separates (g : Filters) (f : Frame) : Separates g f where
  handed := passesIff
  agrees _ := passesDecoded
  longer _ _ there starts longer :=
    have unknown := unknownIfLonger there starts longer
    ⟨unknown, refusedReachesNobody unknown⟩
  apart _ _ changed := (changeSameBut changed).passes

end Filters

theorem Filters.silentArrivals (g : Filters) {traffic : List Filters.Traffic}
    (silent : ∀ x ∈ traffic, ∀ f, x ≠ .publish f) : g.arrivals traffic = [] := by
  induction traffic generalizing g with
  | nil => rfl
  | cons x rest ih =>
    obtain ⟨first, later⟩ := List.forall_mem_cons.mp silent
    have nothing : g.hands x = [] := by
      cases x with
      | publish f => exact absurd rfl (first f)
      | install t => rfl
      | remove t => rfl
    exact (congrArg (· ++ _) nothing).trans (ih (g.turn x) later)

def Obeyed.after (g : Filters) : Obeyed → Filters
  | .goOn next => next
  | .term | .failed _ => g

namespace Filters

def Traffic.ofCommand : Command → List Traffic
  | .subscribe t => [.install t]
  | .unsubscribe t => [.remove t]
  | .term => []

theorem clearTurns (g : Filters) (report : List (Topic × Nat)) :
    (g.clear report).1 = Run.after turn g (report.map fun told => .remove told.1) := by
  induction report generalizing g with
  | nil => rfl
  | cons told rest ih =>
    simp only [clear, List.map_cons, Run.after, List.foldl_cons, turn] at ih ⊢
    cases g.remove told.1 <;> exact ih _

theorem obeyTurns (g : Filters) (f : Frame) :
    (g.obey f).1.after g = Run.after turn g ((Command.decode? f).toList.flatMap Traffic.ofCommand) := by
  unfold obey
  cases Command.decode? f with
  | none => rfl
  | some c =>
    cases c with
    | term => rfl
    | subscribe t =>
      cases done : g.install t <;>
        simp [Obeyed.after, Traffic.ofCommand, Run.after, turn, done, Except.toOption]
    | unsubscribe t =>
      cases done : g.remove t <;>
        simp [Obeyed.after, Traffic.ofCommand, Run.after, turn, done, Except.toOption]

end Filters

namespace Engine

open Filters

def socketChanges (e : Engine) : Act → List Traffic
  | .control => e.backend.link.pending.head?.toList.flatMap fun f =>
      (Command.decode? f).toList.flatMap Traffic.ofCommand
  | .pass .emptying => e.backend.retire.1.map fun told => .remove told.1
  | _ => []

theorem filtersTurn (e : Engine) (a : Act) :
    (e.act a).filters = Run.after turn e.filters (e.socketChanges a) := by
  cases a with
  | control =>
    simp only [act, socketChanges]
    rcases e.onControlCases with ⟨none, done⟩ | ⟨f, rest, first, cases⟩
    · rw [done, none]
      rfl
    · rw [first]
      simp only [List.head?_cons, Option.toList_some, List.flatMap_singleton, ← obeyTurns]
      rcases cases with ⟨filters, obeyed, done⟩ | ⟨obeyed, done⟩ | ⟨why, obeyed, done⟩ <;>
        (rw [done, obeyed]; rfl)
  | frame f =>
    simp only [act]
    rcases e.onFrameCases f with ⟨why, -, done⟩ | ⟨n, -, done⟩ <;> (rw [done]; rfl)
  | pass stage =>
    cases stage with
    | emptying => exact e.filters.clearTurns e.backend.retire.1
    | _ => rfl
  | _ => rfl

theorem changesHandNothing (e : Engine) (a : Act) : e.filters.arrivals (e.socketChanges a) = [] := by
  refine silentArrivals _ fun x listed f => ?_
  rintro rfl
  cases a with
  | control =>
    obtain ⟨frame, -, within⟩ := List.mem_flatMap.mp listed
    obtain ⟨c, -, change⟩ := List.mem_flatMap.mp within
    cases c <;> simp [Traffic.ofCommand] at change
  | pass stage => cases stage <;> simp [socketChanges] at listed
  | _ => cases listed

end Engine

structure Reception where
  engine : Engine
  inbox : List Frame
  deriving DecidableEq, Repr

namespace Reception

inductive Step where
  | publish (f : Frame)
  | read
  | act (a : Act) (apart : a.frame? = none)

def step (r : Reception) : Step → Reception
  | .publish f => if r.engine.filters.passes f then { r with inbox := r.inbox ++ [f] } else r
  | .read =>
    match r.inbox with
    | [] => r
    | f :: rest => ⟨r.engine.act (.frame f), rest⟩
  | .act a _ => { r with engine := r.engine.act a }

structure Handed where
  filters : Filters
  frame : Frame

structure Reading where
  frame : Frame
  pushes : List Pushed

def hands (r : Reception) : Step → List Handed
  | .publish f => if r.engine.filters.passes f then [⟨r.engine.filters, f⟩] else []
  | .read | .act .. => []

def reads (r : Reception) : Step → List Reading
  | .read => r.inbox.head?.toList.map fun f => ⟨f, r.engine.pushes (.frame f)⟩
  | .publish _ | .act .. => []

def plays (r : Reception) : Step → List Act
  | .publish _ => []
  | .read => r.inbox.head?.toList.map .frame
  | .act a _ => [a]

def faces (r : Reception) : Step → List Filters.Traffic
  | .publish f => [.publish f]
  | .read => []
  | .act a _ => r.engine.socketChanges a

def start (capacity : Nat) (filters : Filters) : Reception := ⟨.opening capacity filters, []⟩

def run (r : Reception) (steps : List Step) : Reception := Run.after step r steps

def handed (r : Reception) (steps : List Step) : List Handed := Run.told step hands r steps

def readings (r : Reception) (steps : List Step) : List Reading := Run.told step reads r steps

def played (r : Reception) (steps : List Step) : List Act := Run.told step plays r steps

def traffic (r : Reception) (steps : List Step) : List Filters.Traffic := Run.told step faces r steps

variable {r : Reception} {steps : List Step} {capacity : Nat} {filters : Filters}

theorem runSnoc (r : Reception) (steps : List Step) (x : Step) :
    r.run (steps ++ [x]) = (r.run steps).step x :=
  Run.afterSnoc r steps x

theorem handedSnoc (r : Reception) (steps : List Step) (x : Step) :
    r.handed (steps ++ [x]) = r.handed steps ++ (r.run steps).hands x :=
  Run.toldSnoc r steps x

theorem readingsSnoc (r : Reception) (steps : List Step) (x : Step) :
    r.readings (steps ++ [x]) = r.readings steps ++ (r.run steps).reads x :=
  Run.toldSnoc r steps x

theorem playedSnoc (r : Reception) (steps : List Step) (x : Step) :
    r.played (steps ++ [x]) = r.played steps ++ (r.run steps).plays x :=
  Run.toldSnoc r steps x

theorem trafficSnoc (r : Reception) (steps : List Step) (x : Step) :
    r.traffic (steps ++ [x]) = r.traffic steps ++ (r.run steps).faces x :=
  Run.toldSnoc r steps x

theorem stepPlays (r : Reception) (x : Step) : (r.step x).engine = r.engine.run (r.plays x) := by
  cases x with
  | publish f =>
    simp only [step]
    split <;> rfl
  | read =>
    simp only [step, plays]
    cases r.inbox <;> rfl
  | act a apart => rfl

theorem runPlayed (r : Reception) (steps : List Step) :
    (r.run steps).engine = r.engine.run (r.played steps) := by
  induction steps using List.reverseRecOn with
  | nil => rfl
  | append_singleton steps x ih =>
    rw [runSnoc, stepPlays, playedSnoc, Engine.runAppend, ← ih]

theorem stepPushes (r : Reception) (x : Step) :
    r.engine.pushed (r.plays x) = (r.reads x).flatMap Reading.pushes := by
  cases x with
  | publish f => rfl
  | read =>
    simp only [plays, reads]
    cases r.inbox <;> simp [Engine.pushed, Engine.history, Run.told]
  | act a apart =>
    cases a <;> first | rfl | cases apart

theorem pushedReadings (r : Reception) (steps : List Step) :
    r.engine.pushed (r.played steps) = (r.readings steps).flatMap Reading.pushes := by
  induction steps using List.reverseRecOn with
  | nil => rfl
  | append_singleton steps x ih =>
    rw [playedSnoc, readingsSnoc, List.flatMap_append, ← ih, ← stepPushes, Engine.pushed,
      Engine.historyAppend, ← runPlayed]
    rfl

theorem handedInOrder (empty : r.inbox = []) (steps : List Step) :
    (r.handed steps).map Handed.frame =
      (r.readings steps).map Reading.frame ++ (r.run steps).inbox := by
  induction steps using List.reverseRecOn with
  | nil => exact empty.symm
  | append_singleton steps x ih =>
    rw [handedSnoc, readingsSnoc, runSnoc, List.map_append, List.map_append, ih]
    cases x with
    | publish f =>
      simp only [hands, reads, step]
      split <;> simp
    | read =>
      simp only [hands, reads, step]
      cases waiting : (r.run steps).inbox <;> simp [waiting]
    | act a apart => simp [hands, reads, step]

theorem stepFaces (r : Reception) (x : Step) :
    (r.step x).engine.filters = Run.after Filters.turn r.engine.filters (r.faces x) ∧
      (r.hands x).map Handed.frame = r.engine.filters.arrivals (r.faces x) := by
  cases x with
  | publish f =>
    simp only [step, hands, faces, Filters.arrivals, Run.told, Filters.hands]
    split <;> exact ⟨rfl, rfl⟩
  | read =>
    refine ⟨?_, rfl⟩
    simp only [step, faces]
    cases r.inbox with
    | nil => rfl
    | cons f rest => exact r.engine.filtersTurn (.frame f)
  | act a apart =>
    exact ⟨r.engine.filtersTurn a, (r.engine.changesHandNothing a).symm⟩

theorem runFaces (r : Reception) (steps : List Step) :
    (r.run steps).engine.filters = Run.after Filters.turn r.engine.filters (r.traffic steps) ∧
      (r.handed steps).map Handed.frame = r.engine.filters.arrivals (r.traffic steps) := by
  induction steps using List.reverseRecOn with
  | nil => exact ⟨rfl, rfl⟩
  | append_singleton steps x ih =>
    obtain ⟨filters, arrived⟩ := ih
    obtain ⟨now, lets⟩ := (r.run steps).stepFaces x
    rw [runSnoc, handedSnoc, trafficSnoc, List.map_append, Run.afterAppend, Filters.arrivals, Run.toldAppend,
      ← filters, arrived, lets]
    exact ⟨now, rfl⟩

theorem handedPasses (r : Reception) (steps : List Step) :
    ∀ x ∈ r.handed steps, x.filters.passes x.frame = true := by
  induction steps using List.reverseRecOn with
  | nil => exact List.forall_mem_nil _
  | append_singleton steps x ih =>
    rw [handedSnoc]
    refine List.forall_mem_append.mpr ⟨ih, ?_⟩
    cases x with
    | publish f =>
      simp only [hands]
      split
      case isTrue passes => exact List.forall_mem_singleton.mpr passes
      case isFalse => exact List.forall_mem_nil _
    | read => exact List.forall_mem_nil _
    | act a apart => exact List.forall_mem_nil _

structure Heard (made : List Subscription) (f : Frame) (p : Pushed) (n : Notification) : Prop where
  decoded : f.decode = .ok n
  event : p.event = n.event
  owner : ∃ s ∈ made, s.topic = n.topic ∧ s.place = p.place

theorem pushesHeard {e : Engine} {made : List Subscription} (h : e.Tracked made) (f : Frame) :
    ∀ p ∈ e.pushes (.frame f), ∃ n, Heard made f p n := by
  intro p listed
  simp only [Engine.pushes] at listed
  cases decoded : f.decode with
  | error why => simp [decoded] at listed
  | ok n =>
    simp only [decoded] at listed
    obtain ⟨⟨place, outcome⟩, told, rfl⟩ := List.mem_map.mp listed
    have answers : (e.backend.registry.deliver n).1 =
        (e.backend.registry.lists.get n.topic).filterMap fun entry =>
          e.backend.registry.queues[entry.place]?.map fun q => (entry.place, (q.push n.event).1) :=
      Registry.onEachAnswers (h.wired.once n.topic)
    obtain ⟨entry, held, answer⟩ := List.mem_filterMap.mp (answers ▸ told)
    obtain ⟨q, -, same⟩ := Option.map_eq_some_iff.mp answer
    obtain ⟨s, mine, topic, own⟩ := h.owner held
    cases same
    exact ⟨n, decoded, rfl, s, mine, topic, congrArg Entry.place own⟩

theorem Heard.later {made : List Subscription} {f : Frame} {p : Pushed} {n : Notification}
    (heard : Heard made f p n) (more : List Subscription) : Heard (made ++ more) f p n := by
  obtain ⟨decoded, event, s, mine, owner⟩ := heard
  exact ⟨decoded, event, s, List.mem_append_left more mine, owner⟩

theorem trackedRun (capacity : Nat) (filters : Filters) (steps : List Step) :
    ((start capacity filters).run steps).engine.Tracked
      ((Engine.opening capacity filters).made ((start capacity filters).played steps)) := by
  rw [runPlayed]
  exact Engine.tracksOpened capacity filters _

theorem readingsHeard (capacity : Nat) (filters : Filters) (steps : List Step) :
    ∀ x ∈ (start capacity filters).readings steps, ∀ p ∈ x.pushes,
      ∃ n, Heard ((Engine.opening capacity filters).made ((start capacity filters).played steps))
        x.frame p n := by
  induction steps using List.reverseRecOn with
  | nil => exact List.forall_mem_nil _
  | append_singleton steps x ih =>
    rw [readingsSnoc, playedSnoc, Engine.made, Engine.historyAppend]
    refine List.forall_mem_append.mpr ⟨fun reading old p pushed => ?_, fun reading new p pushed => ?_⟩
    · obtain ⟨n, heard⟩ := ih reading old p pushed
      exact ⟨n, heard.later _⟩
    · cases x with
      | publish f => cases new
      | act a apart => cases new
      | read =>
        obtain ⟨f, -, rfl⟩ := List.mem_map.mp new
        obtain ⟨n, heard⟩ := pushesHeard (trackedRun capacity filters steps) f p pushed
        exact ⟨n, heard.later _⟩

structure Filtered (r : Reception) (steps : List Step) : Prop where
  order : (r.handed steps).map Handed.frame =
    (r.readings steps).map Reading.frame ++ (r.run steps).inbox
  heard : ∀ (i : Nat) (x : Reading), (r.readings steps)[i]? = some x → ∀ p ∈ x.pushes,
    ∃ (g : Filters) (n : Notification), (r.handed steps)[i]? = some ⟨g, x.frame⟩ ∧ g.Installed n.topic ∧
      Heard (r.engine.made (r.played steps)) x.frame p n
  queued : ∀ s ∈ r.engine.made (r.played steps),
    ∀ event ∈ r.engine.received s.place (r.played steps) ++ (r.run steps).engine.held s.place,
      ∃ x ∈ r.handed steps, ∃ n, x.frame.decode = .ok n ∧ n.event = event ∧ n.topic = s.topic ∧
        x.filters.Installed s.topic
  apart : ∀ t, ((r.handed steps).map Handed.frame).filter (Frame.elsewhere t) =
    (r.engine.filters.arrivals ((r.traffic steps).filter fun x => !x.concerns t)).filter (Frame.elsewhere t)

theorem readingHanded (empty : r.inbox = []) {i : Nat} {x : Reading}
    (there : (r.readings steps)[i]? = some x) : ∃ g, (r.handed steps)[i]? = some ⟨g, x.frame⟩ := by
  have inside : i < ((r.readings steps).map Reading.frame).length := by
    rw [List.length_map]
    exact (List.getElem?_eq_some_iff.mp there).1
  have frame := congrArg (·[i]?) (handedInOrder empty steps)
  simp only [List.getElem?_append_left inside, List.getElem?_map, there, Option.map_some] at frame
  obtain ⟨⟨g, f⟩, given, rfl⟩ := Option.map_eq_some_iff.mp frame
  exact ⟨g, given⟩

theorem readingFiltered {i : Nat} {x : Reading}
    (there : ((start capacity filters).readings steps)[i]? = some x) {p : Pushed} (pushed : p ∈ x.pushes) :
    ∃ g n, ((start capacity filters).handed steps)[i]? = some ⟨g, x.frame⟩ ∧ g.Installed n.topic ∧
      Heard ((Engine.opening capacity filters).made ((start capacity filters).played steps)) x.frame p n := by
  obtain ⟨n, heard⟩ := readingsHeard capacity filters steps x (List.mem_of_getElem? there) p pushed
  obtain ⟨g, given⟩ := readingHanded rfl there
  have passes : g.passes x.frame = true := handedPasses _ steps _ (List.mem_of_getElem? given)
  exact ⟨g, n, given, (Filters.passesDecoded heard.decoded).mp passes, heard⟩

theorem queuedAccepted {place : Nat} {event : Event} {acts : List Act}
    (got : event ∈ (Engine.opening capacity filters).received place acts ++
      ((Engine.opening capacity filters).run acts).held place) :
    ∃ p ∈ (Engine.opening capacity filters).pushed acts, p.place = place ∧ p.event = event := by
  have flow : acceptedAt place ((Engine.opening capacity filters).pushed acts) = _ :=
    (Engine.flowOpened capacity filters place acts).conserved
  have taken := Engine.takenRun (Engine.opening capacity filters) place acts
  have accepted : event ∈ acceptedAt place ((Engine.opening capacity filters).pushed acts) := by
    rw [flow]
    refine List.mem_append.mpr ((List.mem_append.mp got).imp_left fun received => ?_)
    exact (Departure.takenInOrder _).subset (taken.symm ▸ received)
  obtain ⟨p, listed, same⟩ := List.mem_filterMap.mp accepted
  unfold Pushed.acceptedAt? at same
  split at same
  case isTrue here => exact ⟨p, listed, here.1, Option.some.inj same⟩
  case isFalse => cases same

theorem filteredRun (capacity : Nat) (filters : Filters) (steps : List Step) :
    Filtered (start capacity filters) steps where
  order := handedInOrder rfl steps
  heard _ _ there _ pushed := readingFiltered there pushed
  queued s mine event got := by
    rw [runPlayed] at got
    obtain ⟨p, pushed, place, rfl⟩ := queuedAccepted got
    have pushedHere : p ∈ (start capacity filters).engine.pushed ((start capacity filters).played steps) :=
      pushed
    rw [pushedReadings] at pushedHere
    obtain ⟨x, listed, put⟩ := List.mem_flatMap.mp pushedHere
    obtain ⟨i, inside, there⟩ := List.getElem_of_mem listed
    obtain ⟨g, n, given, installed, heard⟩ :=
      readingFiltered (List.getElem?_eq_some_iff.mpr ⟨inside, there⟩) put
    obtain ⟨u, yours, topic, own⟩ := heard.owner
    cases (trackedRun capacity filters steps).samePlace mine yours (place.symm.trans own.symm)
    exact ⟨_, List.mem_of_getElem? given, n, heard.decoded, heard.event.symm, topic.symm, topic ▸ installed⟩
  apart t := by
    rw [(runFaces _ steps).2]
    exact Filters.arrivalsAlike (.refl t _) _

/-- What the filters let through and what the labels name are the same for every frame that decodes,
whatever the filters are; so no queue gets an event that no filter asked for, and the filter of one topic
makes no difference to the frames of another. -/
theorem filteredByTopic :
    (∀ (g : Filters) (f : Frame), g.Separates f) ∧
    ∀ (capacity : Nat) (filters : Filters) (steps : List Step), Filtered (start capacity filters) steps :=
  ⟨Filters.separates, filteredRun⟩

end Reception
end NodeFeed
