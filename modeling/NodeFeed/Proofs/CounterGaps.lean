import NodeFeed.Tail
import NodeFeed.Proofs.Run

/-!
What the printer of a hash topic says of the counters. It keeps the counter of the event before and warns
where the next one does not go on from it, at the largest counter with zero. It begins with zero kept, so
that the first event is not a gap; but zero is also the first counter that there is, and the one after the
largest. After an event with counter zero the printer is as it was at the beginning and says nothing, whatever
comes next.
-/

namespace NodeFeed.Tail

def Succeeds (next prev : UInt32) : Prop := next.toNat = (prev.toNat + 1) % UInt32.size

instance (next prev : UInt32) : Decidable (Succeeds next prev) :=
  inferInstanceAs (Decidable (next.toNat = (prev.toNat + 1) % UInt32.size))

def gapLine (name : String) (prev next : UInt32) : LogLine :=
  line .warn "gap in publisher counter" [("topic", .text name), ("prev", number prev.toNat),
    ("next", number next.toNat)]

def hashLine (name : String) (e : HashEvent) : LogLine :=
  line .info "" [("topic", .text name), ("hash", .form e.hash.text), ("seq", number e.counter.toNat)]

def linesAfter (name : String) (last : UInt32) (e : HashEvent) : List LogLine :=
  (if last = 0 ∨ Succeeds e.counter last then [] else [gapLine name last e.counter]) ++ [hashLine name e]

def warnings (lines : List LogLine) : List LogLine := lines.filter fun l => l.level = .warn

def reports (name : String) (last : UInt32) (events : List HashEvent) : List (List LogLine) :=
  Run.told (fun p e => (Printer.onEvent p (.hash e)).1) (fun p e => [(Printer.onEvent p (.hash e)).2])
    (.hash name last) events

structure TellsEveryGap (name : String) (events : List HashEvent) : Prop where
  first : ∀ lines, (reports name 0 events)[0]? = some lines → warnings lines = []
  later : ∀ i prev next, events[i]? = some prev → events[i + 1]? = some next →
    ∃ lines, (reports name 0 events)[i + 1]? = some lines ∧ warnings lines =
      if Succeeds next.counter prev.counter then [] else [gapLine name prev.counter next.counter]

structure Prints (name : String) (events : List HashEvent) : Prop where
  whole : ((Printer.hash name 0).onEvents (events.map .hash)).2 = (reports name 0 events).flatten
  length : (reports name 0 events).length = events.length
  first : ∀ e, events[0]? = some e → (reports name 0 events)[0]? = some [hashLine name e]
  later : ∀ i prev next, events[i]? = some prev → events[i + 1]? = some next →
    (reports name 0 events)[i + 1]? = some (linesAfter name prev.counter next)
  every : TellsEveryGap name events ↔ ∀ i prev next, events[i]? = some prev → events[i + 1]? = some next →
    prev.counter = 0 → next.counter = 1

variable {name : String} {last : UInt32} {events : List HashEvent}

theorem succeedsIff {next prev : UInt32} : Succeeds next prev ↔ next = prev + 1 := by
  rw [← UInt32.toNat_inj, UInt32.toNat_add]
  exact Iff.rfl

theorem onHashEvent (name : String) (last : UInt32) (e : HashEvent) :
    (Printer.hash name last).onEvent (.hash e) = (.hash name e.counter, linesAfter name last e) := by
  simp only [Printer.onEvent, Printer.onHash, linesAfter, succeedsIff]
  by_cases zero : last = 0
  · simp [zero, hashLine]
  · by_cases next : e.counter = last + 1 <;> simp [zero, next, gapLine, hashLine]

theorem reportsCons (name : String) (last : UInt32) (e : HashEvent) (rest : List HashEvent) :
    reports name last (e :: rest) = linesAfter name last e :: reports name e.counter rest := by
  simp only [reports, Run.told, onHashEvent, List.singleton_append]

theorem onEventsReports (name : String) (last : UInt32) (events : List HashEvent) :
    ((Printer.hash name last).onEvents (events.map .hash)).2 = (reports name last events).flatten := by
  induction events generalizing last with
  | nil => rfl
  | cons e rest ih =>
    simp only [List.map_cons, Printer.onEvents, onHashEvent, reportsCons, List.flatten_cons, ih]

theorem reportsLength (name : String) (last : UInt32) (events : List HashEvent) :
    (reports name last events).length = events.length := by
  induction events generalizing last with
  | nil => rfl
  | cons e rest ih => rw [reportsCons, List.length_cons, ih, List.length_cons]

theorem reportFirst {e : HashEvent} (first : events[0]? = some e) :
    (reports name last events)[0]? = some (linesAfter name last e) := by
  cases events with
  | nil => cases first
  | cons x rest =>
    cases Option.some.inj first
    rw [reportsCons]
    rfl

theorem reportNext {i : Nat} {prev next : HashEvent} (now : events[i]? = some prev)
    (after : events[i + 1]? = some next) :
    (reports name last events)[i + 1]? = some (linesAfter name prev.counter next) := by
  induction events generalizing last i with
  | nil => cases now
  | cons e rest ih =>
    rw [reportsCons, List.getElem?_cons_succ]
    cases i with
    | zero =>
      cases Option.some.inj now
      exact reportFirst after
    | succ i => exact ih now after

theorem warningsAfter (name : String) (last : UInt32) (e : HashEvent) :
    warnings (linesAfter name last e) =
      if last = 0 ∨ Succeeds e.counter last then [] else [gapLine name last e.counter] := by
  unfold linesAfter
  split <;> rfl

theorem afterZero {next : HashEvent} : warnings (linesAfter name 0 next) = [] := by
  rw [warningsAfter, if_pos (.inl rfl)]

theorem succeedsZero {next : UInt32} : Succeeds next 0 ↔ next = 1 := succeedsIff

theorem everyGapIff : TellsEveryGap name events ↔ ∀ i prev next, events[i]? = some prev →
    events[i + 1]? = some next → prev.counter = 0 → next.counter = 1 := by
  constructor
  · intro tells i prev next now after zero
    obtain ⟨lines, told, law⟩ := tells.later i prev next now after
    cases Option.some.inj (told.symm.trans (reportNext now after))
    rw [zero, afterZero] at law
    by_contra gap
    rw [if_neg (mt succeedsZero.mp gap)] at law
    cases law
  · intro healthy
    refine ⟨fun lines told => ?_, fun i prev next now after => ⟨_, reportNext now after, ?_⟩⟩
    · cases first : events[0]? with
      | none =>
        rw [List.getElem?_eq_none_iff, ← reportsLength name 0, ← List.getElem?_eq_none_iff, told] at first
        cases first
      | some e =>
        cases Option.some.inj (told.symm.trans (reportFirst first))
        exact afterZero
    · rw [warningsAfter]
      by_cases zero : prev.counter = 0
      · have one := healthy i prev next now after zero
        rw [zero, if_pos (.inl rfl), if_pos (succeedsZero.mpr one)]
      · simp only [zero, false_or]

/-- Every gap is told and nothing else, but behind a counter of zero, where nothing is told. -/
theorem gapsToldButAfterZero (name : String) (events : List HashEvent) : Prints name events where
  whole := onEventsReports name 0 events
  length := reportsLength name 0 events
  first e there := by
    rw [reportFirst there, linesAfter, if_pos (.inl rfl)]
    rfl
  later _ _ _ := reportNext
  every := everyGapIff

theorem gapAfterZeroUntold : ¬ TellsEveryGap "hashtx" [⟨.zero, 0⟩, ⟨.zero, 7⟩] := by
  intro tells
  have one : (7 : UInt32) = 1 := everyGapIff.mp tells 0 ⟨.zero, 0⟩ ⟨.zero, 7⟩ rfl rfl rfl
  exact absurd one (by decide)

end NodeFeed.Tail
