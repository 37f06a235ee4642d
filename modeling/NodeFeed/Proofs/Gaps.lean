import Mathlib.Algebra.GroupWithZero.Nat
import NodeFeed.Proofs.Departures
import NodeFeed.Proofs.WireFormat

/-!
What a consumer learns from the counters. The publisher numbers the frames of a topic one after the other,
and begins again at zero after the largest number. If all of them decode, a consumer that compares two
events it received in succession finds how many its queue has displaced between them, up to a multiple of
the numbers there are.
-/

namespace NodeFeed

/-- Beside each event taken, and at the end, how many were displaced since the one taken before. -/
def gaps : List Departure → List Nat
  | [] => [0]
  | .taken _ :: rest => 0 :: gaps rest
  | .displaced _ :: rest => (gaps rest).modifyHead (· + 1)

def Counted : UInt32 → List Event → Prop
  | _, [] => True
  | c, event :: rest => event.counter? = some c ∧ Counted (c + 1) rest

def Frame.counter? (f : Frame) : Option UInt32 :=
  match f.decode with
  | .ok n => n.event.counter?
  | .error _ => none

def Numbered (t : Topic) : UInt32 → List Frame → Prop
  | _, [] => True
  | c, f :: rest =>
    if f.head? = some t.label then f.counter? = some c ∧ Numbered t (c + 1) rest
    else Numbered t c rest

instance numberedDecidable (t : Topic) :
    (c : UInt32) → (frames : List Frame) → Decidable (Numbered t c frames)
  | _, [] => .isTrue trivial
  | c, f :: rest =>
    have := numberedDecidable t (c + 1) rest
    have := numberedDecidable t c rest
    inferInstanceAs (Decidable (if f.head? = some t.label then
      f.counter? = some c ∧ Numbered t (c + 1) rest else Numbered t c rest))

def Act.frame? : Act → Option Frame
  | .frame f => some f
  | _ => none

def framesRead (acts : List Act) : List Frame := acts.filterMap Act.frame?

theorem frameHeard {t : Topic} {f : Frame} {n : Notification} (decoded : f.decode = .ok n) :
    f.head? = some t.label ↔ n.topic = t := by
  obtain ⟨u, label⟩ := Frame.decodedLabelled decoded
  have topic : n.topic = u := (Frame.readAsExactly.mp (Frame.decodeLabelled label ▸ decoded)).1
  rw [List.head?_eq_getElem?, label, topic, Option.some.injEq]
  exact ⟨Topic.labelDistinct, congrArg Topic.label⟩

theorem counterDecoded {f : Frame} {c : UInt32} (counter : f.counter? = some c) :
    ∃ n, f.decode = .ok n ∧ n.event.counter? = some c := by
  unfold Frame.counter? at counter
  cases decoded : f.decode with
  | error why => simp [decoded] at counter
  | ok n => exact ⟨n, rfl, by simpa [decoded] using counter⟩

theorem numberedHeard {t : Topic} {c : UInt32} {acts : List Act}
    (numbered : Numbered t c (framesRead acts)) : Counted c (heard t acts) := by
  induction acts generalizing c with
  | nil => trivial
  | cons a rest ih =>
    cases a with
    | frame f =>
      simp only [framesRead, List.filterMap_cons, Act.frame?, Numbered] at numbered
      simp only [heard, List.filterMap_cons, Act.heard?]
      split at numbered
      case isTrue labelled =>
        obtain ⟨n, decoded, counter⟩ := counterDecoded numbered.1
        simp only [decoded, (frameHeard decoded).mp labelled]
        exact ⟨counter, ih numbered.2⟩
      case isFalse other =>
        cases decoded : f.decode with
        | error why => exact ih numbered
        | ok n =>
          simp only [mt (frameHeard decoded).mpr other]
          exact ih numbered
    | _ => exact ih numbered

theorem countedFront {c : UInt32} {first rest : List Event} (counted : Counted c (first ++ rest)) :
    Counted c first := by
  induction first generalizing c with
  | nil => trivial
  | cons event first ih => exact ⟨counted.1, ih counted.2⟩

theorem gapsLength (left : List Departure) :
    (gaps left).length = (left.filterMap Departure.taken?).length + 1 := by
  induction left with
  | nil => rfl
  | cons d rest ih => cases d <;> simp [gaps, List.filterMap_cons, Departure.taken?, ih]

theorem gapsCons (left : List Departure) : ∃ n more, gaps left = n :: more :=
  List.exists_cons_of_length_pos (gapsLength left ▸ Nat.succ_pos _)

theorem gapsSum (left : List Departure) : (gaps left).sum = left.countP Departure.isDisplaced := by
  induction left with
  | nil => rfl
  | cons d rest ih =>
    obtain ⟨n, more, shape⟩ := gapsCons rest
    rw [shape] at ih
    cases d with
    | taken event => simp [gaps, shape, Departure.isDisplaced, ← ih]
    | displaced event =>
      simp only [gaps, shape, List.modifyHead_cons, List.sum_cons, List.countP_cons,
        Departure.isDisplaced, if_true, ← ih]
      omega

theorem counterOfFirst {c : UInt32} {left : List Departure} {x : Event} {n : Nat}
    (counted : Counted c (left.map Departure.event))
    (first : (left.filterMap Departure.taken?)[0]? = some x) (gap : (gaps left)[0]? = some n) :
    x.counter? = some (c + UInt32.ofNat n) := by
  induction left generalizing c n with
  | nil => cases first
  | cons d rest ih =>
    obtain ⟨counter, later⟩ := counted
    cases d with
    | taken event =>
      cases first
      cases gap
      simpa using (show x.counter? = some c from counter)
    | displaced event =>
      obtain ⟨k, more, shape⟩ := gapsCons rest
      have after := ih later first (by rw [shape]; rfl)
      simp only [gaps, shape, List.modifyHead_cons, List.getElem?_cons_zero, Option.some.injEq] at gap
      rw [after, ← gap, UInt32.ofNat_add]
      congr 1
      grind

theorem counterOfNext {c : UInt32} {left : List Departure} {i : Nat} {x y : Event}
    (counted : Counted c (left.map Departure.event))
    (now : (left.filterMap Departure.taken?)[i]? = some x)
    (next : (left.filterMap Departure.taken?)[i + 1]? = some y) :
    ∃ d n, x.counter? = some d ∧ (gaps left)[i + 1]? = some n ∧
      y.counter? = some (d + 1 + UInt32.ofNat n) := by
  induction left generalizing c i with
  | nil => cases now
  | cons d rest ih =>
    obtain ⟨counter, later⟩ := counted
    cases d with
    | displaced event =>
      obtain ⟨k, more, shape⟩ := gapsCons rest
      obtain ⟨d, n, mine, gap, yours⟩ := ih later now next
      exact ⟨d, n, mine, by simpa [gaps, shape] using gap, yours⟩
    | taken event =>
      cases i with
      | succ i => exact ih later now next
      | zero =>
        obtain ⟨k, more, shape⟩ := gapsCons rest
        cases now
        exact ⟨c, k, counter, by simp [gaps, shape], counterOfFirst later next (by simp [shape])⟩

theorem gapModulo (c : UInt32) (n : Nat) :
    (c + 1 + UInt32.ofNat n - c - 1).toNat = n % UInt32.size ∧
      (n < UInt32.size → (c + 1 + UInt32.ofNat n = c + 1 ↔ n = 0)) := by
  have between : c + 1 + UInt32.ofNat n - c - 1 = UInt32.ofNat n := by grind
  have size : (UInt32.ofNat n).toNat = n % UInt32.size := UInt32.toNat_ofNat'
  refine ⟨by rw [between, size], fun few => ?_⟩
  have same : c + 1 + UInt32.ofNat n = c + 1 ↔ UInt32.ofNat n = 0 := by grind
  rw [same, ← UInt32.toNat_inj, size, Nat.mod_eq_of_lt few]
  rfl

namespace Engine

variable {s : Subscription}

structure GapsTell (start : Engine) (acts after : List Act) (s : Subscription) : Prop where
  order : heard s.topic (after.takeWhile fun a => !a.removes s) =
    (start.departed s.place acts).map Departure.event ++ (start.run acts).held s.place
  received : (start.departed s.place acts).filterMap Departure.taken? = start.received s.place acts
  located : (gaps (start.departed s.place acts)).length = (start.received s.place acts).length + 1
  told : ∀ i x y, (start.received s.place acts)[i]? = some x →
    (start.received s.place acts)[i + 1]? = some y →
    ∃ c d n, x.counter? = some c ∧ y.counter? = some d ∧
      (gaps (start.departed s.place acts))[i + 1]? = some n ∧
      (d - c - 1).toNat = n % UInt32.size ∧ (n < UInt32.size → (d = c + 1 ↔ n = 0))
  total : (gaps (start.departed s.place acts)).sum = displacedAt s.place (start.pushed acts)

/-- If the frames of a subscription's topic decode and are numbered one after the other, the counters of
any two events received in succession tell how many were displaced between them. -/
theorem gapsTellLoss (capacity : Nat) (filters : Filters) (acts before after : List Act)
    (s : Subscription) (first : UInt32) (made : MadeAt (opening capacity filters) acts before after s)
    (numbered : Numbered s.topic first (framesRead (after.takeWhile fun a => !a.removes s))) :
    GapsTell (opening capacity filters) acts after s := by
  have flow := flowOpened capacity filters s.place acts
  have received := takenRun (opening capacity filters) s.place acts
  have order : heard s.topic (after.takeWhile fun a => !a.removes s) =
      ((opening capacity filters).departed s.place acts).map Departure.event ++
        ((opening capacity filters).run acts).held s.place := by
    have accepted := (acceptedSpan capacity filters before after made.answer).2
    rw [← made.split] at accepted
    exact accepted.symm.trans flow.conserved
  have counted : Counted first (((opening capacity filters).departed s.place acts).map
      Departure.event) :=
    countedFront (order ▸ numberedHeard numbered)
  exact {
    order := order
    received := received
    located := received ▸ gapsLength _
    told := fun i x y now next => by
      rw [← received] at now next
      obtain ⟨c, n, mine, gap, yours⟩ := counterOfNext counted now next
      exact ⟨c, _, n, mine, yours, gap, gapModulo c n⟩
    total := (gapsSum _).trans flow.displaced }

theorem gapOverTheLargestCounter :
    let numbered (c : UInt32) : Frame := [Topic.rawTx.label, [], Bytes.littleEndian 4 c.toNat]
    let after := [.frame (numbered 0xfffffffe), .receive 0, .frame (numbered 0xffffffff), .frame [[1]],
      .frame (numbered 0), .frame (numbered 1), .receive 0, .cancel .rawTx 0, .frame (numbered 7)]
    let acts := .subscribe .rawTx :: after
    let s : Subscription := ⟨.rawTx, 0, 0⟩
    MadeAt (opening 1 .fresh) acts [] after s ∧
      Numbered .rawTx 0xfffffffe (framesRead (after.takeWhile fun a => !a.removes s)) ∧
      GapsTell (opening 1 .fresh) acts after s ∧
      (opening 1 .fresh).received 0 acts = [.raw ⟨[], 0xfffffffe⟩, .raw ⟨[], 1⟩] ∧
      gaps ((opening 1 .fresh).departed 0 acts) = [0, 2, 0] := by
  intro numbered after acts s
  have made : MadeAt (opening 1 .fresh) acts [] after s := ⟨rfl, by decide⟩
  have counters : Numbered .rawTx 0xfffffffe (framesRead (after.takeWhile fun a => !a.removes s)) := by
    decide
  exact ⟨made, counters, gapsTellLoss 1 .fresh acts [] after s 0xfffffffe made counters, by decide,
    by decide⟩

end Engine
end NodeFeed
