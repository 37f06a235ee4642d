import NodeFeed.Proofs.ConsumingEnd
import NodeFeed.Script.Queue

/-!
Scripts on one queue against the acts of its consuming end: each step is a run of acts, those that only
ask a run of none. So what holds after every run of acts holds after every script, the hooks included.
-/

namespace NodeFeed.Endpoint

variable {α : Type}

def Leads (e d : Endpoint α) : Prop := ∃ acts, e.run acts = d

namespace Leads

variable {e d f : Endpoint α}

theorem still (e : Endpoint α) : Leads e e := ⟨[], rfl⟩

theorem one (a : Act α) : Leads e (e.act a) := ⟨[a], rfl⟩

theorem trans (first : Leads e d) (rest : Leads d f) : Leads e f := by
  obtain ⟨acts, rfl⟩ := first
  obtain ⟨more, rfl⟩ := rest
  exact ⟨acts ++ more, Run.afterAppend e acts more⟩

theorem poll (receives : e.owner = .receiver) : Leads e { e with channel := e.channel.poll.2 } :=
  ⟨[.poll], congrArg Prod.snd (performPoll receives)⟩

theorem leave (receives : e.owner = .receiver) : Leads e { e with channel := e.channel.leave } :=
  ⟨[.leave], congrArg Prod.snd (performLeave receives)⟩

theorem tryRecv (receives : e.owner = .receiver) :
    Leads e { e with channel := e.channel.tryRecv.2 } :=
  ⟨[.tryRecv], by simp only [run, Run.after, List.foldl, act, perform, receives]⟩

theorem drain (receives : e.owner = .receiver) :
    Leads e { e with channel := e.channel.drain.2 } := by
  obtain ⟨⟨⟨capacity, buffer, closed⟩, bell⟩, owner, hook, calls⟩ := e
  induction buffer with
  | nil => exact still _
  | cons a rest ih => exact (tryRecv receives).trans (ih receives)

end Leads

theorem Stand.runs {installed : Nat} {released : Bool} {e : Endpoint α} (s : Stand installed released e) :
    e.calls = runsOf e.calls.length (e.owner == .ended || e.owner == .nobody) := by
  obtain ⟨gone, _, calls⟩ := s
  have all : e.calls.length = installed := by rw [calls, runsOfLength]
  have finished : (e.owner == .ended || e.owner == .nobody) = released :=
    Bool.eq_iff_iff.mpr (by simpa using gone.symm)
  rw [all, finished]
  exact calls

end NodeFeed.Endpoint

namespace NodeFeed.Script

open Endpoint (Leads)

theorem Feeding.leads (e : Endpoint Int) (step : Feeding) :
    Leads e { e with channel := (step.run e.channel).2 } := by
  cases step with
  | push a => exact .one (.push a)
  | close => exact .one .close
  | pushMany as =>
    induction as generalizing e with
    | nil => exact .still e
    | cons a rest ih => exact (Leads.one (.push a)).trans (ih _)

namespace QueueStep

variable {e : Endpoint Int}

theorem receiveLeads (receives : e.owner = .receiver) (step : Receiving) :
    Leads e { e with channel := (receiveFrom e.channel step).2 } := by
  have recv : Leads e { e with channel := e.channel.recv.2 } := by
    exact (Leads.poll receives).trans (.leave receives)
  cases step with
  | tryRecv => exact .tryRecv receives
  | recv => exact recv
  | blockingRecv =>
    simp only [receiveFrom]
    split
    · exact .still e
    · exact recv
  | drain => exact .drain receives
  | info => exact .still e
  | form => exact .still e

theorem acrossLeads (receives : e.owner = .receiver) (steps : List Feeding) :
    Leads e { e with channel := (recvAcrossSteps e.channel steps).2 } := by
  have glances (steps : List Feeding) {e : Endpoint Int} (receives : e.owner = .receiver) :
      Leads e { e with channel := (glancesAfter e.channel steps).2 } := by
    induction steps generalizing e with
    | nil => exact .still e
    | cons step rest ih =>
      have fed := (Feeding.leads e step).trans (.poll receives)
      simp only [glancesAfter]
      split
      · exact fed.trans (ih receives)
      · exact fed
  have polled := Leads.poll receives
  simp only [recvAcrossSteps]
  split
  · exact (polled.trans (glances steps receives)).trans (.leave receives)
  · exact polled.trans (.leave receives)

theorem leads (e : Endpoint Int) (step : QueueStep) : Leads e (step.run e).2 := by
  have act (a : Endpoint.Act Int) {d : Endpoint Int} (done : e.act a = d) : Leads e d := ⟨[a], done⟩
  have received {f : Endpoint Int → QueueAnswer × Endpoint Int}
      (does : e.owner = .receiver → Leads e (f e).2) : Leads e (onReceiver e f).2 := by
    cases owner : e.owner <;> simp only [onReceiver, owner]
    case receiver => exact does owner
    all_goals exact .still e
  cases step with
  | feed step => exact Feeding.leads e step
  | releases => exact .still e
  | receive step => exact received fun receives => receiveLeads receives step
  | recvAcross steps => exact received fun receives => acrossLeads receives steps
  | onRelease =>
    exact received fun receives => act .onRelease (by simp only [Endpoint.act, Endpoint.perform, receives])
  | intoStream =>
    exact received fun receives => act .intoStream (by simp only [Endpoint.act, Endpoint.perform, receives])
  | dropReceiver =>
    refine act .dropReceiver ?_
    cases owner : e.owner <;> simp [run, Endpoint.act, Endpoint.perform, Endpoint.dropReceiver, owner]
  | next =>
    refine act .next ?_
    cases owner : e.owner <;> simp [run, Endpoint.act, Endpoint.perform, owner]
  | dropStream =>
    refine act .dropStream ?_
    cases owner : e.owner <;> simp [run, Endpoint.act, Endpoint.perform, Endpoint.dropStream, owner]

theorem scriptLeads (e : Endpoint Int) (steps : List QueueStep) :
    Leads e (steps.foldl (fun e step => (step.run e).2) e) := by
  induction steps generalizing e with
  | nil => exact .still e
  | cons step rest ih => exact (leads e step).trans (ih _)

theorem scriptHooks (capacity : Nat) (steps : List QueueStep) :
    let e := steps.foldl (fun e step => (step.run e).2) (Endpoint.make capacity)
    e.calls = Endpoint.runsOf e.calls.length (e.owner == .ended || e.owner == .nobody) := by
  intro e
  obtain ⟨acts, done⟩ := scriptLeads (Endpoint.make capacity) steps
  have stand := Endpoint.Stand.run capacity acts
  rw [done] at stand
  exact stand.runs

end QueueStep
end NodeFeed.Script
