import NodeFeed.Backend
import NodeFeed.Filters

/-!
The handler reads the publisher's frames and the callers' commands, one at a time, until a command or
an error ends its loop. Then it goes through the stages of shutdown; each `proceed` is one of them.
A panic skips the orderly part and goes to the guard, which every end of the thread passes.
-/

namespace NodeFeed

inductive Stage where
  | polling
  | leaving
  | emptying
  | guarding
  | marking
  | signalling
  | gone
  deriving DecidableEq, Repr

def Stage.left : Stage → Nat
  | .polling | .gone => 0
  | .leaving => 5
  | .emptying => 4
  | .guarding => 3
  | .marking => 2
  | .signalling => 1

structure Engine where
  backend : Backend
  filters : Filters
  stage : Stage
  deriving DecidableEq, Repr

inductive Obeyed where
  | goOn (filters : Filters)
  | term
  | failed (e : HandlerError)
  deriving DecidableEq, Repr

namespace Filters

def obey (f : Filters) (frame : Frame) : Obeyed × List Report :=
  match Command.decode? frame with
  | some (.subscribe t) =>
    match f.install t with
    | .ok g => (.goOn g, [.filterInstalled t])
    | .error e => (.failed (.filter .subscribe t e), [])
  | some (.unsubscribe t) =>
    match f.remove t with
    | .ok g => (.goOn g, [.filterRemoved t])
    | .error e => (.failed (.filter .unsubscribe t e), [])
  | some .term => (.term, [])
  | none => (.goOn f, [.controlIgnored frame.length])

def clear (f : Filters) : List (Topic × Nat) → Filters × List Report
  | [] => (f, [])
  | (t, queues) :: rest =>
    match f.remove t with
    | .ok g =>
      let (h, log) := clear g rest
      (h, .queuesClosed t queues :: log)
    | .error e =>
      let (h, log) := clear f rest
      (h, .filterNotCleared t e :: .queuesClosed t queues :: log)

end Filters

namespace Engine

def onFrame (e : Engine) (f : Frame) : Engine × List Report :=
  let b := { e.backend with seen := true }
  match b.dispatch f with
  | .error why => ({ e with backend := b }, [.frameDropped why])
  | .ok (n, count, b) =>
    ({ e with backend := b },
      if 0 < count.displaced then [.oldestDropped n.topic count.displaced count.delivered] else [])

def onControl (e : Engine) : Engine × List Report :=
  match e.backend.link.next? with
  | none => (e, [])
  | some (frame, link) =>
    let e := { e with backend := { e.backend with link } }
    match e.filters.obey frame with
    | (.goOn filters, log) => ({ e with filters }, log)
    | (.term, log) => ({ e with stage := .leaving }, log ++ [.termReceived])
    | (.failed why, log) => ({ e with stage := .leaving }, log ++ [.handlerFailed why])

def pollFails (e : Engine) (why : Errno) : Engine × List Report :=
  ({ e with stage := .leaving }, [.handlerFailed (.poll why)])

def panic (e : Engine) : Engine := { e with stage := .guarding }

def proceed (e : Engine) : Engine × List Report :=
  match e.stage with
  | .polling | .gone => (e, [])
  | .leaving => ({ e with backend := e.backend.advance .shuttingDown, stage := .emptying }, [])
  | .emptying =>
    let (report, backend) := e.backend.retire
    let (filters, log) := e.filters.clear report
    ({ backend, filters, stage := .guarding }, log)
  | .guarding => ({ e with backend := e.backend.retire.2, stage := .marking }, [])
  | .marking => ({ e with backend := e.backend.advance .exited, stage := .signalling }, [])
  | .signalling => ({ e with backend := e.backend.stop, stage := .gone }, [])

def proceedTimes : Nat → Engine → Engine × List Report
  | 0, e => (e, [])
  | n + 1, e =>
    let (e, log) := e.proceed
    let (e, more) := proceedTimes n e
    (e, log ++ more)

def finish (e : Engine) : Engine × List Report := proceedTimes e.stage.left e

def shutdown (e : Engine) : Engine × List Report :=
  let (report, backend) := (e.backend.advance .shuttingDown).retire
  let (filters, log) := e.filters.clear report
  ({ e with backend, filters }, log)

structure Served where
  engine : Engine
  log : List Report
  notices : List Notice

def serve : Nat → Engine → Served
  | 0, e => ⟨e, [], []⟩
  | n + 1, e =>
    match e.stage with
    | .polling =>
      let (next, log) := e.onControl
      let more := serve n next
      ⟨more.engine, log ++ more.log, e.filters.notices next.filters ++ more.notices⟩
    | _ =>
      let (e, log) := e.finish
      ⟨e, log, []⟩

def settle (e : Engine) : Served := serve (e.backend.link.pending.length + 1) e

theorem onFrameCases (e : Engine) (f : Frame) :
    (∃ why, f.decode = .error why ∧
      (e.onFrame f).1 = { e with backend := { e.backend with seen := true } }) ∨
    (∃ n, f.decode = .ok n ∧
      (e.onFrame f).1 = { e with backend := { e.backend with
        seen := true
        registry := (e.backend.registry.deliver n).2 } }) := by
  unfold onFrame Backend.dispatch
  cases read : f.decode with
  | error why => exact .inl ⟨why, rfl, rfl⟩
  | ok n => exact .inr ⟨n, rfl, rfl⟩

theorem onControlCases (e : Engine) :
    (e.backend.link.pending = [] ∧ e.onControl.1 = e) ∨
    (∃ f rest, e.backend.link.pending = f :: rest ∧
      let backend := { e.backend with link := { e.backend.link with pending := rest } }
      (∃ filters, (e.filters.obey f).1 = .goOn filters ∧
        e.onControl.1 = { e with backend, filters }) ∨
      ((e.filters.obey f).1 = .term ∧ e.onControl.1 = { e with backend, stage := .leaving }) ∨
      (∃ why, (e.filters.obey f).1 = .failed why ∧
        e.onControl.1 = { e with backend, stage := .leaving })) := by
  unfold onControl Link.next?
  cases e.backend.link.pending with
  | nil => exact .inl ⟨rfl, rfl⟩
  | cons f rest =>
    refine .inr ⟨f, rest, rfl, ?_⟩
    rcases obeyed : e.filters.obey f with ⟨filters | _ | why, log⟩
    · exact .inl ⟨filters, rfl, by simp [obeyed]⟩
    · exact .inr (.inl ⟨rfl, by simp [obeyed]⟩)
    · exact .inr (.inr ⟨why, rfl, by simp [obeyed]⟩)

end Engine
end NodeFeed
