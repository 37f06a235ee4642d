import NodeFeed.Report

/-!
The filters of the handler's socket at the publisher. A topic's filter is counted: the first one
reaches the publisher, and so does the removal of the last. Filters match by the beginning of a
frame's first part.
-/

namespace NodeFeed

structure Filters where
  counts : Topic.Table Nat
  refusal : Option Errno
  deriving DecidableEq, Repr

inductive Notice where
  | wanted (topic : Topic)
  | unwanted (topic : Topic)
  deriving DecidableEq, Repr

namespace Notice

def text : Notice → String
  | wanted t => "+" ++ t.name
  | unwanted t => "-" ++ t.name

end Notice

namespace Filters

def fresh : Filters := ⟨.replicate 0, none⟩

def refusing (e : Errno) : Filters := ⟨.replicate 0, some e⟩

def install (f : Filters) (t : Topic) : Except Errno Filters :=
  match f.refusal with
  | some e => .error e
  | none => .ok { f with counts := f.counts.set t (f.counts.get t + 1) }

def remove (f : Filters) (t : Topic) : Except Errno Filters :=
  match f.refusal with
  | some e => .error e
  | none => .ok { f with counts := f.counts.set t (f.counts.get t - 1) }

def passes (f : Filters) (frame : Frame) : Bool :=
  match frame with
  | [] => false
  | label :: _ => Topic.all.any fun t => 0 < f.counts.get t && t.label.isPrefixOf label

def notices (f g : Filters) : List Notice :=
  Topic.all.filterMap fun t =>
    if f.counts.get t = 0 ∧ 0 < g.counts.get t then some (.wanted t)
    else if 0 < f.counts.get t ∧ g.counts.get t = 0 then some (.unwanted t)
    else none

end Filters
end NodeFeed
