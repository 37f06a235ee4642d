import NodeFeed.Frame
import NodeFeed.Errno

/-!
The commands the calling side sends to the handler, as two-part frames, and the link that carries
them. Reading is more lenient than writing: `term` needs no second part, and parts after the second
are ignored. The link keeps frames in the order sent; a send that fails leaves nothing behind.
-/

namespace NodeFeed

inductive Verb where
  | subscribe
  | unsubscribe
  deriving DecidableEq, Repr

namespace Verb

def name : Verb → String
  | subscribe => "subscribe"
  | unsubscribe => "unsubscribe"

def bytes (v : Verb) : Bytes := Bytes.ofAscii v.name

end Verb

inductive Command where
  | subscribe (topic : Topic)
  | unsubscribe (topic : Topic)
  | term
  deriving DecidableEq, Repr

namespace Command

def termBytes : Bytes := Bytes.ofAscii "term"

def verb : Command → String
  | subscribe _ => Verb.subscribe.name
  | unsubscribe _ => Verb.unsubscribe.name
  | term => "term"

def topic? : Command → Option Topic
  | subscribe t | unsubscribe t => some t
  | term => none

def encode : Command → Frame
  | subscribe t => [Verb.subscribe.bytes, t.label]
  | unsubscribe t => [Verb.unsubscribe.bytes, t.label]
  | term => [termBytes, []]

def decode? : Frame → Option Command
  | [] => none
  | verb :: rest =>
    if verb = termBytes then some term
    else match rest with
      | [] => none
      | label :: _ => do
        let t ← Topic.ofLabel? label
        if verb = Verb.subscribe.bytes then some (subscribe t)
        else if verb = Verb.unsubscribe.bytes then some (unsubscribe t)
        else none

theorem encodedCommandRead (c : Command) : decode? c.encode = some c := by
  cases c with
  | subscribe t => cases t <;> decide
  | unsubscribe t => cases t <;> decide
  | term => decide

end Command

structure Link where
  front : Bool
  fault : Option Errno
  pending : List Frame
  deriving DecidableEq, Repr

namespace Link

def fresh : Link := ⟨true, none, []⟩

def post (l : Link) (f : Frame) : Except Errno Link :=
  if !l.front then .error .eterm
  else if f.isEmpty then .ok l
  else
    match l.fault with
    | some e => .error e
    | none => .ok { l with pending := l.pending ++ [f] }

def send (l : Link) (c : Command) : Except Errno Link := l.post c.encode

def drop (l : Link) : Link := { l with front := false }

def next? (l : Link) : Option (Frame × Link) :=
  match l.pending with
  | [] => none
  | f :: rest => some (f, { l with pending := rest })

theorem sendOpen {l : Link} (front : l.front = true) (sends : l.fault = none) (c : Command) :
    l.send c = .ok { l with pending := l.pending ++ [c.encode] } := by
  have parts : c.encode.isEmpty = false := by cases c <;> rfl
  simp [send, post, front, sends, parts]

theorem sentOnly {l next : Link} {c : Command} (sent : l.send c = .ok next) :
    l.front = true ∧ l.fault = none ∧ next = { l with pending := l.pending ++ [c.encode] } := by
  have parts : c.encode.isEmpty = false := by cases c <;> rfl
  unfold send post at sent
  cases front : l.front with
  | false => simp [front] at sent
  | true =>
    cases fault : l.fault with
    | some e => simp [front, parts, fault] at sent
    | none => exact ⟨rfl, rfl, by simpa [front, parts, fault] using sent.symm⟩

end Link
end NodeFeed
