import NodeFeed.Bytes

/-!
The five streams a node publishes. A topic is known on the wire by its label, in the first part of
every frame and as the filter a reader asks for. `Topic.Table` holds one value for each topic.
-/

namespace NodeFeed

inductive Topic where
  | hashTx
  | hashBlock
  | rawTx
  | rawBlock
  | sequence
  deriving DecidableEq, Repr

namespace Topic

def all : List Topic := [hashTx, hashBlock, rawTx, rawBlock, sequence]

theorem allListed (t : Topic) : t ∈ all := by cases t <;> decide

theorem allDistinct : all.Nodup := by decide

def name : Topic → String
  | hashTx => "hashtx"
  | hashBlock => "hashblock"
  | rawTx => "rawtx"
  | rawBlock => "rawblock"
  | sequence => "sequence"

def title : Topic → String
  | hashTx => "HashTx"
  | hashBlock => "HashBlock"
  | rawTx => "RawTx"
  | rawBlock => "RawBlock"
  | sequence => "Sequence"

def label (t : Topic) : Bytes := Bytes.ofAscii t.name

def ofLabel? (label : Bytes) : Option Topic := all.find? fun t => t.label == label

theorem labelDistinct {t u : Topic} (h : t.label = u.label) : t = u := by
  revert h; cases t <;> cases u <;> decide

theorem labelRead (t : Topic) : ofLabel? t.label = some t := by cases t <;> decide

theorem labelExact {label : Bytes} {t : Topic} :
    ofLabel? label = some t ↔ label = t.label := by
  constructor
  · intro h
    have := List.find?_some h
    exact (beq_iff_eq.1 this).symm
  · rintro rfl
    exact labelRead t

def index (t : Topic) : Nat := all.idxOf t

structure Table (α : Type) where
  hashTx : α
  hashBlock : α
  rawTx : α
  rawBlock : α
  sequence : α
  deriving DecidableEq, Repr

namespace Table

variable {α β : Type}

def replicate (a : α) : Table α := ⟨a, a, a, a, a⟩

def get (m : Table α) : Topic → α
  | .hashTx => m.hashTx
  | .hashBlock => m.hashBlock
  | .rawTx => m.rawTx
  | .rawBlock => m.rawBlock
  | .sequence => m.sequence

def set (m : Table α) (t : Topic) (a : α) : Table α :=
  match t with
  | .hashTx => { m with hashTx := a }
  | .hashBlock => { m with hashBlock := a }
  | .rawTx => { m with rawTx := a }
  | .rawBlock => { m with rawBlock := a }
  | .sequence => { m with sequence := a }

def toList (m : Table α) : List α := all.map m.get

@[simp] theorem replicateAt (a : α) (t : Topic) : (replicate a).get t = a := by cases t <;> rfl

@[simp] theorem setAt (m : Table α) (t : Topic) (a : α) : (m.set t a).get t = a := by
  cases t <;> rfl

theorem setElsewhere (m : Table α) {t u : Topic} (a : α) (h : u ≠ t) :
    (m.set t a).get u = m.get u := by
  revert h; cases t <;> cases u <;> simp [get, set]

theorem getSet (m : Table α) (t u : Topic) (a : α) :
    (m.set t a).get u = if u = t then a else m.get u := by
  by_cases h : u = t
  · subst h; simp
  · simp [h, setElsewhere]

theorem tableExt {m n : Table α} (h : ∀ t, m.get t = n.get t) : m = n := by
  cases m; cases n
  have h1 := h .hashTx; have h2 := h .hashBlock; have h3 := h .rawTx
  have h4 := h .rawBlock; have h5 := h .sequence
  simp only [get] at h1 h2 h3 h4 h5
  simp [h1, h2, h3, h4, h5]

end Table
end Topic
end NodeFeed
