import Mathlib.Data.List.Induction

/-!
Runs of a system: a state and a function that makes one undivided step. What the steps tell is
collected in their order, so a history is read off the run and is not kept in the state.
-/

namespace NodeFeed.Run

variable {σ κ β : Type} {step : σ → κ → σ} {tell : σ → κ → List β}

def after (step : σ → κ → σ) (s : σ) (acts : List κ) : σ := acts.foldl step s

def told (step : σ → κ → σ) (tell : σ → κ → List β) : σ → List κ → List β
  | _, [] => []
  | s, a :: rest => tell s a ++ told step tell (step s a) rest

theorem afterAppend (s : σ) (first rest : List κ) :
    after step s (first ++ rest) = after step (after step s first) rest :=
  List.foldl_append

theorem afterSnoc (s : σ) (acts : List κ) (a : κ) :
    after step s (acts ++ [a]) = step (after step s acts) a :=
  afterAppend s acts [a]

theorem toldAppend (s : σ) (first rest : List κ) :
    told step tell s (first ++ rest) =
      told step tell s first ++ told step tell (after step s first) rest := by
  induction first generalizing s with
  | nil => rfl
  | cons a first ih =>
    have later := ih (step s a)
    simp only [List.cons_append, told, List.append_assoc]
    exact congrArg (tell s a ++ ·) later

theorem toldSnoc (s : σ) (acts : List κ) (a : κ) :
    told step tell s (acts ++ [a]) = told step tell s acts ++ tell (after step s acts) a := by
  rw [toldAppend]
  simp [told]

end NodeFeed.Run
