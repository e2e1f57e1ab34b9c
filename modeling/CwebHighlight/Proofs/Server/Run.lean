import CwebHighlight.Proofs.Server.Step

/-!
# Runs of a server

The state after a run, and the one condition on runs: a request that is held gets an id of its own
(`DistinctIds`), under which no other request is held at that moment. Ids may be used again.
-/

namespace CwebHighlight

/-- If the step holds a request, nothing is held under its id yet. -/
def ServerStep.HasOwnId (s : ServerState) : ServerStep → Prop
  | .start id u => (s.documents.find? u).isSome → s.held.find? id = none
  | _ => True

instance (s : ServerState) : (x : ServerStep) → Decidable (x.HasOwnId s)
  | .start _ _ => inferInstanceAs (Decidable (_ → _))
  | .introduce | .ready | .shutdown | .openDocument .. | .changeDocument .. | .closeDocument _
  | .tokens _ | .release _ => isTrue trivial

namespace ServerState

/-- The state after a run. -/
def after (config : ServerConfig) (s : ServerState) : List ServerStep → ServerState
  | [] => s
  | x :: rest => (s.step config x).state.after config rest

/-- Every request that is held in the run gets an id of its own. -/
def DistinctIds (config : ServerConfig) (s : ServerState) : List ServerStep → Prop
  | [] => True
  | x :: rest => x.HasOwnId s ∧ (s.step config x).state.DistinctIds config rest

instance decidableDistinctIds (config : ServerConfig) (s : ServerState) (steps : List ServerStep) :
    Decidable (s.DistinctIds config steps) :=
  match steps with
  | [] => isTrue trivial
  | x :: rest =>
    have := decidableDistinctIds config (s.step config x).state rest
    inferInstanceAs (Decidable (_ ∧ _))

variable (config : ServerConfig) (s : ServerState)

theorem after_append (a b : List ServerStep) :
    s.after config (a ++ b) = (s.after config a).after config b := by
  induction a generalizing s with
  | nil => rfl
  | cons x a ih => exact ih _

theorem after_concat (steps : List ServerStep) (x : ServerStep) :
    s.after config (steps ++ [x]) = ((s.after config steps).step config x).state :=
  after_append config s steps [x]

theorem distinctIds_append (a b : List ServerStep) :
    s.DistinctIds config (a ++ b) ↔
      s.DistinctIds config a ∧ (s.after config a).DistinctIds config b := by
  induction a generalizing s with
  | nil => simp [DistinctIds, after]
  | cons x a ih =>
    rw [List.cons_append, DistinctIds, ih, DistinctIds, and_assoc]
    rfl

theorem distinctIds_concat (steps : List ServerStep) (x : ServerStep) :
    s.DistinctIds config (steps ++ [x]) ↔
      s.DistinctIds config steps ∧ x.HasOwnId (s.after config steps) := by
  rw [distinctIds_append]
  simp [DistinctIds]

/-- The result of a step in a run is what the step gives in the state before it. -/
theorem getElem?_run (a : List ServerStep) (x : ServerStep) (rest : List ServerStep) :
    (s.run config (a ++ x :: rest))[a.length]? = some ((s.after config a).step config x) := by
  induction a generalizing s with
  | nil => rfl
  | cons y a ih =>
    rw [List.cons_append, run, List.length_cons, List.getElem?_cons_succ, ih]
    rfl

theorem run_concat (steps : List ServerStep) (x : ServerStep) :
    s.run config (steps ++ [x]) = s.run config steps ++ [(s.after config steps).step config x] := by
  induction steps generalizing s with
  | nil => rfl
  | cons y steps ih =>
    rw [List.cons_append, run, ih]
    rfl

end ServerState

end CwebHighlight
