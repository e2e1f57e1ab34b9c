import CwebHighlight.Proofs.Flag.Descent
import CwebHighlight.Proofs.Scan.Reading
import CwebHighlight.Proofs.Server.Operations

/-!
# Families of handles

The handles of a session share switches family by family.

**The invariant** (`FlagSession.Follows`). Two handles have the same flag exactly if they are of one
family, and a flag is on exactly if some handle of the family was cancelled. There are two kinds of
steps: those that make a handle, for which only the new handle is of interest (`Follows.add`), and
those that make none, for which only the flags that are on are of interest (`Follows.keep`).

Main result: `flags_form_families`.
-/

namespace CwebHighlight

/-! ## Sessions -/

namespace FlagSession

/-- The session after steps, unless one of them is refused. -/
def after? (s : FlagSession) : List FlagStep → Option FlagSession
  | [] => some s
  | x :: rest => do (← s.step? x).1.after? rest

theorem after?_append (s : FlagSession) (a b : List FlagStep) :
    s.after? (a ++ b) = (s.after? a).bind (·.after? b) := by
  induction a generalizing s with
  | nil => rfl
  | cons x a ih =>
    rw [List.cons_append, after?, after?]
    cases s.step? x with
    | none => rfl
    | some r => exact ih r.1

theorem after?_concat {s s' : FlagSession} {steps : List FlagStep} {x : FlagStep}
    (h : s.after? steps = some s') :
    s.after? (steps ++ [x]) = (s'.step? x).map (·.1) := by
  rw [after?_append, h, Option.bind_some, after?]
  cases s'.step? x <;> rfl

/-- **The invariant.** The handles share flags family by family, and the flags that are on are those
of the families with a cancelled handle. -/
structure Follows (s : FlagSession) (steps : List FlagStep) : Prop where
  length_eq : s.handles.length = handlesMade steps
  knows : ∀ f ∈ s.handles, s.switches.Knows f
  flag_eq_iff : ∀ {i j : Nat} {f g : Flag}, s.handles[i]? = some f → s.handles[j]? = some g →
    (f = g ↔ SameFamily steps i j)
  isCancelled_iff : ∀ {i : Nat} {f : Flag}, s.handles[i]? = some f →
    (s.switches.isCancelled f = true ↔ FamilyCancelled steps i)

namespace Follows

variable {s : FlagSession} {steps : List FlagStep} {i : Nat} {f : Flag}

theorem empty : empty.Follows [] where
  length_eq := rfl
  knows := nofun
  flag_eq_iff := by simp [FlagSession.empty]
  isCancelled_iff := by simp [FlagSession.empty]

theorem exists_flag (h : s.Follows steps) (hi : i < handlesMade steps) :
    ∃ f, s.handles[i]? = some f :=
  ⟨_, List.getElem?_eq_getElem (h.length_eq ▸ hi)⟩

theorem lt_handlesMade (h : s.Follows steps) (hf : s.handles[i]? = some f) :
    i < handlesMade steps :=
  h.length_eq ▸ (List.getElem?_eq_some_iff.1 hf).1

variable {x : FlagStep}

/-- A step that makes a handle. It is enough to know the family of the new handle. -/
theorem add (h : s.Follows steps) (hnamed : WellNamed (steps ++ [x])) (hmakes : x.makes = true)
    {g : Flag} {switches : Switches} (hg : switches.Knows g)
    (hswitches : ∀ f, s.switches.Knows f →
      switches.Knows f ∧ switches.isCancelled f = s.switches.isCancelled f)
    (hflag : ∀ i f, s.handles[i]? = some f →
      (f = g ↔ SameFamily (steps ++ [x]) i (handlesMade steps)))
    (hcancelled : switches.isCancelled g = true ↔
      FamilyCancelled (steps ++ [x]) (handlesMade steps)) :
    Follows ⟨s.handles ++ [g], switches⟩ (steps ++ [x]) := by
  have hmade : handlesMade steps < handlesMade (steps ++ [x]) := by
    simp [handlesMade_concat, hmakes]
  have hcases {i : Nat} {f : Flag} (hf : (s.handles ++ [g])[i]? = some f) :
      s.handles[i]? = some f ∧ i < handlesMade steps ∨ f = g ∧ i = handlesMade steps := by
    rcases getElem?_concat_cases hf with ⟨hf, -⟩ | ⟨rfl, rfl, -⟩
    · exact .inl ⟨hf, h.lt_handlesMade hf⟩
    · exact .inr ⟨rfl, h.length_eq⟩
  constructor
  case length_eq => simp [handlesMade_concat, hmakes, h.length_eq]
  case knows =>
    intro f hf
    rcases List.mem_append.1 hf with hf | hf
    · exact (hswitches f (h.knows f hf)).1
    · rwa [List.mem_singleton.1 hf]
  case flag_eq_iff =>
    intro i j f f' hf hf'
    rcases hcases hf with ⟨hold, hi⟩ | ⟨rfl, rfl⟩
    · rcases hcases hf' with ⟨hold', hj⟩ | ⟨rfl, rfl⟩
      · rw [h.flag_eq_iff hold hold', sameFamily_concat hnamed hi hj]
      · exact hflag i f hold
    · rcases hcases hf' with ⟨hold', -⟩ | ⟨rfl, rfl⟩
      · rw [eq_comm, hflag j f' hold']
        exact ⟨SameFamily.symm, SameFamily.symm⟩
      · exact iff_of_true rfl (sameFamily_refl hnamed hmade)
  case isCancelled_iff =>
    intro i f hf
    rcases hcases hf with ⟨hf, hi⟩ | ⟨rfl, rfl⟩
    · rw [(hswitches f (h.knows f (List.mem_of_getElem? hf))).2, h.isCancelled_iff hf,
        familyCancelled_concat hnamed hi]
      cases x with
      | new | clone _ => simp
      | cancel _ | same _ _ | classify _ _ => cases hmakes
    · exact hcancelled

theorem new (h : s.Follows steps) (hnamed : WellNamed (steps ++ [.new])) :
    Follows ⟨s.handles ++ [s.switches.next], s.switches.fresh.2⟩ (steps ++ [.new]) := by
  refine h.add hnamed rfl (Switches.knows_fresh.2 (.inr rfl)) (fun f hf => ?_) (fun i f hf => ?_) ?_
  · exact ⟨Switches.knows_fresh.2 (.inl hf), Switches.isCancelled_fresh hf⟩
  · exact iff_of_false (h.knows f (List.mem_of_getElem? hf)).ne_next
      (not_sameFamily_new hnamed (h.lt_handlesMade hf))
  · rw [Switches.isCancelled_next]
    exact iff_of_false Bool.false_ne_true (not_familyCancelled_new hnamed)

theorem clone (h : s.Follows steps) (hnamed : WellNamed (steps ++ [.clone i]))
    (hf : s.handles[i]? = some f) :
    Follows ⟨s.handles ++ [f], s.switches⟩ (steps ++ [.clone i]) := by
  refine h.add hnamed rfl (h.knows f (List.mem_of_getElem? hf)) (fun g hg => ⟨hg, rfl⟩)
    (fun j g hg => ?_) ?_
  · rw [h.flag_eq_iff hg hf, sameFamily_clone hnamed (h.lt_handlesMade hg)]
  · rw [h.isCancelled_iff hf, familyCancelled_clone hnamed]

/-- A step that makes no handle. It is enough to know which flags are on after it. -/
theorem keep (h : s.Follows steps) (hnamed : WellNamed (steps ++ [x])) (hmakes : x.makes = false)
    {switches : Switches} (hknows : ∀ f, s.switches.Knows f → switches.Knows f)
    (hcancelled : ∀ i f, s.handles[i]? = some f → (switches.isCancelled f = true ↔
      s.switches.isCancelled f = true ∨ ∃ j, x = .cancel j ∧ SameFamily steps i j)) :
    Follows ⟨s.handles, switches⟩ (steps ++ [x]) where
  length_eq := by simp [handlesMade_concat, hmakes, h.length_eq]
  knows f hf := hknows f (h.knows f hf)
  flag_eq_iff hf hg := by
    rw [h.flag_eq_iff hf hg, sameFamily_concat hnamed (h.lt_handlesMade hf) (h.lt_handlesMade hg)]
  isCancelled_iff hf := by
    have hi := h.lt_handlesMade hf
    rw [hcancelled _ _ hf, h.isCancelled_iff hf, familyCancelled_concat hnamed hi]

theorem cancel (h : s.Follows steps) (hnamed : WellNamed (steps ++ [.cancel i]))
    (hf : s.handles[i]? = some f) :
    Follows ⟨s.handles, s.switches.cancel f⟩ (steps ++ [.cancel i]) := by
  refine h.keep hnamed rfl (fun g hg => Switches.knows_cancel.2 hg) fun j g hg => ?_
  have hsame : f = g ↔ SameFamily steps j i := by rw [eq_comm, h.flag_eq_iff hg hf]
  rw [Switches.isCancelled_cancel (h.knows g (List.mem_of_getElem? hg)), Bool.or_eq_true,
    decide_eq_true_eq, hsame]
  simp

theorem idle (h : s.Follows steps) (hnamed : WellNamed (steps ++ [x])) (hmakes : x.makes = false)
    (hcancel : ∀ j, x ≠ .cancel j) : s.Follows (steps ++ [x]) :=
  h.keep hnamed hmakes (fun _ hf => hf) fun i f hf => by simp [hcancel]

end Follows

end FlagSession

/-! ## Answers -/

/-- A signal that is active from the start leaves nothing. -/
theorem classify_constant_true (text : List Char) : classify text (.constant true) = [] := by
  obtain ⟨line, rest, hlines⟩ := List.exists_cons_of_ne_nil (splitLines_ne_nil text)
  rw [classify, scan, hlines]
  rfl

/-- What a step answers after other steps. -/
def FlagStep.Answers (steps : List FlagStep) : FlagStep → FlagAnswer → Prop
  | new, a | clone _, a | cancel _, a => a = .done
  | same i j, a => ∃ equal, a = .same equal ∧ (equal = true ↔ SameFamily steps i j)
  | classify i text, a => ∃ tokens, a = .tokens tokens ∧
    (FamilyCancelled steps i → tokens = []) ∧
    (¬ FamilyCancelled steps i → tokens = classifyAll text)

namespace FlagSession

variable {s : FlagSession} {steps : List FlagStep} {x : FlagStep}

theorem getElem?_states {i : Nat} {f : Flag} (hf : s.handles[i]? = some f) :
    s.states[i]? = some (s.switches.isCancelled f) := by
  rw [states, List.getElem?_map, hf, Option.map_some]

/-- **One step** about handles that are there is not refused, keeps the invariant and gives the
answer that the families tell. -/
theorem Follows.step (h : s.Follows steps) (hnamed : WellNamed (steps ++ [x])) :
    ∃ s' answer, s.step? x = some (s', answer) ∧ s'.Follows (steps ++ [x]) ∧
      x.Answers steps answer := by
  have hflag {i : Nat} (hi : i ∈ x.named) : ∃ f, s.handles[i]? = some f :=
    h.exists_flag ((wellNamed_concat_iff.1 hnamed).2 i hi)
  cases x with
  | new => exact ⟨_, _, rfl, h.new hnamed, rfl⟩
  | clone i =>
    obtain ⟨f, hf⟩ := hflag List.mem_cons_self
    exact ⟨_, _, by rw [step?, hf]; rfl, h.clone hnamed hf, rfl⟩
  | cancel i =>
    obtain ⟨f, hf⟩ := hflag List.mem_cons_self
    exact ⟨_, _, by rw [step?, hf]; rfl, h.cancel hnamed hf, rfl⟩
  | same i j =>
    obtain ⟨f, hf⟩ := hflag List.mem_cons_self
    obtain ⟨g, hg⟩ := hflag (List.mem_cons_of_mem i List.mem_cons_self)
    refine ⟨_, _, by rw [step?, hf, hg]; rfl, h.idle hnamed rfl nofun, _, rfl, ?_⟩
    rw [decide_eq_true_eq, h.flag_eq_iff hf hg]
  | classify i text =>
    obtain ⟨f, hf⟩ := hflag List.mem_cons_self
    refine ⟨_, _, by rw [step?, hf]; rfl, h.idle hnamed rfl nofun, _, rfl, fun hc => ?_,
      fun hc => ?_⟩
    · rw [Switches.signal, (h.isCancelled_iff hf).2 hc, classify_constant_true]
    · rw [← h.isCancelled_iff hf, Bool.not_eq_true] at hc
      rw [Switches.signal, hc]
      rfl

/-- **A run** of steps about handles that are there keeps the invariant. -/
theorem exists_follows (hnamed : WellNamed steps) :
    ∃ s, empty.after? steps = some s ∧ s.Follows steps := by
  induction steps using List.reverseRecOn with
  | nil => exact ⟨empty, rfl, .empty⟩
  | append_singleton steps x ih =>
    obtain ⟨s, hafter, hfollows⟩ := ih (wellNamed_concat_iff.1 hnamed).1
    obtain ⟨s', answer, hstep, hfollows', -⟩ := hfollows.step hnamed
    exact ⟨s', by rw [after?_concat hafter, hstep]; rfl, hfollows'⟩

/-- **Cancellation flags form families.** Every handle is of exactly one family. After any steps a
handle reports cancellation, to whoever asks or polls it, exactly if some handle of its family was
cancelled. One more step is answered by the families: two handles have the same flag exactly if they
are of one family, and a scan under a handle gives all tokens, or none if the family is cancelled.
What a handle reports changes only when a handle of its family is cancelled, and never back. -/
theorem flags_form_families (steps : List FlagStep) (hnamed : WellNamed steps) :
    (∀ i < handlesMade steps, ∃! k, Descends steps i k) ∧
    ∃ s, empty.after? steps = some s ∧ s.handles.length = handlesMade steps ∧
      (∀ i f, s.handles[i]? = some f →
        (s.states[i]? = some true ↔ FamilyCancelled steps i) ∧
        ∀ p, s.switches.signal f p = true ↔ FamilyCancelled steps i) ∧
      ∀ x, (∀ i ∈ x.named, i < handlesMade steps) →
        ∃ s' answer, s.step? x = some (s', answer) ∧ empty.after? (steps ++ [x]) = some s' ∧
          x.Answers steps answer ∧
          ∀ i < handlesMade steps, s'.states[i]? = some true ↔
            s.states[i]? = some true ∨ ∃ j, x = .cancel j ∧ SameFamily steps i j := by
  obtain ⟨s, hafter, hfollows⟩ := exists_follows hnamed
  have hstates {s : FlagSession} {steps : List FlagStep} (h : s.Follows steps) {i : Nat} {f : Flag}
      (hf : s.handles[i]? = some f) : s.states[i]? = some true ↔ FamilyCancelled steps i := by
    rw [getElem?_states hf, Option.some.injEq, h.isCancelled_iff hf]
  refine ⟨fun i hi => existsUnique_descends hnamed hi, s, hafter, hfollows.length_eq,
    fun i f hf => ⟨hstates hfollows hf, fun _ => hfollows.isCancelled_iff hf⟩, fun x hx => ?_⟩
  have hnamed' : WellNamed (steps ++ [x]) := wellNamed_concat_iff.2 ⟨hnamed, hx⟩
  obtain ⟨s', answer, hstep, hfollows', hanswer⟩ := hfollows.step hnamed'
  refine ⟨s', answer, hstep, by rw [after?_concat hafter, hstep]; rfl, hanswer, fun i hi => ?_⟩
  obtain ⟨f, hf⟩ := hfollows.exists_flag hi
  have hi' : i < handlesMade (steps ++ [x]) := by
    rw [handlesMade_concat]
    omega
  obtain ⟨f', hf'⟩ := hfollows'.exists_flag hi'
  rw [hstates hfollows' hf', hstates hfollows hf, familyCancelled_concat hnamed' hi]

/-- Two families: one is cancelled through a clone, and cloned once more after that. -/
theorem flags_form_families_lateClone :
    let steps : List FlagStep := [.new, .clone 0, .new, .cancel 1, .clone 0, .clone 2]
    WellNamed steps ∧ (∀ i ∈ (FlagStep.classify 3 ['%']).named, i < handlesMade steps) ∧
      ∃ s, empty.after? steps = some s ∧ s.states = [true, true, false, true, false] ∧
        FamilyCancelled steps 3 ∧ ¬ FamilyCancelled steps 4 ∧
        ∃ s', s.step? (.classify 3 ['%']) = some (s', .tokens []) := by
  intro steps
  have hnamed : WellNamed steps := by decide
  have hx : ∀ i ∈ (FlagStep.classify 3 ['%']).named, i < handlesMade steps := by decide
  obtain ⟨-, s, hafter, -, hreports, hsteps⟩ := flags_form_families steps hnamed
  obtain ⟨s', answer, hstep, -, ⟨tokens, rfl, htokens, -⟩, -⟩ := hsteps _ hx
  cases hafter
  have hcancelled := (hreports 3 _ rfl).1.1 rfl
  refine ⟨hnamed, hx, _, rfl, rfl, hcancelled, fun h => ?_, s', ?_⟩
  · exact absurd ((hreports 4 _ rfl).1.2 h) (by decide)
  · rw [hstep, htokens hcancelled]

end FlagSession

end CwebHighlight
