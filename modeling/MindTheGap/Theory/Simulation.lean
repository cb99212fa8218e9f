/-
# Theory.Simulation -- one machine seen as another

A `Simulation C A` relates the states of `C` to states of `A` and gives every step of
`C` a label: the event of `A` it amounts to, or none when `A` stands still.  `A` must
then be able to take that event and end in a related state.  The step may use that the
state of `C` was reached, so invariants of `C` need not be put into the relation.

* `Simulation.stutters`: a run of `C` is, step for step, a run of `A` that may stand still;
* `Simulation.run`: the steps of a run of `C` that have a label are, one for one, a run
  of `A`.
-/
import Mathlib.Data.List.Forall2
import MindTheGap.Theory.Machine

namespace MindTheGap.Theory

set_option autoImplicit false

universe u v

namespace Machine

variable {τ : Type u} {δ : Type v}

/-- The machine that may also stand still. -/
def stuttering (A : Machine τ δ) : Machine τ (Option δ) where
  Start := A.Start
  Enabled t label := ∀ d ∈ label, A.Enabled t d
  step t label := label.elim (some t) (A.step t)

/-- The steps of a stuttering run that are steps of the machine. -/
def moves (history : History τ (Option δ)) : History τ δ :=
  history.filterMap fun x => x.2.map fun d => (x.1, d)

variable {A : Machine τ δ}

/-- Without the places where it stands still, a stuttering run is a run. -/
theorem Run.of_stuttering {history : History τ (Option δ)} {t : τ}
    (run : A.stuttering.Run history t) : A.Run (moves history) t := by
  induction run with
  | start starts => exact .start starts
  | @step history t t' label run enabled stepped ih =>
      cases label with
      | none =>
          have still : t = t' := Option.some.inj stepped
          subst still
          exact ih
      | some d => exact .step ih (enabled d rfl) stepped

end Machine

/-- Of two lists that match, what is in the second matches something in the first. -/
theorem exists_of_matched {α β : Type*} {R : α → β → Prop} {xs : List α} {ys : List β}
    (matched : List.Forall₂ R xs ys) {y : β} (member : y ∈ ys) : ∃ x ∈ xs, R x y := by
  induction matched with
  | nil => cases member
  | cons together _ ih =>
      rcases List.mem_cons.1 member with rfl | member
      · exact ⟨_, List.mem_cons_self, together⟩
      · obtain ⟨x, there, related⟩ := ih member
        exact ⟨x, List.mem_cons_of_mem _ there, related⟩

/-- `A` can follow `C`, each step by the event of its label. -/
structure Simulation {σ ε τ δ : Type*} (C : Machine σ ε) (A : Machine τ δ) where
  rel : σ → τ → Prop
  label : σ → ε → Option δ
  start : ∀ s, C.Start s → ∃ t, A.Start t ∧ rel s t
  step : ∀ {history : Machine.History σ ε} {s : σ} {e : ε} {s' : σ} {t : τ},
    C.Run history s → rel s t → C.Enabled s e → C.step s e = some s' →
      A.stuttering.Enabled t (label s e) ∧
        ∃ t', A.stuttering.step t (label s e) = some t' ∧ rel s' t'

namespace Simulation

variable {σ ε τ δ : Type*} {C : Machine σ ε} {A : Machine τ δ} (sim : Simulation C A)
variable {history : Machine.History σ ε} {s : σ}

/-- **A run, step for step.** -/
theorem stutters (run : C.Run history s) :
    ∃ history' t, A.stuttering.Run history' t ∧ sim.rel s t ∧
      List.Forall₂ (fun x y => sim.rel x.1 y.1 ∧ sim.label x.1 x.2 = y.2) history history' := by
  induction run with
  | start starts =>
      obtain ⟨t, starts', related⟩ := sim.start _ starts
      exact ⟨[], t, .start starts', related, .nil⟩
  | step run enabled stepped ih =>
      obtain ⟨history', t, run', related, matched⟩ := ih
      obtain ⟨enabled', t', stepped', related'⟩ := sim.step run related enabled stepped
      exact ⟨_, t', .step run' enabled' stepped', related', .cons ⟨related, rfl⟩ matched⟩

/-- The step amounts to an event of `A`. -/
def labelled (x : σ × ε) : Bool := (sim.label x.1 x.2).isSome

theorem moves_matched {history' : Machine.History τ (Option δ)}
    (matched : List.Forall₂ (fun x y => sim.rel x.1 y.1 ∧ sim.label x.1 x.2 = y.2)
      history history') :
    List.Forall₂ (fun x y => sim.rel x.1 y.1 ∧ sim.label x.1 x.2 = some y.2)
      (history.filter sim.labelled) (Machine.moves history') := by
  induction matched with
  | nil => exact .nil
  | @cons x y history history' together _ ih =>
      obtain ⟨t, label⟩ := y
      obtain ⟨related, isLabel⟩ := together
      cases label with
      | none => simpa [labelled, Machine.moves, isLabel] using ih
      | some d => simpa [labelled, Machine.moves, isLabel] using ⟨related, ih⟩

/-- **The labelled steps of a run are a run of `A`.** -/
theorem run (run : C.Run history s) :
    ∃ history' t, A.Run history' t ∧ sim.rel s t ∧
      List.Forall₂ (fun x y => sim.rel x.1 y.1 ∧ sim.label x.1 x.2 = some y.2)
        (history.filter sim.labelled) history' := by
  obtain ⟨history', t, run', related, matched⟩ := sim.stutters run
  exact ⟨_, t, run'.of_stuttering, related, sim.moves_matched matched⟩

/-- A run and the one that follows it start in related states. -/
theorem origin_matched {t : τ} {history' : Machine.History τ (Option δ)} (related : sim.rel s t)
    (matched : List.Forall₂ (fun x y => sim.rel x.1 y.1 ∧ sim.label x.1 x.2 = y.2)
      history history') : sim.rel (history.origin s) (history'.origin t) := by
  induction matched generalizing s t with
  | nil => exact related
  | cons together _ ih =>
      rw [Machine.History.origin_cons, Machine.History.origin_cons]
      exact ih together.1

end Simulation

end MindTheGap.Theory
