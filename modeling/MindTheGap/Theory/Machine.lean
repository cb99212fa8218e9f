/-
# Theory.Machine -- event machines whose steps can trap

An event machine has start states, a condition on which events the environment
may deliver in a state, and a step that either produces the next state or traps
(`none`).  A run is the list of its steps, newest first, each with the state it
was taken in, so a property of a run can speak of what had happened before any
of its steps.

* `Run.invariant` is the induction over a run;
* `Run.invariant_of` is the same under a condition that every step of the run
  meets;
* `Run.forall_since_iff` says that when a condition is exact for one step, the runs
  that stay good from some point on are exactly those whose later steps all meet it.

`exec` replays a list of events, so that a concrete run can be evaluated.
-/
import Mathlib.Data.List.Basic
import Mathlib.Logic.Basic

namespace MindTheGap.Theory

set_option autoImplicit false

universe u v

/-- Start states, the events a state can receive, and the step, `none` when the
program traps. -/
structure Machine (σ : Type u) (ε : Type v) where
  Start : σ → Prop
  Enabled : σ → ε → Prop
  step : σ → ε → Option σ

namespace Machine

variable {σ : Type u} {ε : Type v}

/-- The steps of a run, newest first, each with the state it was taken in. -/
abbrev History (σ : Type u) (ε : Type v) := List (σ × ε)

/-- `M.Run history s`: the steps of `history` lead from a start state to `s`. -/
inductive Run (M : Machine σ ε) : History σ ε → σ → Prop
  | start {s : σ} (starts : M.Start s) : Run M [] s
  | step {history : History σ ε} {s s' : σ} {e : ε} (run : Run M history s)
      (enabled : M.Enabled s e) (stepped : M.step s e = some s') :
      Run M ((s, e) :: history) s'

/-- What the steps of a history come to, one step at a time. -/
theorem History.filterMap_cons {β : Type*} (f : σ × ε → Option β) (x : σ × ε)
    (history : History σ ε) :
    List.filterMap f (x :: history) = (f x).toList ++ List.filterMap f history := by
  cases found : f x <;> simp [found]

/-- The state that a run with these steps to `s` started in. -/
def History.origin (history : History σ ε) (s : σ) : σ := (history.map Prod.fst).getLastD s

@[simp] theorem History.origin_nil (s : σ) : History.origin ([] : History σ ε) s = s := rfl

@[simp] theorem History.origin_cons (x : σ × ε) (history : History σ ε) (s : σ) :
    History.origin (x :: history) s = History.origin history x.1 := by
  simp only [History.origin, List.map_cons, List.getLastD_cons]

/-- The origin of a history is that of its earlier part. -/
theorem History.origin_append (later : History σ ε) (x : σ × ε) (earlier : History σ ε) (s : σ) :
    History.origin (later ++ x :: earlier) s = earlier.origin x.1 := by
  induction later generalizing s with
  | nil => exact History.origin_cons x earlier s
  | cons y later ih =>
      rw [List.cons_append, History.origin_cons]
      exact ih y.1

variable {M : Machine σ ε}

/-- Induction over a run: what holds at the start and is kept by every step. -/
theorem Run.invariant {I : History σ ε → σ → Prop}
    (start : ∀ s, M.Start s → I [] s)
    (step : ∀ history s e s', M.Run history s → I history s → M.Enabled s e →
      M.step s e = some s' → I ((s, e) :: history) s')
    {history : History σ ε} {s : σ} (run : M.Run history s) : I history s := by
  induction run with
  | start starts => exact start _ starts
  | step run enabled stepped ih => exact step _ _ _ _ run ih enabled stepped

/-- Induction over a run whose steps all meet `ok`. -/
theorem Run.invariant_of (ok : σ → ε → Prop) {I : History σ ε → σ → Prop}
    (start : ∀ s, M.Start s → I [] s)
    (step : ∀ history s e s', M.Run history s → I history s → M.Enabled s e → ok s e →
      M.step s e = some s' → I ((s, e) :: history) s')
    {history : History σ ε} {s : σ} (run : M.Run history s)
    (met : ∀ x ∈ history, ok x.1 x.2) : I history s := by
  induction run with
  | start starts => exact start _ starts
  | step run enabled stepped ih =>
      have last := met _ List.mem_cons_self
      have earlier := ih fun x member => met x (List.mem_cons_of_mem _ member)
      exact step _ _ _ _ run earlier enabled last stepped

/-- Every step of a run was itself reached, enabled, and did not trap. -/
theorem Run.of_mem {history : History σ ε} {s : σ} (run : M.Run history s) :
    ∀ x ∈ history, (∃ earlier, M.Run earlier x.1) ∧ M.Enabled x.1 x.2 ∧
      ∃ s', M.step x.1 x.2 = some s' := by
  induction run with
  | start => simp
  | step run enabled stepped ih =>
      intro x member
      rcases List.mem_cons.1 member with rfl | member
      · exact ⟨⟨_, run⟩, enabled, _, stepped⟩
      · exact ih x member

/-- A step of a run, with the run before it. -/
theorem Run.at_mem {history : History σ ε} {s : σ} (run : M.Run history s) {x : σ × ε}
    (member : x ∈ history) : ∃ later earlier, history = later ++ x :: earlier ∧
      M.Run earlier x.1 := by
  induction run with
  | start => cases member
  | @step history s s' e run enabled stepped ih =>
      rcases List.mem_cons.1 member with rfl | member
      · exact ⟨[], history, rfl, run⟩
      · obtain ⟨later, earlier, split, run'⟩ := ih member
        exact ⟨(s, e) :: later, earlier, by rw [split, List.cons_append], run'⟩

/-- **An exact step condition is exact for runs.**  When a good state steps to a good
state precisely if `ok` holds of the step, then from a point on where the state is
good, a run visits good states only precisely if all its later steps meet `ok`. -/
theorem Run.forall_since_iff {P : σ → Prop} {ok : σ → ε → Prop} {earlier : History σ ε}
    (since : ∀ s, M.Run earlier s → P s)
    (exact_step : ∀ history s e s', M.Run history s → P s → M.Enabled s e →
      M.step s e = some s' → (P s' ↔ ok s e))
    {later : History σ ε} {s : σ} (run : M.Run (later ++ earlier) s) :
    ((∀ x ∈ later, P x.1) ∧ P s) ↔ ∀ x ∈ later, ok x.1 x.2 := by
  induction later generalizing s with
  | nil => simp [since s run]
  | cons x later ih =>
      obtain ⟨s₀, e⟩ := x
      cases run with
      | step run enabled stepped =>
          simp only [List.forall_mem_cons]
          constructor
          · rintro ⟨⟨good, before⟩, after⟩
            exact ⟨(exact_step _ _ _ _ run good enabled stepped).1 after,
              (ih run).1 ⟨before, good⟩⟩
          · rintro ⟨last, met⟩
            obtain ⟨before, good⟩ := (ih run).2 met
            exact ⟨⟨good, before⟩, (exact_step _ _ _ _ run good enabled stepped).2 last⟩

/-- The same from the start of the run. -/
theorem Run.forall_states_iff {P : σ → Prop} {ok : σ → ε → Prop}
    (start : ∀ s, M.Start s → P s)
    (exact_step : ∀ history s e s', M.Run history s → P s → M.Enabled s e →
      M.step s e = some s' → (P s' ↔ ok s e))
    {history : History σ ε} {s : σ} (run : M.Run history s) :
    ((∀ x ∈ history, P x.1) ∧ P s) ↔ ∀ x ∈ history, ok x.1 x.2 := by
  have since : ∀ s, M.Run [] s → P s := by
    intro s run
    cases run with
    | start starts => exact start s starts
  exact Run.forall_since_iff since exact_step (by rwa [List.append_nil])

/-! ## Replaying a list of events -/

section Exec

variable (M) [∀ s e, Decidable (M.Enabled s e)]

/-- Deliver `events` in order from `s`, after the steps `history`. -/
def exec (history : History σ ε) (s : σ) : List ε → Option (History σ ε × σ)
  | [] => some (history, s)
  | e :: events =>
      if M.Enabled s e then
        (M.step s e).bind fun s' => exec ((s, e) :: history) s' events
      else none

variable {M}

theorem exec_run {history : History σ ε} {s : σ} (run : M.Run history s) (events : List ε)
    {history' : History σ ε} {s' : σ} (executed : M.exec history s events = some (history', s')) :
    M.Run history' s' ∧ history'.map Prod.snd = events.reverse ++ history.map Prod.snd := by
  induction events generalizing history s with
  | nil =>
      simp only [exec, Option.some.injEq, Prod.mk.injEq] at executed
      obtain ⟨rfl, rfl⟩ := executed
      exact ⟨run, by simp⟩
  | cons e events ih =>
      simp only [exec] at executed
      split at executed
      · rename_i enabled
        obtain ⟨next, stepped, rest⟩ := Option.bind_eq_some_iff.1 executed
        obtain ⟨run', labels⟩ := ih (.step run enabled stepped) rest
        exact ⟨run', by simp [labels]⟩
      · cases executed

/-- A replay whose outcome was evaluated is a run with that outcome. -/
theorem exec_reaches {α : Type*} (observe : History σ ε → σ → α) {s : σ} (starts : M.Start s)
    (events : List ε) (seen : α)
    (executed : (M.exec [] s events).map (fun x => observe x.1 x.2) = some seen) :
    ∃ history s', M.Run history s' ∧ history.map Prod.snd = events.reverse ∧
      observe history s' = seen := by
  obtain ⟨⟨history, s'⟩, result, rfl⟩ := Option.map_eq_some_iff.1 executed
  obtain ⟨run, labels⟩ := exec_run (.start starts) events result
  exact ⟨history, s', run, by simpa using labels, rfl⟩

end Exec

end Machine

end MindTheGap.Theory
