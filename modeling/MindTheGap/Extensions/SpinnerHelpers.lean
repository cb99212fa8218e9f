/-
# Extensions.SpinnerHelpers -- whether the spinner helpers are balanced

Every overlay that is shown should be gone once it has been removed and the main queue has
run.  But `vSpinner` names the new overlay at the call, and everything else waits for the
queue: a show that finds another overlay named leaves that one without a name, and a show
that finds a removal queued has its own name taken away before it is attached.

A show that finds neither is in turn (`InTurn`).  `balanced_iff` says that nothing is left
behind precisely when every show of the run was.  As long as they are, the helpers go round
three phases (`Kept`); the first that is not leaves an overlay that nothing will remove
(`Leaked`).
-/
import MindTheGap.Model.Spinner

namespace MindTheGap

open MindTheGap.Theory

set_option autoImplicit false

namespace Spinner

variable {V : Type}

/-- Every show has a remove after it; the steps are listed newest first.  Where shows and
removes are paired, this holds all the more. -/
def Matched (history : Machine.History (Spinner V) (Event V)) : Prop :=
  ∀ later s onView earlier, history = later ++ (s, .call (.showSpinner onView)) :: earlier →
    ∃ x ∈ later, x.2 = .call .removeSpinner

/-- Nothing is on any view, and no overlay is named. -/
def Clear (s : Spinner V) : Prop :=
  s.attached = [] ∧ s.vSpinner = none

/-- A show is called when no overlay is named and no removal is queued. -/
def InTurn (s : Spinner V) : Event V → Prop
  | .call (.showSpinner _) => s.vSpinner = none ∧ .removeFromSuperview ∉ s.mainQueue
  | _ => True

/-- The phases while every show is in turn: nothing is shown, the overlay waits to be
attached, or it is up, each with some removals queued.  If these are none, the last show
has not been removed yet. -/
inductive Kept (history : Machine.History (Spinner V) (Event V)) (s : Spinner V) : Prop
  | idle (removals : Nat) (unnamed : s.vSpinner = none) (bare : s.attached = [])
      (queue : s.mainQueue = List.replicate removals .removeFromSuperview)
  | waiting (k : Nat) (onView : V) (removals : Nat) (made : k < s.made)
      (owed : removals = 0 → ¬ Matched history) (named : s.vSpinner = some k)
      (bare : s.attached = [])
      (queue : s.mainQueue = .addSubview k onView :: List.replicate removals .removeFromSuperview)
  | up (k : Nat) (onView : V) (removals : Nat) (made : k < s.made)
      (owed : removals = 0 → ¬ Matched history) (named : s.vSpinner = some k)
      (one : s.attached = [(k, onView)])
      (queue : s.mainQueue = List.replicate removals .removeFromSuperview)

/-- An overlay that will stay: it is on a view, or about to be, and has lost its name, or
it has a name that a removal ahead of it in the queue will take. -/
inductive Leaked (s : Spinner V) : Prop
  | lost (k : Nat) (onView : V) (made : k < s.made) (unnamed : s.vSpinner ≠ some k)
      (stays : (k, onView) ∈ s.attached ∨ .addSubview k onView ∈ s.mainQueue)
  | overtaken (k : Nat) (onView : V) (before after : List (SpinnerTask V)) (made : k < s.made)
      (queue : s.mainQueue = before ++ .addSubview k onView :: after)
      (removal : .removeFromSuperview ∈ before)

variable {history : Machine.History (Spinner V) (Event V)} {s s' : Spinner V} {e : Event V}

/-! ## Matching -/

theorem not_matched_show {onView : V} :
    ¬ Matched ((s, .call (.showSpinner onView)) :: history) := by
  intro matched
  obtain ⟨x, member, -⟩ := matched [] s onView history rfl
  cases member

theorem not_matched_cons (unmatched : ¬ Matched history) (other : e ≠ .call .removeSpinner) :
    ¬ Matched ((s, e) :: history) := by
  intro matched
  refine unmatched fun later s₁ onView earlier split => ?_
  obtain ⟨x, member, removes⟩ := matched ((s, e) :: later) s₁ onView earlier (by rw [split]; rfl)
  rcases List.mem_cons.1 member with rfl | member
  · exact absurd removes other
  · exact ⟨x, member, removes⟩

/-- Matched is every run with a remove after its last show. -/
theorem matched_of_removal (recent : List (Event V)) {earlier : List (Event V)}
    (events : history.map Prod.snd = recent ++ .call .removeSpinner :: earlier)
    (noShow : ∀ onView, .call (.showSpinner onView) ∉ recent) : Matched history := by
  intro later s onView older split
  rw [split, List.map_append, List.map_cons] at events
  rcases List.append_eq_append_iff.1 events with ⟨between, rfl, rest⟩ | ⟨between, same, rest⟩
  · cases between with
    | nil => cases rest
    | cons e between =>
        obtain ⟨rfl, -⟩ := List.cons.inj rest
        exact absurd (by simp) (noShow onView)
  · cases between with
    | nil => cases rest
    | cons e between =>
        obtain ⟨rfl, -⟩ := List.cons.inj rest
        have member : Event.call .removeSpinner ∈ later.map Prod.snd := by simp [same]
        obtain ⟨x, inLater, removes⟩ := List.mem_map.1 member
        exact ⟨x, inLater, removes⟩

/-! ## An overlay that has leaked -/

theorem runMainQueue_cons {task : SpinnerTask V} {tasks : List (SpinnerTask V)}
    (queue : s.mainQueue = task :: tasks) :
    s.runMainQueue = { s with toOverlays := s.toOverlays.run task, mainQueue := tasks } := by
  rw [runMainQueue, queue]

/-- A show names an overlay that was not made before. -/
theorem showSpinner_unnamed {k : Nat} (made : k < s.made) (onView : V) :
    (s.showSpinner onView).vSpinner ≠ some k := by
  show some s.made ≠ some k
  simp only [ne_eq, Option.some.injEq]
  omega

theorem Leaked.showSpinner (leaked : Leaked s) (onView : V) : Leaked (s.showSpinner onView) := by
  cases leaked with
  | lost k earlier made unnamed stays =>
      exact .lost k earlier (Nat.lt_succ_of_lt made) (showSpinner_unnamed made onView)
        (stays.imp_right fun queued => List.mem_append_left _ queued)
  | overtaken k earlier before after made queue removal =>
      refine .overtaken k earlier before (after ++ [.addSubview s.made onView])
        (Nat.lt_succ_of_lt made) ?_ removal
      simp [Spinner.showSpinner, queue]

theorem Leaked.removeSpinner (leaked : Leaked s) : Leaked s.removeSpinner := by
  cases leaked with
  | lost k earlier made unnamed stays =>
      exact .lost k earlier made unnamed
        (stays.imp_right fun queued => List.mem_append_left _ queued)
  | overtaken k earlier before after made queue removal =>
      refine .overtaken k earlier before (after ++ [.removeFromSuperview]) made ?_ removal
      simp [Spinner.removeSpinner, queue]

/-- The removal of a named overlay leaves the others. -/
theorem mem_others {k : Nat} {onView : V} (there : (k, onView) ∈ s.attached)
    (unnamed : s.vSpinner ≠ some k) : (k, onView) ∈ s.others :=
  List.mem_filter.2 ⟨there, decide_eq_true unnamed⟩

theorem Leaked.runMainQueue (leaked : Leaked s) : Leaked s.runMainQueue := by
  cases leaked with
  | lost k earlier made unnamed stays =>
      cases queue : s.mainQueue with
      | nil =>
          rw [Spinner.runMainQueue, queue]
          exact .lost k earlier made unnamed stays
      | cons task tasks =>
          rw [runMainQueue_cons queue]
          rw [queue, List.mem_cons] at stays
          cases task with
          | addSubview j onView =>
              refine .lost k earlier made unnamed ?_
              rcases stays with there | now | later
              · exact Or.inl (List.mem_append_left _ there)
              · cases now
                exact Or.inl (List.mem_append_right _ List.mem_cons_self)
              · exact Or.inr later
          | removeFromSuperview =>
              refine .lost k earlier made (Option.some_ne_none k).symm ?_
              rcases stays with there | now | later
              · exact Or.inl (mem_others there unnamed)
              · cases now
              · exact Or.inr later
  | overtaken k earlier before after made queue removal =>
      cases before with
      | nil => cases removal
      | cons task before =>
          rw [runMainQueue_cons queue]
          cases task with
          | addSubview j onView =>
              refine .overtaken k earlier before after made rfl ?_
              exact (List.mem_cons.1 removal).resolve_left nofun
          | removeFromSuperview =>
              -- the removal takes the name, and the overlay is still to be attached
              refine .lost k earlier made (Option.some_ne_none k).symm (Or.inr ?_)
              exact List.mem_append_right _ List.mem_cons_self

/-- What has leaked stays. -/
theorem Leaked.step (leaked : Leaked s) (stepped : s.step e = some s') : Leaked s' := by
  cases e with
  | call call =>
      obtain rfl := Option.some.inj stepped
      cases call with
      | showSpinner onView => exact leaked.showSpinner onView
      | removeSpinner => exact leaked.removeSpinner
  | mainQueue =>
      obtain rfl := Option.some.inj stepped
      exact leaked.runMainQueue

/-! ## The phases -/

theorem Kept.removeSpinner (kept : Kept history s) :
    Kept ((s, .call .removeSpinner) :: history) s.removeSpinner := by
  cases kept with
  | idle removals unnamed bare queue =>
      refine .idle (removals + 1) unnamed bare ?_
      rw [List.replicate_succ', ← queue]
      rfl
  | waiting k onView removals made owed named bare queue =>
      refine .waiting k onView (removals + 1) made nofun named bare ?_
      rw [List.replicate_succ', ← List.cons_append, ← queue]
      rfl
  | up k onView removals made owed named one queue =>
      refine .up k onView (removals + 1) made nofun named one ?_
      rw [List.replicate_succ', ← queue]
      rfl

/-- A removal that leaves no overlay ends the phase. -/
theorem Kept.removed {removals : Nat} (pending : s.mainQueue ≠ [])
    (queue : s.mainQueue = List.replicate removals .removeFromSuperview)
    (none_left : s.others = []) : Kept ((s, .mainQueue) :: history) s.runMainQueue := by
  cases removals with
  | zero => exact absurd queue pending
  | succ removals =>
      rw [runMainQueue_cons queue]
      exact .idle removals rfl none_left rfl

theorem Kept.runMainQueue (kept : Kept history s) (pending : s.mainQueue ≠ []) :
    Kept ((s, .mainQueue) :: history) s.runMainQueue := by
  cases kept with
  | idle removals unnamed bare queue =>
      exact .removed pending queue (by rw [Overlays.others, bare, List.filter_nil])
  | waiting k onView removals made owed named bare queue =>
      have stillOwed : removals = 0 → ¬ Matched ((s, .mainQueue) :: history) :=
        fun none_left => not_matched_cons (owed none_left) (by simp)
      rw [runMainQueue_cons queue]
      refine .up k onView removals made stillOwed named ?_ rfl
      simp [Overlays.run, bare]
  | up k onView removals made owed named one queue =>
      exact .removed pending queue (by simp [Overlays.others, one, named])

theorem Kept.showSpinner (kept : Kept history s) {onView : V}
    (inTurn : s.InTurn (.call (.showSpinner onView))) :
    Kept ((s, .call (.showSpinner onView)) :: history) (s.showSpinner onView) := by
  obtain ⟨unnamed, nothing⟩ := inTurn
  cases kept with
  | idle removals _ bare queue =>
      cases removals with
      | zero =>
          refine .waiting s.made onView 0 (Nat.lt_succ_self _) (fun _ => not_matched_show) rfl
            bare ?_
          simp [Spinner.showSpinner, queue]
      | succ removals =>
          rw [queue] at nothing
          exact absurd List.mem_cons_self nothing
  | waiting k _ _ _ _ named => exact absurd (named.symm.trans unnamed) (Option.some_ne_none k)
  | up k _ _ _ _ named => exact absurd (named.symm.trans unnamed) (Option.some_ne_none k)

/-- A show that is not in turn leaks the overlay before it or its own. -/
theorem Kept.leaks (kept : Kept history s) {onView : V}
    (outOfTurn : ¬ s.InTurn (.call (.showSpinner onView))) : Leaked (s.showSpinner onView) := by
  cases kept with
  | idle removals unnamed bare queue =>
      have queued : SpinnerTask.removeFromSuperview ∈ s.mainQueue := by
        by_contra absent
        exact outOfTurn ⟨unnamed, absent⟩
      exact .overtaken s.made onView s.mainQueue [] (Nat.lt_succ_self _) rfl queued
  | waiting k earlier removals made owed named bare queue =>
      refine .lost k earlier (Nat.lt_succ_of_lt made) (showSpinner_unnamed made onView) (Or.inr ?_)
      apply List.mem_append_left
      rw [queue]
      exact List.mem_cons_self
  | up k earlier removals made owed named one queue =>
      refine .lost k earlier (Nat.lt_succ_of_lt made) (showSpinner_unnamed made onView) (Or.inl ?_)
      show (k, earlier) ∈ s.attached
      rw [one]
      exact List.mem_cons_self

/-! ## Runs -/

/-- A run stays in the phases, or has had a show out of turn and has leaked. -/
def Followed (history : Machine.History (Spinner V) (Event V)) (s : Spinner V) : Prop :=
  ((∀ x ∈ history, x.1.InTurn x.2) ∧ Kept history s) ∨
    (¬ (∀ x ∈ history, x.1.InTurn x.2) ∧ Leaked s)

theorem Followed.step (followed : Followed history s) (enabled : s.Enabled e)
    (stepped : s.step e = some s') : Followed ((s, e) :: history) s' := by
  rcases followed with ⟨met, kept⟩ | ⟨missed, leaked⟩
  · match e with
    | .call (.showSpinner onView) =>
        obtain rfl := Option.some.inj stepped
        by_cases inTurn : s.InTurn (.call (.showSpinner onView))
        · exact Or.inl ⟨List.forall_mem_cons.2 ⟨inTurn, met⟩, kept.showSpinner inTurn⟩
        · exact Or.inr ⟨fun all => inTurn (all _ List.mem_cons_self), kept.leaks inTurn⟩
    | .call .removeSpinner =>
        obtain rfl := Option.some.inj stepped
        exact Or.inl ⟨List.forall_mem_cons.2 ⟨trivial, met⟩, kept.removeSpinner⟩
    | .mainQueue =>
        obtain rfl := Option.some.inj stepped
        exact Or.inl ⟨List.forall_mem_cons.2 ⟨trivial, met⟩, kept.runMainQueue enabled⟩
  · refine Or.inr ⟨fun all => missed fun x member => ?_, leaked.step stepped⟩
    exact all x (List.mem_cons_of_mem _ member)

theorem followed_of_run (run : (spinnerHelpers V).Run history s) : Followed history s := by
  apply run.invariant (I := Followed)
  · rintro s rfl
    exact Or.inl ⟨by simp, .idle 0 rfl rfl rfl⟩
  · intro history s e s' _ followed enabled stepped
    exact followed.step enabled stepped

/-- Once every show is removed and the queue has run, a phase is over. -/
theorem Kept.clear (kept : Kept history s) (matched : Matched history)
    (empty : s.mainQueue = []) : s.Clear := by
  cases kept with
  | idle removals unnamed bare queue => exact ⟨bare, unnamed⟩
  | waiting k onView removals made owed named bare queue => exact nomatch empty.symm.trans queue
  | up k onView removals made owed named one queue =>
      cases removals with
      | zero => exact absurd matched (owed rfl)
      | succ removals => exact nomatch empty.symm.trans queue

theorem Leaked.not_clear (leaked : Leaked s) (empty : s.mainQueue = []) : ¬ s.Clear := by
  rintro ⟨bare, -⟩
  cases leaked with
  | lost k onView made unnamed stays =>
      rw [bare, empty] at stays
      rcases stays with there | queued
      · cases there
      · cases queued
  | overtaken k onView before after made queue removal =>
      rw [empty] at queue
      exact absurd queue.symm (by simp)

/-- **When the helpers are balanced.** -/
theorem balanced_iff (run : (spinnerHelpers V).Run history s) (matched : Matched history)
    (empty : s.mainQueue = []) : s.Clear ↔ ∀ x ∈ history, x.1.InTurn x.2 := by
  rcases followed_of_run run with ⟨met, kept⟩ | ⟨missed, leaked⟩
  · exact iff_of_true (kept.clear matched empty) met
  · exact iff_of_false (leaked.not_clear empty) missed

/-- A view shows its overlay and removes it. -/
theorem balanced_iff_once :
    ∃ history s, (spinnerHelpers Unit).Run history s ∧ Matched history ∧ s.mainQueue = [] ∧
      (s.Clear ↔ ∀ x ∈ history, x.1.InTurn x.2) := by
  obtain ⟨history, s, run, events, empty⟩ := Machine.exec_reaches (M := spinnerHelpers Unit)
    (fun _ s => s.mainQueue) rfl
    [.call (.showSpinner ()), .call .removeSpinner, .mainQueue, .mainQueue] [] (by decide)
  have matched : Matched history :=
    matched_of_removal [.mainQueue, .mainQueue] events (by simp)
  exact ⟨history, s, run, matched, empty, balanced_iff run matched empty⟩

/-- The refuting pole: an overlay is shown and removed and then another one, before the
queue has run.  Both stay. -/
theorem both_stay :
    ∃ history s, (spinnerHelpers Unit).Run history s ∧
      history.map Prod.snd = [.mainQueue, .mainQueue, .mainQueue, .mainQueue,
        .call .removeSpinner, .call (.showSpinner ()), .call .removeSpinner,
        .call (.showSpinner ())] ∧
      Matched history ∧ s.mainQueue = [] ∧ s.attached = [(0, ()), (1, ())] ∧ ¬ s.Clear := by
  obtain ⟨history, s, run, events, seen⟩ := Machine.exec_reaches (M := spinnerHelpers Unit)
    (fun _ s => (s.mainQueue, s.attached)) rfl
    [.call (.showSpinner ()), .call .removeSpinner, .call (.showSpinner ()), .call .removeSpinner,
      .mainQueue, .mainQueue, .mainQueue, .mainQueue] ([], [(0, ()), (1, ())]) (by decide)
  obtain ⟨empty, both⟩ := Prod.mk.inj seen
  have matched : Matched history :=
    matched_of_removal [.mainQueue, .mainQueue, .mainQueue, .mainQueue] events (by simp)
  refine ⟨history, s, run, events, matched, empty, both, ?_⟩
  rintro ⟨bare, -⟩
  exact nomatch both.symm.trans bare

end Spinner

end MindTheGap
