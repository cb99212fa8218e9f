/-
# Theory.Recycled -- views that are used again for other contents

A view is configured for one input after another, and only reset in between.  What it
shows should be a matter of the input alone: every view that can be at hand, fresh or
used before, comes out the same (`ShowsOwn`).

`ShowsOwn.given_isSome` is the test that such a display fails by: a part of the view that
the configuration may leave as it was must already have been the same in all of them.
-/
import Mathlib.Logic.Basic

namespace MindTheGap.Theory

set_option autoImplicit false

universe u v w

/-- A kind of view: how it is made, the inputs it may be configured for, the
configuration (`none` when the program traps), and the reset before it is used again. -/
structure Display (View : Type u) (Input : Type v) where
  fresh : View
  Valid : Input → Prop
  configure : View → Input → Option View
  prepareForReuse : View → View

namespace Display

variable {View : Type u} {Input : Type v} {D : Display View Input}

/-- The views that can be at hand: a fresh one, or one used for other inputs and reset. -/
inductive AtHand (D : Display View Input) : View → Prop
  | fresh : AtHand D D.fresh
  | reused {before after : View} {input : Input} (atHand : AtHand D before)
      (valid : D.Valid input) (configured : D.configure before input = some after) :
      AtHand D (D.prepareForReuse after)

/-- Whatever view is at hand, the configuration succeeds and comes out the same. -/
def ShowsOwn (D : Display View Input) (input : Input) : Prop :=
  ∀ a b, AtHand D a → AtHand D b →
    ∃ shown, D.configure a input = some shown ∧ D.configure b input = some shown

theorem ShowsOwn.succeeds {input : Input} (own : D.ShowsOwn input) :
    ∃ shown, D.configure D.fresh input = some shown := by
  obtain ⟨shown, configured, -⟩ := own _ _ .fresh .fresh
  exact ⟨shown, configured⟩

/-- One outcome for every view at hand. -/
theorem showsOwn_of_constant {input : Input} (shown : View)
    (constant : ∀ view, D.configure view input = some shown) : D.ShowsOwn input :=
  fun a b _ _ => ⟨shown, constant a, constant b⟩

/-- A part that is set to `given`, where there is something, and differs between two views
at hand, has something to be set to. -/
theorem ShowsOwn.given_isSome {input : Input} (own : D.ShowsOwn input) {result : View → View}
    (configured : ∀ view, D.configure view input = some (result view)) {β : Type w}
    (part : View → β) {given : Option β} (set : ∀ view, part (result view) = given.getD (part view))
    {a b : View} (atHand : AtHand D a) (atHand' : AtHand D b) (differ : part a ≠ part b) :
    given.isSome := by
  obtain ⟨shown, fromA, fromB⟩ := own a b atHand atHand'
  rw [configured, Option.some.injEq] at fromA fromB
  cases given with
  | some value => rfl
  | none =>
      have same : part a = part b :=
        (set a).symm.trans ((congrArg part (fromA.trans fromB.symm)).trans (set b))
      exact absurd same differ

end Display

end MindTheGap.Theory
