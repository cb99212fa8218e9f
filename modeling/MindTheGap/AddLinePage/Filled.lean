/-
# AddLinePage.Filled -- the button that looks chosen is the one that Add saves

What a tap on a direction does to the two buttons is not kept with what it does to the two
flags, and Add reads the flags alone.  The buttons are replayed beside the run here
(`Buttons.after`), and in every state they look as the flags say: at most one of them is
filled, and the direction that Add takes is its title (`looks_of_run`).
-/
import MindTheGap.AddLinePage.Effects
import MindTheGap.Model.Cells

namespace MindTheGap

open MindTheGap.Theory

set_option autoImplicit false

/-! ## The buttons of `AddLinePage.swift` -/

def UIColor.white : UIColor := ⟨100, 100, 100⟩
def UIColor.purpleThemeColour : UIColor := ⟨38, 11, 81⟩

/-- A direction button, but for its title. -/
structure UIButton where
  backgroundColor : Option UIColor
  borderWidth : Nat
  borderColor : Option UIColor
  titleColor : UIColor
deriving DecidableEq, Repr

namespace UIButton

/-- `layout(...)`, and the border put on it. -/
def direction : UIButton := ⟨none, 1, some .purpleThemeColour, .black⟩

def setHighlighted (_ : UIButton) : UIButton := ⟨some .white, 1, some .purpleThemeColour, .black⟩

def setNormal (_ : UIButton) : UIButton := ⟨some .purpleThemeColour, 0, none, .white⟩

end UIButton

structure Buttons where
  direction1 : UIButton := .direction
  direction2 : UIButton := .direction
deriving DecidableEq, Repr

namespace Buttons

/-- What `direction1()` does to the buttons, by the flag it finds. -/
def tapped1 (b : Buttons) (is1Selected : Bool) : Buttons :=
  if is1Selected = false then ⟨b.direction1.setNormal, b.direction2.setHighlighted⟩
  else { b with direction1 := b.direction1.setHighlighted }

/-- What `direction2()` does to them. -/
def tapped2 (b : Buttons) (is2Selected : Bool) : Buttons :=
  if is2Selected = false then ⟨b.direction1.setHighlighted, b.direction2.setNormal⟩
  else { b with direction2 := b.direction2.setHighlighted }

/-- The buttons after a run. -/
def after : Machine.History AddLinePage AddLinePage.Event → Buttons
  | [] => {}
  | (s, .direction1) :: history => (after history).tapped1 s.is1Selected
  | (s, .direction2) :: history => (after history).tapped2 s.is2Selected
  | _ :: history => after history

end Buttons

/-! ## What they show -/

/-- The button looks chosen. -/
def UIButton.Filled (button : UIButton) : Prop :=
  button.backgroundColor = some .purpleThemeColour

@[simp] theorem UIButton.filled_setNormal (button : UIButton) : button.setNormal.Filled := rfl

@[simp] theorem UIButton.not_filled_setHighlighted (button : UIButton) :
    ¬ button.setHighlighted.Filled := by
  show ¬ some UIColor.white = some UIColor.purpleThemeColour
  decide

@[simp] theorem UIButton.not_filled_direction : ¬ direction.Filled := by
  unfold Filled
  decide

namespace AddLinePage

/-- The buttons look as the flags say, and not both are chosen. -/
structure Looks (b : Buttons) (s : AddLinePage) : Prop where
  first : b.direction1.Filled ↔ s.is1Selected = true
  second : b.direction2.Filled ↔ s.is2Selected = true
  one : ¬ (s.is1Selected = true ∧ s.is2Selected = true)

variable {b : Buttons} {history : Machine.History AddLinePage Event} {s s' : AddLinePage}
  {e : Event}

theorem Looks.step {F : Frameworks} (looks : Looks (.after history) s) (next : Next F s e s') :
    Looks (.after ((s, e) :: history)) s' := by
  obtain ⟨first, second, one⟩ := looks
  cases next with
  | direction1 =>
      cases is1 : s.is1Selected <;> constructor <;>
        simp_all [Buttons.after, Buttons.tapped1]
  | direction2 =>
      cases is2 : s.is2Selected <;> constructor <;>
        simp_all [Buttons.after, Buttons.tapped2]
  | _ => exact ⟨first, second, one⟩

/-- One button is filled, and it has the title. -/
def OnlyFilled (b : Buttons) (s : AddLinePage) (title : String) : Prop :=
  (b.direction1.Filled ∧ ¬ b.direction2.Filled ∧ s.direction1Title = some title) ∨
    (¬ b.direction1.Filled ∧ b.direction2.Filled ∧ s.direction2Title = some title)

theorem Looks.chosen (looks : Looks b s) {title : String} (chosen : s.chosenTitle = some title) :
    OnlyFilled b s title := by
  unfold chosenTitle at chosen
  split at chosen
  · rename_i is1
    refine Or.inl ⟨looks.first.2 is1, fun filled => ?_, chosen⟩
    exact looks.one ⟨is1, looks.second.1 filled⟩
  · rename_i not1
    split at chosen
    · rename_i is2
      exact Or.inr ⟨fun filled => not1 (looks.first.1 filled), looks.second.2 is2, chosen⟩
    · cases chosen

/-- A request that an Add tap issues is for the title of the chosen button. -/
theorem chosen_of_addStop {F : Frameworks} {documentID : String} {request : StopRequest}
    (stepped : s.step F (.addStop documentID) = some s') (issued : request ∈ s'.stopRequests)
    (new : request ∉ s.stopRequests) : s.chosenTitle = some request.direction := by
  rcases addStop_cases F stepped with ⟨-, message, rfl⟩ | ⟨form, passes, rfl⟩
  · exact absurd issued new
  · rw [(checked_eq_some.1 passes).2.2]
    have here := (List.mem_append.1 issued).resolve_left new
    unfold newStopRequests at here
    split at here
    · cases here
    · split at here
      · rw [List.mem_singleton.1 here]
      · cases here

/-- **What looks chosen.**  In every state reached the filled buttons are the selected ones, at
most one, and what Add then asks for is the title of the filled one. -/
theorem looks_of_run {F : Frameworks} (run : (addLinePage F).Run history s) :
    Looks (.after history) s ∧
      ∀ documentID s' request, s.step F (.addStop documentID) = some s' →
        request ∈ s'.stopRequests → request ∉ s.stopRequests →
        OnlyFilled (.after history) s request.direction := by
  have looks : Looks (.after history) s := by
    apply run.invariant (I := fun history s => Looks (.after history) s)
    · rintro s ⟨currentUser, store, rfl⟩
      exact ⟨by simp [Buttons.after], by simp [Buttons.after], by simp⟩
    · intro history s e s' _ looks enabled stepped
      exact looks.step (next_of_step F enabled stepped)
  exact ⟨looks, fun documentID s' request stepped issued new =>
    looks.chosen (chosen_of_addStop stepped issued new)⟩

theorem looks_of_run_bank :
    ∃ history s, (addLinePage .reference).Run history s ∧
      (Buttons.after history).direction1.Filled ∧
      (∃ s' request, s.step .reference (.addStop "a") = some s' ∧ request ∈ s'.stopRequests ∧
        OnlyFilled (.after history) s request.direction) := by
  obtain ⟨history, s, run, -, requests⟩ := Machine.exec_reaches (M := addLinePage .reference)
    (fun _ s => (s.is1Selected, s.stopRequests,
      (s.step .reference (.addStop "a")).map AddLinePage.stopRequests))
    ⟨some "u", .empty, rfl⟩ pickBank
    (true, [], some [⟨"u", "waterloo-city", "940GZZLUBNK", "Choose a Direction", "a", false⟩])
    (by decide)
  simp only [Prod.mk.injEq, Option.map_eq_some_iff] at requests
  obtain ⟨is1, nothing, s', stepped, issued⟩ := requests
  obtain ⟨looks, adds⟩ := looks_of_run run
  refine ⟨history, s, run, looks.first.2 is1, s', _, stepped,
    issued ▸ List.mem_singleton_self _, ?_⟩
  exact adds "a" s' _ stepped (issued ▸ List.mem_singleton_self _) (nothing ▸ List.not_mem_nil)

end AddLinePage

end MindTheGap
