/-
# Model.Spinner -- the overlay that blocks a screen, and the two helpers

`showSpinner` makes a new overlay and names it in the global `vSpinner` at once, and
queues a closure that attaches it; `removeSpinner` queues a closure that detaches whatever
`vSpinner` names when it runs.  The main queue runs its oldest closure first.  Overlays
are numbered as they are made, so a number names one for good.
-/
import MindTheGap.Theory.Machine

namespace MindTheGap

set_option autoImplicit false

/-- What the closures change: the global, and the overlays with the view each is on. -/
structure Overlays (V : Type) where
  vSpinner : Option Nat := none
  attached : List (Nat × V) := []
deriving DecidableEq, Repr

/-- A closure the helpers queue. -/
inductive SpinnerTask (V : Type) where
  /-- `onView.addSubview(spinnerView)` -/
  | addSubview (spinnerView : Nat) (onView : V)
  /-- `vSpinner?.removeFromSuperview()`, then `vSpinner = nil` -/
  | removeFromSuperview
deriving DecidableEq, Repr

structure Spinner (V : Type) extends Overlays V where
  made : Nat := 0
  mainQueue : List (SpinnerTask V) := []
deriving DecidableEq, Repr

/-- A call of one of the helpers. -/
inductive SpinnerCall (V : Type) where
  | showSpinner (onView : V)
  | removeSpinner
deriving DecidableEq, Repr

variable {V : Type}

/-- The overlays but for those `vSpinner` names. -/
def Overlays.others (o : Overlays V) : List (Nat × V) :=
  o.attached.filter fun overlay => decide (o.vSpinner ≠ some overlay.1)

def Overlays.run (o : Overlays V) : SpinnerTask V → Overlays V
  | .addSubview spinnerView onView => { o with attached := o.attached ++ [(spinnerView, onView)] }
  | .removeFromSuperview => ⟨none, o.others⟩

namespace Spinner

def showSpinner (s : Spinner V) (onView : V) : Spinner V :=
  { s with
    made := s.made + 1
    mainQueue := s.mainQueue ++ [.addSubview s.made onView]
    vSpinner := some s.made }

def removeSpinner (s : Spinner V) : Spinner V :=
  { s with mainQueue := s.mainQueue ++ [.removeFromSuperview] }

def call (s : Spinner V) : SpinnerCall V → Spinner V
  | .showSpinner onView => s.showSpinner onView
  | .removeSpinner => s.removeSpinner

/-- The main queue runs its oldest closure. -/
def runMainQueue (s : Spinner V) : Spinner V :=
  match s.mainQueue with
  | [] => s
  | task :: tasks => { s with toOverlays := s.toOverlays.run task, mainQueue := tasks }

/-! ## The overlays once the queue has run -/

/-- What the queued closures come to. -/
def settled (s : Spinner V) : Overlays V :=
  s.mainQueue.foldl Overlays.run s.toOverlays

theorem settled_of_empty {s : Spinner V} (empty : s.mainQueue = []) : s.settled = s.toOverlays := by
  rw [settled, empty]
  rfl

@[simp] theorem settled_removeSpinner (s : Spinner V) :
    s.removeSpinner.settled = s.settled.run .removeFromSuperview := by
  simp [settled, removeSpinner]

/-- With nothing queued, a new overlay is attached and named. -/
theorem settled_showSpinner {s : Spinner V} (empty : s.mainQueue = []) (onView : V) :
    (s.showSpinner onView).settled = ⟨some s.made, s.attached ++ [(s.made, onView)]⟩ := by
  simp [settled, showSpinner, empty, Overlays.run]

@[simp] theorem settled_runMainQueue (s : Spinner V) : s.runMainQueue.settled = s.settled := by
  unfold runMainQueue settled
  split <;> rename_i queue
  · rfl
  · rw [queue]
    rfl

/-! ## The machine -/

/-- A call by some view controller, or a turn of the main queue. -/
inductive Event (V : Type) where
  | call (call : SpinnerCall V)
  | mainQueue
deriving DecidableEq, Repr

def Enabled (s : Spinner V) : Event V → Prop
  | .call _ => True
  | .mainQueue => s.mainQueue ≠ []

instance [DecidableEq V] (s : Spinner V) (e : Event V) : Decidable (s.Enabled e) :=
  match e with
  | .call _ => .isTrue trivial
  | .mainQueue => inferInstanceAs (Decidable (_ ≠ _))

def step (s : Spinner V) : Event V → Option (Spinner V)
  | .call call => some (s.call call)
  | .mainQueue => some s.runMainQueue

end Spinner

/-- The two helpers, from the start of the app on. -/
def spinnerHelpers (V : Type) : Theory.Machine (Spinner V) (Spinner.Event V) where
  Start s := s = {}
  Enabled := Spinner.Enabled
  step := Spinner.step

instance {V : Type} [DecidableEq V] (s : Spinner V) (e : Spinner.Event V) :
    Decidable ((spinnerHelpers V).Enabled s e) :=
  inferInstanceAs (Decidable (s.Enabled e))

end MindTheGap
