/-
# Model.Disruptions -- the collection of the lines' statuses

`viewDidLoad` asks once for the statuses of all lines.  The callback keeps what it decodes
at once, on whatever thread it runs, and only then queues the closure that reloads the
collection, so a layout in between finds the array already there.

The collection asks for the number of items when it is laid out or reloaded, and then for
the tile of any item below the number it was given last.  A tile comes from the pool of
those put by, or is a new one.
-/
import MindTheGap.Theory.Machine
import MindTheGap.Model.Cells

namespace MindTheGap

open MindTheGap.Theory

set_option autoImplicit false

/-- The statuses the home page holds, and the collection that shows them. -/
structure Disruptions where
  tubeStatus : List TubeStatus := []
  answered : Bool := false
  mainQueue : Nat := 0
  items : Nat := 0
  visible : List (Nat × DisruptionsCell) := []
  pool : List DisruptionsCell := []
deriving DecidableEq, Repr

namespace Disruptions

inductive Event where
  /-- The callback of the data task. -/
  | getTubeStatus (response : Response TubeStatus)
  /-- A closure on the main queue: `disruptionscollectionview.reloadData()`. -/
  | mainQueue
  | numberOfItemsInSection
  | cellForItemAt (row : Nat) (reused : Option Nat)
  | didEndDisplaying (tile : Nat)
deriving DecidableEq, Repr

/-- Decoding that throws leaves the array as it was, and the collection is reloaded. -/
def getTubeStatus (s : Disruptions) : Response TubeStatus → Disruptions
  | .noData => s
  | .undecodable => { s with mainQueue := s.mainQueue + 1 }
  | .decoded tubeStatus => { s with tubeStatus, mainQueue := s.mainQueue + 1 }

def numberOfItemsInSection (s : Disruptions) : Disruptions :=
  { s with items := s.tubeStatus.length }

/-- The tiles are put by, and the view asks for the number of items again. -/
def reloadData (s : Disruptions) : Disruptions :=
  numberOfItemsInSection { s with visible := [], pool := s.pool ++ s.visible.map Prod.snd }

/-- `dequeueReusableCell`: a tile that was put by, or a new one. -/
def dequeue (s : Disruptions) : Option Nat → Option (DisruptionsCell × List DisruptionsCell)
  | none => some ({}, s.pool)
  | some i => HomePage.removeAt s.pool i

def cellForItemAt (s : Disruptions) (row : Nat) (reused : Option Nat) : Option Disruptions := do
  let (cell, pool) ← s.dequeue reused
  let cell ← HomePage.disruptionsCell s.tubeStatus cell row
  return { s with visible := s.visible ++ [(row, cell)], pool }

def didEndDisplaying (s : Disruptions) (tile : Nat) : Option Disruptions := do
  let ((_, cell), visible) ← HomePage.removeAt s.visible tile
  return { s with visible, pool := s.pool ++ [cell] }

/-- The request is answered once, and the view asks only for items it was told of. -/
def Enabled (s : Disruptions) : Event → Prop
  | .getTubeStatus _ => s.answered = false
  | .mainQueue => 0 < s.mainQueue
  | .numberOfItemsInSection => True
  | .cellForItemAt row reused => row < s.items ∧ ∀ i ∈ reused, i < s.pool.length
  | .didEndDisplaying tile => tile < s.visible.length

instance (s : Disruptions) (e : Event) : Decidable (s.Enabled e) :=
  match e with
  | .getTubeStatus _ => inferInstanceAs (Decidable (_ = _))
  | .mainQueue => inferInstanceAs (Decidable (_ < _))
  | .numberOfItemsInSection => .isTrue trivial
  | .cellForItemAt _ _ => inferInstanceAs (Decidable (_ ∧ _))
  | .didEndDisplaying _ => inferInstanceAs (Decidable (_ < _))

/-- `none` is a trap. -/
def step (s : Disruptions) : Event → Option Disruptions
  | .getTubeStatus response => some (getTubeStatus { s with answered := true } response)
  | .mainQueue => some (reloadData { s with mainQueue := s.mainQueue - 1 })
  | .numberOfItemsInSection => some s.numberOfItemsInSection
  | .cellForItemAt row reused => s.cellForItemAt row reused
  | .didEndDisplaying tile => s.didEndDisplaying tile

end Disruptions

/-- The collection, from `viewDidLoad` on. -/
def disruptions : Machine Disruptions Disruptions.Event where
  Start s := s = {}
  Enabled := Disruptions.Enabled
  step := Disruptions.step

instance (s : Disruptions) (e : Disruptions.Event) : Decidable (disruptions.Enabled s e) :=
  inferInstanceAs (Decidable (s.Enabled e))

end MindTheGap
