/-
# Model.Screens -- the two pages that show a spinner, over one main queue

The add page and the sign-up page each show the spinner when their button is tapped, and
what they ask of it (`calls`) goes to the same two helpers.  An add tap or a sign-up tap
starts a flow, and a flow starts only when nothing is left of the one before (`Quiet`): no
request unanswered, no closure queued.  Who is signed in is the same for both.

A new add page may be pushed at any time.  The requests of the ones before it stay: their
completions hold on to the page they came from.
-/
import MindTheGap.Model.AddLinePage
import MindTheGap.Model.Login
import MindTheGap.Model.Spinner

namespace MindTheGap

open MindTheGap.Theory

set_option autoImplicit false

/-- Whose view an overlay is put on. -/
inductive Screen where
  | addLinePage
  | login
deriving DecidableEq, Repr

/-- The helper an effect of the add page calls. -/
def Effect.call : Effect → Option (SpinnerCall Screen)
  | .showSpinner => some (.showSpinner .addLinePage)
  | .removeSpinner => some .removeSpinner
  | _ => none

/-- The helper an effect of the sign-up page calls. -/
def LoginEffect.call : LoginEffect → Option (SpinnerCall Screen)
  | .showSpinner => some (.showSpinner .login)
  | .removeSpinner => some .removeSpinner
  | _ => none

structure Screens where
  addLinePage : AddLinePage
  login : Login
  spinner : Spinner Screen := {}

/-- One task of the main thread. -/
inductive Screens.Event where
  | addLinePage (e : AddLinePage.Event)
  | pushAddLinePage
  | edited (name email password : Option String)
  | login
  | created (creation : Nat) (outcome : AuthOutcome)
  | mainQueue
deriving DecidableEq, Repr

namespace Screens

/-- The requests of either page that are still to be answered. -/
def pending (s : Screens) : Nat :=
  s.addLinePage.stopRequests.countP (fun request => !request.answered) +
    s.login.creations.countP fun creation => !creation.answered

/-- No callback and no closure is pending. -/
structure Quiet (s : Screens) : Prop where
  callbacks : s.pending = 0
  closures : s.spinner.mainQueue = []

instance (s : Screens) : Decidable s.Quiet :=
  decidable_of_iff (s.pending = 0 ∧ s.spinner.mainQueue = [])
    ⟨fun ⟨callbacks, closures⟩ => ⟨callbacks, closures⟩, fun quiet => ⟨quiet.1, quiet.2⟩⟩

/-- A tap on Add. -/
def isAddTap : AddLinePage.Event → Bool
  | .addStop _ => true
  | _ => false

/-- The taps that start a flow wait for the last one; otherwise as on each page. -/
def Enabled (s : Screens) : Event → Prop
  | .addLinePage e => s.addLinePage.Enabled e ∧ (isAddTap e = true → s.Quiet)
  | .login => s.Quiet
  | .created creation _ => (s.login.creations[creation]?.map Creation.answered) = some false
  | .mainQueue => s.spinner.mainQueue ≠ []
  | _ => True

instance (s : Screens) (e : Event) : Decidable (s.Enabled e) :=
  match e with
  | .addLinePage _ => inferInstanceAs (Decidable (_ ∧ (_ → _)))
  | .pushAddLinePage => .isTrue trivial
  | .edited _ _ _ => .isTrue trivial
  | .login => inferInstanceAs (Decidable s.Quiet)
  | .created _ _ => inferInstanceAs (Decidable (_ = _))
  | .mainQueue => inferInstanceAs (Decidable (_ ≠ _))

/-- A page calls the helpers, in order. -/
def perform (s : Screens) (calls : List (SpinnerCall Screen)) : Screens :=
  { s with spinner := calls.foldl Spinner.call s.spinner }

/-- The add page after a step, and what the step asked for. -/
def afterAdd (s : Screens) (page : AddLinePage) : Screens :=
  perform { s with addLinePage := page }
    ((page.effects.drop s.addLinePage.effects.length).filterMap Effect.call)

/-- The sign-up page after a step, and what the step asked for. -/
def afterLogin (s : Screens) (page : Login) : Screens :=
  perform { s with login := page }
    ((page.effects.drop s.login.effects.length).filterMap LoginEffect.call)

/-- A new add page. -/
def pushAddLinePage (s : Screens) : Screens :=
  { s with addLinePage := {
      currentUser := s.addLinePage.currentUser
      stopRequests := s.addLinePage.stopRequests
      store := s.addLinePage.store } }

def step (F : Frameworks) (s : Screens) : Event → Option Screens
  | .addLinePage e => (s.addLinePage.step F e).map s.afterAdd
  | .pushAddLinePage => some s.pushAddLinePage
  | .edited name email password => some { s with login := { s.login with
      namefield := name, emailfield := email, passwordfield := password } }
  | .login => some (s.afterLogin s.login.login)
  | .created creation outcome =>
      some (s.afterLogin (s.login.created s.addLinePage.currentUser creation outcome))
  | .mainQueue => some { s with spinner := s.spinner.runMainQueue }

end Screens

/-- The two pages, from their presentation on. -/
def screens (F : Frameworks) : Machine Screens Screens.Event where
  Start s := ∃ currentUser store name email password,
    s = { addLinePage := { currentUser, store }, login := ⟨name, email, password, [], []⟩ }
  Enabled := Screens.Enabled
  step := Screens.step F

instance (F : Frameworks) (s : Screens) (e : Screens.Event) :
    Decidable ((screens F).Enabled s e) :=
  inferInstanceAs (Decidable (s.Enabled e))

end MindTheGap
