/-
# Model.App -- the pages together, over one user and one store

The home page is there from launch on.  Add pages are pushed over it, each with the home
page as its delegate, and none is ever gone for good: a request in flight holds on to the
page that issued it.  When nobody is signed in at launch, the sign-up page is presented.

Firebase's user and its documents are the same for all of them.  The home page's copy
stands for both, and an add page acts on that (`page`).  `users` are the documents of the
sign-up page, and `documentIDs` the ids that are in use or were given out: a new document
gets another one.

What a page asks of the others is done within the step that asks for it: `addStop`'s
completion has its delegate refresh, a created account writes the user's document and
dismisses the sign-up page.  Which of the pages is on screen is not modelled, so any of
them may be tapped.
-/
import MindTheGap.Model.HomePage
import MindTheGap.Model.AddLinePage
import MindTheGap.Model.Login

namespace MindTheGap

open MindTheGap.Theory

set_option autoImplicit false

structure App where
  homePage : HomePage
  addLinePages : List AddLinePage := []
  /-- `handleLogout` is to be performed. -/
  logoutPending : Bool := false
  login : Option Login := none
  users : String → Option Fields
  documentIDs : List String

/-- One task of the main thread. -/
inductive App.Event where
  | homePage (e : MindTheGap.Event)
  | goToAddLine
  | addLinePage (page : Nat) (e : AddLinePage.Event)
  | handleLogout (signsOut : Bool)
  | edited (name email password : Option String)
  | login
  | created (creation : Nat) (outcome : AuthOutcome)
  | authChanged (uid : Option String)

namespace App

variable (F : Frameworks)

/-- An add page as it acts, on the user and the store of the app. -/
def page (s : App) (k : Nat) : Option AddLinePage :=
  s.addLinePages[k]?.map fun page =>
    { page with currentUser := s.homePage.currentUser, store := s.homePage.store }

/-! ## The functions between the pages -/

/-- `isLoggedIn`, in `viewDidLoad`. -/
def isLoggedIn (s : App) : App :=
  if s.homePage.currentUser = none then { s with logoutPending := true } else s

/-- Signing out may fail; the sign-up page is presented all the same. -/
def handleLogout (s : App) (signsOut : Bool) : App :=
  { s with
    homePage := { s.homePage with
      currentUser := if signsOut then none else s.homePage.currentUser }
    logoutPending := false
    login := some ⟨some "", some "", some "", [], []⟩ }

def goToAddLine (s : App) : App :=
  { s with addLinePages := s.addLinePages ++
      [{ currentUser := s.homePage.currentUser, store := s.homePage.store }] }

/-- What an add page asks of the home page, its delegate. -/
def perform (s : App) : Effect → App
  | .refreshData => { s with homePage := s.homePage.refreshData }
  | _ => s

/-- What the sign-up page asks of Firestore and of UIKit. -/
def performLogin (s : App) : LoginEffect → App
  | .setUser uid data =>
      { s with users := Function.update s.users uid (setDataMerge (s.users uid) data) }
  | .dismiss => { s with login := none }
  | _ => s

/-- The id an add tap takes. -/
def newDocumentIDs : AddLinePage.Event → List String
  | .addStop documentID => [documentID]
  | _ => []

/-- After the `k`-th add page stepped from `page` to `page'`. -/
def afterPage (s : App) (k : Nat) (e : AddLinePage.Event) (page page' : AddLinePage) : App :=
  (page'.effects.drop page.effects.length).foldl perform
    { s with
      homePage := { s.homePage with store := page'.store }
      addLinePages := s.addLinePages.set k page'
      documentIDs := newDocumentIDs e ++ s.documentIDs }

/-- After the sign-up page stepped from `page` to `page'`. -/
def afterLogin (s : App) (page page' : Login) : App :=
  (page'.effects.drop page.effects.length).foldl performLogin { s with login := some page' }

/-! ## The machine -/

/-- The home page's events that come to it from outside the app. -/
def fromOutside : MindTheGap.Event → Bool
  | .getSavedStops => false
  | .refreshData => false
  | .authChanged _ => false
  | _ => true

/-- The add page's likewise. -/
def pageFromOutside : AddLinePage.Event → Bool
  | .authChanged _ => false
  | _ => true

/-- As on each page; a new document's id was not used before. -/
def Enabled (s : App) : Event → Prop
  | .homePage e => fromOutside e = true ∧ s.homePage.Enabled e
  | .addLinePage k e => pageFromOutside e = true ∧ (∃ page ∈ s.page k, page.Enabled e) ∧
      ∀ documentID ∈ newDocumentIDs e, documentID ∉ s.documentIDs
  | .handleLogout _ => s.logoutPending = true
  | .edited _ _ _ => s.login.isSome = true
  | .login => s.login.isSome = true
  | .created k _ => (s.login.bind fun page => page.creations[k]?.map Creation.answered) = some false
  | _ => True

instance (s : App) (e : Event) : Decidable (s.Enabled e) :=
  match e with
  | .homePage _ => inferInstanceAs (Decidable (_ ∧ _))
  | .addLinePage _ _ => inferInstanceAs (Decidable (_ ∧ _ ∧ _))
  | .handleLogout _ => inferInstanceAs (Decidable (_ = _))
  | .edited _ _ _ => inferInstanceAs (Decidable (_ = _))
  | .login => inferInstanceAs (Decidable (_ = _))
  | .created _ _ => inferInstanceAs (Decidable (_ = _))
  | .goToAddLine => .isTrue trivial
  | .authChanged _ => .isTrue trivial

def step (s : App) : Event → Option App
  | .homePage e => (s.homePage.step F e).map fun page => { s with homePage := page }
  | .goToAddLine => some s.goToAddLine
  | .addLinePage k e => do
      let page ← s.page k
      let page' ← page.step F e
      return s.afterPage k e page page'
  | .handleLogout signsOut => some (s.handleLogout signsOut)
  | .edited name email password => some { s with login := s.login.map fun page =>
      { page with namefield := name, emailfield := email, passwordfield := password } }
  | .login => some { s with login := s.login.map Login.login }
  | .created k outcome =>
      match s.login with
      | none => some s
      | some page => some (s.afterLogin page (page.created s.homePage.currentUser k outcome))
  | .authChanged uid => some { s with homePage := { s.homePage with currentUser := uid } }

/-- Launch: the home page loads, which also finds out whether anyone is signed in. -/
def launch (currentUser : Option String) (store : Firestore) (users : String → Option Fields)
    (documentIDs : List String) : App :=
  isLoggedIn { homePage := HomePage.viewDidLoad currentUser store, users, documentIDs }

end App

/-- The app, from launch on.  The ids of the stops that are there are in use. -/
def app (F : Frameworks) : Machine App App.Event where
  Start s := ∃ currentUser store users documentIDs,
    (∀ ref, (store.savedStops ref).isSome = true → ref.documentID ∈ documentIDs) ∧
      s = App.launch currentUser store users documentIDs
  Enabled := App.Enabled
  step := App.step F

instance (F : Frameworks) (s : App) (e : App.Event) : Decidable ((app F).Enabled s e) :=
  inferInstanceAs (Decidable (s.Enabled e))

end MindTheGap
