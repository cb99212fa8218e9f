/-
# App.FirstSession -- a session that starts signed out

At launch the home page subscribes to the stops of whoever is signed in, and nobody is on
the first launch: the sign-up page is presented instead.  Nothing tells the home page that
an account was created.  Signing in, signing up and dismissing the sign-up page leave it as
it was made (`Blank`), without listeners, rows, times, timers or requests, until an Add tap
completes for a signed-in user and has it refresh (`blank_of_run`).
-/
import MindTheGap.App.Pages

namespace MindTheGap

open MindTheGap.Theory

set_option autoImplicit false

/-- The page as it is made, whoever is signed in and whatever is stored by now. -/
def HomePage.Blank (s : HomePage) : Prop := ∃ currentUser store, s = { currentUser, store }

/-- A blank page has asked for nothing, so nothing from outside can change it. -/
theorem HomePage.Blank.step {F : Frameworks} {s s' : HomePage} {e : MindTheGap.Event}
    (blank : s.Blank) (outside : App.fromOutside e = true) (enabled : s.Enabled e)
    (stepped : s.step F e = some s') : s'.Blank := by
  obtain ⟨currentUser, store, rfl⟩ := blank
  cases e with
  | getSavedStops => cases outside
  | refreshData => cases outside
  | stopsSnapshot k delivery =>
      cases delivery with
      | failed => exact absurd enabled (Nat.not_lt_zero k)
      | snapshot documents => exact absurd enabled.1 (Nat.not_lt_zero k)
  | timesSnapshot k delivery =>
      cases delivery with
      | failed => exact absurd enabled (Nat.not_lt_zero k)
      | snapshot contents => cases enabled
  | mainQueue => exact absurd rfl enabled
  | timerFired k => exact absurd enabled (Nat.not_lt_zero k)
  | response k response => cases enabled
  | hiddenContainerViewTapped indexPath =>
      cases indexPath with
      | some item => exact absurd enabled (Nat.not_lt_zero item)
      | none =>
          have ignored : s' = { currentUser, store } := by
            cases currentUser <;> exact (Option.some.inj stepped).symm
          exact ⟨currentUser, store, ignored⟩
  | moveItemAt source destination => exact absurd enabled.1 (Nat.not_lt_zero source)
  | authChanged uid => cases outside

namespace App

variable {F : Frameworks} {s s' : App} {e : Event}

theorem blank_step (blank : s.homePage.Blank) (next : Next F s e s')
    (unrefreshed : s.homePageEvent e = some .refreshData → s.homePage.currentUser = none) :
    s'.homePage.Blank := by
  cases next with
  | homePage event after outside enabled stepped => exact blank.step outside enabled stepped
  | saved k i response before request times data there issued unanswered records sorts =>
      have user := unrefreshed (if_pos (by simp [AddLinePage.completes, records]))
      obtain ⟨currentUser, store, isBlank⟩ := blank
      rw [isBlank] at user ⊢
      cases user
      exact ⟨none, _, rfl⟩
  | handleLogout signsOut =>
      obtain ⟨currentUser, store, isBlank⟩ := blank
      exact ⟨if signsOut then none else currentUser, store, by
        simp only [App.handleLogout, isBlank]⟩
  | authChanged uid =>
      obtain ⟨currentUser, store, isBlank⟩ := blank
      exact ⟨uid, store, by simp only [isBlank]⟩
  | _ => exact blank

/-- **Nothing is loaded until a stop was added.** -/
theorem blank_of_run {history : Machine.History App Event} (run : (app F).Run history s)
    (signedOut : (history.origin s).homePage.currentUser = none)
    (unrefreshed : ∀ x ∈ history, x.1.homePageEvent x.2 = some .refreshData →
      x.1.homePage.currentUser = none) : s.homePage.Blank := by
  have blank : (history.origin s).homePage.currentUser = none → s.homePage.Blank := by
    apply run.invariant_of
      (fun s e => s.homePageEvent e = some .refreshData → s.homePage.currentUser = none)
      (I := fun history s => (history.origin s).homePage.currentUser = none → s.homePage.Blank)
    · rintro s ⟨currentUser, store, users, documentIDs, -, rfl⟩ nobody
      rw [Machine.History.origin_nil, launch_eq, HomePage.viewDidLoad,
        HomePage.getSavedStops_eq] at nobody
      rw [launch_eq, HomePage.viewDidLoad, HomePage.getSavedStops_eq]
      have isNone : currentUser = none := nobody
      exact ⟨currentUser, store, by rw [isNone]; rfl⟩
    · intro history s e s' _ blank enabled unrefreshed stepped nobody
      rw [Machine.History.origin_cons] at nobody
      exact blank_step (blank nobody) (next_of_step F enabled stepped) unrefreshed
    · exact unrefreshed
  exact blank signedOut

/-- The first launch: somebody signs up, and opens a page to add a stop. -/
def firstLaunch : List Event :=
  [.handleLogout true, .edited (some "name") (some "email") (some "password"), .login,
    .authChanged (some "u"), .created 0 .success, .goToAddLine]

def isAnswer : Event → Bool
  | .addLinePage _ (.lineData _ _) => true
  | _ => false

theorem blank_of_run_signed_up :
    ∃ history s, (app .reference).Run history s ∧ s.login = none ∧
      readString (s.users "u") "name" = some "name" ∧
      s.homePage.currentUser = some "u" ∧ s.homePage.Blank := by
  obtain ⟨history, s, run, events, seen⟩ := Machine.exec_reaches (M := app .reference)
    (fun history s => (s.login.isNone, readString (s.users "u") "name", s.homePage.currentUser,
      (history.origin s).homePage.currentUser))
    ⟨none, .empty, fun _ => none, [], by simp [Firestore.empty], rfl⟩ firstLaunch
    (true, some "name", some "u", none) (by decide)
  simp only [Prod.mk.injEq, Option.isNone_iff_eq_none] at seen
  obtain ⟨dismissed, named, user, signedOut⟩ := seen
  refine ⟨history, s, run, dismissed, named, user, blank_of_run run signedOut ?_⟩
  rintro ⟨s₀, e₀⟩ member refresh
  have inside : e₀ ∈ firstLaunch := by
    rw [← List.mem_reverse, ← events]
    exact List.mem_map_of_mem member
  have other : ∀ e ∈ firstLaunch, isAnswer e = false := by decide
  have nothing := other e₀ inside
  cases e₀ with
  | addLinePage k event =>
      cases event with
      | lineData i response => cases nothing
      | _ => cases refresh
  | homePage event =>
      -- no event of the home page is among them
      simp [firstLaunch] at inside
  | _ => cases refresh

end App

end MindTheGap
