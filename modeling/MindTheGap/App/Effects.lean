/-
# App.Effects -- what each step of the app changes

A step is one page's step, and of all the steps of the pages only two reach beyond the
page: the completion of `addStop` writes a stop and has the home page refresh, and a
created account writes the user's document and dismisses the sign-up page.  `Next` lists
them, and `next_of_step` is the only proof that unfolds the app's step.
-/
import MindTheGap.HomePage.Effects
import MindTheGap.AddLinePage.SavedStop
import MindTheGap.Model.App

namespace MindTheGap

open MindTheGap.Theory

set_option autoImplicit false

/-- The event is an answer that `addStop`'s completion is run on. -/
def AddLinePage.completes : AddLinePage.Event → Bool
  | .lineData _ response => response.records.isSome
  | _ => false

/-- A step of the add page leaves the store and the delegate alone, or it is the
completion of an `addStop`. -/
theorem AddLinePage.step_cases {F : Frameworks} {s s' : AddLinePage} {e : AddLinePage.Event}
    (next : AddLinePage.Next F s e s') :
    (completes e = false ∧ s'.store = s.store ∧
      Effect.refreshData ∉ s'.effects.drop s.effects.length) ∨
    ∃ k response request times data, e = .lineData k response ∧
      s.stopRequests[k]? = some request ∧ response.records = some times ∧
      F.sortByTime times = some data ∧ s' = { s with
        stopRequests := s.stopRequests.set k { request with answered := true }
        store := s.store.setStop request.ref (stopData request data.head?)
        effects := s.effects ++ [.refreshData, .removeSpinner, .popViewController] } := by
  cases next with
  | saved k response request times data issued records sorts =>
      exact Or.inr ⟨k, response, request, times, data, rfl, issued, records, sorts, rfl⟩
  | lookupAnswered k document id asked isId =>
      refine Or.inl ⟨rfl, rfl, ?_⟩
      simp only [List.drop_left, unsupportedAlert]
      split <;> simp
  | addRefused documentID message fails => exact Or.inl ⟨rfl, rfl, by simp [ask]⟩
  | added documentID form passes absent unused =>
      refine Or.inl ⟨rfl, rfl, ?_⟩
      cases user : s.currentUser <;> simp
  | noData k response request issued records =>
      exact Or.inl ⟨by simp [completes, records], rfl, by simp⟩
  | _ => exact Or.inl ⟨rfl, rfl, by simp⟩

namespace App

variable (F : Frameworks)

theorem page_eq_some {s : App} {k : Nat} {page : AddLinePage} :
    s.page k = some page ↔ ∃ kept, s.addLinePages[k]? = some kept ∧
      page = { kept with currentUser := s.homePage.currentUser, store := s.homePage.store } := by
  constructor
  · intro there
    obtain ⟨kept, found, rfl⟩ := Option.map_eq_some_iff.1 there
    exact ⟨kept, found, rfl⟩
  · rintro ⟨kept, found, rfl⟩
    exact Option.map_eq_some_iff.2 ⟨kept, found, rfl⟩

/-- Without a refresh, nothing is asked of the home page. -/
theorem foldl_perform_of_notMem (s : App) {effects : List Effect}
    (quiet : Effect.refreshData ∉ effects) : effects.foldl perform s = s := by
  induction effects with
  | nil => rfl
  | cons effect effects ih =>
      rw [List.mem_cons, not_or] at quiet
      have same : s.perform effect = s := by
        cases effect <;> first | rfl | exact absurd rfl quiet.1
      rw [List.foldl_cons, same, ih quiet.2]

/-- The app after an account was created. -/
def signedUp (s : App) (uid name : String) : App :=
  { s with
    users := Function.update s.users uid (setDataMerge (s.users uid) [("name", .string name)])
    login := none }

/-- Every step of the app that does not trap, with the state it leaves. -/
inductive Next (s : App) : Event → App → Prop
  | homePage (e : MindTheGap.Event) (page : HomePage) (outside : fromOutside e = true)
      (enabled : s.homePage.Enabled e) (stepped : s.homePage.step F e = some page) :
      Next s (.homePage e) { s with homePage := page }
  | goToAddLine : Next s .goToAddLine s.goToAddLine
  | addLinePage (k : Nat) (e : AddLinePage.Event) (page page' : AddLinePage)
      (outside : pageFromOutside e = true) (there : s.page k = some page)
      (enabled : page.Enabled e) (stepped : page.step F e = some page')
      (fresh : ∀ documentID ∈ newDocumentIDs e, documentID ∉ s.documentIDs)
      (quiet : AddLinePage.completes e = false) (keeps : page'.store = s.homePage.store) :
      Next s (.addLinePage k e)
        { s with
          addLinePages := s.addLinePages.set k page'
          documentIDs := newDocumentIDs e ++ s.documentIDs }
  | saved (k i : Nat) (response : Response TubeTimes) (page : AddLinePage)
      (request : StopRequest) (times data : List TubeTimes) (there : s.page k = some page)
      (issued : page.stopRequests[i]? = some request) (unanswered : request.answered = false)
      (records : response.records = some times) (sorts : F.sortByTime times = some data) :
      Next s (.addLinePage k (.lineData i response))
        { s with
          homePage := HomePage.refreshData { s.homePage with
            store := s.homePage.store.setStop request.ref
              (AddLinePage.stopData request data.head?) }
          addLinePages := s.addLinePages.set k { page with
            stopRequests := page.stopRequests.set i { request with answered := true }
            store := s.homePage.store.setStop request.ref
              (AddLinePage.stopData request data.head?)
            effects := page.effects ++ [.refreshData, .removeSpinner, .popViewController] } }
  | handleLogout (signsOut : Bool) : Next s (.handleLogout signsOut) (s.handleLogout signsOut)
  | edited (name email password : Option String) (login : Option Login) :
      Next s (.edited name email password) { s with login := login }
  | login (login : Option Login) : Next s .login { s with login := login }
  | refused (k : Nat) (outcome : AuthOutcome) (login : Option Login) :
      Next s (.created k outcome) { s with login := login }
  | signedUp (k : Nat) (uid : String) (page : Login) (creation : Creation)
      (there : s.login = some page) (asked : page.creations[k]? = some creation)
      (user : s.homePage.currentUser = some uid) :
      Next s (.created k .success) (s.signedUp uid creation.name)
  | authChanged (uid : Option String) : Next s (.authChanged uid)
      { s with homePage := { s.homePage with currentUser := uid } }

theorem next_of_paged {s s' : App} {k : Nat} {e : AddLinePage.Event}
    (enabled : s.Enabled (.addLinePage k e)) (stepped : s.step F (.addLinePage k e) = some s') :
    Next F s (.addLinePage k e) s' := by
  obtain ⟨outside, ⟨page, there, pageEnabled⟩, fresh⟩ := enabled
  rw [Option.mem_def] at there
  simp only [step, there, Option.bind_eq_bind, Option.bind_some, Option.pure_def,
    Option.bind_eq_some_iff, Option.some.injEq] at stepped
  obtain ⟨page', pageStepped, rfl⟩ := stepped
  obtain ⟨kept, -, isPage⟩ := page_eq_some.1 there
  have store : page.store = s.homePage.store := by rw [isPage]
  rcases AddLinePage.step_cases (AddLinePage.next_of_step F pageEnabled pageStepped) with
    ⟨quiet, keeps, unasked⟩ | ⟨i, response, request, times, data, rfl, issued, records, sorts, rfl⟩
  · have still : s.afterPage k e page page' = { s with
        addLinePages := s.addLinePages.set k page'
        documentIDs := newDocumentIDs e ++ s.documentIDs } := by
      rw [afterPage, foldl_perform_of_notMem _ unasked, keeps, store]
    rw [still]
    exact .addLinePage k e page page' outside there pageEnabled pageStepped fresh quiet
      (keeps.trans store)
  · have unanswered : request.answered = false := by
      simpa [AddLinePage.Enabled, issued] using pageEnabled
    have next := Next.saved (F := F) (s := s) k i response page request times data there issued
      unanswered records sorts
    simp only [afterPage, List.drop_left, store]
    exact next

theorem created_cases (s : App) (page : Login) (there : s.login = some page) (k : Nat)
    (outcome : AuthOutcome) :
    Next F s (.created k outcome)
      (s.afterLogin page (page.created s.homePage.currentUser k outcome)) := by
  cases asked : page.creations[k]? with
  | none =>
      have none_asked : s.afterLogin page (page.created s.homePage.currentUser k outcome) =
          { s with login := some page } := by
        simp [afterLogin, Login.created, asked]
      rw [none_asked]
      exact .refused k outcome _
  | some creation =>
      cases outcome with
      | error code =>
          have alerted : s.afterLogin page
              (page.created s.homePage.currentUser k (.error code)) = { s with
                login := some (page.created s.homePage.currentUser k (.error code)) } := by
            cases code <;>
              simp [afterLogin, Login.created, asked, Login.creationCallback,
                Login.creationError, Login.ask, performLogin]
          rw [alerted]
          exact .refused k _ _
      | success =>
          cases user : s.homePage.currentUser with
          | none =>
              have nobody : s.afterLogin page (page.created none k .success) =
                  { s with login := some (page.created none k .success) } := by
                simp [afterLogin, Login.created, asked, Login.creationCallback]
              rw [nobody]
              exact .refused k _ _
          | some uid =>
              have made : s.afterLogin page (page.created (some uid) k .success) =
                  s.signedUp uid creation.name := by
                simp [afterLogin, Login.created, asked, Login.creationCallback, Login.ask,
                  performLogin, App.signedUp]
              rw [made]
              exact .signedUp k uid page creation there asked user

/-- **What a step can do.** -/
theorem next_of_step {s s' : App} {e : Event} (enabled : s.Enabled e)
    (stepped : s.step F e = some s') : Next F s e s' := by
  cases e with
  | homePage e =>
      obtain ⟨page, pageStepped, rfl⟩ := Option.map_eq_some_iff.1 stepped
      exact .homePage e page enabled.1 enabled.2 pageStepped
  | goToAddLine =>
      cases stepped
      exact .goToAddLine
  | addLinePage k e => exact next_of_paged F enabled stepped
  | handleLogout signsOut =>
      cases stepped
      exact .handleLogout signsOut
  | edited name email password =>
      cases stepped
      exact .edited name email password _
  | login =>
      cases stepped
      exact .login _
  | created k outcome =>
      cases there : s.login with
      | none =>
          simp only [step, there, Option.some.injEq] at stepped
          have same : s = { s with login := none } := by rw [← there]
          rw [← stepped, same]
          exact .refused k outcome none
      | some page =>
          simp only [step, there, Option.some.injEq] at stepped
          rw [← stepped]
          exact created_cases F s page there k outcome
  | authChanged uid =>
      cases stepped
      exact .authChanged uid

/-- An add page is opened, a stop at Bank is added, and the answer saves it. -/
def saveBank : List Event :=
  .goToAddLine :: AddLinePage.addBank.map (.addLinePage 0) ++
    [.addLinePage 0 (.lineData 0 (.decoded [AddLinePage.bankArrival]))]

theorem saveBank_run :
    ∃ history s, (app .reference).Run history s ∧ history.map Prod.snd = saveBank.reverse ∧
      readString (s.homePage.store.savedStops ⟨"u", "d"⟩) "direction" =
        some "Westbound - Platform 7" :=
  Machine.exec_reaches (M := app .reference)
    (fun _ s => readString (s.homePage.store.savedStops ⟨"u", "d"⟩) "direction")
    ⟨some "u", .empty, fun _ => none, [], by simp [Firestore.empty], rfl⟩ saveBank
    (some "Westbound - Platform 7") (by decide)

end App

end MindTheGap
