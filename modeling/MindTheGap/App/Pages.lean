/-
# App.Pages -- each page of the app runs as the page does alone

What holds of every run of the home page, or of an add page, should hold of it inside the
app, where the user signs in and out elsewhere, other pages write to the same store, and
the refreshes come from whichever add page saved.  `homePageOf` and `addLinePageOf` are the
two simulations, and `runs_homePage` and `runs_addLinePage` what they come to for a run.

The one difference is in the stops that the two see.  The home page never reads the stored
stops, only what is delivered to it, so its own machine may have kept other ones
(`withStops`).  An add page asks of them only that the id of a new document is free, which
the app promises for the ids of every page at once.
-/
import MindTheGap.App.Effects
import MindTheGap.Theory.Simulation

namespace MindTheGap

open MindTheGap.Theory

set_option autoImplicit false

namespace HomePage

/-- The page over a store with other stops. -/
def withStops (s : HomePage) (stops : DocRef → Option Fields) : HomePage :=
  { s with store := { s.store with savedStops := stops } }

theorem enabled_withStops (s : HomePage) (stops : DocRef → Option Fields) (e : Event) :
    (s.withStops stops).Enabled e ↔ s.Enabled e := by
  cases e with
  | stopsSnapshot k delivery => cases delivery <;> exact Iff.rfl
  | timesSnapshot k delivery => cases delivery <;> exact Iff.rfl
  | hiddenContainerViewTapped indexPath => cases indexPath <;> exact Iff.rfl
  | _ => exact Iff.rfl

/-- The stored stops do not decide what a step does. -/
theorem step_withStops {F : Frameworks} {s s' : HomePage} {e : Event}
    (stepped : s.step F e = some s') (stops : DocRef → Option Fields) :
    ∃ stops', (s.withStops stops).step F e = some (s'.withStops stops') := by
  cases e with
  | getSavedStops =>
      rw [step, getSavedStops_eq, Option.some.injEq] at stepped
      subst stepped
      exact ⟨stops, by rw [step, getSavedStops_eq]; rfl⟩
  | refreshData =>
      rw [step, refreshData_eq, Option.some.injEq] at stepped
      subst stepped
      exact ⟨stops, by rw [step, refreshData_eq]; rfl⟩
  | stopsSnapshot k delivery =>
      cases delivery with
      | failed =>
          cases stepped
          exact ⟨stops, rfl⟩
      | snapshot documents =>
          rw [step, savedStopsListener_snapshot, Option.some.injEq] at stepped
          subst stepped
          exact ⟨stops, by rw [step, savedStopsListener_snapshot]; rfl⟩
  | timesSnapshot k delivery =>
      cases stepped
      cases delivery <;> exact ⟨stops, rfl⟩
  | mainQueue =>
      cases stepped
      cases queue : s.mainQueue with
      | nil => exact ⟨stops, by simp [step, runMainQueue, withStops, queue]⟩
      | cons task tasks =>
          refine ⟨stops, ?_⟩
          have queue' : (s.withStops stops).mainQueue = task :: tasks := queue
          rw [step, runMainQueue_cons queue, runMainQueue_cons queue', runTask_eq, runTask_eq]
          rfl
  | timerFired k =>
      rw [step, timerFired_eq, Option.some.injEq] at stepped
      subst stepped
      exact ⟨stops, by rw [step, timerFired_eq]; rfl⟩
  | response k response =>
      refine ⟨stops, ?_⟩
      cases issued : s.requests[k]? with
      | none =>
          simp only [step, answer, issued, Option.some.injEq] at stepped
          simp [step, answer, withStops, issued, ← stepped]
      | some request =>
          rcases answer_cases F issued stepped with
            ⟨records, rfl⟩ | ⟨times, writes, records, ran, rfl⟩
          · simp [step, answer, withStops, issued, records]
          · simp [step, answer, withStops, issued, records, completion_eq, ran,
              Firestore.setArrivalTimes]
  | hiddenContainerViewTapped indexPath =>
      rcases s with ⟨_ | uid⟩
      · cases stepped
        exact ⟨stops, rfl⟩
      · cases indexPath with
        | none =>
            cases stepped
            exact ⟨stops, rfl⟩
        | some item =>
            simp only [step, hiddenContainerViewTapped, withStops] at stepped ⊢
            split at stepped
            · cases stepped
            · split at stepped
              · cases stepped
                exact ⟨stops, rfl⟩
              · cases stepped
                exact ⟨_, rfl⟩
  | moveItemAt source destination =>
      refine ⟨stops, ?_⟩
      simp only [step, moveItemAt, withStops, Option.bind_eq_bind, Option.bind_eq_some_iff,
        Option.pure_def, Option.some.injEq] at stepped ⊢
      obtain ⟨row, removed, entry, removed', rows, inserted, times, inserted', rfl⟩ := stepped
      exact ⟨row, removed, entry, removed', rows, inserted, times, inserted', rfl⟩
  | authChanged uid =>
      cases stepped
      exact ⟨stops, rfl⟩

end HomePage

namespace AddLinePage

/-- The page over another store. -/
def withStore (s : AddLinePage) (store : Firestore) : AddLinePage := { s with store := store }

theorem addStop_withStore {F : Frameworks} {s s' : AddLinePage} {documentID : String}
    (tapped : s.addStop F documentID = some s') (store : Firestore) :
    (s.withStore store).addStop F documentID = some (s'.withStore store) := by
  cases isLine : s.line with
  | none =>
      simp only [addStop, ask, isLine, Option.some.injEq] at tapped
      simp [addStop, ask, withStore, isLine, ← tapped]
  | some line =>
      cases isNaptan : s.naptan with
      | none =>
          simp only [addStop, ask, isLine, isNaptan, Option.some.injEq] at tapped
          simp [addStop, ask, withStore, isLine, isNaptan, ← tapped]
      | some naptan =>
          by_cases unselected : s.is1Selected = false ∧ s.is2Selected = false
          · simp only [addStop, ask, isLine, isNaptan, unselected, and_self, if_true,
              Option.some.injEq] at tapped
            simp [addStop, ask, withStore, isLine, isNaptan, unselected, ← tapped]
          · simp only [addStop, ask, isLine, isNaptan, unselected, if_false] at tapped
            simp only [addStop, ask, withStore, isLine, isNaptan, unselected, if_false]
            cases title : (if s.is1Selected then s.direction1Title else s.direction2Title) with
            | none => simp [title] at tapped
            | some title =>
                cases user : s.currentUser with
                | none =>
                    simp only [title, user, Option.some.injEq] at tapped
                    simp [← tapped]
                | some uid =>
                    simp only [title, user, getLineData, Option.some.injEq] at tapped
                    simp only [getLineData]
                    split at tapped <;> rename_i builds <;> simp [builds, ← tapped]

/-- The store does not decide what a step does either. -/
theorem step_withStore {F : Frameworks} {s s' : AddLinePage} {e : Event}
    (stepped : s.step F e = some s') (store : Firestore) :
    ∃ store', (s.withStore store).step F e = some (s'.withStore store') := by
  cases e with
  | didSelectItemAt item =>
      obtain ⟨name, isName, rfl⟩ := Option.map_eq_some_iff.1 stepped
      exact ⟨store, Option.map_eq_some_iff.2 ⟨name, isName, rfl⟩⟩
  | didSelectRow row =>
      obtain ⟨name, isName, rfl⟩ := Option.map_eq_some_iff.1 stepped
      exact ⟨store, Option.map_eq_some_iff.2 ⟨name, isName, rfl⟩⟩
  | naptanDocument k document =>
      obtain ⟨id, isId, rfl⟩ := Option.map_eq_some_iff.1 stepped
      refine ⟨store, Option.map_eq_some_iff.2 ⟨id, isId, ?_⟩⟩
      rw [naptanCompletion_eq, naptanCompletion_eq]
      rfl
  | directions k response =>
      rw [step, answerDirections_eq, Option.some.injEq] at stepped
      subst stepped
      exact ⟨store, by rw [step, answerDirections_eq]; rfl⟩
  | direction1 =>
      rw [step, direction1_eq, Option.some.injEq] at stepped
      subst stepped
      exact ⟨store, by rw [step, direction1_eq]; rfl⟩
  | direction2 =>
      rw [step, direction2_eq, Option.some.injEq] at stepped
      subst stepped
      exact ⟨store, by rw [step, direction2_eq]; rfl⟩
  | addStop documentID => exact ⟨store, addStop_withStore stepped store⟩
  | lineData k response =>
      cases issued : s.stopRequests[k]? with
      | none =>
          simp only [step, answerLineData, issued, Option.some.injEq] at stepped
          exact ⟨store, by simp [step, answerLineData, withStore, issued, ← stepped]⟩
      | some request =>
          rcases answerLineData_cases F issued stepped with
            ⟨records, rfl⟩ | ⟨times, data, records, sorts, rfl⟩
          · exact ⟨store, by simp [step, answerLineData, withStore, issued, records]⟩
          · exact ⟨_, answerLineData_handed F (s := s.withStore store) issued records sorts⟩
  | authChanged uid =>
      cases stepped
      exact ⟨store, rfl⟩

/-- A request after a step was there before it, for the same document and unanswered if it
still is, or the step was an add tap that issued it. -/
theorem stopRequests_next {F : Frameworks} {s s' : AddLinePage} {e : Event}
    (next : Next F s e s') {i : Nat} {request : StopRequest}
    (issued : s'.stopRequests[i]? = some request) :
    (∃ earlier, s.stopRequests[i]? = some earlier ∧ request.ref = earlier.ref ∧
      (request.answered = false → earlier.answered = false)) ∨
    (i = s.stopRequests.length ∧ e = .addStop request.documentID ∧
      s.currentUser = some request.uid) := by
  have answered : ∀ (k : Nat) (earlier : StopRequest), s.stopRequests[k]? = some earlier →
      (s.stopRequests.set k { earlier with answered := true })[i]? = some request →
      ∃ earlier, s.stopRequests[i]? = some earlier ∧ request.ref = earlier.ref ∧
        (request.answered = false → earlier.answered = false) := by
    intro k earlier found now
    rw [List.getElem?_set] at now
    split at now
    · rename_i same
      subst same
      rw [if_pos (List.getElem?_eq_some_iff.1 found).1, Option.some.injEq] at now
      subst now
      exact ⟨earlier, found, rfl, by rintro ⟨⟩⟩
    · exact ⟨request, now, rfl, id⟩
  cases next with
  | added documentID form passes absent unused =>
      rcases Nat.lt_or_ge i s.stopRequests.length with inside | beyond
      · rw [List.getElem?_append_left inside] at issued
        exact Or.inl ⟨request, issued, rfl, id⟩
      · rw [List.getElem?_append_right beyond] at issued
        obtain ⟨user, rfl, -⟩ := mem_newStopRequests (List.mem_of_getElem? issued)
        refine Or.inr ⟨?_, rfl, user⟩
        have first : i - s.stopRequests.length = 0 := by
          have short : (newStopRequests F s.currentUser form request.documentID).length ≤ 1 := by
            unfold newStopRequests
            split
            · exact Nat.zero_le 1
            · split <;> simp
          have within := (List.getElem?_eq_some_iff.1 issued).1
          omega
        omega
  | noData k response earlier found records => exact Or.inl (answered k earlier found issued)
  | saved k response earlier times data found records sorts =>
      exact Or.inl (answered k earlier found issued)
  | _ => exact Or.inl ⟨request, issued, rfl, id⟩

end AddLinePage

namespace App

variable {F : Frameworks}

/-! ## The home page -/

/-- The event of the home page that a step of the app amounts to. -/
def homePageEvent (s : App) : Event → Option MindTheGap.Event
  | .homePage e => some e
  | .addLinePage _ e => if AddLinePage.completes e then some .refreshData else none
  | .handleLogout signsOut =>
      some (.authChanged (if signsOut then none else s.homePage.currentUser))
  | .authChanged uid => some (.authChanged uid)
  | _ => none

/-- The home page of the app is that page, but for the stops it sees. -/
def HomePageIs (s : App) (page : HomePage) : Prop :=
  page = s.homePage.withStops page.store.savedStops

theorem homePageIs_step {s s' : App} {e : Event} (next : Next F s e s') {page : HomePage}
    (isPage : s.HomePageIs page) :
    (MindTheGap.homePage F).stuttering.Enabled page (s.homePageEvent e) ∧
      ∃ page', (MindTheGap.homePage F).stuttering.step page (s.homePageEvent e) = some page' ∧
        s'.HomePageIs page' := by
  -- an event that reaches the home page is taken by the page with the other stops
  have follow : ∀ event after, s.homePage.Enabled event → s.homePage.step F event = some after →
      page.Enabled event ∧ ∃ page', page.step F event = some page' ∧
        page' = after.withStops page'.store.savedStops := by
    intro event after enabled stepped
    rw [isPage]
    obtain ⟨stops', stepped'⟩ := HomePage.step_withStops stepped page.store.savedStops
    exact ⟨(HomePage.enabled_withStops _ _ _).2 enabled, _, stepped', rfl⟩
  have stay : ∀ after : App, after.homePage = s.homePage →
      (MindTheGap.homePage F).stuttering.Enabled page none ∧
        ∃ page', (MindTheGap.homePage F).stuttering.step page none = some page' ∧
          after.HomePageIs page' := by
    intro after same
    refine ⟨by rintro d ⟨⟩, page, rfl, ?_⟩
    rw [HomePageIs, same]
    exact isPage
  cases next with
  | homePage e after outside enabled stepped =>
      obtain ⟨enabled', page', stepped', isPage'⟩ := follow e after enabled stepped
      exact ⟨by rintro d ⟨⟩; exact enabled', page', stepped', isPage'⟩
  | goToAddLine => exact stay _ rfl
  | addLinePage k e before after outside there enabled stepped fresh quiet keeps =>
      rw [homePageEvent, if_neg (by simp [quiet])]
      exact stay _ rfl
  | saved k i response before request times data there issued unanswered records sorts =>
      rw [homePageEvent, if_pos (by simp [AddLinePage.completes, records])]
      refine ⟨by rintro d ⟨⟩; trivial, page.refreshData, rfl, ?_⟩
      rw [HomePageIs, isPage, HomePage.refreshData_eq, HomePage.refreshData_eq]
      rfl
  | handleLogout signsOut =>
      refine ⟨by rintro d ⟨⟩; trivial, _, rfl, ?_⟩
      rw [HomePageIs, isPage]
      rfl
  | edited name email password login => exact stay _ rfl
  | login login => exact stay _ rfl
  | refused k outcome login => exact stay _ rfl
  | signedUp k uid login creation there asked user => exact stay _ rfl
  | authChanged uid =>
      refine ⟨by rintro d ⟨⟩; trivial, _, rfl, ?_⟩
      rw [HomePageIs, isPage]
      rfl

theorem launch_eq (currentUser : Option String) (store : Firestore)
    (users : String → Option Fields) (documentIDs : List String) :
    App.launch currentUser store users documentIDs = {
      homePage := HomePage.viewDidLoad currentUser store
      logoutPending := currentUser.isNone
      users := users
      documentIDs := documentIDs } := by
  cases currentUser <;> rfl

/-- The home page's own machine follows the app. -/
def homePageOf (F : Frameworks) : Simulation (app F) (MindTheGap.homePage F) where
  rel := HomePageIs
  label := homePageEvent
  start := by
    rintro _ ⟨currentUser, store, users, documentIDs, -, rfl⟩
    refine ⟨_, ⟨currentUser, store, rfl⟩, ?_⟩
    rw [HomePageIs, launch_eq]
    rfl
  step _ isPage enabled stepped := homePageIs_step (next_of_step F enabled stepped) isPage

/-- **The home page of the app runs as the home page alone.**  The steps that reach it are a
run of its own machine, over the same rows, times, listeners, polls and user. -/
theorem runs_homePage {history : Machine.History App Event} {s : App}
    (run : (app F).Run history s) :
    ∃ history' page, (MindTheGap.homePage F).Run history' page ∧ s.HomePageIs page ∧
      List.Forall₂ (fun x y => x.1.HomePageIs y.1 ∧ x.1.homePageEvent x.2 = some y.2)
        (history.filter fun x => (x.1.homePageEvent x.2).isSome) history' :=
  (homePageOf F).run run

theorem runs_homePage_saved :
    ∃ history s, (app .reference).Run history s ∧ ∃ history' page,
      (MindTheGap.homePage .reference).Run history' page ∧ s.HomePageIs page ∧
      List.Forall₂ (fun x y => x.1.HomePageIs y.1 ∧ x.1.homePageEvent x.2 = some y.2)
        (history.filter fun x => (x.1.homePageEvent x.2).isSome) history' := by
  obtain ⟨history, s, run, -, -⟩ := saveBank_run
  exact ⟨history, s, run, runs_homePage run⟩

/-! ## The add pages -/

/-- The event of the `k`-th add page that a step of the app amounts to. -/
def addLinePageEvent (k : Nat) (s : App) : Event → Option AddLinePage.Event
  | .addLinePage k' e => if k' = k then some e else none
  | .handleLogout signsOut =>
      some (.authChanged (if signsOut then none else s.homePage.currentUser))
  | .authChanged uid => some (.authChanged uid)
  | _ => none

/-- The `k`-th add page, and before it is pushed the page it will be. -/
def pageOrNew (s : App) (k : Nat) : AddLinePage :=
  (s.page k).getD { currentUser := s.homePage.currentUser, store := s.homePage.store }

/-- The `k`-th add page is that page, but for the stops it sees. -/
structure AddLinePageIs (k : Nat) (s : App) (page : AddLinePage) : Prop where
  same : page = (s.pageOrNew k).withStore page.store
  /-- The ids of the stops it sees are in use, as are those of the stops it will make. -/
  seen : ∀ ref, (page.store.savedStops ref).isSome = true → ref.documentID ∈ s.documentIDs
  asked : ∀ request ∈ page.stopRequests, request.documentID ∈ s.documentIDs

variable {k : Nat} {s s' : App} {page : AddLinePage}

theorem AddLinePageIs.kept (isPage : AddLinePageIs k s page)
    (pages : s'.addLinePages[k]? = s.addLinePages[k]?)
    (user : s'.homePage.currentUser = s.homePage.currentUser)
    (ids : s.documentIDs ⊆ s'.documentIDs) : AddLinePageIs k s' page := by
  refine ⟨?_, fun ref there => ids (isPage.seen ref there),
    fun request member => ids (isPage.asked request member)⟩
  have same : (s'.pageOrNew k).withStore page.store = (s.pageOrNew k).withStore page.store := by
    unfold pageOrNew App.page
    rw [pages, user]
    cases s.addLinePages[k]? <;> rfl
  rw [same]
  exact isPage.same

/-- The user changes for the `k`-th page as for all of them. -/
theorem AddLinePageIs.authChanged (isPage : AddLinePageIs k s page) {uid : Option String}
    (pages : s'.addLinePages = s.addLinePages) (user : s'.homePage.currentUser = uid)
    (ids : s'.documentIDs = s.documentIDs) :
    AddLinePageIs k s' { page with currentUser := uid } := by
  refine ⟨?_, ?_, ?_⟩
  · have same := isPage.same
    unfold pageOrNew App.page at same ⊢
    rw [pages, user]
    rw [same]
    cases s.addLinePages[k]? <;> rfl
  · rw [ids]
    exact isPage.seen
  · rw [ids]
    exact isPage.asked

/-- The new page is the one that was expected. -/
theorem pageOrNew_goToAddLine (s : App) (k : Nat) (store : Firestore) :
    (s.goToAddLine.pageOrNew k).withStore store = (s.pageOrNew k).withStore store := by
  unfold pageOrNew App.page goToAddLine
  dsimp only
  rcases Nat.lt_trichotomy k s.addLinePages.length with earlier | rfl | later
  · rw [List.getElem?_append_left earlier]
  · simp [AddLinePage.withStore]
  · rw [List.getElem?_append_right later.le, List.getElem?_eq_none_iff.2 later.le]
    obtain ⟨more, isMore⟩ := Nat.exists_eq_add_of_lt later
    rw [isMore, Nat.add_assoc, Nat.add_sub_cancel_left]
    rfl

theorem currentUser_of_page {before after : AddLinePage} {e : AddLinePage.Event}
    (outside : pageFromOutside e = true) (next : AddLinePage.Next F before e after) :
    after.currentUser = before.currentUser := by
  cases next with
  | authChanged uid => cases outside
  | _ => rfl

/-- An event that reaches the `k`-th page is taken by the page with the other stops. -/
theorem AddLinePageIs.taken (isPage : AddLinePageIs k s page) {before after : AddLinePage}
    {e : AddLinePage.Event} (store : Firestore) (outside : pageFromOutside e = true)
    (there : s.page k = some before) (enabled : before.Enabled e)
    (stepped : before.step F e = some after)
    (fresh : ∀ documentID ∈ newDocumentIDs e, documentID ∉ s.documentIDs)
    (pages : s'.addLinePages[k]? = some (after.withStore store))
    (user : s'.homePage.currentUser = s.homePage.currentUser)
    (ids : s'.documentIDs = newDocumentIDs e ++ s.documentIDs) :
    (MindTheGap.addLinePage F).stuttering.Enabled page (some e) ∧
      ∃ page', (MindTheGap.addLinePage F).stuttering.step page (some e) = some page' ∧
        AddLinePageIs k s' page' := by
  have isBefore : page = before.withStore page.store := by
    have same := isPage.same
    rwa [pageOrNew, there] at same
  have enabled' : page.Enabled e := by
    rw [isBefore]
    cases e with
    | addStop documentID =>
        refine ⟨fun uid _ => ?_, enabled.2⟩
        have absent : ¬ (page.store.savedStops ⟨uid, documentID⟩).isSome = true := fun there =>
          fresh documentID List.mem_cons_self (isPage.seen _ there)
        show (page.store.savedStops ⟨uid, documentID⟩).isNone = true
        simpa using absent
    | _ => exact enabled
  obtain ⟨store', stepped'⟩ := AddLinePage.step_withStore stepped page.store
  rw [← isBefore] at stepped'
  have next := AddLinePage.next_of_step F enabled' stepped'
  refine ⟨by rintro d ⟨⟩; exact enabled', _, stepped', ?_, ?_, ?_⟩
  · obtain ⟨kept, -, rfl⟩ := page_eq_some.1 there
    have ofApp : after.currentUser = s.homePage.currentUser :=
      currentUser_of_page outside (AddLinePage.next_of_step F enabled stepped)
    have still : s'.pageOrNew k = (after.withStore s'.homePage.store) := by
      simp only [pageOrNew, App.page, pages, Option.map_some, Option.getD_some, user]
      rw [← ofApp]
      rfl
    rw [still]
    rfl
  · intro ref there'
    rw [ids]
    rcases AddLinePage.step_cases next with
      ⟨-, keeps, -⟩ | ⟨i, response, request, times, data, -, issued, -, -, saved⟩
    · rw [keeps] at there'
      exact List.mem_append_right _ (isPage.seen ref there')
    · by_cases same : ref = request.ref
      · rw [same]
        exact List.mem_append_right _ (isPage.asked request (List.mem_of_getElem? issued))
      · rw [saved] at there'
        have earlier : (page.store.savedStops ref).isSome = true := by
          simpa [Firestore.setStop, Function.update_of_ne same] using there'
        exact List.mem_append_right _ (isPage.seen ref earlier)
  · intro request member
    rw [ids, List.mem_append]
    obtain ⟨i, issued⟩ := List.mem_iff_getElem?.1 member
    rcases AddLinePage.stopRequests_next next issued with ⟨earlier, asked, same, -⟩ | ⟨-, rfl, -⟩
    · have sameID : request.documentID = earlier.documentID := congrArg DocRef.documentID same
      rw [sameID]
      exact Or.inr (isPage.asked earlier (List.mem_of_getElem? asked))
    · exact Or.inl List.mem_cons_self

/-- The home page's events from outside the app leave the user alone. -/
theorem currentUser_of_homePage {before after : HomePage} {e : MindTheGap.Event}
    (outside : fromOutside e = true) (next : HomePage.Next F before e after) :
    after.currentUser = before.currentUser := by
  cases next with
  | authChanged uid => cases outside
  | _ => rfl

theorem addLinePageIs_step {e : Event} (next : Next F s e s') (isPage : AddLinePageIs k s page) :
    (MindTheGap.addLinePage F).stuttering.Enabled page (s.addLinePageEvent k e) ∧
      ∃ page', (MindTheGap.addLinePage F).stuttering.step page (s.addLinePageEvent k e) =
        some page' ∧ AddLinePageIs k s' page' := by
  have stay : AddLinePageIs k s' page →
      (MindTheGap.addLinePage F).stuttering.Enabled page none ∧
        ∃ page', (MindTheGap.addLinePage F).stuttering.step page none = some page' ∧
          AddLinePageIs k s' page' :=
    fun isPage' => ⟨by rintro d ⟨⟩, page, rfl, isPage'⟩
  cases next with
  | homePage e after outside enabled stepped =>
      have user := currentUser_of_homePage outside (HomePage.next_of_step F enabled stepped)
      exact stay (isPage.kept rfl user (List.Subset.refl _))
  | goToAddLine =>
      refine stay ⟨?_, isPage.seen, isPage.asked⟩
      rw [pageOrNew_goToAddLine]
      exact isPage.same
  | addLinePage k' e before after outside there enabled stepped fresh quiet keeps =>
      by_cases same : k' = k
      · subst same
        rw [addLinePageEvent, if_pos rfl]
        obtain ⟨kept, found, -⟩ := page_eq_some.1 there
        refine isPage.taken after.store outside there enabled stepped fresh ?_ rfl rfl
        exact List.getElem?_set_self (List.getElem?_eq_some_iff.1 found).1
      · rw [addLinePageEvent, if_neg same]
        exact stay (isPage.kept (List.getElem?_set_ne same) rfl (List.subset_append_right _ _))
  | saved k' i response before request times data there issued unanswered records sorts =>
      by_cases same : k' = k
      · subst same
        rw [addLinePageEvent, if_pos rfl]
        obtain ⟨kept, found, -⟩ := page_eq_some.1 there
        have enabled : before.Enabled (.lineData i response) := by
          show (before.stopRequests[i]?.map StopRequest.answered) = some false
          rw [issued, Option.map_some, unanswered]
        have stepped : before.step F (.lineData i response) = _ :=
          AddLinePage.answerLineData_handed F issued records sorts
        refine isPage.taken (s.homePage.store.setStop request.ref
          (AddLinePage.stopData request data.head?)) rfl there enabled stepped
          (by rintro _ ⟨⟩) ?_ ?_ rfl
        · exact List.getElem?_set_self (List.getElem?_eq_some_iff.1 found).1
        · simp only [HomePage.refreshData_eq]
      · rw [addLinePageEvent, if_neg same]
        refine stay (isPage.kept (List.getElem?_set_ne same) ?_ (List.Subset.refl _))
        simp only [HomePage.refreshData_eq]
  | handleLogout signsOut =>
      exact ⟨by rintro d ⟨⟩; trivial, _, rfl, isPage.authChanged rfl rfl rfl⟩
  | edited name email password login => exact stay (isPage.kept rfl rfl (List.Subset.refl _))
  | login login => exact stay (isPage.kept rfl rfl (List.Subset.refl _))
  | refused k outcome login => exact stay (isPage.kept rfl rfl (List.Subset.refl _))
  | signedUp j uid login creation there asked user =>
      exact stay (isPage.kept rfl rfl (List.Subset.refl _))
  | authChanged uid => exact ⟨by rintro d ⟨⟩; trivial, _, rfl, isPage.authChanged rfl rfl rfl⟩

/-- An add page's own machine follows the app. -/
def addLinePageOf (F : Frameworks) (k : Nat) : Simulation (app F) (MindTheGap.addLinePage F) where
  rel := AddLinePageIs k
  label := addLinePageEvent k
  start := by
    rintro _ ⟨currentUser, store, users, documentIDs, inUse, rfl⟩
    refine ⟨_, ⟨currentUser, store, rfl⟩, ?_, ?_, by rintro request ⟨⟩⟩
    · rw [launch_eq, HomePage.viewDidLoad, HomePage.getSavedStops_eq]
      rfl
    · rw [launch_eq]
      exact inUse
  step _ isPage enabled stepped := addLinePageIs_step (next_of_step F enabled stepped) isPage

/-- **Every add page of the app runs as the add page alone**, whatever the others do. -/
theorem runs_addLinePage (k : Nat) {history : Machine.History App Event} {s : App}
    (run : (app F).Run history s) :
    ∃ history' page, (MindTheGap.addLinePage F).Run history' page ∧ AddLinePageIs k s page ∧
      List.Forall₂ (fun x y => AddLinePageIs k x.1 y.1 ∧ addLinePageEvent k x.1 x.2 = some y.2)
        (history.filter fun x => (addLinePageEvent k x.1 x.2).isSome) history' :=
  (addLinePageOf F k).run run

theorem runs_addLinePage_saved :
    ∃ history s, (app .reference).Run history s ∧ ∃ history' page,
      (MindTheGap.addLinePage .reference).Run history' page ∧ AddLinePageIs 0 s page ∧
      List.Forall₂ (fun x y => AddLinePageIs 0 x.1 y.1 ∧ addLinePageEvent 0 x.1 x.2 = some y.2)
        (history.filter fun x => (addLinePageEvent 0 x.1 x.2).isSome) history' := by
  obtain ⟨history, s, run, -, -⟩ := saveBank_run
  exact ⟨history, s, run, runs_addLinePage 0 run⟩

end App

end MindTheGap
