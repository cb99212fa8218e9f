/-
# App.SavedStops -- the life of a stored stop

What is a saved stop meant to be?  A record that one tap on Add makes and one tap on its
row's delete area removes (`Theory.Lifecycle`).  The code writes it with a merge, which
could as well change a stop that is there or bring back one that was deleted, and any
number of add pages may have requests in flight whose completions write.

`savedStopsOf` shows that the app is such a store all the same: every request has a
document id of its own (`Requests`), is answered once, and until then its document is not
there.  So a stop is written once, keeps its fields for as long as it is there, and never
comes back (`stop_oneLife`); and what is there was there at launch or is what one Add tap
asked for, on a form that passed the checks (`stop_from`).
-/
import MindTheGap.App.Pages
import MindTheGap.HomePage.Writes
import MindTheGap.Theory.Lifecycle

namespace MindTheGap

open MindTheGap.Theory

set_option autoImplicit false

/-- **What one step of the home page does to a stop.** -/
theorem HomePage.savedStops_step {F : Frameworks} {s s' : HomePage} {e : Event}
    (next : Next F s e s') (ref : DocRef) :
    s'.store.savedStops ref = if s.deletes ref e then none else s.store.savedStops ref := by
  cases next with
  | tapIgnored indexPath nothing => simp [deletes, nothing]
  | deleted item deleted isTapped =>
      by_cases same : ref = deleted
      · subst same
        simp [deletes, isTapped, Firestore.deleteArrivalTimes, Firestore.deleteStop]
      · have away : deleted ≠ ref := fun h => same h.symm
        simp [deletes, isTapped, away, Firestore.deleteArrivalTimes, Firestore.deleteStop,
          Function.update_of_ne same]
  | _ => rfl

namespace App

variable {F : Frameworks} {s s' : App} {e : Event}

/-- A stored stop. -/
def stop (s : App) (ref : DocRef) : Option Fields := s.homePage.store.savedStops ref

/-! ## The requests of the add pages -/

/-- The `i`-th request that the `k`-th page issued. -/
def stopRequest (s : App) (k i : Nat) : Option StopRequest :=
  s.addLinePages[k]?.bind fun page => page.stopRequests[i]?

theorem stopRequest_of_page {k : Nat} {page : AddLinePage} (there : s.page k = some page)
    (i : Nat) : s.stopRequest k i = page.stopRequests[i]? := by
  obtain ⟨kept, found, rfl⟩ := page_eq_some.1 there
  simp [stopRequest, found]

theorem stopRequest_set {k : Nat} {page page' : AddLinePage} (there : s.page k = some page)
    (pages : s'.addLinePages = s.addLinePages.set k page') (k' i : Nat) :
    s'.stopRequest k' i = if k' = k then page'.stopRequests[i]? else s.stopRequest k' i := by
  obtain ⟨kept, found, -⟩ := page_eq_some.1 there
  unfold stopRequest
  rw [pages, List.getElem?_set]
  by_cases same : k' = k
  · rw [if_pos same, if_pos same.symm, if_pos (List.getElem?_eq_some_iff.1 found).1]
    rfl
  · rw [if_neg same, if_neg fun h => same h.symm]

theorem stopRequest_goToAddLine (s : App) (k i : Nat) :
    s.goToAddLine.stopRequest k i = s.stopRequest k i := by
  unfold stopRequest goToAddLine
  dsimp only
  rcases Nat.lt_trichotomy k s.addLinePages.length with earlier | rfl | later
  · rw [List.getElem?_append_left earlier]
  · simp
  · rw [List.getElem?_eq_none_iff.2 later.le, List.getElem?_eq_none_iff.2]
    rw [List.length_append]
    exact later

/-- A request was there before the step, or the step is the Add tap that issued it, with an
id that was not in use. -/
theorem stopRequest_step (next : Next F s e s') {k i : Nat} {request : StopRequest}
    (issued : s'.stopRequest k i = some request) :
    (∃ earlier, s.stopRequest k i = some earlier ∧ request.ref = earlier.ref ∧
      (request.answered = false → earlier.answered = false)) ∨
    (e = .addLinePage k (.addStop request.documentID) ∧
      (∃ page ∈ s.page k, i = page.stopRequests.length) ∧
      s.homePage.currentUser = some request.uid ∧ request.documentID ∉ s.documentIDs ∧
      request.documentID ∈ s'.documentIDs) := by
  -- what the step of a page says of its requests, for the page that took it
  have paged : ∀ (k' : Nat) (event : AddLinePage.Event) (before after : AddLinePage),
      s.page k' = some before → AddLinePage.Next F before event after →
      s'.addLinePages = s.addLinePages.set k' after → e = .addLinePage k' event →
      (∀ documentID ∈ newDocumentIDs event, documentID ∉ s.documentIDs) →
      s'.documentIDs = newDocumentIDs event ++ s.documentIDs →
      (∃ earlier, s.stopRequest k i = some earlier ∧ request.ref = earlier.ref ∧
        (request.answered = false → earlier.answered = false)) ∨
      (e = .addLinePage k (.addStop request.documentID) ∧
        (∃ page ∈ s.page k, i = page.stopRequests.length) ∧
        s.homePage.currentUser = some request.uid ∧ request.documentID ∉ s.documentIDs ∧
        request.documentID ∈ s'.documentIDs) := by
    intro k' event before after there pageNext pages isEvent fresh ids
    rw [stopRequest_set there pages] at issued
    split at issued
    · rename_i same
      subst same
      rcases AddLinePage.stopRequests_next pageNext issued with earlier | ⟨isLast, rfl, user⟩
      · rw [stopRequest_of_page there]
        exact Or.inl earlier
      · obtain ⟨kept, -, rfl⟩ := page_eq_some.1 there
        refine Or.inr ⟨isEvent, ⟨_, there, isLast⟩, user, fresh _ List.mem_cons_self, ?_⟩
        rw [ids]
        exact List.mem_cons_self
    · exact Or.inl ⟨request, issued, rfl, id⟩
  cases next with
  | goToAddLine =>
      rw [stopRequest_goToAddLine] at issued
      exact Or.inl ⟨request, issued, rfl, id⟩
  | addLinePage k' event before after outside there enabled stepped fresh quiet keeps =>
      exact paged k' event before after there (AddLinePage.next_of_step F enabled stepped) rfl rfl
        fresh rfl
  | saved k' i' response before answered times data there found unanswered records sorts =>
      obtain ⟨kept, -, isBefore⟩ := page_eq_some.1 there
      have store : before.store = s.homePage.store := by rw [isBefore]
      have pageNext := AddLinePage.Next.saved (F := F) i' response answered times data found
        records sorts
      rw [store] at pageNext
      exact paged k' _ before _ there pageNext rfl rfl (by rintro _ ⟨⟩) rfl
  | _ => exact Or.inl ⟨request, issued, rfl, id⟩

theorem documentIDs_step (next : Next F s e s') : s.documentIDs ⊆ s'.documentIDs := by
  cases next with
  | addLinePage k event before after outside there enabled stepped fresh quiet keeps =>
      exact List.subset_append_right _ _
  | _ => exact List.Subset.refl _

/-- Every request of an Add tap has a document id of its own. -/
structure Requests (s : App) : Prop where
  inUse : ∀ {k i : Nat} {request : StopRequest}, s.stopRequest k i = some request →
    request.documentID ∈ s.documentIDs
  once : ∀ {k i k' i' : Nat} {request request' : StopRequest},
    s.stopRequest k i = some request → s.stopRequest k' i' = some request' →
    request.documentID = request'.documentID → k = k' ∧ i = i'

theorem Requests.step (requests : Requests s) (next : Next F s e s') : Requests s' := by
  constructor
  · intro k i request issued
    rcases stopRequest_step next issued with ⟨earlier, asked, same, -⟩ | ⟨-, -, -, -, inUse⟩
    · have sameID : request.documentID = earlier.documentID := congrArg DocRef.documentID same
      rw [sameID]
      exact documentIDs_step next (requests.inUse asked)
    · exact inUse
  · intro k i k' i' request request' issued issued' sameID
    rcases stopRequest_step next issued with
      ⟨earlier, asked, same, -⟩ | ⟨isAdd, ⟨page, there, last⟩, -, fresh, -⟩ <;>
    rcases stopRequest_step next issued' with
      ⟨earlier', asked', same', -⟩ | ⟨isAdd', ⟨page', there', last'⟩, -, fresh', -⟩
    · have one : request.documentID = earlier.documentID := congrArg DocRef.documentID same
      have two : request'.documentID = earlier'.documentID := congrArg DocRef.documentID same'
      exact requests.once asked asked' (one.symm.trans (sameID.trans two))
    · -- an earlier one and a new one
      have one : request.documentID = earlier.documentID := congrArg DocRef.documentID same
      exact absurd (requests.inUse asked) (by rw [← one, sameID]; exact fresh')
    · have two : request'.documentID = earlier'.documentID := congrArg DocRef.documentID same'
      exact absurd (requests.inUse asked') (by rw [← two, ← sameID]; exact fresh)
    · have samePage : k = k' := (Event.addLinePage.inj (isAdd.symm.trans isAdd')).1
      subst samePage
      rw [Option.mem_def] at there there'
      cases there.symm.trans there'
      exact ⟨rfl, last.trans last'.symm⟩

theorem requests_of_run {history : Machine.History App Event} (run : (app F).Run history s) :
    Requests s := by
  apply run.invariant (I := fun _ s => Requests s)
  · rintro s ⟨currentUser, store, users, documentIDs, -, rfl⟩
    rw [launch_eq]
    exact ⟨fun issued => by simp [stopRequest] at issued,
      fun issued => by simp [stopRequest] at issued⟩
  · intro history s e s' _ requests enabled stepped
    exact requests.step (next_of_step F enabled stepped)

/-! ## The stops as records -/

/-- What a step does to the record of a stop, if anything. -/
def stopEvent (F : Frameworks) (s : App) : Event → Option (LifeEvent DocRef Fields)
  | .homePage (.hiddenContainerViewTapped indexPath) => do
      let ref ← s.homePage.tappedStop indexPath
      let _ ← s.stop ref
      return .remove ref
  | .addLinePage k (.lineData i response) => do
      let request ← s.stopRequest k i
      let times ← response.records
      let data ← F.sortByTime times
      return .create request.ref (Doc.empty.merge (AddLinePage.stopData request data.head?))
  | _ => none

/-- The stored stops are the live records, and the unborn ones are free to be made. -/
structure StopsAre (s : App) (life : DocRef → Life Fields) : Prop where
  looks : ∀ ref, s.stop ref = (life ref).contents
  unused : ∀ ref, ref.documentID ∉ s.documentIDs → life ref = .unborn
  pending : ∀ k i request, s.stopRequest k i = some request → request.answered = false →
    life request.ref = .unborn

variable {life : DocRef → Life Fields}

/-- Steps that leave the stored stops as they are. -/
theorem StopsAre.kept (stopsAre : StopsAre s life) (next : Next F s e s')
    (stops : ∀ ref, s'.stop ref = s.stop ref) : StopsAre s' life := by
  refine ⟨fun ref => (stops ref).trans (stopsAre.looks ref), ?_, ?_⟩
  · intro ref unused
    exact stopsAre.unused ref fun inUse => unused (documentIDs_step next inUse)
  · intro k i request issued unanswered
    rcases stopRequest_step next issued with ⟨earlier, asked, same, unanswered'⟩ |
      ⟨-, -, -, fresh, -⟩
    · rw [same]
      exact stopsAre.pending k i earlier asked (unanswered' unanswered)
    · exact stopsAre.unused request.ref fresh

theorem StopsAre.removed {ref : DocRef} {fields : Fields} (stopsAre : StopsAre s life)
    (next : Next F s e s') (live : life ref = .live fields)
    (stops : ∀ other, s'.stop other = if other = ref then none else s.stop other) :
    StopsAre s' (Function.update life ref .gone) := by
  have away : ∀ other, life other = .unborn → Function.update life ref .gone other = .unborn := by
    intro other unborn
    have another : other ≠ ref := by
      rintro rfl
      cases unborn.symm.trans live
    rw [Function.update_of_ne another, unborn]
  refine ⟨?_, ?_, ?_⟩
  · intro other
    rw [stops other]
    by_cases same : other = ref
    · rw [if_pos same, same, Function.update_self, Life.contents_gone]
    · rw [if_neg same, Function.update_of_ne same, stopsAre.looks other]
  · intro other unused
    exact away other (stopsAre.unused other fun inUse => unused (documentIDs_step next inUse))
  · intro k i request issued unanswered
    rcases stopRequest_step next issued with ⟨earlier, asked, same, unanswered'⟩ |
      ⟨-, -, -, fresh, -⟩
    · rw [same]
      exact away _ (stopsAre.pending k i earlier asked (unanswered' unanswered))
    · exact away _ (stopsAre.unused request.ref fresh)

theorem StopsAre.created {k i : Nat} {answered : StopRequest} {fields : Fields}
    (stopsAre : StopsAre s life) (next : Next F s e s') (requests : Requests s)
    (issued : s.stopRequest k i = some answered)
    (after : s'.stopRequest k i = some { answered with answered := true })
    (stops : ∀ other, s'.stop other = if other = answered.ref then some fields else s.stop other) :
    StopsAre s' (Function.update life answered.ref (.live fields)) := by
  refine ⟨?_, ?_, ?_⟩
  · intro other
    rw [stops other]
    by_cases same : other = answered.ref
    · rw [if_pos same, same, Function.update_self, Life.contents_live]
    · rw [if_neg same, Function.update_of_ne same, stopsAre.looks other]
  · intro other unused
    have unused' : other.documentID ∉ s.documentIDs :=
      fun inUse => unused (documentIDs_step next inUse)
    have another : other ≠ answered.ref := by
      rintro rfl
      exact unused' (requests.inUse issued)
    rw [Function.update_of_ne another, stopsAre.unused other unused']
  · intro k' i' request issued' unanswered
    rcases stopRequest_step next issued' with ⟨earlier, asked, same, unanswered'⟩ |
      ⟨-, -, -, fresh, -⟩
    · have another : request.ref ≠ answered.ref := by
        -- its id is its own, so it would be the one that was answered
        intro sameRef
        obtain ⟨rfl, rfl⟩ := requests.once asked issued
          (congrArg DocRef.documentID (same.symm.trans sameRef))
        cases after.symm.trans issued'
        cases unanswered
      rw [Function.update_of_ne another, same]
      exact stopsAre.pending k' i' earlier asked (unanswered' unanswered)
    · have another : request.ref ≠ answered.ref := by
        intro sameRef
        have sameID : request.documentID = answered.documentID :=
          congrArg DocRef.documentID sameRef
        exact fresh (sameID ▸ requests.inUse issued)
      rw [Function.update_of_ne another]
      exact stopsAre.unused request.ref fresh

theorem stopsAre_step (requests : Requests s) (next : Next F s e s')
    (stopsAre : StopsAre s life) :
    (lifecycle DocRef Fields).stuttering.Enabled life (s.stopEvent F e) ∧
      ∃ life', (lifecycle DocRef Fields).stuttering.step life (s.stopEvent F e) = some life' ∧
        StopsAre s' life' := by
  have stay : (∀ ref, s'.stop ref = s.stop ref) →
      (lifecycle DocRef Fields).stuttering.Enabled life none ∧
        ∃ life', (lifecycle DocRef Fields).stuttering.step life none = some life' ∧
          StopsAre s' life' :=
    fun stops => ⟨by rintro d ⟨⟩, life, rfl, stopsAre.kept next stops⟩
  have taken := next
  cases next with
  | homePage event after outside enabled stepped =>
      have next' := HomePage.savedStops_step (HomePage.next_of_step F enabled stepped)
      cases event with
      | hiddenContainerViewTapped indexPath =>
          cases tapped : s.homePage.tappedStop indexPath with
          | none =>
              simp only [stopEvent, tapped, Option.bind_eq_bind, Option.bind_none]
              refine stay fun ref => ?_
              simpa [stop, HomePage.deletes, tapped] using next' ref
          | some ref =>
              have stops : ∀ other, stop { s with homePage := after } other =
                  if other = ref then none else s.stop other := by
                intro other
                simpa [stop, HomePage.deletes, tapped, eq_comm] using next' other
              cases there : s.stop ref with
              | none =>
                  simp only [stopEvent, tapped, there, Option.bind_eq_bind, Option.bind_some,
                    Option.bind_none]
                  refine stay fun other => ?_
                  rw [stops other]
                  split
                  · rename_i same
                    rw [same, there]
                  · rfl
              | some fields =>
                  simp only [stopEvent, tapped, there, Option.bind_eq_bind, Option.bind_some,
                    Option.pure_def]
                  have live : life ref = .live fields := by
                    rw [← Life.contents_eq_some, ← stopsAre.looks ref, there]
                  refine ⟨?_, _, rfl, stopsAre.removed taken live stops⟩
                  rintro d ⟨⟩
                  exact ⟨fields, live⟩
      | _ => exact stay fun ref => next' ref
  | goToAddLine => exact stay fun ref => rfl
  | addLinePage k event before after outside there enabled stepped fresh quiet keeps =>
      cases event with
      | lineData i response =>
          have nothing : response.records = none := by
            simpa [AddLinePage.completes] using quiet
          have label : s.stopEvent F (.addLinePage k (.lineData i response)) = none := by
            cases found : s.stopRequest k i <;> simp [stopEvent, found, nothing]
          rw [label]
          exact stay fun ref => rfl
      | _ => exact stay fun ref => rfl
  | saved k i response before request times data there issued unanswered records sorts =>
      have issued' : s.stopRequest k i = some request := by
        rw [stopRequest_of_page there, issued]
      have label : s.stopEvent F (.addLinePage k (.lineData i response)) =
          some (.create request.ref
            (Doc.empty.merge (AddLinePage.stopData request data.head?))) := by
        simp [stopEvent, issued', records, sorts]
      have unborn := stopsAre.pending k i request issued' unanswered
      have absent : s.homePage.store.savedStops request.ref = none := by
        have looks := stopsAre.looks request.ref
        rwa [unborn] at looks
      rw [label]
      refine ⟨by rintro d ⟨⟩; exact unborn, _, rfl,
        stopsAre.created taken requests issued' ?_ ?_⟩
      · rw [stopRequest_set there rfl, if_pos rfl]
        exact List.getElem?_set_self (List.getElem?_eq_some_iff.1 issued).1
      · intro other
        simp only [stop, HomePage.refreshData_eq]
        by_cases same : other = request.ref
        · rw [if_pos same, same]
          exact Firestore.setStop_new absent _
        · rw [if_neg same]
          exact Function.update_of_ne same _ _
  | _ => exact stay fun ref => rfl

/-- The app is a store of records that are made once and removed for good. -/
def savedStopsOf (F : Frameworks) : Simulation (app F) (lifecycle DocRef Fields) where
  rel := StopsAre
  label := stopEvent F
  start := by
    rintro _ ⟨currentUser, store, users, documentIDs, inUse, rfl⟩
    have stored : ∀ ref, (App.launch currentUser store users documentIDs).stop ref =
        store.savedStops ref := by
      intro ref
      rw [launch_eq, stop, HomePage.viewDidLoad, HomePage.getSavedStops_eq]
    refine ⟨fun ref => (store.savedStops ref).elim .unborn .live, ?_, ?_, ?_, ?_⟩
    · intro ref
      cases found : store.savedStops ref <;> simp [found]
    · intro ref
      rw [stored ref]
      cases store.savedStops ref <;> simp
    · intro ref unused
      rw [launch_eq] at unused
      cases found : store.savedStops ref with
      | none => rfl
      | some fields => exact absurd (inUse ref (by rw [found]; rfl)) unused
    · intro k i request issued
      rw [launch_eq] at issued
      simp [stopRequest] at issued
  step run stopsAre enabled stepped :=
    stopsAre_step (requests_of_run run) (next_of_step F enabled stepped) stopsAre

/-- **A stop has one life.**  Over a run the document of a saved stop is absent, then there
with the same fields all along, then absent again for good. -/
theorem stop_oneLife {history : Machine.History App Event} (run : (app F).Run history s)
    (ref : DocRef) : Life.OneLife ((s :: history.map Prod.fst).map fun s => s.stop ref) :=
  (savedStopsOf F).oneLife stop (fun _ _ stopsAre => stopsAre.looks) run ref

theorem stop_oneLife_saved :
    ∃ history s, (app .reference).Run history s ∧ (s.stop ⟨"u", "d"⟩).isSome = true ∧
      Life.OneLife ((s :: history.map Prod.fst).map fun s => s.stop ⟨"u", "d"⟩) := by
  obtain ⟨history, s, run, -, saved⟩ := saveBank_run
  refine ⟨history, s, run, ?_, stop_oneLife run ⟨"u", "d"⟩⟩
  cases there : s.stop ⟨"u", "d"⟩ with
  | none =>
      rw [stop] at there
      rw [there] at saved
      cases saved
  | some fields => rfl

/-! ## Where a stop comes from -/

/-- The request was issued by an Add tap on the `k`-th page, whose form had its line, naptan
id and direction. -/
def AskedFor (history : Machine.History App Event) (k : Nat) (request : StopRequest) : Prop :=
  ∃ x ∈ history, x.2 = .addLinePage k (.addStop request.documentID) ∧
    x.1.homePage.currentUser = some request.uid ∧
    ∃ page ∈ x.1.page k, page.checked = some ⟨request.line, request.naptan, request.direction⟩

/-- The sorted arrivals came in answer to the request. -/
def Answered (F : Frameworks) (history : Machine.History App Event) (k : Nat)
    (request : StopRequest) (data : List TubeTimes) : Prop :=
  ∃ x ∈ history, ∃ i response, x.2 = .addLinePage k (.lineData i response) ∧
    x.1.stopRequest k i = some request ∧ response.records.bind F.sortByTime = some data

theorem asked_of_run {history : Machine.History App Event} (run : (app F).Run history s)
    {k i : Nat} {request : StopRequest} (issued : s.stopRequest k i = some request) :
    AskedFor history k request := by
  obtain ⟨history', page, run', isPage, matched⟩ := (addLinePageOf F k).run run
  have there : request ∈ page.stopRequests := by
    obtain ⟨kept, found, isRequest⟩ := Option.bind_eq_some_iff.1 issued
    rw [isPage.same, pageOrNew, App.page, found]
    exact List.mem_of_getElem? isRequest
  obtain ⟨y, asked, isAdd, user, form⟩ := (AddLinePage.pending_of_run run').asked request there
  obtain ⟨x, member, isPage', label⟩ := exists_of_matched matched asked
  have inHistory := (List.mem_filter.1 member).1
  obtain ⟨s₀, e₀⟩ := x
  have isTap : e₀ = .addLinePage k (.addStop request.documentID) := by
    rw [isAdd] at label
    cases e₀ with
    | addLinePage k' event =>
        simp only [addLinePageOf, addLinePageEvent] at label
        split at label
        · rename_i same
          rw [same, Option.some.inj label]
        · cases label
    | _ => cases label
  obtain ⟨-, enabled, -⟩ := run.of_mem _ inHistory
  rw [isTap] at enabled
  obtain ⟨-, ⟨tapped, isTapped, -⟩, -⟩ := enabled
  rw [Option.mem_def] at isTapped
  obtain ⟨kept, -, isKept⟩ := page_eq_some.1 isTapped
  have same := isPage'.same
  rw [pageOrNew, isTapped, Option.getD_some] at same
  rw [same] at user form
  refine ⟨_, inHistory, isTap, ?_, tapped, isTapped, form⟩
  rw [isKept] at user
  exact user

/-- **Where a stop comes from.**  A stop that is stored was stored at launch, or it is what
the completion of one Add tap wrote: the tap's form passed the checks, its direction is
in the document, and the rest is of the first arrival in the answer. -/
theorem stop_from {history : Machine.History App Event} (run : (app F).Run history s)
    {ref : DocRef} {fields : Fields} (there : s.stop ref = some fields) :
    (history.origin s).stop ref = some fields ∨ ∃ k request data,
      AskedFor history k request ∧
      Answered F history k request data ∧ request.ref = ref ∧
      fields = Doc.empty.merge (AddLinePage.stopData request data.head?) := by
  rcases (savedStopsOf F).contents_from stop (fun _ _ stopsAre => stopsAre.looks) run there with
    origin | ⟨⟨s₀, e₀⟩, member, created⟩
  · exact Or.inl origin
  · refine Or.inr ?_
    obtain ⟨later, earlier, split, run'⟩ := run.at_mem member
    cases e₀ with
    | addLinePage k event =>
        cases event with
        | lineData i response =>
            simp only [savedStopsOf, stopEvent, Option.bind_eq_bind, Option.bind_eq_some_iff,
              Option.pure_def, Option.some.injEq, LifeEvent.create.injEq] at created
            obtain ⟨request, issued, times, records, data, sorts, rfl, rfl⟩ := created
            obtain ⟨x, asked, isTap, user, form⟩ := asked_of_run run' issued
            refine ⟨k, request, data, ⟨x, ?_, isTap, user, form⟩,
              ⟨_, member, i, response, rfl, issued, ?_⟩, rfl, rfl⟩
            · rw [split]
              exact List.mem_append_right _ (List.mem_cons_of_mem _ asked)
            · rw [records, Option.bind_some, sorts]
        | _ => cases created
    | homePage event =>
        cases event with
        | hiddenContainerViewTapped indexPath =>
            simp [savedStopsOf, stopEvent, Option.bind_eq_some_iff] at created
        | _ => cases created
    | _ => cases created

end App

end MindTheGap
