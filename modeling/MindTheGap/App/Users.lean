/-
# App.Users -- whose documents a run can touch

Every path the app writes to has the id of a user in it.  It is read when a snapshot of the
saved stops is handled, when Add or a delete area is tapped and when an account was
created, and kept from then on by polls and requests that outlive a sign-out.  So the
documents of a user may change while another one is signed in, but never in a run in
which that user was not signed in at all (`untouched_of_run`).
-/
import MindTheGap.App.SavedStops

namespace MindTheGap

open MindTheGap.Theory

set_option autoImplicit false

namespace HomePage

/-- No poll of the page is for a stop of the user. -/
structure NotFor (uid : String) (s : HomePage) : Prop where
  timers : ∀ poll ∈ s.timers, poll.ref.uid ≠ uid
  requests : ∀ request ∈ s.requests, request.poll.ref.uid ≠ uid

variable {F : Frameworks} {s s' : HomePage} {e : Event} {uid : String}

theorem newPolls_notFor (other : s.currentUser ≠ some uid) (documents : List QueryDocument) :
    ∀ poll ∈ newPolls s.currentUser documents, poll.ref.uid ≠ uid := by
  intro poll member same
  cases user : s.currentUser with
  | none => simp [newPolls, user] at member
  | some signedIn =>
      simp only [newPolls, user, List.mem_map] at member
      obtain ⟨stop, -, rfl⟩ := member
      rw [user] at other
      exact other (congrArg some same)

theorem newRequests_notFor {fetch : Fetch} {polls : List Poll}
    (others : ∀ poll ∈ polls, poll.ref.uid ≠ uid) :
    ∀ request ∈ newRequests F fetch polls, request.poll.ref.uid ≠ uid := by
  intro request member
  obtain ⟨poll, issued, rfl⟩ := List.mem_map.1 member
  exact others poll (List.mem_of_mem_filter issued)

theorem NotFor.step (notFor : NotFor uid s) (next : Next F s e s')
    (other : s.currentUser ≠ some uid) : NotFor uid s' := by
  have answered : ∀ (k : Nat) (request : Request), s.requests[k]? = some request →
      ∀ request' ∈ s.requests.set k { request with answered := true },
        request'.poll.ref.uid ≠ uid := by
    intro k request issued request' member
    rcases List.mem_or_eq_of_mem_set member with earlier | rfl
    · exact notFor.requests request' earlier
    · exact notFor.requests request (List.mem_of_getElem? issued)
  cases next with
  | stopsSnapshot k documents distinct =>
      have polls := newPolls_notFor other documents
      refine ⟨fun poll member => ?_, fun request member => ?_⟩
      · rcases List.mem_append.1 member with earlier | new
        · exact notFor.timers poll earlier
        · exact polls poll new
      · rcases List.mem_append.1 member with earlier | new
        · exact notFor.requests request earlier
        · exact newRequests_notFor polls request new
  | timerFired k =>
      refine ⟨notFor.timers, fun request member => ?_⟩
      rcases List.mem_append.1 member with earlier | new
      · exact notFor.requests request earlier
      · refine newRequests_notFor (fun poll fired => ?_) request new
        exact notFor.timers poll (List.mem_of_getElem? (Option.mem_toList.1 fired))
  | noData k response request issued records =>
      exact ⟨notFor.timers, answered k request issued⟩
  | response k response request times writes issued records ran =>
      exact ⟨notFor.timers, answered k request issued⟩
  | _ => exact ⟨notFor.timers, notFor.requests⟩

theorem deletes_notFor (other : s.currentUser ≠ some uid) (documentID : String) :
    s.deletes ⟨uid, documentID⟩ e = false := by
  cases e with
  | hiddenContainerViewTapped indexPath =>
      rw [deletes, decide_eq_false_iff_not]
      intro tapped
      exact other (tappedStop_eq_some.1 tapped).1
  | _ => rfl

/-- A step of the page while another user, or none, is signed in. -/
theorem NotFor.documents (notFor : NotFor uid s) (next : Next F s e s')
    (other : s.currentUser ≠ some uid) (documentID : String) :
    s'.store.savedStops ⟨uid, documentID⟩ = s.store.savedStops ⟨uid, documentID⟩ ∧
      s'.store.arrivalTimes ⟨uid, documentID⟩ = s.store.arrivalTimes ⟨uid, documentID⟩ := by
  have kept := deletes_notFor (e := e) other documentID
  refine ⟨by rw [savedStops_step next, kept]; rfl, ?_⟩
  rw [arrivalTimes_step next, kept]
  rcases written_inv next ⟨uid, documentID⟩ with
    ⟨-, nothing⟩ | ⟨request, times, -, handled, same, -⟩
  · rw [nothing]
    rfl
  · have issued : request ∈ s.requests := by
      cases e with
      | response k response =>
          simp only [handles, Option.bind_eq_bind, Option.bind_eq_some_iff, Option.pure_def,
            Option.some.injEq, Prod.mk.injEq] at handled
          obtain ⟨found, issued, -, -, rfl, -⟩ := handled
          exact List.mem_of_getElem? issued
      | _ => cases handled
    exact absurd (congrArg DocRef.uid same) (notFor.requests request issued)

end HomePage

namespace App

variable {F : Frameworks} {s s' : App} {e : Event} {uid : String}

/-- The times document of a stop. -/
def times (s : App) (ref : DocRef) : Option Fields := s.homePage.store.arrivalTimes ref

/-- The user has the same documents in both states. -/
structure Untouched (uid : String) (s₀ s : App) : Prop where
  stops : ∀ documentID, s.stop ⟨uid, documentID⟩ = s₀.stop ⟨uid, documentID⟩
  times : ∀ documentID, s.times ⟨uid, documentID⟩ = s₀.times ⟨uid, documentID⟩
  user : s.users uid = s₀.users uid

theorem Untouched.trans {s₀ : App} (earlier : Untouched uid s₀ s) (later : Untouched uid s s') :
    Untouched uid s₀ s' :=
  ⟨fun documentID => (later.stops documentID).trans (earlier.stops documentID),
    fun documentID => (later.times documentID).trans (earlier.times documentID),
    later.user.trans earlier.user⟩

/-- Nothing in flight is for the user. -/
structure NotFor (uid : String) (s : App) : Prop where
  homePage : s.homePage.NotFor uid
  requests : ∀ k i request, s.stopRequest k i = some request → request.uid ≠ uid

theorem NotFor.step (notFor : NotFor uid s) (next : Next F s e s')
    (other : s.homePage.currentUser ≠ some uid) : NotFor uid s' := by
  refine ⟨?_, ?_⟩
  · cases next with
    | homePage event after outside enabled stepped =>
        exact notFor.homePage.step (HomePage.next_of_step F enabled stepped) other
    | saved k i response before request times data there issued unanswered records sorts =>
        rw [HomePage.refreshData_eq]
        exact ⟨notFor.homePage.timers, notFor.homePage.requests⟩
    | _ => exact ⟨notFor.homePage.timers, notFor.homePage.requests⟩
  · intro k i request issued
    rcases stopRequest_step next issued with ⟨earlier, asked, same, -⟩ | ⟨-, -, user, -, -⟩
    · have sameUser : request.uid = earlier.uid := congrArg DocRef.uid same
      rw [sameUser]
      exact notFor.requests k i earlier asked
    · rintro rfl
      exact other user

theorem NotFor.untouched (notFor : NotFor uid s) (next : Next F s e s')
    (other : s.homePage.currentUser ≠ some uid) : Untouched uid s s' := by
  cases next with
  | homePage event after outside enabled stepped =>
      have kept := notFor.homePage.documents (HomePage.next_of_step F enabled stepped) other
      exact ⟨fun documentID => (kept documentID).1, fun documentID => (kept documentID).2, rfl⟩
  | saved k i response before request times data there issued unanswered records sorts =>
      have issued' : s.stopRequest k i = some request := by
        rw [stopRequest_of_page there, issued]
      refine ⟨fun documentID => ?_, fun documentID => ?_, rfl⟩
      · have away : (⟨uid, documentID⟩ : DocRef) ≠ request.ref := fun same =>
          notFor.requests k i request issued' (congrArg DocRef.uid same).symm
        simp only [stop, HomePage.refreshData_eq]
        exact Function.update_of_ne away _ _
      · simp only [App.times, HomePage.refreshData_eq]
        rfl
  | signedUp k signedIn login creation there asked user =>
      refine ⟨fun _ => rfl, fun _ => rfl, ?_⟩
      have away : uid ≠ signedIn := by
        rintro rfl
        exact other user
      exact Function.update_of_ne away _ _
  | _ => exact ⟨fun _ => rfl, fun _ => rfl, rfl⟩

/-- **Who was never signed in keeps their documents.** -/
theorem untouched_of_run {history : Machine.History App Event} (run : (app F).Run history s)
    (never : ∀ x ∈ history, x.1.homePage.currentUser ≠ some uid) :
    Untouched uid (history.origin s) s := by
  have kept : NotFor uid s ∧ Untouched uid (history.origin s) s := by
    apply run.invariant_of (fun s _ => s.homePage.currentUser ≠ some uid)
      (I := fun history s => NotFor uid s ∧ Untouched uid (history.origin s) s)
    · rintro s ⟨currentUser, store, users, documentIDs, -, rfl⟩
      refine ⟨?_, fun _ => rfl, fun _ => rfl, rfl⟩
      rw [launch_eq, HomePage.viewDidLoad, HomePage.getSavedStops_eq]
      refine ⟨⟨?_, ?_⟩, ?_⟩
      · intro poll member
        cases member
      · intro request member
        cases member
      · intro k i request issued
        simp [stopRequest] at issued
    · rintro history s e s' - ⟨notFor, untouched⟩ enabled other stepped
      have next := next_of_step F enabled stepped
      rw [Machine.History.origin_cons]
      exact ⟨notFor.step next other, untouched.trans (notFor.untouched next other)⟩
    · exact never
  exact kept.2

/-- While one user saves a stop, another one's documents stay as they are. -/
theorem untouched_of_run_saved :
    ∃ history s, (app .reference).Run history s ∧ (s.stop ⟨"u", "d"⟩).isSome = true ∧
      Untouched "v" (history.origin s) s := by
  obtain ⟨history, s, run, -, seen⟩ := Machine.exec_reaches (M := app .reference)
    (fun history s => (history.all fun x => x.1.homePage.currentUser != some "v",
      (s.stop ⟨"u", "d"⟩).isSome))
    ⟨some "u", .empty, fun _ => none, [], by simp [Firestore.empty], rfl⟩ saveBank (true, true)
    (by decide)
  rw [Prod.mk.injEq, List.all_eq_true] at seen
  exact ⟨history, s, run, seen.2, untouched_of_run run fun x member =>
    bne_iff_ne.1 (seen.1 x member)⟩

end App

end MindTheGap
