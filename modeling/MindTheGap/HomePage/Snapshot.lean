/-
# HomePage.Snapshot -- when a saved-stops snapshot shows every complete stop

A snapshot of a user's saved stops should put a row on the page for each document that
has all five fields, watch and poll exactly those, and have the page reloaded
(`ShowsEveryStop`).  The guards of the loop leave the whole callback, so one
document without a field takes every later stop off the page, is itself watched
without having a row, and leaves the reload out.

The callback starts its listeners and polls below the user signed in when it is called,
while the documents are those of the user its listener was registered for.
`showsEveryStop_iff` is the exact condition: all documents are complete, and that user is
still the one signed in or there is nothing to show.
-/
import MindTheGap.HomePage.Effects

namespace MindTheGap

open MindTheGap.Theory

set_option autoImplicit false

/-- The stops of the documents that have all five fields, in snapshot order. -/
def completeStops (documents : List QueryDocument) : List SavedStop :=
  documents.filterMap QueryDocument.decode

theorem completeStops_eq_nil {documents : List QueryDocument} (full : complete documents = true)
    (none_left : completeStops documents = []) : documents = [] := by
  cases documents with
  | nil => rfl
  | cons document documents =>
      simp only [complete, List.all_cons, Bool.and_eq_true] at full
      obtain ⟨stop, decoded⟩ := Option.isSome_iff_exists.1 full.1
      simp [completeStops, decoded] at none_left

namespace HomePage

/-- What the callback of `getSavedStops` should have done with a snapshot of the saved
stops of `uid`: the rows are those of the complete documents, exactly these documents
are watched and polled, and a reload was queued. -/
structure ShowsEveryStop (F : Frameworks) (uid : String) (s s' : HomePage)
    (documents : List QueryDocument) : Prop where
  rows : s'.finalTableArray = (completeStops documents).map SavedStop.row
  watched : s'.timesListeners = s.timesListeners ++
    (completeStops documents).map fun stop => ⟨⟨uid, stop.documentID⟩, false⟩
  timers : s'.timers = s.timers ++ (completeStops documents).map fun stop => stop.poll uid
  /-- The first request of each poll, unless `URL(string:)` refuses its address. -/
  requests : s'.requests = s.requests ++
    newRequests F .first ((completeStops documents).map fun stop => stop.poll uid)
  reload : s'.mainQueue = s.mainQueue ++ [.reloadData]

theorem newTimesListeners_of_complete {documents : List QueryDocument}
    (full : complete documents = true) (uid : String) :
    newTimesListeners (some uid) documents =
      (completeStops documents).map fun stop => ⟨⟨uid, stop.documentID⟩, false⟩ := by
  have ids : (completeStops documents).map SavedStop.documentID =
      documents.map QueryDocument.documentID := by
    have begins := leading_begins_reached documents
    rw [leading_of_complete full, reached_of_complete full] at begins
    apply begins.eq_of_length
    rw [List.length_map, List.length_map, List.length_filterMap_eq_countP, List.countP_eq_length]
    simpa [complete] using full
  have listeners := congrArg (List.map fun id => (⟨⟨uid, id⟩, false⟩ : TimesListener)) ids
  simp only [List.map_map] at listeners
  rw [newTimesListeners, reached_of_complete full]
  exact listeners.symm

/-- Polls started below one user are those of another only when there are none. -/
theorem polls_eq {stops : List SavedStop} {uid uid' : String}
    (same : stops.map (fun stop => stop.poll uid) = stops.map fun stop => stop.poll uid') :
    uid = uid' ∨ stops = [] := by
  cases stops with
  | nil => exact Or.inr rfl
  | cons stop stops =>
      simp only [List.map_cons, List.cons.injEq, SavedStop.poll, Poll.mk.injEq,
        DocRef.mk.injEq] at same
      exact Or.inl same.1.1.1

/-- **When a snapshot shows every complete stop.** -/
theorem showsEveryStop_iff (F : Frameworks) {s s' : HomePage} {k : Nat}
    {documents : List QueryDocument}
    (called : s.step F (.stopsSnapshot k (.snapshot documents)) = some s') :
    ∀ listener ∈ s.stopsListeners[k]?, (ShowsEveryStop F listener.uid s s' documents ↔
      complete documents = true ∧ (s.currentUser = some listener.uid ∨ documents = [])) := by
  intro listener _
  rw [step, savedStopsListener_snapshot, Option.some.injEq] at called
  subst called
  constructor
  · intro shows
    have full : complete documents = true := by
      have queued := shows.reload
      by_contra incomplete
      simp [incomplete] at queued
    refine ⟨full, ?_⟩
    have started := shows.timers
    simp only [List.append_cancel_left_eq, newPolls, leading_of_complete full] at started
    cases user : s.currentUser with
    | none =>
        -- a signed-out callback starts nothing, so there was nothing to start
        simp only [user] at started
        exact Or.inr (completeStops_eq_nil full (List.map_eq_nil_iff.1 started.symm))
    | some uid =>
        simp only [user] at started
        rcases polls_eq started with rfl | nothing
        · exact Or.inl rfl
        · exact Or.inr (completeStops_eq_nil full nothing)
  · rintro ⟨full, signed⟩
    have stops : leading documents = completeStops documents := leading_of_complete full
    rcases signed with user | rfl
    · have polls : newPolls s.currentUser documents =
          (completeStops documents).map fun stop => stop.poll listener.uid := by
        rw [user, newPolls, stops]
      refine ⟨by rw [stops], ?_, by rw [polls], by rw [polls], by rw [if_pos full]⟩
      rw [user, newTimesListeners_of_complete full listener.uid]
    · refine ⟨rfl, ?_, ?_, ?_, rfl⟩ <;> cases s.currentUser <;> rfl

theorem showsEveryStop_iff_two_stops :
    ∃ s', (viewDidLoad (some "u") .empty).step .reference
        (.stopsSnapshot 0 (.snapshot [sampleDocument "a", sampleDocument "b"])) = some s' ∧
      ShowsEveryStop .reference "u" (viewDidLoad (some "u") .empty) s'
        [sampleDocument "a", sampleDocument "b"] := by
  refine ⟨_, rfl, ?_⟩
  exact (showsEveryStop_iff .reference rfl ⟨"u", false⟩ rfl).2 ⟨by decide, Or.inl rfl⟩

/-- One document without fields before a complete one: no row, a listener on the
document without a row, and no reload. -/
theorem incomplete_document_hides_the_rest :
    ∃ s', (viewDidLoad (some "u") .empty).step .reference
        (.stopsSnapshot 0 (.snapshot [⟨"a", Doc.empty⟩, sampleDocument "b"])) = some s' ∧
      ¬ ShowsEveryStop .reference "u" (viewDidLoad (some "u") .empty) s'
        [⟨"a", Doc.empty⟩, sampleDocument "b"] := by
  refine ⟨_, rfl, fun shows => ?_⟩
  exact absurd shows.rows (by decide)

end HomePage

end MindTheGap
