/-
# App.Mirror -- the table is empty, or it is the user's saved stops

The table is filled from snapshots, shortened on its own when a stop is deleted, and never
told that a stop was added: the completion of Add clears it, and it stays empty until the
next snapshot.  So as long as one user is signed in and every snapshot is whole (it lists
the user's stops as they are when it is handled, and all of them decode), the table is
never out of step with the store.  In every state it is empty, or it shows precisely the
stops that are stored then, once each, as they are stored, and all of them are polled
(`mirrors_of_run`).

Each half of `Whole` is needed: a snapshot that is old when it is handled brings a deleted
stop back to the table (`old_snapshot_shows_deleted`), and one document that does not decode
hides those behind it.
-/
import MindTheGap.App.SavedStops
import MindTheGap.HomePage.Table

namespace MindTheGap

open MindTheGap.Theory

set_option autoImplicit false

namespace App

/-- The documents are the user's stops, as they are now, and all of them decode. -/
structure Whole (s : App) (uid : String) (documents : List QueryDocument) : Prop where
  stored : ∀ document, document ∈ documents ↔
    s.stop ⟨uid, document.documentID⟩ = some document.data
  full : complete documents = true

/-- A step with the user signed in; if it handles a snapshot of the stops, a whole one. -/
structure InSession (uid : String) (s : App) (e : Event) : Prop where
  user : s.homePage.currentUser = some uid
  whole : ∀ k documents, e = .homePage (.stopsSnapshot k (.snapshot documents)) →
    Whole s uid documents

/-- The stop is stored with these fields, and polled. -/
structure Served (uid : String) (s : App) (stop : SavedStop) : Prop where
  stored : ∃ fields, s.stop ⟨uid, stop.documentID⟩ = some fields ∧
    QueryDocument.decode ⟨stop.documentID, fields⟩ = some stop
  polled : stop.poll uid ∈ s.homePage.timers

/-- The rows are the stored stops of the user, once each. -/
structure Mirrors (uid : String) (s : App) : Prop where
  once : (s.homePage.finalTableArray.map TableArray.documentID).Nodup
  served : ∀ row ∈ s.homePage.finalTableArray, ∃ stop, row = stop.row ∧ Served uid s stop
  all : ∀ documentID, (s.stop ⟨uid, documentID⟩).isSome →
    ∃ row ∈ s.homePage.finalTableArray, row.documentID = some documentID

variable {F : Frameworks} {s s' : App} {e : Event} {uid : String}

/-- Steps that at most rearrange the rows. -/
theorem Mirrors.kept (mirrors : Mirrors uid s)
    (rows : s'.homePage.finalTableArray.Perm s.homePage.finalTableArray)
    (stops : ∀ ref, s'.stop ref = s.stop ref) (timers : s'.homePage.timers = s.homePage.timers) :
    Mirrors uid s' := by
  refine ⟨(rows.map _).nodup_iff.2 mirrors.once, ?_, ?_⟩
  · intro row member
    obtain ⟨stop, isRow, ⟨fields, there, decoded⟩, polled⟩ :=
      mirrors.served row (rows.mem_iff.1 member)
    exact ⟨stop, isRow, ⟨fields, (stops _).trans there, decoded⟩, timers ▸ polled⟩
  · intro documentID there
    rw [stops] at there
    obtain ⟨row, member, named⟩ := mirrors.all documentID there
    exact ⟨row, rows.mem_iff.2 member, named⟩

/-- A whole snapshot is handled. -/
theorem Whole.mirrors {documents : List QueryDocument} (whole : Whole s uid documents)
    (distinct : (documents.map QueryDocument.documentID).Nodup)
    (rows : s'.homePage.finalTableArray = (leading documents).map SavedStop.row)
    (stops : ∀ ref, s'.stop ref = s.stop ref)
    (polls : ∀ stop ∈ leading documents, stop.poll uid ∈ s'.homePage.timers) :
    Mirrors uid s' := by
  have listed : ∀ stop, stop ∈ leading documents ↔
      ∃ document ∈ documents, document.decode = some stop := by
    intro stop
    rw [leading_of_complete whole.full, List.mem_filterMap]
  refine ⟨?_, ?_, ?_⟩
  · rw [rows]
    exact HomePage.leading_rows_once distinct
  · intro row member
    rw [rows] at member
    obtain ⟨stop, isLeading, rfl⟩ := List.mem_map.1 member
    obtain ⟨⟨documentID, fields⟩, there, decoded⟩ := (listed stop).1 isLeading
    obtain rfl : stop.documentID = documentID := QueryDocument.decode_documentID decoded
    exact ⟨stop, rfl, ⟨fields, (stops _).trans ((whole.stored _).1 there), decoded⟩,
      polls stop isLeading⟩
  · intro documentID there
    rw [stops] at there
    obtain ⟨fields, found⟩ := Option.isSome_iff_exists.1 there
    have member := (whole.stored ⟨documentID, fields⟩).2 found
    obtain ⟨stop, decoded⟩ :=
      Option.isSome_iff_exists.1 (List.all_eq_true.1 whole.full _ member)
    refine ⟨stop.row, ?_, congrArg some (QueryDocument.decode_documentID decoded)⟩
    rw [rows]
    exact List.mem_map_of_mem ((listed stop).2 ⟨_, member, decoded⟩)

/-- A row is tapped away, and its document with it. -/
theorem Mirrors.deleted (mirrors : Mirrors uid s) {item : Nat} {row : TableArray}
    {documentID : String} (found : s.homePage.finalTableArray[item]? = some row)
    (named : row.documentID = some documentID)
    (rows : s'.homePage.finalTableArray = s.homePage.finalTableArray.eraseIdx item)
    (stops : ∀ ref, s'.stop ref = if ref = ⟨uid, documentID⟩ then none else s.stop ref)
    (timers : s'.homePage.timers = s.homePage.timers) : Mirrors uid s' := by
  have left : ∀ other, other ∈ s'.homePage.finalTableArray ↔
      other ∈ s.homePage.finalTableArray ∧ other.documentID ≠ some documentID := by
    intro other
    rw [rows, Reorder.eraseIdx_eq_filter mirrors.once found, List.mem_filter, named]
    simp
  refine ⟨?_, ?_, ?_⟩
  · rw [rows]
    exact ((List.eraseIdx_sublist _ item).map _).nodup mirrors.once
  · intro other member
    obtain ⟨was, another⟩ := (left other).1 member
    obtain ⟨stop, rfl, ⟨fields, there, decoded⟩, polled⟩ := mirrors.served other was
    refine ⟨stop, rfl, ⟨fields, ?_, decoded⟩, timers ▸ polled⟩
    rw [stops, if_neg, there]
    rintro ⟨⟩
    exact another rfl
  · intro other there
    rw [stops] at there
    split at there
    · cases there
    · rename_i another
      obtain ⟨kept, was, isKept⟩ := mirrors.all other there
      refine ⟨kept, (left kept).2 ⟨was, ?_⟩, isKept⟩
      rw [isKept]
      rintro ⟨⟩
      exact another rfl

/-- The table is empty, or the user's stops. -/
def InStep (uid : String) (s : App) : Prop :=
  s.homePage.finalTableArray = [] ∨ Mirrors uid s

theorem InStep.kept (inStep : InStep uid s)
    (rows : s'.homePage.finalTableArray.Perm s.homePage.finalTableArray)
    (stops : ∀ ref, s'.stop ref = s.stop ref) (timers : s'.homePage.timers = s.homePage.timers) :
    InStep uid s' := by
  rcases inStep with empty | mirrors
  · rw [empty] at rows
    exact Or.inl rows.eq_nil
  · exact Or.inr (mirrors.kept rows stops timers)

theorem InStep.homePage {event : MindTheGap.Event} {page : HomePage} (inStep : InStep uid s)
    (next : HomePage.Next F s.homePage event page) (session : InSession uid s (.homePage event)) :
    InStep uid { s with homePage := page } := by
  have user : s.homePage.currentUser = some uid := session.user
  have stops := HomePage.savedStops_step next
  cases next with
  | refreshData => exact Or.inl rfl
  | stopsFailed k => exact Or.inl rfl
  | stopsSnapshot k documents distinct =>
      refine Or.inr ((session.whole k documents rfl).mirrors distinct rfl (fun _ => rfl) ?_)
      intro stop isLeading
      have polled : stop.poll uid ∈ HomePage.newPolls s.homePage.currentUser documents := by
        rw [user]
        exact List.mem_map_of_mem isLeading
      exact List.mem_append_right _ polled
  | deleted item ref isTapped =>
      obtain ⟨tapper, _, row, ⟨⟩, found, named⟩ := HomePage.tappedStop_eq_some.1 isTapped
      obtain rfl : uid = ref.uid := Option.some.inj (user.symm.trans tapper)
      rcases inStep with empty | mirrors
      · rw [empty] at found
        cases found
      · refine Or.inr (mirrors.deleted found named rfl (fun other => ?_) rfl)
        have gone := stops other
        rw [HomePage.deletes, isTapped] at gone
        simp only [Option.some.injEq, decide_eq_true_eq, eq_comm (a := ref)] at gone
        exact gone
  | moved source destination row entry foundRow foundEntry inRows inTimes =>
      exact inStep.kept (Reorder.move_perm foundRow inRows) (fun _ => rfl) rfl
  | _ => exact inStep.kept (List.Perm.refl _) (fun _ => rfl) rfl

theorem InStep.step (inStep : InStep uid s) (next : Next F s e s')
    (session : InSession uid s e) : InStep uid s' := by
  cases next with
  | homePage event page outside enabled stepped =>
      exact inStep.homePage (HomePage.next_of_step F enabled stepped) session
  | saved k i response page request times data there issued unanswered records sorts =>
      -- what Add saves is on the next snapshot, and until then the table is empty
      refine Or.inl ?_
      rw [HomePage.refreshData_eq]
  | _ => exact inStep.kept (List.Perm.refl _) (fun _ => rfl) rfl

/-- **The table is never out of step.** -/
theorem mirrors_of_run {history : Machine.History App Event} (run : (app F).Run history s)
    (session : ∀ x ∈ history, InSession uid x.1 x.2) :
    s.homePage.finalTableArray = [] ∨ Mirrors uid s := by
  have inStep : InStep uid s := by
    apply run.invariant_of (InSession uid) (I := fun _ s => InStep uid s) ?_ ?_ session
    · rintro s ⟨currentUser, store, users, documentIDs, -, rfl⟩
      refine Or.inl ?_
      rw [launch_eq, HomePage.viewDidLoad, HomePage.getSavedStops_eq]
    · intro history s e s' _ inStep enabled inSession stepped
      exact inStep.step (next_of_step F enabled stepped) inSession
  exact inStep

/-- One stop, saved in an earlier run of the app. -/
def oneStop : Firestore :=
  { Firestore.empty with
    savedStops := Function.update (fun _ => none) ⟨"u", "a"⟩ (some (sampleDocument "a").data) }

theorem oneStop_eq_some {ref : DocRef} {fields : Fields} :
    oneStop.savedStops ref = some fields ↔
      ref = ⟨"u", "a"⟩ ∧ fields = (sampleDocument "a").data := by
  show Function.update (fun _ => none) _ _ ref = some fields ↔ _
  by_cases same : ref = ⟨"u", "a"⟩
  · rw [same, Function.update_self]
    simp [eq_comm]
  · rw [Function.update_of_ne same]
    simp [same]

theorem oneStop_inUse (ref : DocRef) (there : (oneStop.savedStops ref).isSome) :
    ref.documentID ∈ ["a"] := by
  obtain ⟨fields, found⟩ := Option.isSome_iff_exists.1 there
  rw [(oneStop_eq_some.1 found).1]
  exact List.mem_singleton_self _

/-- Its snapshot. -/
def listsOneStop : Event := .homePage (.stopsSnapshot 0 (.snapshot [sampleDocument "a"]))

theorem mirrors_of_run_listed :
    ∃ history s, (app .reference).Run history s ∧ s.homePage.finalTableArray ≠ [] ∧
      (s.homePage.finalTableArray = [] ∨ Mirrors "u" s) := by
  let opened : App := App.launch (some "u") oneStop (fun _ => none) ["a"]
  have starts : (app .reference).Start opened :=
    ⟨some "u", oneStop, fun _ => none, ["a"], oneStop_inUse, rfl⟩
  have enabled : (app .reference).Enabled opened listsOneStop := by
    refine ⟨rfl, ?_⟩
    show _ ∧ _
    decide
  have whole : Whole opened "u" [sampleDocument "a"] := by
    refine ⟨fun document => ?_, by decide⟩
    show _ ↔ oneStop.savedStops _ = _
    rw [oneStop_eq_some, List.mem_singleton]
    constructor
    · rintro rfl
      exact ⟨rfl, rfl⟩
    · rintro ⟨named, fields⟩
      rcases document with ⟨documentID, data⟩
      cases named
      cases fields
      rfl
  refine ⟨_, _, .step (.start starts) enabled rfl, ?_,
    mirrors_of_run (.step (.start starts) enabled rfl) ?_⟩
  · decide
  · intro x member
    rw [List.mem_singleton.1 member]
    refine ⟨rfl, ?_⟩
    rintro k documents ⟨⟩
    exact whole

/-- The refuting pole: a snapshot that was taken before a deletion is handled after it. -/
theorem old_snapshot_shows_deleted :
    ∃ history s, (app .reference).Run history s ∧
      s.homePage.finalTableArray.map TableArray.documentID = [some "a"] ∧
      s.stop ⟨"u", "a"⟩ = none := by
  obtain ⟨history, s, run, -, seen⟩ := Machine.exec_reaches (M := app .reference)
    (fun _ s => (s.homePage.finalTableArray.map TableArray.documentID,
      (s.stop ⟨"u", "a"⟩).isNone))
    ⟨some "u", oneStop, fun _ => none, ["a"], oneStop_inUse, rfl⟩
    [listsOneStop, .homePage .mainQueue, .homePage (.hiddenContainerViewTapped (some 0)),
      listsOneStop] ([some "a"], true) (by decide)
  rw [Prod.mk.injEq, Option.isNone_iff_eq_none] at seen
  exact ⟨history, s, run, seen.1, seen.2⟩

end App

end MindTheGap
