/-
# AddLinePage.Offered -- an Add tap asks for nothing the page did not offer

The station saved may be one of another line, and the direction one of another station:
lookups and platforms come in any order.  What every run keeps is weaker, and holds without
any condition (`offered_of_run`).  The line that Add asks for is one of the grid's, and
the picker shows its stations for as long as it is selected; the naptan id is the answer to
a lookup of a name that the picker has listed, and no stand-in for a missing one; the
direction is a platform that the service named, or what the buttons say at first.
-/
import MindTheGap.AddLinePage.Picked
import MindTheGap.AddLinePage.Platform
import MindTheGap.AddLinePage.SavedStop

namespace MindTheGap

open MindTheGap.Theory

set_option autoImplicit false

namespace AddLinePage

/-- A name the picker can list: what it says before a line is tapped, or a station. -/
def Pickable (name : String) : Prop :=
  name = "Pick a Line" ∨ ∃ tile ∈ lines, name ∈ returnArray tile

/-- The line and the picker are set together, and lookups are of listed names. -/
structure Tiled (s : AddLinePage) : Prop where
  unset : s.line = none → s.stations = ["Pick a Line"]
  tile : ∀ line, s.line = some line →
    ∃ tile ∈ lines, line = returnlineName tile ∧ s.stations = returnArray tile
  lookups : ∀ lookup ∈ s.lookups, Pickable lookup.name

variable {history : Machine.History AddLinePage Event} {s s' : AddLinePage} {e : Event}

theorem Tiled.pickable (tiled : Tiled s) {name : String} (listed : name ∈ s.stations) :
    Pickable name := by
  cases line : s.line with
  | none =>
      rw [tiled.unset line] at listed
      exact Or.inl (List.mem_singleton.1 listed)
  | some line =>
      obtain ⟨tile, member, -, stations⟩ := tiled.tile _ line
      rw [stations] at listed
      exact Or.inr ⟨tile, member, listed⟩

theorem Tiled.step {F : Frameworks} (tiled : Tiled s) (next : Next F s e s') : Tiled s' := by
  cases next with
  | lineTapped item name isName =>
      refine ⟨?_, ?_, tiled.lookups⟩
      · rintro ⟨⟩
      · rintro line ⟨⟩
        exact ⟨name, List.mem_of_getElem? isName, rfl, rfl⟩
  | rowPicked row name isName =>
      refine ⟨tiled.unset, tiled.tile, ?_⟩
      intro lookup member
      rcases List.mem_append.1 member with earlier | new
      · exact tiled.lookups lookup earlier
      · rw [List.mem_singleton.1 new]
        exact tiled.pickable (List.mem_of_getElem? isName)
  | lookupAnswered k document id asked isId =>
      refine ⟨tiled.unset, tiled.tile, ?_⟩
      intro lookup member
      obtain ⟨i, found⟩ := List.mem_iff_getElem?.1 member
      rw [List.getElem?_modify] at found
      obtain ⟨earlier, there, rfl⟩ := Option.map_eq_some_iff.1 found
      have named := tiled.lookups earlier (List.mem_of_getElem? there)
      split <;> exact named
  | _ => exact ⟨tiled.unset, tiled.tile, tiled.lookups⟩

theorem tiled_of_run {F : Frameworks} (run : (addLinePage F).Run history s) : Tiled s := by
  apply run.invariant (I := fun _ s => Tiled s)
  · rintro s ⟨currentUser, store, rfl⟩
    refine ⟨fun _ => rfl, ?_, ?_⟩
    · rintro line ⟨⟩
    · intro lookup member
      cases member
  · intro history s e s' _ tiled enabled stepped
    exact tiled.step (next_of_step F enabled stepped)

/-- What a request of an Add tap is made of. -/
structure IsOffered (history : Machine.History AddLinePage Event) (s : AddLinePage)
    (request : StopRequest) : Prop where
  line : ∃ tile ∈ lines, request.line = returnlineName tile
  naptan : request.naptan ≠ "unavailable" ∧ ∃ k lookup, (k, request.naptan) ∈ answers history ∧
    s.lookups[k]? = some lookup ∧ Pickable lookup.name
  direction : request.direction = "Choose a Direction" ∨ ∃ came ∈ platformResponses history,
    ∃ platform ∈ came.2, platform.platformName = some request.direction

/-- **Whatever Add asks for was offered.** -/
theorem offered_of_run {F : Frameworks} (run : (addLinePage F).Run history s)
    {request : StopRequest} (member : request ∈ s.stopRequests) : IsOffered history s request := by
  obtain ⟨x, tapped, -, -, passes⟩ := (pending_of_run run).asked request member
  obtain ⟨isLine, isNaptan, isTitle⟩ := checked_eq_some.1 passes
  obtain ⟨later, earlier, split, run'⟩ := run.at_mem tapped
  refine ⟨?_, ?_, ?_⟩
  · obtain ⟨tile, isTile, named, -⟩ := (tiled_of_run run').tile _ isLine
    exact ⟨tile, isTile, named⟩
  · obtain ⟨⟨k, id⟩, newest, isId⟩ :=
      Option.map_eq_some_iff.1 ((followed_of_run run').naptan ▸ isNaptan)
    obtain ⟨answered, supported⟩ := mem_takenAnswers (List.mem_of_mem_head? newest)
    have brought : id = request.naptan := isId
    subst brought
    have came : (k, request.naptan) ∈ answers history := by
      rw [split, answers, List.filterMap_append]
      obtain ⟨y, there, isAnswer⟩ := List.mem_filterMap.1 answered
      exact List.mem_append_right _
        (List.mem_filterMap.2 ⟨y, List.mem_cons_of_mem _ there, isAnswer⟩)
    have issued := (followed_of_run run).issued _ came
    exact ⟨supported, k, s.lookups[k], came, List.getElem?_eq_getElem issued,
      (tiled_of_run run).lookups _ (List.getElem_mem issued)⟩
  · have title := (titled_of_run run').chosen isTitle
    cases last : (platformResponses earlier).head? with
    | none =>
        rw [last] at title
        exact Or.inl (Option.some.inj title).symm
    | some came =>
        rw [last] at title
        refine Or.inr ⟨came, ?_, platformTitle_mem title⟩
        obtain ⟨y, there, isCame⟩ := List.mem_filterMap.1 (List.mem_of_mem_head? last)
        rw [split, platformResponses]
        exact List.mem_filterMap.2
          ⟨y, List.mem_append_right _ (List.mem_cons_of_mem _ there), isCame⟩

theorem offered_of_run_bank :
    ∃ history s, (addLinePage .reference).Run history s ∧ IsOffered history s bankRequest := by
  obtain ⟨history, s, run, requests, -⟩ := addBank_run
  exact ⟨history, s, run, offered_of_run run (by rw [requests]; exact List.mem_cons_self)⟩

end AddLinePage

end MindTheGap
