/-
# AddLinePage.Platform -- whether the saved direction is a platform of the stop

The home page shows a train of a saved stop only if its platform is the stop's direction,
so the direction should be a platform of some arrival at that naptan id on that line
(`RealPlatform`).  "Add" reads it off a button, whose title is the placeholder until
platforms come, and then the first or second platform of the response handled last, for
whichever line and id that was requested.

`realPlatform_iff` is the exact condition: platforms have come, and the response handled
last was requested for the form's line and id, or agrees in the chosen place with one that
was.
-/
import MindTheGap.AddLinePage.Effects

namespace MindTheGap

open MindTheGap.Theory

set_option autoImplicit false

namespace AddLinePage

/-- A handled response of `getDirections`: its request and the decoded platforms. -/
def platformsCame (s : AddLinePage) : Event → Option (DirectionRequest × List TubeDirection)
  | .directions k response => do
      let request ← s.directionRequests[k]?
      let platforms ← response.records
      return (request, platforms)
  | _ => none

/-- The handled responses, newest first. -/
def platformResponses (history : Machine.History AddLinePage Event) :
    List (DirectionRequest × List TubeDirection) :=
  history.filterMap fun x => x.1.platformsCame x.2

/-- A request for the arrivals of the form's line at its naptan id. -/
def Form.IsFor (form : Form) (request : DirectionRequest) : Prop :=
  request.line = form.line ∧ request.naptan = form.naptan

/-- The direction of the form is a platform of an arrival in a response for exactly its
line and naptan id. -/
def RealPlatform (history : Machine.History AddLinePage Event) (form : Form) : Prop :=
  ∃ came ∈ platformResponses history, Form.IsFor form came.1 ∧
    ∃ platform ∈ came.2, platform.platformName = some form.direction

/-- The place of the selected button. -/
def chosenPlace (s : AddLinePage) : Nat :=
  if s.is1Selected then 0 else 1

/-- The response handled last was requested for the form's line and id, or another one
that was lists the platform which the last has in the chosen place. -/
def LastIsOwn (history : Machine.History AddLinePage Event) (s : AddLinePage) (form : Form) :
    Prop :=
  ∃ last ∈ (platformResponses history).head?, Form.IsFor form last.1 ∨
    ∃ came ∈ platformResponses history, Form.IsFor form came.1 ∧
      ∃ platform ∈ came.2, platform.platformName = platformTitle last.2 s.chosenPlace

variable {history : Machine.History AddLinePage Event} {s s' : AddLinePage} {e : Event}

/-- The title a button has once the response handled last is `last`. -/
def titleFrom (last : Option (DirectionRequest × List TubeDirection)) (place : Nat) :
    Option String :=
  match last with
  | none => some "Choose a Direction"
  | some last => platformTitle last.2 place

/-- The titles of the buttons are those of the response handled last. -/
structure Titled (history : Machine.History AddLinePage Event) (s : AddLinePage) : Prop where
  first : s.direction1Title = titleFrom (platformResponses history).head? 0
  second : s.direction2Title = titleFrom (platformResponses history).head? 1

theorem platformTitle_mem {platforms : List TubeDirection} {place : Nat} {title : String}
    (isTitle : platformTitle platforms place = some title) :
    ∃ platform ∈ platforms, platform.platformName = some title := by
  rw [platformTitle, subscriptOptional_eq, Option.bind_eq_some_iff] at isTitle
  obtain ⟨platform, found, named⟩ := isTitle
  exact ⟨platform, (mem_removeDuplicates platform platforms).1 (List.mem_of_getElem? found), named⟩

theorem platformResponses_cons :
    platformResponses ((s, e) :: history) =
      (s.platformsCame e).toList ++ platformResponses history :=
  Machine.History.filterMap_cons _ _ _

theorem Titled.frame (titled : Titled history s) (nothing : s.platformsCame e = none)
    (first : s'.direction1Title = s.direction1Title)
    (second : s'.direction2Title = s.direction2Title) : Titled ((s, e) :: history) s' := by
  have same : platformResponses ((s, e) :: history) = platformResponses history := by
    rw [platformResponses_cons, nothing]
    rfl
  refine ⟨?_, ?_⟩
  · rw [first, same]
    exact titled.first
  · rw [second, same]
    exact titled.second

theorem Titled.step {F : Frameworks} (titled : Titled history s) (next : Next F s e s') :
    Titled ((s, e) :: history) s' := by
  cases next with
  | directionsAnswered k response request issued =>
      cases records : response.records with
      | none =>
          refine titled.frame ?_ rfl rfl
          simp [platformsCame, issued, records]
      | some platforms =>
          have came : s.platformsCame (.directions k response) = some (request, platforms) := by
            simp [platformsCame, issued, records]
          refine ⟨?_, ?_⟩ <;> rw [platformResponses_cons, came] <;> rfl
  | _ => exact titled.frame rfl rfl rfl

theorem titled_of_run {F : Frameworks} (run : (addLinePage F).Run history s) :
    Titled history s := by
  apply run.invariant (I := Titled)
  · rintro s ⟨currentUser, store, rfl⟩
    exact ⟨rfl, rfl⟩
  · intro history s e s' _ titled enabled stepped
    exact titled.step (next_of_step F enabled stepped)

/-- The direction of a checked form is the title of the selected button. -/
theorem Titled.chosen (titled : Titled history s) {title : String}
    (chosen : s.chosenTitle = some title) :
    titleFrom (platformResponses history).head? s.chosenPlace = some title := by
  unfold chosenTitle at chosen
  unfold chosenPlace
  split at chosen
  · rename_i one
    rw [if_pos one, ← titled.first]
    exact chosen
  · rename_i notOne
    split at chosen
    · rw [if_neg notOne, ← titled.second]
      exact chosen
    · cases chosen

/-- **When the saved direction is a platform of the saved stop.** -/
theorem realPlatform_iff {F : Frameworks} (run : (addLinePage F).Run history s) {form : Form}
    (passes : s.checked = some form) :
    RealPlatform history form ↔ LastIsOwn history s form := by
  have title := (titled_of_run run).chosen (checked_eq_some.1 passes).2.2
  constructor
  · rintro ⟨came, member, own, platform, listed, named⟩
    obtain ⟨last, isLast⟩ := Option.isSome_iff_exists.1
      (List.isSome_head?.2 (List.ne_nil_of_mem member))
    rw [isLast] at title
    exact ⟨last, isLast, Or.inr ⟨came, member, own, platform, listed, named.trans title.symm⟩⟩
  · rintro ⟨last, isLast, own | ⟨came, member, own, platform, listed, named⟩⟩
    · rw [Option.mem_def.1 isLast] at title
      exact ⟨last, List.mem_of_mem_head? isLast, own, platformTitle_mem title⟩
    · rw [Option.mem_def.1 isLast] at title
      exact ⟨came, member, own, platform, listed, named.trans title⟩

theorem realPlatform_iff_answered :
    ∃ history s, (addLinePage .reference).Run history s ∧
      s.checked = some ⟨"waterloo-city", "940GZZLUBNK", "Westbound - Platform 7"⟩ ∧
      (RealPlatform history ⟨"waterloo-city", "940GZZLUBNK", "Westbound - Platform 7"⟩ ↔
        LastIsOwn history s ⟨"waterloo-city", "940GZZLUBNK", "Westbound - Platform 7"⟩) := by
  obtain ⟨history, s, run, -, passes⟩ := Machine.exec_reaches (M := addLinePage .reference)
    (fun _ s => s.checked) ⟨some "u", .empty, rfl⟩
    (pickBank ++ [.directions 0 (.decoded [⟨some "Westbound - Platform 7"⟩])])
    (some ⟨"waterloo-city", "940GZZLUBNK", "Westbound - Platform 7"⟩) (by decide)
  exact ⟨history, s, run, passes, realPlatform_iff run passes⟩

/-- The refuting pole: before any platforms came, the placeholder is saved. -/
theorem placeholder_is_saved :
    ∃ history s, (addLinePage .reference).Run history s ∧
      s.checked = some ⟨"waterloo-city", "940GZZLUBNK", "Choose a Direction"⟩ ∧
      ¬ RealPlatform history ⟨"waterloo-city", "940GZZLUBNK", "Choose a Direction"⟩ := by
  obtain ⟨history, s, run, -, seen⟩ := Machine.exec_reaches (M := addLinePage .reference)
    (fun history s => (s.checked, (platformResponses history).isEmpty))
    ⟨some "u", .empty, rfl⟩ pickBank
    (some ⟨"waterloo-city", "940GZZLUBNK", "Choose a Direction"⟩, true) (by decide)
  rw [Prod.mk.injEq, List.isEmpty_iff] at seen
  refine ⟨history, s, run, seen.1, ?_⟩
  rintro ⟨came, member, -⟩
  rw [seen.2] at member
  cases member

end AddLinePage

end MindTheGap
