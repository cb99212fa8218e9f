/-
# AddLinePage.Traps -- whether a tap on Add traps

`addStop` checks the line, the naptan id and that a direction button is selected, and then
unwraps the title of the selected one.  A title is the platform of one entry of the
deduplicated response, so it is `nil` when the response has too few different entries, or
an entry without a platform in that place; and it may become so after the button was
selected.

`addsSafely_iff` is the exact condition for the selected button to have a title: no button
is selected, or no platforms have come yet, or the response handled last has a platform in
the place of the selected button.  The tap itself does not trap either while the line or
the naptan id is missing (`tap_isSome_iff`).
-/
import MindTheGap.AddLinePage.Platform

namespace MindTheGap

open MindTheGap.Theory

set_option autoImplicit false

namespace AddLinePage

/-- A tap on Add unwraps no `nil`, and the button it reads, or would read once the line and
the naptan id are there, has a title. -/
structure AddsSafely (F : Frameworks) (s : AddLinePage) : Prop where
  tap : ∀ documentID, (s.addStop F documentID).isSome
  first : s.is1Selected = true → s.direction1Title.isSome
  second : s.is1Selected = false → s.is2Selected = true → s.direction2Title.isSome

/-- The response handled last, if any, has a platform in the chosen place. -/
def NamedLast (history : Machine.History AddLinePage Event) (s : AddLinePage) : Prop :=
  ∀ last ∈ (platformResponses history).head?, (platformTitle last.2 s.chosenPlace).isSome

/-- The button that a tap on Add would read has a title. -/
def HasTitle (s : AddLinePage) : Prop :=
  (s.is1Selected = true → s.direction1Title.isSome) ∧
    (s.is1Selected = false → s.is2Selected = true → s.direction2Title.isSome)

/-- `addStop` traps at the title only, and only when the line and the naptan id are there. -/
theorem addStop_isSome_iff (F : Frameworks) (s : AddLinePage) (documentID : String) :
    (s.addStop F documentID).isSome ↔ s.line = none ∨ s.naptan = none ∨ s.HasTitle := by
  cases isLine : s.line with
  | none => simp [addStop, ask, isLine]
  | some line =>
      cases isNaptan : s.naptan with
      | none => simp [addStop, ask, isLine, isNaptan]
      | some naptan =>
          cases one : s.is1Selected with
          | true =>
              cases isTitle : s.direction1Title <;> cases user : s.currentUser <;>
                simp [addStop, ask, HasTitle, isLine, isNaptan, one, isTitle, user]
          | false =>
              cases two : s.is2Selected with
              | false => simp [addStop, ask, HasTitle, isLine, isNaptan, one, two]
              | true =>
                  cases isTitle : s.direction2Title <;> cases user : s.currentUser <;>
                    simp [addStop, ask, HasTitle, isLine, isNaptan, one, two, isTitle, user]

/-- The tap adds nothing to what the titles say. -/
theorem addsSafely_iff_titles {F : Frameworks} {s : AddLinePage} :
    AddsSafely F s ↔ s.HasTitle := by
  constructor
  · intro safe
    exact ⟨safe.first, safe.second⟩
  · intro hasTitle
    refine ⟨fun documentID => ?_, hasTitle.1, hasTitle.2⟩
    exact (addStop_isSome_iff F s documentID).2 (Or.inr (Or.inr hasTitle))

theorem hasTitle_iff {F : Frameworks} {history : Machine.History AddLinePage Event}
    {s : AddLinePage} (run : (addLinePage F).Run history s) :
    s.HasTitle ↔ (s.is1Selected = false ∧ s.is2Selected = false) ∨ NamedLast history s := by
  have titled := titled_of_run run
  have named : NamedLast history s ↔
      (titleFrom (platformResponses history).head? s.chosenPlace).isSome := by
    unfold NamedLast
    cases (platformResponses history).head? <;> simp [titleFrom]
  rw [HasTitle, named, titled.first, titled.second]
  unfold chosenPlace
  cases one : s.is1Selected with
  | true => simp
  | false =>
      cases two : s.is2Selected with
      | true => simp
      | false => simp

/-- **When the tap itself does not trap**: also whenever the line or the naptan id is
missing, whatever the titles are. -/
theorem tap_isSome_iff {F : Frameworks} {history : Machine.History AddLinePage Event}
    {s : AddLinePage} (run : (addLinePage F).Run history s) (documentID : String) :
    (s.addStop F documentID).isSome ↔ s.line = none ∨ s.naptan = none ∨
      (s.is1Selected = false ∧ s.is2Selected = false) ∨ NamedLast history s := by
  rw [addStop_isSome_iff, hasTitle_iff run]

/-- **When a tap on Add unwraps no `nil`**, and would not once the line and the naptan id
are there. -/
theorem addsSafely_iff {F : Frameworks} {history : Machine.History AddLinePage Event}
    {s : AddLinePage} (run : (addLinePage F).Run history s) :
    AddsSafely F s ↔
      (s.is1Selected = false ∧ s.is2Selected = false) ∨ NamedLast history s := by
  rw [addsSafely_iff_titles, hasTitle_iff run]

theorem addsSafely_iff_bank :
    ∃ history s, (addLinePage .reference).Run history s ∧ s.is1Selected = true ∧
      (AddsSafely .reference s ↔
        (s.is1Selected = false ∧ s.is2Selected = false) ∨ NamedLast history s) := by
  obtain ⟨history, s, run, -, selected⟩ := Machine.exec_reaches (M := addLinePage .reference)
    (fun _ s => s.is1Selected) ⟨some "u", .empty, rfl⟩
    (pickBank ++ [.directions 0 (.decoded [⟨some "Westbound - Platform 7"⟩])]) true (by decide)
  exact ⟨history, s, run, selected, addsSafely_iff run⟩

/-- The refuting pole: one platform came, the second button is selected, and Add traps. -/
theorem second_direction_of_one_traps :
    ∃ history s, (addLinePage .reference).Run history s ∧
      (addLinePage .reference).Enabled s (.addStop "d") ∧
      (addLinePage .reference).step s (.addStop "d") = none ∧ ¬ AddsSafely .reference s := by
  obtain ⟨history, s, run, -, seen⟩ := Machine.exec_reaches (M := addLinePage .reference)
    (fun _ s => (decide (s.Enabled (.addStop "d")), (s.addStop .reference "d").isSome))
    ⟨some "u", .empty, rfl⟩
    (pickBank ++ [.directions 0 (.decoded [⟨some "Westbound - Platform 7"⟩]), .direction2])
    (true, false) (by decide)
  rw [Prod.mk.injEq, decide_eq_true_eq] at seen
  obtain ⟨enabled, result⟩ := seen
  have traps : s.addStop .reference "d" = none := by simpa using result
  refine ⟨history, s, run, enabled, traps, fun safe => ?_⟩
  have taps := safe.tap "d"
  rw [result] at taps
  cases taps

end AddLinePage

end MindTheGap
