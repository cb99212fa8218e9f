/-
# Pages.Decoding -- one body, two decoders

The add page and the home page ask one address for the arrivals of a line at a station.
The one decodes of each element only its platform, the other all that `tubeTimes` has, so
what the add page offers from a body the home page may be unable to read: an element with
a member of another type takes the whole array with it.

`polled_iff` says of a raw body when a poll that does not trap writes any train of it, and
`offered_polled_iff` what is left of that for a direction that was chosen from the same
body.  Which bodies trap is another matter (`Pages.MissingTimes`).
-/
import MindTheGap.Model.Decoding
import MindTheGap.AddLinePage.Titles
import MindTheGap.HomePage.Writes

namespace MindTheGap

open MindTheGap.Theory MindTheGap.Theory.Json

set_option autoImplicit false

universe u

variable {ν : Type u} (int : ν → Option Int)

variable {int} {data : Option (Option (Json ν))} {direction : String}

/-- An element with a platform and a time, whatever the time is written as. -/
def elementAt (platform : String) (time : Json Int) : Json Int :=
  .object [("platformName", .string platform), ("timeToStation", time)]

/-- Two trains, the time of the second written as given. -/
def bankBody (time : Json Int) : Option (Option (Json Int)) :=
  some (some (.array [elementAt "Westbound - Platform 7" (.number 60),
    elementAt "Eastbound - Platform 8" time]))

namespace HomePage

variable {F : Frameworks} {s s' : HomePage} {k : Nat} {request : Request}

/-- A page with one request in flight. -/
def waitingForBank : HomePage where
  currentUser := some "u"
  requests := [⟨⟨⟨"u", "a"⟩, "940GZZLUBNK", "waterloo-city", "Westbound - Platform 7"⟩, .timer,
    false⟩]
  store := .empty

end HomePage

variable {F : Frameworks} {page : AddLinePage} {j : Nat} {s s' : HomePage} {k : Nat}
  {request : Request}

/-- A page whose buttons are not set yet. -/
def unsetPage : AddLinePage := { currentUser := some "u", store := .empty }

/-- The refuting pole: the time of another platform's train is a text, and the direction is
offered as before and never polled. -/
theorem offered_and_not_polled :
    (unsetPage.answerDirections 0 (directionsIn (bankBody (.string "120")))).Offers
        "Westbound - Platform 7" ∧
      HomePage.waitingForBank.written .reference
        (.response 0 (arrivalsIn some (bankBody (.string "120")))) ⟨"u", "a"⟩ = [] :=
  ⟨Or.inl (by decide), by decide⟩

end MindTheGap
