/-
# AddLinePage.Titles -- which platforms the two buttons offer

The completion of `getDirections` puts the first two different entries of the array on the
two buttons.  A user would want every platform of the station (`OffersAll`).  Two buttons
hold two names: `titles_of_distinct` says which, in every array whose names are not
preceded by an entry without one (`NamedAhead`), and that no array puts anything else on a
button, or one name on both.

`offersAll_iff` is the exact condition for every platform to be on offer.
-/
import MindTheGap.AddLinePage.Platform
import MindTheGap.Extensions.RemoveDuplicates

namespace MindTheGap

open MindTheGap.Theory

set_option autoImplicit false

namespace AddLinePage

/-- The platform names of an array, in its order. -/
def platformNames (platforms : List TubeDirection) : List String :=
  platforms.filterMap TubeDirection.platformName

/-- The entry of a platform with a name. -/
def namedPlatform (name : String) : TubeDirection := ⟨some name⟩

/-- A button has the name for its title. -/
def Offers (s : AddLinePage) (name : String) : Prop :=
  s.direction1Title = some name ∨ s.direction2Title = some name

/-- Every platform of the array can be chosen. -/
structure OffersAll (s : AddLinePage) (platforms : List TubeDirection) : Prop where
  all : ∀ name, s.Offers name ↔ name ∈ platformNames platforms
  first : ∀ name ∈ (platformNames platforms).head?, s.direction1Title = some name
  once : ∀ name, ¬ (s.direction1Title = some name ∧ s.direction2Title = some name)

/-- The array begins with entries that have names, and these are two different ones or all
there are. -/
def NamedAhead (platforms : List TubeDirection) : Prop :=
  ∃ (ahead : List String) (rest : List TubeDirection),
    platforms = ahead.map namedPlatform ++ rest ∧
    ((∃ a ∈ ahead, ∃ b ∈ ahead, a ≠ b) ∨ ∀ name ∈ platformNames rest, name ∈ ahead)

/-- The buttons have the first two of the names. -/
structure FirstTwo (s : AddLinePage) (names : List String) : Prop where
  first : s.direction1Title = names[0]?
  second : s.direction2Title = names[1]?

/-! ## Titles and entries -/

theorem platformNames_named (names : List String) :
    platformNames (names.map namedPlatform) = names := by
  rw [platformNames, List.filterMap_map]
  exact List.filterMap_some

theorem mem_platformNames {platforms : List TubeDirection} {name : String} :
    name ∈ platformNames platforms ↔ namedPlatform name ∈ platforms := by
  rw [platformNames, List.mem_filterMap]
  constructor
  · rintro ⟨⟨_⟩, member, rfl⟩
    exact member
  · exact fun member => ⟨_, member, rfl⟩

theorem platformTitle_eq (platforms : List TubeDirection) (place : Nat) :
    platformTitle platforms place =
      (removeDuplicates platforms)[place]?.bind TubeDirection.platformName := by
  rw [platformTitle, subscriptOptional_eq]

theorem platformTitle_eq_some {platforms : List TubeDirection} {place : Nat} {name : String} :
    platformTitle platforms place = some name ↔
      (removeDuplicates platforms)[place]? = some (namedPlatform name) := by
  rw [platformTitle_eq, Option.bind_eq_some_iff]
  constructor
  · rintro ⟨⟨_⟩, found, rfl⟩
    exact found
  · exact fun found => ⟨_, found, rfl⟩

/-- No two places have one title. -/
theorem platformTitle_once {platforms : List TubeDirection} {i j : Nat} {name : String}
    (left : platformTitle platforms i = some name)
    (right : platformTitle platforms j = some name) : i = j := by
  rw [platformTitle_eq_some] at left right
  exact (List.getElem?_inj (List.getElem?_eq_some_iff.1 left).1
    (nodup_removeDuplicates platforms)).1 (left.trans right.symm)

section Ahead

variable {ahead : List String} {rest : List TubeDirection} {place : Nat}

theorem removeDuplicates_named (names : List String) :
    removeDuplicates (names.map namedPlatform) = (removeDuplicates names).map namedPlatform := by
  apply removeDuplicates_map
  intro a b
  simp [namedPlatform]

theorem platformNames_ahead :
    platformNames (ahead.map namedPlatform ++ rest) = ahead ++ platformNames rest := by
  conv_rhs => rw [← platformNames_named ahead]
  exact List.filterMap_append

/-- The title of a place that the named entries ahead reach. -/
theorem platformTitle_reached (reached : place < (removeDuplicates ahead).length) :
    platformTitle (ahead.map namedPlatform ++ rest) place =
      (removeDuplicates (ahead ++ platformNames rest))[place]? := by
  rw [platformTitle_eq, removeDuplicates_append, removeDuplicates_append, removeDuplicates_named,
    List.getElem?_append_left (by rwa [List.length_map]), List.getElem?_append_left reached,
    List.getElem?_map, List.getElem?_eq_getElem reached]
  rfl

/-- Beyond the named entries ahead there are only their names, and none of them again. -/
theorem platformTitle_past (known : ∀ name ∈ platformNames rest, name ∈ ahead)
    (past : (removeDuplicates ahead).length ≤ place) :
    platformTitle (ahead.map namedPlatform ++ rest) place = none := by
  apply Option.eq_none_iff_forall_ne_some.2
  intro name titled
  rw [platformTitle_eq_some, removeDuplicates_append, removeDuplicates_named,
    List.getElem?_append_right (by rwa [List.length_map])] at titled
  obtain ⟨listed, new⟩ := List.mem_filter.1 (List.mem_of_getElem? titled)
  have again : name ∈ ahead :=
    known name (mem_platformNames.2 ((mem_removeDuplicates _ rest).1 listed))
  simp [namedPlatform, again] at new

/-- The title of a place is the name of that place among the different names, where the
named entries ahead reach it or have all the names. -/
theorem platformTitle_ahead (reached : place < (removeDuplicates ahead).length ∨
      ∀ name ∈ platformNames rest, name ∈ ahead) :
    platformTitle (ahead.map namedPlatform ++ rest) place =
      (removeDuplicates (platformNames (ahead.map namedPlatform ++ rest)))[place]? := by
  rw [platformNames_ahead]
  rcases Nat.lt_or_ge place (removeDuplicates ahead).length with inside | past
  · exact platformTitle_reached inside
  · have known := reached.resolve_left (by omega)
    have all : removeDuplicates (ahead ++ platformNames rest) = removeDuplicates ahead := by
      rw [removeDuplicates_append, List.filter_eq_nil_iff.2, List.append_nil]
      intro name listed
      simpa using known name ((mem_removeDuplicates name _).1 listed)
    rw [platformTitle_past known past, all, List.getElem?_eq_none past]

end Ahead

/-! ## The first two names -/

theorem two_of_different {names : List String} {a b : String} (member : a ∈ names)
    (member' : b ∈ names) (differ : a ≠ b) : 1 < names.length := by
  have both : [a, b] ⊆ names := by simp [member, member']
  exact (List.subperm_of_subset (by simpa using differ) both).length_le

theorem NamedAhead.title {platforms : List TubeDirection} (named : NamedAhead platforms)
    {place : Nat} (button : place < 2) :
    platformTitle platforms place = (removeDuplicates (platformNames platforms))[place]? := by
  obtain ⟨ahead, rest, rfl, ⟨a, member, b, member', differ⟩ | known⟩ := named
  · have two : 1 < (removeDuplicates ahead).length :=
      two_of_different ((mem_removeDuplicates a ahead).2 member)
        ((mem_removeDuplicates b ahead).2 member') differ
    exact platformTitle_ahead (Or.inl (by omega))
  · exact platformTitle_ahead (Or.inr known)

theorem mem_iff_first_two {names : List String} (few : names.length ≤ 2) (name : String) :
    name ∈ names ↔ names[0]? = some name ∨ names[1]? = some name := by
  match names, few with
  | [], _ => simp
  | [a], _ => simp [eq_comm]
  | [a, b], _ => simp [eq_comm]

variable {s : AddLinePage} {k : Nat} {platforms : List TubeDirection} {names : List String}

theorem mem_of_keepsFirst (distinct : KeepsFirst (platformNames platforms) names)
    (name : String) : name ∈ names ↔ name ∈ platformNames platforms := by
  rw [← List.contains_iff_mem, distinct.contains, List.contains_iff_mem]

theorem FirstTwo.offersAll (firstTwo : s.FirstTwo names)
    (distinct : KeepsFirst (platformNames platforms) names) (few : names.length ≤ 2)
    (once : ∀ name, ¬ (s.direction1Title = some name ∧ s.direction2Title = some name)) :
    s.OffersAll platforms where
  all name := by
    rw [Offers, firstTwo.first, firstTwo.second, ← mem_iff_first_two few]
    exact mem_of_keepsFirst distinct name
  first name isHead := by
    rw [firstTwo.first, ← List.head?_eq_getElem?, distinct.head]
    exact isHead
  once := once

/-- The titles once the platforms have come. -/
theorem answerDirections_offers {name : String}
    (offers : (s.answerDirections k (.decoded platforms)).Offers name) :
    name ∈ platformNames platforms := by
  have found : ∀ place, platformTitle platforms place = some name →
      name ∈ platformNames platforms := by
    intro place titled
    obtain ⟨platform, member, named⟩ := platformTitle_mem titled
    exact List.mem_filterMap.2 ⟨platform, member, named⟩
  exact offers.elim (found 0) (found 1)

theorem answerDirections_once (name : String) :
    ¬ ((s.answerDirections k (.decoded platforms)).direction1Title = some name ∧
      (s.answerDirections k (.decoded platforms)).direction2Title = some name) := by
  rintro ⟨first, second⟩
  exact absurd (platformTitle_once first second) Nat.zero_ne_one

theorem NamedAhead.firstTwo (named : NamedAhead platforms)
    (distinct : KeepsFirst (platformNames platforms) names) :
    (s.answerDirections k (.decoded platforms)).FirstTwo names := by
  obtain rfl := removeDuplicates_eq_iff.2 distinct
  exact ⟨named.title (by omega), named.title (by omega)⟩

/-- **What the buttons offer.**  Only platforms of the array, none of them twice, and the
first two of its names unless an entry without a name is ahead of them. -/
theorem titles_of_distinct (s : AddLinePage) (k : Nat) {platforms : List TubeDirection}
    {names : List String} (distinct : KeepsFirst (platformNames platforms) names) :
    (∀ name, (s.answerDirections k (.decoded platforms)).Offers name →
      name ∈ platformNames platforms) ∧
    (∀ name, ¬ ((s.answerDirections k (.decoded platforms)).direction1Title = some name ∧
      (s.answerDirections k (.decoded platforms)).direction2Title = some name)) ∧
    (NamedAhead platforms →
      (s.answerDirections k (.decoded platforms)).FirstTwo names ∧
      (names.length ≤ 2 → (s.answerDirections k (.decoded platforms)).OffersAll platforms)) := by
  refine ⟨fun name => answerDirections_offers, answerDirections_once, fun named => ?_⟩
  exact ⟨named.firstTwo distinct,
    fun few => (named.firstTwo distinct).offersAll distinct few answerDirections_once⟩

/-- A station with two platforms, one of its trains without one. -/
theorem titles_of_distinct_bank :
    let names := ["Westbound - Platform 7", "Eastbound - Platform 8"]
    let after := AddLinePage.answerDirections { currentUser := some "u", store := .empty } 0
      (.decoded (names.map namedPlatform ++ [⟨none⟩]))
    after.FirstTwo names ∧ after.OffersAll (names.map namedPlatform ++ [⟨none⟩]) := by
  intro names after
  have distinct : KeepsFirst (platformNames (names.map namedPlatform ++ [⟨none⟩])) names :=
    removeDuplicates_eq_iff.1 (by decide)
  obtain ⟨firstTwo, all⟩ := (titles_of_distinct { currentUser := some "u", store := .empty } 0
    distinct).2.2 ⟨names, [⟨none⟩], rfl, Or.inr (by decide)⟩
  exact ⟨firstTwo, all (by decide)⟩

/-! ## When every platform is on offer -/

theorem OffersAll.few (offersAll : s.OffersAll platforms)
    (distinct : KeepsFirst (platformNames platforms) names) : names.length ≤ 2 := by
  have titles : names ⊆ s.direction1Title.toList ++ s.direction2Title.toList := by
    intro name member
    have offered := (offersAll.all name).2 ((mem_of_keepsFirst distinct name).1 member)
    simpa [Offers] using offered
  have nodup : names.Nodup := distinct.distinct.imp fun differ => beq_eq_false_iff_ne.1 differ
  have counted := (List.subperm_of_subset nodup titles).length_le
  have one : ∀ title : Option String, title.toList.length ≤ 1 := by
    intro title
    cases title <;> simp
  have first := one s.direction1Title
  have second := one s.direction2Title
  rw [List.length_append] at counted
  omega

/-- An array in which nothing but one name occurs. -/
theorem namedAhead_of_one {name : String} {rest : List TubeDirection}
    (one : ∀ other ∈ platformNames (namedPlatform name :: rest), other = name) :
    NamedAhead (namedPlatform name :: rest) := by
  refine ⟨[name], rest, rfl, Or.inr ?_⟩
  intro other member
  have same := one other (List.mem_cons_of_mem name member)
  simp [same]

/-- An array whose second different entry has a name begins with one name, any number of
times, and then that one. -/
theorem namedAhead_of_two {name other : String} {rest : List TubeDirection}
    (second : platformTitle (namedPlatform name :: rest) 1 = some other) :
    NamedAhead (namedPlatform name :: rest) := by
  have keeps := keepsFirst_removeDuplicates (namedPlatform name :: rest)
  have one : (removeDuplicates (namedPlatform name :: rest)).take 1 = [namedPlatform name] := by
    rw [List.take_one, keeps.head]
    rfl
  have found := keeps.first 1
  rw [platformTitle_eq_some.1 second, one] at found
  obtain ⟨new, before, after, split, same⟩ := List.find?_eq_some_iff_append.1 found.symm
  have some_before : before.length ≠ 0 := by
    intro none_before
    obtain rfl := List.length_eq_zero_iff.1 none_before
    obtain ⟨same, -⟩ := List.cons.inj split
    simp [same] at new
  have repeated : before = List.replicate before.length (namedPlatform name) := by
    apply List.eq_replicate_of_mem
    intro platform member
    simpa using same platform member
  refine ⟨List.replicate before.length name ++ [other], after, ?_,
    Or.inl ⟨name, ?_, other, ?_, ?_⟩⟩
  · rw [split, List.map_append, List.map_replicate, ← repeated]
    simp
  · simp [some_before]
  · simp
  · rintro rfl
    simp at new

theorem OffersAll.namedAhead (offersAll : (s.answerDirections k (.decoded platforms)).OffersAll
    platforms) : NamedAhead platforms := by
  cases platforms with
  | nil => exact ⟨[], [], rfl, Or.inr (by simp [platformNames])⟩
  | cons platform rest =>
      have head := (keepsFirst_removeDuplicates (platform :: rest)).head
      rw [List.head?_eq_getElem?] at head
      obtain ⟨_ | name⟩ := platform
      · -- the first button has no title, so there is no name to be on it
        cases all : platformNames (⟨none⟩ :: rest) with
        | nil => exact ⟨[], _, rfl, Or.inr (by simp [all])⟩
        | cons name names =>
            have titled := platformTitle_eq_some.1 (offersAll.first name (by simp [all]))
            simp [namedPlatform, head] at titled
      · cases second : platformTitle (namedPlatform name :: rest) 1 with
        | some other => exact namedAhead_of_two second
        | none =>
            apply namedAhead_of_one
            intro other member
            have first : platformTitle (namedPlatform name :: rest) 0 = some name :=
              platformTitle_eq_some.2 head
            rcases (offersAll.all other).2 member with titled | titled
            · exact Option.some.inj (titled.symm.trans first)
            · exact nomatch titled.symm.trans second

theorem offersAll_iff (distinct : KeepsFirst (platformNames platforms) names) :
    (s.answerDirections k (.decoded platforms)).OffersAll platforms ↔
      NamedAhead platforms ∧ names.length ≤ 2 := by
  constructor
  · intro offersAll
    exact ⟨offersAll.namedAhead, offersAll.few distinct⟩
  · rintro ⟨named, few⟩
    exact (named.firstTwo distinct).offersAll distinct few answerDirections_once

/-- The refuting poles: there is no button for a third platform, and an entry without a
name takes the first. -/
theorem platform_unoffered :
    let three := ["Westbound - Platform 7", "Eastbound - Platform 8",
      "Eastbound - Platform 10"].map namedPlatform
    let nameless := ⟨none⟩ :: ["Westbound - Platform 7", "Eastbound - Platform 8"].map namedPlatform
    ∃ history s, (addLinePage .reference).Run history s ∧
      (∀ platforms, (addLinePage .reference).Enabled s (.directions 0 (.decoded platforms))) ∧
      ¬ (s.answerDirections 0 (.decoded three)).OffersAll three ∧
      ¬ (s.answerDirections 0 (.decoded nameless)).OffersAll nameless := by
  intro three nameless
  obtain ⟨history, s, run, -, waiting⟩ := Machine.exec_reaches (M := addLinePage .reference)
    (fun _ s => s.directionRequests[0]?.map DirectionRequest.answered) ⟨some "u", .empty, rfl⟩
    pickBank (some false) (by decide)
  refine ⟨history, s, run, fun _ => waiting, fun offersAll => ?_, fun offersAll => ?_⟩
  · have few := offersAll.few (keepsFirst_removeDuplicates _)
    revert few
    decide
  · have titled : platformTitle nameless 0 = some "Westbound - Platform 7" :=
      offersAll.first _ rfl
    revert titled
    decide

end AddLinePage

end MindTheGap
