/-
# Theory.Lifecycle -- records that are created once and removed for good

Under every key there is at most one record ever: it is created with its contents, the
contents never change, and once it is removed nothing comes back under the key.  The
machine `lifecycle` is what a store of such records does.  Of a machine that it simulates,
`oneLife` is what an observer of one key sees over a run: nothing, then one and the same
contents, then nothing; and `contents_from` is where the contents come from: they were
there at the start, or one step created them.
-/
import Mathlib.Logic.Function.Basic
import MindTheGap.Theory.Simulation

namespace MindTheGap.Theory

set_option autoImplicit false

/-- Where the record of a key is in its life. -/
inductive Life (δ : Type*) where
  | unborn
  | live (contents : δ)
  | gone

namespace Life

variable {δ : Type*}

/-- What is under the key. -/
def contents : Life δ → Option δ
  | live contents => some contents
  | _ => none

@[simp] theorem contents_unborn : (unborn : Life δ).contents = none := rfl
@[simp] theorem contents_live (d : δ) : (live d).contents = some d := rfl
@[simp] theorem contents_gone : (gone : Life δ).contents = none := rfl

theorem contents_eq_some {life : Life δ} {d : δ} : life.contents = some d ↔ life = live d := by
  cases life <;> simp

/-- A life seen from time to time, newest first. -/
def OneLife (seen : List (Option δ)) : Prop :=
  ∃ (record : Option δ) (after during before : Nat),
    seen = List.replicate after none ++ List.replicate during record ++ List.replicate before none

/-- What can have been seen of a record by the point of its life it has reached. -/
inductive Seen : Life δ → List (Option δ) → Prop
  | unborn (before : Nat) : Seen .unborn (List.replicate before none)
  | live (d : δ) (during before : Nat) :
      Seen (.live d) (List.replicate during (some d) ++ List.replicate before none)
  | gone (d : δ) (after during before : Nat) :
      Seen .gone (List.replicate after none ++ List.replicate during (some d) ++
        List.replicate before none)

theorem Seen.oneLife {life : Life δ} {seen : List (Option δ)} (story : Seen life seen) :
    OneLife seen := by
  cases story with
  | unborn before => exact ⟨none, 0, 0, before, rfl⟩
  | live d during before => exact ⟨some d, 0, during, before, rfl⟩
  | gone d after during before => exact ⟨some d, after, during, before, rfl⟩

/-- Looking once more at the same point of the life. -/
theorem Seen.again {life : Life δ} {seen : List (Option δ)} (story : Seen life seen) :
    Seen life (life.contents :: seen) := by
  cases story with
  | unborn before => exact .unborn (before + 1)
  | live d during before => exact .live d (during + 1) before
  | gone d after during before => exact .gone d (after + 1) during before

theorem Seen.born {seen : List (Option δ)} (story : Seen .unborn seen) (d : δ) :
    Seen (.live d) (some d :: seen) := by
  cases story with
  | unborn before => exact .live d 1 before

theorem Seen.removed {d : δ} {seen : List (Option δ)} (story : Seen (.live d) seen) :
    Seen .gone (none :: seen) := by
  cases story with
  | live d during before => exact .gone d 1 during before

end Life

/-- What happens to a store of such records. -/
inductive LifeEvent (κ δ : Type*) where
  | create (key : κ) (contents : δ)
  | remove (key : κ)

/-- Records are created under unused keys and removed while they are there. -/
def lifecycle (κ δ : Type*) [DecidableEq κ] : Machine (κ → Life δ) (LifeEvent κ δ) where
  Start life := ∀ key, life key ≠ .gone
  Enabled
    | life, .create key _ => life key = .unborn
    | life, .remove key => ∃ d, life key = .live d
  step
    | life, .create key d => some (Function.update life key (.live d))
    | life, .remove key => some (Function.update life key .gone)

variable {κ δ : Type*} [DecidableEq κ]

/-- What has been seen of a key by the end of a run. -/
theorem seen_of_run {history : Machine.History (κ → Life δ) (Option (LifeEvent κ δ))}
    {life : κ → Life δ} (run : (lifecycle κ δ).stuttering.Run history life) (key : κ) :
    Life.Seen (life key)
      ((life key).contents :: history.map fun x => (x.1 key).contents) := by
  induction run with
  | @start life starts =>
      cases start : life key with
      | unborn => exact .unborn 1
      | live d => exact .live d 1 0
      | gone => exact absurd start (starts key)
  | @step history life life' label run enabled stepped ih =>
      cases label with
      | none =>
          cases stepped
          exact ih.again
      | some event =>
          cases event with
          | create born d =>
              cases stepped
              have unborn : life born = .unborn := enabled _ rfl
              by_cases same : key = born
              · subst same
                rw [unborn] at ih
                simpa [unborn] using ih.born d
              · simpa [Function.update_of_ne same] using ih.again
          | remove removed =>
              cases stepped
              obtain ⟨d, live⟩ : ∃ d, life removed = .live d := enabled _ rfl
              by_cases same : key = removed
              · subst same
                rw [live] at ih
                simpa [live] using ih.removed
              · simpa [Function.update_of_ne same] using ih.again

/-- **One life under each key**, in a store that a machine simulates. -/
theorem Simulation.oneLife {σ ε : Type*} {C : Machine σ ε}
    (sim : Simulation C (lifecycle κ δ)) (look : σ → κ → Option δ)
    (looks : ∀ s life, sim.rel s life → ∀ key, look s key = (life key).contents)
    {history : Machine.History σ ε} {s : σ} (run : C.Run history s) (key : κ) :
    Life.OneLife ((s :: history.map Prod.fst).map fun s => look s key) := by
  obtain ⟨history', life, run', related, matched⟩ := sim.stutters run
  have same : history.map (fun x => look x.1 key) =
      history'.map fun x => (x.1 key).contents := by
    clear run run'
    induction matched with
    | nil => rfl
    | cons together _ ih =>
        rw [List.map_cons, List.map_cons, looks _ _ together.1 key, ih]
  have story := (seen_of_run run' key).oneLife
  rw [List.map_cons, List.map_map, looks s life related key]
  rw [← same] at story
  exact story

/-- A record that is there was there at the start or was created. -/
theorem live_from {history : Machine.History (κ → Life δ) (Option (LifeEvent κ δ))}
    {life : κ → Life δ} (run : (lifecycle κ δ).stuttering.Run history life) {key : κ} {d : δ}
    (live : life key = .live d) :
    history.origin life key = .live d ∨ ∃ x ∈ history, x.2 = some (.create key d) := by
  induction run with
  | start starts => exact Or.inl live
  | @step history life life' label run enabled stepped ih =>
      rw [Machine.History.origin_cons]
      have earlier : life key = .live d → history.origin life key = .live d ∨
          ∃ x ∈ (life, label) :: history, x.2 = some (.create key d) := by
        intro live
        rcases ih live with origin | ⟨x, member, created⟩
        · exact Or.inl origin
        · exact Or.inr ⟨x, List.mem_cons_of_mem _ member, created⟩
      cases label with
      | none =>
          cases stepped
          exact earlier live
      | some event =>
          cases event with
          | create born contents =>
              cases stepped
              by_cases same : key = born
              · subst same
                rw [Function.update_self, Life.live.injEq] at live
                subst live
                exact Or.inr ⟨_, List.mem_cons_self, rfl⟩
              · rw [Function.update_of_ne same] at live
                exact earlier live
          | remove removed =>
              cases stepped
              by_cases same : key = removed
              · subst same
                rw [Function.update_self] at live
                cases live
              · rw [Function.update_of_ne same] at live
                exact earlier live

/-- **Where contents come from**, in a store that a machine simulates. -/
theorem Simulation.contents_from {σ ε : Type*} {C : Machine σ ε}
    (sim : Simulation C (lifecycle κ δ)) (look : σ → κ → Option δ)
    (looks : ∀ s life, sim.rel s life → ∀ key, look s key = (life key).contents)
    {history : Machine.History σ ε} {s : σ} (run : C.Run history s) {key : κ} {d : δ}
    (found : look s key = some d) :
    look (history.origin s) key = some d ∨
      ∃ x ∈ history, sim.label x.1 x.2 = some (.create key d) := by
  obtain ⟨history', life, run', related, matched⟩ := sim.stutters run
  rw [looks s life related key, Life.contents_eq_some] at found
  rcases live_from run' found with origin | ⟨y, member, created⟩
  · rw [looks _ _ (sim.origin_matched related matched) key, Life.contents_eq_some]
    exact Or.inl origin
  · obtain ⟨x, there, -, label⟩ := exists_of_matched matched member
    exact Or.inr ⟨x, there, label.trans created⟩

end MindTheGap.Theory
