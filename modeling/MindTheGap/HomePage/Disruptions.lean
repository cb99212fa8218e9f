/-
# HomePage.Disruptions -- the tiles of the lines' statuses over a whole run

`tileShowsOwn_iff` is about one tile and every tile it might be.  Here the tiles are those
of a run: the collection lays out, scrolls and reloads as it likes, and the one response
comes at any point of that.

In every state reached, a visible tile has the name and the status of its own line in that
response, and its logo and colour too where the line has them; otherwise they are those of
another line of the response, or of a new tile.  No item is asked for that is not there,
and an item asked for traps precisely when its line has no status (`tiles_of_run`).
-/
import MindTheGap.Model.Decoding
import MindTheGap.Model.Disruptions
import MindTheGap.HomePage.DisruptionTile

namespace MindTheGap

open MindTheGap.Theory MindTheGap.Theory.Json

set_option autoImplicit false

namespace DisruptionsCell

/-- The colour and the logo are those of lines in the array, or of a new tile. -/
structure Drawn (tubeStatus : List TubeStatus) (tile : DisruptionsCell) : Prop where
  colour : tile.lineStatusColour = .black ∨ ∃ data ∈ tubeStatus, ∃ first,
    data.lineStatuses[0]? = some first ∧
      statusColour first.statusSeverityDescription = some tile.lineStatusColour
  logo : tile.tubeLogoImage = UIImage.named "underground" ∨ ∃ data ∈ tubeStatus, ∃ name,
    data.name = some name ∧ tile.tubeLogoImage = HomePage.returnImageForLine name

/-- The tile shows the line of its row, as far as the line has something to show. -/
structure Shows (tubeStatus : List TubeStatus) (row : Nat) (tile : DisruptionsCell) : Prop where
  line : ∃ data first, tubeStatus[row]? = some data ∧ data.lineStatuses[0]? = some first ∧
    tile.lineName = data.name ∧ tile.lineStatus = some first.statusSeverityDescription ∧
    (∀ colour, statusColour first.statusSeverityDescription = some colour →
      tile.lineStatusColour = colour) ∧
    ∀ name, data.name = some name → tile.tubeLogoImage = HomePage.returnImageForLine name
  drawn : Drawn tubeStatus tile

variable {tubeStatus : List TubeStatus} {row : Nat} {cell tile : DisruptionsCell}

theorem drawn_fresh : Drawn tubeStatus {} := ⟨Or.inl rfl, Or.inl rfl⟩

/-- Tiles that no line was shown on, later in any array. -/
theorem Drawn.of_nil (drawn : Drawn [] tile) : Drawn tubeStatus tile where
  colour := drawn.colour.imp_right fun ⟨_, listed, _⟩ => absurd listed List.not_mem_nil
  logo := drawn.logo.imp_right fun ⟨_, listed, _⟩ => absurd listed List.not_mem_nil

theorem not_shows_nil : ¬ Shows [] row tile := by
  rintro ⟨⟨data, -, found, -⟩, -⟩
  cases found

/-- A tile set to a line of the array. -/
theorem Drawn.shows (drawn : Drawn tubeStatus cell) {data : TubeStatus} {first : Status}
    (found : tubeStatus[row]? = some data) (isFirst : data.lineStatuses[0]? = some first) :
    Shows tubeStatus row (setTo data first cell) := by
  have listed := List.mem_of_getElem? found
  refine ⟨⟨data, first, found, isFirst, rfl, rfl, ?_, ?_⟩, ?_, ?_⟩
  · intro colour coloured
    simp [setTo, coloured]
  · intro name named
    obtain ⟨image, isImage⟩ := Option.isSome_iff_exists.1 (returnImageForLine_isSome name)
    simp [setTo, named, isImage]
  · cases coloured : statusColour first.statusSeverityDescription with
    | none => simpa [setTo, coloured] using drawn.colour
    | some colour => exact Or.inr ⟨data, listed, first, isFirst, by simp [setTo, coloured]⟩
  · cases named : data.name with
    | none => simpa [setTo, named] using drawn.logo
    | some name =>
        obtain ⟨image, isImage⟩ := Option.isSome_iff_exists.1 (returnImageForLine_isSome name)
        exact Or.inr ⟨data, listed, name, named, by simp [setTo, named, isImage]⟩

theorem disruptionsCell_isSome_iff (cell : DisruptionsCell) {data : TubeStatus}
    (found : tubeStatus[row]? = some data) :
    (HomePage.disruptionsCell tubeStatus cell row).isSome ↔ data.lineStatuses ≠ [] := by
  rw [HomePage.disruptionsCell, found, Option.bind_eq_bind, Option.bind_some]
  cases isFirst : data.lineStatuses[0]? with
  | none =>
      rw [cellForItemAt_empty cell isFirst]
      simpa using isFirst
  | some first =>
      rw [cellForItemAt_first cell isFirst]
      have some_status : data.lineStatuses ≠ [] := by
        rintro none_status
        rw [none_status] at isFirst
        cases isFirst
      exact iff_of_true rfl some_status

/-- A tile that was set without a trap shows the line. -/
theorem Drawn.configured (drawn : Drawn tubeStatus cell)
    (configured : HomePage.disruptionsCell tubeStatus cell row = some tile) :
    Shows tubeStatus row tile := by
  obtain ⟨data, found, succeeds⟩ := Option.bind_eq_some_iff.1 configured
  cases isFirst : data.lineStatuses[0]? with
  | none =>
      rw [cellForItemAt_empty cell isFirst] at succeeds
      cases succeeds
  | some first =>
      rw [cellForItemAt_first cell isFirst] at succeeds
      cases succeeds
      exact drawn.shows found isFirst

end DisruptionsCell

namespace Disruptions

open DisruptionsCell

/-- What every run keeps. -/
structure Kept (history : Machine.History Disruptions Event) (s : Disruptions) : Prop where
  unanswered : s.answered = false → s.tubeStatus = []
  received : ∀ x ∈ history, ∀ response, x.2 = .getTubeStatus response →
    s.answered = true ∧ s.tubeStatus = response.records.getD []
  items : s.items ≤ s.tubeStatus.length
  visible : ∀ x ∈ s.visible, Shows s.tubeStatus x.1 x.2
  pool : ∀ tile ∈ s.pool, Drawn s.tubeStatus tile

variable {history : Machine.History Disruptions Event} {s s' : Disruptions} {e : Event}

theorem getTubeStatus_eq (s : Disruptions) (response : Response TubeStatus)
    (nothing : s.tubeStatus = []) :
    ∃ mainQueue, s.getTubeStatus response =
      { s with tubeStatus := response.records.getD [], mainQueue } := by
  cases response with
  | noData => exact ⟨s.mainQueue, by simp [getTubeStatus, Response.records, ← nothing]⟩
  | undecodable => exact ⟨s.mainQueue + 1, by simp [getTubeStatus, Response.records, ← nothing]⟩
  | decoded tubeStatus => exact ⟨s.mainQueue + 1, rfl⟩

/-- A tile that is dequeued, and those left in the pool. -/
theorem Kept.dequeued (kept : Kept history s) {reused : Option Nat} {cell : DisruptionsCell}
    {pool : List DisruptionsCell} (dequeued : s.dequeue reused = some (cell, pool)) :
    Drawn s.tubeStatus cell ∧ ∀ tile ∈ pool, Drawn s.tubeStatus tile := by
  cases reused with
  | none =>
      cases dequeued
      exact ⟨drawn_fresh, kept.pool⟩
  | some i =>
      obtain ⟨found, rfl⟩ := HomePage.removeAt_eq_some.1 dequeued
      exact ⟨kept.pool cell (List.mem_of_getElem? found),
        fun tile member => kept.pool tile (List.mem_of_mem_eraseIdx member)⟩

/-- An event that is not the response is nothing received. -/
theorem Kept.received_cons (kept : Kept history s) (other : ∀ response, e ≠ .getTubeStatus response)
    {x : Disruptions × Event} (member : x ∈ (s, e) :: history) {response : Response TubeStatus}
    (received : x.2 = .getTubeStatus response) :
    s.answered = true ∧ s.tubeStatus = response.records.getD [] := by
  rcases List.mem_cons.1 member with rfl | earlier
  · exact absurd received (other response)
  · exact kept.received x earlier response received

theorem Kept.answered (kept : Kept history s) {response : Response TubeStatus}
    (waiting : s.answered = false) :
    Kept ((s, .getTubeStatus response) :: history)
      (getTubeStatus { s with answered := true } response) := by
  have nothing := kept.unanswered waiting
  obtain ⟨mainQueue, leaves⟩ := getTubeStatus_eq { s with answered := true } response nothing
  have noItems : s.items = 0 := by simpa [nothing] using kept.items
  rw [leaves]
  constructor
  · rintro ⟨⟩
  · intro x member other received
    rcases List.mem_cons.1 member with rfl | earlier
    · cases received
      exact ⟨rfl, rfl⟩
    · exact absurd (kept.received x earlier other received).1 (by simp [waiting])
  · exact noItems ▸ Nat.zero_le _
  · intro x member
    exact absurd (nothing ▸ kept.visible x member) not_shows_nil
  · intro tile member
    exact (nothing ▸ kept.pool tile member : Drawn [] tile).of_nil

theorem Kept.step (kept : Kept history s) (enabled : s.Enabled e) (stepped : s.step e = some s') :
    Kept ((s, e) :: history) s' := by
  cases e with
  | getTubeStatus response =>
      cases stepped
      exact kept.answered enabled
  | mainQueue =>
      cases stepped
      refine ⟨kept.unanswered, fun x => kept.received_cons (by simp), Nat.le_refl _, ?_, ?_⟩
      · intro x member
        cases member
      · intro tile member
        rcases List.mem_append.1 member with put | shown
        · exact kept.pool tile put
        · obtain ⟨x, showing, rfl⟩ := List.mem_map.1 shown
          exact (kept.visible x showing).drawn
  | numberOfItemsInSection =>
      cases stepped
      exact ⟨kept.unanswered, fun x => kept.received_cons (by simp), Nat.le_refl _, kept.visible,
        kept.pool⟩
  | cellForItemAt row reused =>
      obtain ⟨⟨cell, pool⟩, dequeued, rest⟩ := Option.bind_eq_some_iff.1 stepped
      obtain ⟨tile, configured, same⟩ := Option.bind_eq_some_iff.1 rest
      cases same
      obtain ⟨drawn, left⟩ := kept.dequeued dequeued
      refine ⟨kept.unanswered, fun x => kept.received_cons (by simp), kept.items, ?_, left⟩
      intro x member
      rcases List.mem_append.1 member with earlier | new
      · exact kept.visible x earlier
      · rw [List.mem_singleton.1 new]
        exact drawn.configured configured
  | didEndDisplaying tile =>
      obtain ⟨⟨⟨row, cell⟩, visible⟩, removed, same⟩ := Option.bind_eq_some_iff.1 stepped
      cases same
      obtain ⟨found, rfl⟩ := HomePage.removeAt_eq_some.1 removed
      refine ⟨kept.unanswered, fun x => kept.received_cons (by simp), kept.items, ?_, ?_⟩
      · exact fun x member => kept.visible x (List.mem_of_mem_eraseIdx member)
      · intro other member
        rcases List.mem_append.1 member with put | new
        · exact kept.pool other put
        · rw [List.mem_singleton.1 new]
          exact (kept.visible _ (List.mem_of_getElem? found)).drawn

theorem kept_of_run (run : disruptions.Run history s) : Kept history s := by
  apply run.invariant (I := Kept)
  · rintro s rfl
    exact ⟨fun _ => rfl, by simp, Nat.le_refl 0, by simp, by simp⟩
  · intro history s e s' _ kept enabled stepped
    exact kept.step enabled stepped

/-- **The tiles of any run.**  The array is that of the one response, every visible tile
shows its line in it, and an item that may be asked for is there and traps precisely when
its line has no status. -/
theorem tiles_of_run (run : disruptions.Run history s) :
    (∀ x ∈ history, ∀ response, x.2 = .getTubeStatus response →
      s.tubeStatus = response.records.getD []) ∧
    (∀ x ∈ s.visible, Shows s.tubeStatus x.1 x.2) ∧
    ∀ row reused, s.Enabled (.cellForItemAt row reused) →
      ∃ data, s.tubeStatus[row]? = some data ∧
        ((s.step (.cellForItemAt row reused)).isSome ↔ data.lineStatuses ≠ []) := by
  have kept := kept_of_run run
  refine ⟨fun x member response received => (kept.received x member response received).2,
    kept.visible, ?_⟩
  rintro row reused ⟨told, pooled⟩
  have inside : row < s.tubeStatus.length := Nat.lt_of_lt_of_le told kept.items
  have found := List.getElem?_eq_getElem inside
  refine ⟨_, found, ?_⟩
  obtain ⟨cell, pool, dequeued⟩ : ∃ cell pool, s.dequeue reused = some (cell, pool) := by
    cases reused with
    | none => exact ⟨_, _, rfl⟩
    | some i =>
        exact ⟨_, _, HomePage.removeAt_eq_some.2 ⟨List.getElem?_eq_getElem (pooled i rfl), rfl⟩⟩
  rw [← disruptionsCell_isSome_iff cell found]
  show (s.cellForItemAt row reused).isSome ↔ _
  rw [Disruptions.cellForItemAt, dequeued, Option.bind_eq_bind, Option.bind_some]
  cases configured : HomePage.disruptionsCell s.tubeStatus cell row <;> simp [configured]

/-- The tile of one line is put by, and comes back for another. -/
theorem tiles_of_run_recycled :
    ∃ history s, disruptions.Run history s ∧
      s.visible.map (fun x => (x.1, x.2.lineStatusColour)) = [(1, ⟨19, 72, 24⟩)] ∧
      ∀ x ∈ s.visible, Shows s.tubeStatus x.1 x.2 := by
  obtain ⟨history, s, run, -, coloured⟩ := Machine.exec_reaches (M := disruptions)
    (fun _ s => s.visible.map fun x => (x.1, x.2.lineStatusColour)) rfl
    [.getTubeStatus (.decoded [goodService, ⟨some "Central", [⟨"Part Suspended"⟩]⟩]), .mainQueue,
      .cellForItemAt 0 none, .didEndDisplaying 0, .cellForItemAt 1 (some 0)]
    [(1, ⟨19, 72, 24⟩)] (by decide)
  exact ⟨history, s, run, coloured, (tiles_of_run run).2.1⟩

/-- A line whose list of statuses is empty, which decodes. -/
def withoutStatus : Option (Option (Json Int)) :=
  some (some (.array [.object [("name", .string "Central"), ("lineStatuses", .array [])]]))

/-- The refuting pole: a body without a status traps as soon as its line is laid out. -/
theorem line_without_status_traps :
    ∃ history s, disruptions.Run history s ∧
      history.map Prod.snd =
        [.numberOfItemsInSection, .getTubeStatus (statusesIn withoutStatus)] ∧
      s.Enabled (.cellForItemAt 0 none) ∧ s.step (.cellForItemAt 0 none) = none := by
  obtain ⟨history, s, run, events, asked⟩ := Machine.exec_reaches (M := disruptions)
    (fun _ s => (decide (s.Enabled (.cellForItemAt 0 none)), s.step (.cellForItemAt 0 none))) rfl
    [.getTubeStatus (statusesIn withoutStatus), .numberOfItemsInSection] (true, none) (by decide)
  rw [Prod.mk.injEq, decide_eq_true_iff] at asked
  exact ⟨history, s, run, events, asked.1, asked.2⟩

end Disruptions

end MindTheGap
