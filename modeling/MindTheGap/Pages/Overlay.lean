/-
# Pages.Overlay -- whether a flow leaves its spinner behind

An add flow and a sign-up flow each show the spinner first and have to remove it on every
exit.  What a step does to the overlays is one of a few things (`Turn`): it starts a flow,
which is refused at once, goes on, or is abandoned by an early return; it ends the flow or
drops it without a word; it runs a closure; or it has nothing to do with the spinner.

The steps that remove what was shown, or leave it for a callback to remove, are those that
`Clears` describes, and `noneLeft_iff` says that no overlay is attached once nothing is
pending precisely when every step so far was one of them.  The proof looks at the overlays
as they will be once the queued closures have run (`Spinner.settled`).
-/
import MindTheGap.Model.Screens
import MindTheGap.AddLinePage.Effects

namespace MindTheGap

open MindTheGap.Theory

set_option autoImplicit false

theorem Overlays.others_append {V : Type} {left : List (Nat × V)} {k : Nat} {onView : V}
    (older : ∀ overlay ∈ left, overlay.1 < k) :
    Overlays.others ⟨some k, left ++ [(k, onView)]⟩ = left := by
  have kept : left.filter (fun overlay => decide (some k ≠ some overlay.1)) = left := by
    refine List.filter_eq_self.2 fun overlay member => ?_
    have less := older overlay member
    simp only [ne_eq, Option.some.injEq, decide_eq_true_eq]
    omega
  rw [Overlays.others, List.filter_append, kept]
  simp

namespace Screens

variable {F : Frameworks}

/-- The step leaves no overlay without a callback that will remove it: a tap on Add that
passes the checks is made signed in and with an address that can be requested, and is
answered with data; a tap on Sign Up finds its three fields, and an account is made with a
user signed in. -/
def Clears (F : Frameworks) (s : Screens) : Event → Prop
  | .addLinePage (.addStop _) => ∀ form ∈ s.addLinePage.checked,
      s.addLinePage.currentUser.isSome ∧ F.urlBuilds (arrivalsURL form.line form.naptan) = true
  | .addLinePage (.lineData _ response) => response.records.isSome
  | .login =>
      s.login.emailfield.isSome ∧ s.login.passwordfield.isSome ∧ s.login.namefield.isSome
  | .created _ .success => s.addLinePage.currentUser.isSome
  | _ => True

/-! ## What a step does to the spinner -/

/-- Every step, as far as the spinner and the pending requests are concerned. -/
inductive Turn (F : Frameworks) (s : Screens) (e : Event) (s' : Screens) : Prop
  | unrelated (clears : Clears F s e) (pending : s'.pending = s.pending)
      (spinner : s'.spinner = s.spinner)
  | refused (onView : Screen) (quiet : s.Quiet) (clears : Clears F s e)
      (pending : s'.pending = 0)
      (spinner : s'.spinner = (s.spinner.showSpinner onView).removeSpinner)
  | begun (onView : Screen) (quiet : s.Quiet) (clears : Clears F s e)
      (pending : s'.pending = 1) (spinner : s'.spinner = s.spinner.showSpinner onView)
  | abandoned (onView : Screen) (quiet : s.Quiet) (stays : ¬ Clears F s e)
      (pending : s'.pending = 0) (spinner : s'.spinner = s.spinner.showSpinner onView)
  | ended (clears : Clears F s e) (pending : s'.pending + 1 = s.pending)
      (spinner : s'.spinner = s.spinner.removeSpinner)
  | dropped (stays : ¬ Clears F s e) (pending : s'.pending + 1 = s.pending)
      (spinner : s'.spinner = s.spinner)
  | queueRun (clears : Clears F s e) (pending : s'.pending = s.pending)
      (spinner : s'.spinner = s.spinner.runMainQueue)

theorem afterAdd_spinner {s : Screens} {page : AddLinePage} {asked : List Effect}
    (effects : page.effects = s.addLinePage.effects ++ asked) :
    (s.afterAdd page).spinner = (asked.filterMap Effect.call).foldl Spinner.call s.spinner := by
  simp [afterAdd, perform, effects]

theorem afterLogin_spinner {s : Screens} {page : Login} {asked : List LoginEffect}
    (effects : page.effects = s.login.effects ++ asked) :
    (s.afterLogin page).spinner =
      (asked.filterMap LoginEffect.call).foldl Spinner.call s.spinner := by
  simp [afterLogin, perform, effects]

/-- An answer takes one request off the pending ones. -/
theorem countP_set_answered {α : Type} (answered : α → Bool) {xs : List α} {k : Nat} {x y : α}
    (issued : xs[k]? = some x) (waiting : answered x = false) (done : answered y = true) :
    (xs.set k y).countP (fun z => !answered z) + 1 = xs.countP fun z => !answered z := by
  obtain ⟨inside, isX⟩ := List.getElem?_eq_some_iff.1 issued
  have counted : 0 < xs.countP fun z => !answered z :=
    List.countP_pos_iff.2 ⟨x, List.mem_of_getElem? issued, by simp [waiting]⟩
  rw [List.countP_set inside, isX]
  simp [waiting, done]
  omega

theorem pending_answered {s : Screens} {page : AddLinePage} {k : Nat} {request : StopRequest}
    (issued : s.addLinePage.stopRequests[k]? = some request) (waiting : request.answered = false)
    (requests : page.stopRequests =
      s.addLinePage.stopRequests.set k { request with answered := true }) :
    (s.afterAdd page).pending + 1 = s.pending := by
  have fewer := countP_set_answered StopRequest.answered issued waiting
    (rfl : ({ request with answered := true } : StopRequest).answered = true)
  simp only [pending, afterAdd, perform, requests]
  omega

/-- A tap on Add that passes the checks makes one request, if it can be made. -/
theorem newStopRequests_cases (F : Frameworks) (user : Option String) (form : Form)
    (documentID : String) :
    ((user.isSome ∧ F.urlBuilds (arrivalsURL form.line form.naptan) = true) ∧ ∃ request,
        AddLinePage.newStopRequests F user form documentID = [request] ∧
          request.answered = false) ∨
      (¬ (user.isSome ∧ F.urlBuilds (arrivalsURL form.line form.naptan) = true) ∧
        AddLinePage.newStopRequests F user form documentID = []) := by
  cases user with
  | none => exact Or.inr ⟨by simp, rfl⟩
  | some uid =>
      rw [AddLinePage.newStopRequests]
      by_cases builds : F.urlBuilds (arrivalsURL form.line form.naptan) = true
      · rw [if_pos builds]
        exact Or.inl ⟨⟨rfl, builds⟩, _, rfl, rfl⟩
      · rw [if_neg builds]
        exact Or.inr ⟨fun requestable => builds requestable.2, rfl⟩

/-- A step of the add page. -/
theorem turn_of_add {s : Screens} {e : AddLinePage.Event} {page : AddLinePage}
    (next : AddLinePage.Next F s.addLinePage e page)
    (waits : isAddTap e = true → s.Quiet)
    (waiting : ∀ k response, e = .lineData k response →
      (s.addLinePage.stopRequests[k]?.map StopRequest.answered) = some false) :
    Turn F s (.addLinePage e) (s.afterAdd page) := by
  cases next with
  | addRefused documentID message fails =>
      have quiet := waits rfl
      refine .refused .addLinePage quiet ?_ quiet.callbacks ?_
      · intro form passes
        rw [fails] at passes
        cases passes
      · rw [afterAdd_spinner rfl]
        rfl
  | added documentID form passes absent unused =>
      have quiet := waits rfl
      have clears : Clears F s (.addLinePage (.addStop documentID)) ↔
          s.addLinePage.currentUser.isSome ∧
            F.urlBuilds (arrivalsURL form.line form.naptan) = true := by
        simp [Clears, passes]
      have spinner : (s.afterAdd { s.addLinePage with
          direction := some form.direction
          stopRequests := s.addLinePage.stopRequests ++
            AddLinePage.newStopRequests F s.addLinePage.currentUser form documentID
          effects := s.addLinePage.effects ++
            .showSpinner :: (s.addLinePage.currentUser.map fun _ => .vibrate).toList }).spinner =
          s.spinner.showSpinner .addLinePage := by
        rw [afterAdd_spinner rfl]
        cases s.addLinePage.currentUser <;> rfl
      have none_pending := quiet.callbacks
      simp only [pending] at none_pending
      rcases newStopRequests_cases F s.addLinePage.currentUser form documentID with
        ⟨requestable, request, requests, unanswered⟩ | ⟨refused, requests⟩
      · refine .begun .addLinePage quiet (clears.2 requestable) ?_ spinner
        simp only [pending, afterAdd, perform, requests, List.countP_append, List.countP_singleton,
          unanswered, Bool.not_false, if_true]
        omega
      · refine .abandoned .addLinePage quiet (mt clears.1 refused) ?_ spinner
        simpa [pending, afterAdd, perform, requests] using none_pending
  | noData k response request issued records =>
      have unanswered : request.answered = false := by simpa [issued] using waiting k response rfl
      refine .dropped ?_ (pending_answered issued unanswered rfl)
        (afterAdd_spinner (List.append_nil _).symm)
      rw [Clears, records]
      exact Bool.false_ne_true
  | saved k response request times data issued records sorts =>
      have unanswered : request.answered = false := by simpa [issued] using waiting k response rfl
      refine .ended ?_ (pending_answered issued unanswered rfl) ?_
      · rw [Clears, records]
        rfl
      · rw [afterAdd_spinner rfl]
        rfl
  | lookupAnswered k document id asked isId =>
      refine .unrelated trivial rfl ?_
      rw [afterAdd_spinner rfl, AddLinePage.unsupportedAlert]
      split <;> rfl
  | _ => exact .unrelated trivial rfl (afterAdd_spinner (List.append_nil _).symm)

/-- What a tap on Sign Up asks Firebase for. -/
def newCreation (page : Login) : Option Creation := do
  let email ← page.emailfield
  let password ← page.passwordfield
  let name ← page.namefield
  return ⟨email, password, name, false⟩

theorem login_eq (page : Login) : page.login = { page with
    creations := page.creations ++ (newCreation page).toList
    effects := page.effects ++ [.showSpinner] } := by
  unfold Login.login newCreation
  cases email : page.emailfield with
  | none => simp [Login.ask, email]
  | some _ =>
      cases password : page.passwordfield with
      | none => simp [Login.ask, email, password]
      | some _ => cases name : page.namefield <;> simp [Login.ask, email, password, name]

theorem newCreation_eq_some {page : Login} {creation : Creation}
    (asks : newCreation page = some creation) : creation.answered = false ∧
      page.emailfield.isSome ∧ page.passwordfield.isSome ∧ page.namefield.isSome := by
  simp only [newCreation, Option.bind_eq_bind, Option.bind_eq_some_iff, Option.pure_def,
    Option.some.injEq] at asks
  obtain ⟨email, isEmail, password, isPassword, name, isName, rfl⟩ := asks
  simp [isEmail, isPassword, isName]

/-- A tap on Sign Up. -/
theorem turn_of_login {s : Screens} (quiet : s.Quiet) :
    Turn F s .login (s.afterLogin s.login.login) := by
  have none_pending := quiet.callbacks
  simp only [pending] at none_pending
  have spinner : (s.afterLogin s.login.login).spinner = s.spinner.showSpinner .login := by
    rw [login_eq, afterLogin_spinner rfl]
    rfl
  cases asks : newCreation s.login with
  | none =>
      refine .abandoned .login quiet ?_ ?_ spinner
      · rintro ⟨email, password, name⟩
        obtain ⟨_, isEmail⟩ := Option.isSome_iff_exists.1 email
        obtain ⟨_, isPassword⟩ := Option.isSome_iff_exists.1 password
        obtain ⟨_, isName⟩ := Option.isSome_iff_exists.1 name
        simp [newCreation, isEmail, isPassword, isName] at asks
      · simpa [pending, afterLogin, perform, login_eq, asks] using none_pending
  | some creation =>
      obtain ⟨waiting, email, password, name⟩ := newCreation_eq_some asks
      refine .begun .login quiet ⟨email, password, name⟩ ?_ spinner
      simp only [pending, afterLogin, perform, login_eq, asks, Option.toList_some,
        List.countP_append, List.countP_singleton, waiting, Bool.not_false, if_true]
      omega

/-- The callback of `createUser` removes the spinner, but for a success with nobody
signed in. -/
theorem created_calls {page : Login} {k : Nat} {creation : Creation}
    (issued : page.creations[k]? = some creation) (user : Option String) (outcome : AuthOutcome) :
    ∃ asked, page.created user k outcome = { page with
        creations := page.creations.set k { creation with answered := true }
        effects := page.effects ++ asked } ∧
      asked.filterMap LoginEffect.call =
        if outcome = .success ∧ user = none then [] else [.removeSpinner] := by
  rw [Login.created, issued]
  cases outcome with
  | error code => cases code <;> exact ⟨_, rfl, rfl⟩
  | success =>
      cases user with
      | none => exact ⟨[], by simp [Login.creationCallback], rfl⟩
      | some uid => exact ⟨_, rfl, rfl⟩

/-- The callback of `createUser`. -/
theorem turn_of_created {s : Screens} {k : Nat} {outcome : AuthOutcome}
    (waiting : (s.login.creations[k]?.map Creation.answered) = some false) :
    Turn F s (.created k outcome)
      (s.afterLogin (s.login.created s.addLinePage.currentUser k outcome)) := by
  obtain ⟨creation, issued, unanswered⟩ := Option.map_eq_some_iff.1 waiting
  have fewer := countP_set_answered Creation.answered issued unanswered
    (rfl : ({ creation with answered := true } : Creation).answered = true)
  obtain ⟨asked, created, calls⟩ := created_calls issued s.addLinePage.currentUser outcome
  have pending : (s.afterLogin (s.login.created s.addLinePage.currentUser k outcome)).pending + 1 =
      s.pending := by
    simp only [pending, afterLogin, perform, created]
    omega
  have spinner : (s.afterLogin (s.login.created s.addLinePage.currentUser k outcome)).spinner =
      (asked.filterMap LoginEffect.call).foldl Spinner.call s.spinner := by
    rw [created]
    exact afterLogin_spinner rfl
  by_cases nobody : outcome = .success ∧ s.addLinePage.currentUser = none
  · obtain ⟨rfl, user⟩ := nobody
    rw [calls, if_pos ⟨rfl, user⟩] at spinner
    exact .dropped (by simp [Clears, user]) pending spinner
  · rw [calls, if_neg nobody] at spinner
    refine .ended ?_ pending spinner
    cases outcome with
    | error code => trivial
    | success =>
        show s.addLinePage.currentUser.isSome = true
        exact Option.isSome_iff_ne_none.2 fun user => nobody ⟨rfl, user⟩

/-- **What a step does to the spinner.** -/
theorem turn_of_step {s s' : Screens} {e : Event} (enabled : s.Enabled e)
    (stepped : s.step F e = some s') : Turn F s e s' := by
  cases e with
  | addLinePage e =>
      obtain ⟨page, paged, rfl⟩ := Option.map_eq_some_iff.1 stepped
      refine turn_of_add (AddLinePage.next_of_step F enabled.1 paged) enabled.2 ?_
      rintro k response rfl
      exact enabled.1
  | pushAddLinePage =>
      cases stepped
      exact .unrelated trivial rfl rfl
  | edited name email password =>
      cases stepped
      exact .unrelated trivial rfl rfl
  | login =>
      cases stepped
      exact turn_of_login enabled
  | created k outcome =>
      cases stepped
      exact turn_of_created enabled
  | mainQueue =>
      cases stepped
      exact .queueRun trivial rfl rfl

/-! ## What is left behind -/

/-- The overlays `left` behind by the steps so far, and the one the pending flow will
remove, if there is one. -/
structure Accounted (F : Frameworks) (history : Machine.History Screens Event) (s : Screens)
    (left : List (Nat × Screen)) : Prop where
  exact_left : left = [] ↔ ∀ x ∈ history, Clears F x.1 x.2
  made : ∀ overlay ∈ left, overlay.1 < s.spinner.made
  attached : (s.pending = 0 ∧ s.spinner.settled.attached = left) ∨
    s.pending = 1 ∧ ∃ k onView, k < s.spinner.made ∧ (∀ overlay ∈ left, overlay.1 < k) ∧
      s.spinner.settled = ⟨some k, left ++ [(k, onView)]⟩

/-- A step that clears leaves no more behind, and one that does not leaves one overlay. -/
theorem accounted_cons {history : Machine.History Screens Event} {s s' : Screens} {e : Event}
    {left : List (Nat × Screen)} (before : Accounted F history s left) (clears : Clears F s e)
    (made : ∀ overlay ∈ left, overlay.1 < s'.spinner.made)
    (attached : (s'.pending = 0 ∧ s'.spinner.settled.attached = left) ∨
      s'.pending = 1 ∧ ∃ k onView, k < s'.spinner.made ∧ (∀ overlay ∈ left, overlay.1 < k) ∧
        s'.spinner.settled = ⟨some k, left ++ [(k, onView)]⟩) :
    Accounted F ((s, e) :: history) s' left := by
  refine ⟨?_, made, attached⟩
  rw [List.forall_mem_cons]
  exact before.exact_left.trans ⟨fun earlier => ⟨clears, earlier⟩, fun all => all.2⟩

theorem accounted_left {history : Machine.History Screens Event} {s s' : Screens} {e : Event}
    {left : List (Nat × Screen)} {k : Nat} {onView : Screen} (stays : ¬ Clears F s e)
    (older : ∀ overlay ∈ left, overlay.1 < k) (made : k < s'.spinner.made)
    (pending : s'.pending = 0) (attached : s'.spinner.settled.attached = left ++ [(k, onView)]) :
    Accounted F ((s, e) :: history) s' (left ++ [(k, onView)]) := by
  refine ⟨?_, ?_, Or.inl ⟨pending, attached⟩⟩
  · refine iff_of_false (by simp) fun all => stays ?_
    exact all (s, e) List.mem_cons_self
  · intro overlay member
    rcases List.mem_append.1 member with earlier | last
    · exact (older overlay earlier).trans made
    · cases List.mem_singleton.1 last
      exact made

/-- With nothing pending, what is attached is what was left. -/
theorem Accounted.of_quiet {history : Machine.History Screens Event} {s : Screens}
    {left : List (Nat × Screen)} (accounted : Accounted F history s left) (quiet : s.Quiet) :
    s.spinner.attached = left := by
  rcases accounted.attached with ⟨-, attached⟩ | ⟨busy, -⟩
  · rwa [Spinner.settled_of_empty quiet.closures] at attached
  · have idle := quiet.callbacks
    omega

/-- An answer finds the overlay of its flow named and last. -/
theorem Accounted.of_answer {history : Machine.History Screens Event} {s s' : Screens}
    {left : List (Nat × Screen)} (accounted : Accounted F history s left)
    (fewer : s'.pending + 1 = s.pending) :
    s'.pending = 0 ∧ ∃ k onView, k < s.spinner.made ∧ (∀ overlay ∈ left, overlay.1 < k) ∧
      s.spinner.settled = ⟨some k, left ++ [(k, onView)]⟩ := by
  rcases accounted.attached with ⟨idle, -⟩ | ⟨busy, current⟩
  · omega
  · exact ⟨by omega, current⟩

/-- **One step.** -/
theorem Accounted.step {history : Machine.History Screens Event} {s s' : Screens} {e : Event}
    {left : List (Nat × Screen)} (before : Accounted F history s left) (turn : Turn F s e s') :
    ∃ left', Accounted F ((s, e) :: history) s' left' := by
  cases turn with
  | unrelated clears pending spinner =>
      refine ⟨left, accounted_cons before clears ?_ ?_⟩
      · rw [spinner]
        exact before.made
      · rw [pending, spinner]
        exact before.attached
  | queueRun clears pending spinner =>
      have made : s.spinner.runMainQueue.made = s.spinner.made := by
        unfold Spinner.runMainQueue
        split <;> rfl
      refine ⟨left, accounted_cons before clears ?_ ?_⟩
      · rw [spinner, made]
        exact before.made
      · rw [pending, spinner, Spinner.settled_runMainQueue, made]
        exact before.attached
  | refused onView quiet clears pending spinner =>
      -- both closures are queued, and the second takes off what the first puts on
      refine ⟨left, accounted_cons before clears ?_ (Or.inl ⟨pending, ?_⟩)⟩
      · rw [spinner]
        exact fun overlay member => Nat.lt_succ_of_lt (before.made overlay member)
      · rw [spinner, Spinner.settled_removeSpinner, Spinner.settled_showSpinner quiet.closures,
          before.of_quiet quiet]
        exact Overlays.others_append before.made
  | begun onView quiet clears pending spinner =>
      refine ⟨left, accounted_cons before clears ?_ (Or.inr ⟨pending, s.spinner.made, onView, ?_⟩)⟩
      · rw [spinner]
        exact fun overlay member => Nat.lt_succ_of_lt (before.made overlay member)
      · rw [spinner, Spinner.settled_showSpinner quiet.closures, before.of_quiet quiet]
        exact ⟨Nat.lt_succ_self _, before.made, rfl⟩
  | abandoned onView quiet stays pending spinner =>
      refine ⟨left ++ [(s.spinner.made, onView)],
        accounted_left stays before.made ?_ pending ?_⟩
      · rw [spinner]
        exact Nat.lt_succ_self _
      · rw [spinner, Spinner.settled_showSpinner quiet.closures, before.of_quiet quiet]
  | ended clears pending spinner =>
      -- `vSpinner` still names the overlay of this flow
      obtain ⟨idle, k, onView, made, older, settled⟩ := before.of_answer pending
      refine ⟨left, accounted_cons before clears ?_ (Or.inl ⟨idle, ?_⟩)⟩
      · rw [spinner]
        exact before.made
      · rw [spinner, Spinner.settled_removeSpinner, settled]
        exact Overlays.others_append older
  | dropped stays pending spinner =>
      obtain ⟨idle, k, onView, made, older, settled⟩ := before.of_answer pending
      refine ⟨left ++ [(k, onView)], accounted_left stays older ?_ idle ?_⟩
      · rw [spinner]
        exact made
      · rw [spinner, settled]

theorem accounted_of_run {history : Machine.History Screens Event} {s : Screens}
    (run : (screens F).Run history s) : ∃ left, Accounted F history s left := by
  apply run.invariant (I := fun history s => ∃ left, Accounted F history s left)
  · rintro s ⟨currentUser, store, name, email, password, rfl⟩
    exact ⟨[], by simp, by simp, Or.inl ⟨rfl, rfl⟩⟩
  · rintro history s e s' - ⟨left, before⟩ enabled stepped
    exact before.step (turn_of_step enabled stepped)

/-- **When no spinner is left behind.** -/
theorem noneLeft_iff {history : Machine.History Screens Event} {s : Screens}
    (run : (screens F).Run history s) (quiet : s.Quiet) :
    s.spinner.attached = [] ↔ ∀ x ∈ history, Clears F x.1 x.2 := by
  obtain ⟨left, accounted⟩ := accounted_of_run run
  rw [accounted.of_quiet quiet]
  exact accounted.exact_left

/-- A sign-up with an email that is in use. -/
def emailInUse : List Event :=
  [.login, .created 0 (.error .emailAlreadyInUse), .mainQueue, .mainQueue]

theorem noneLeft_iff_emailInUse :
    ∃ history s, (screens .reference).Run history s ∧ s.Quiet ∧ s.spinner.made = 1 ∧
      (s.spinner.attached = [] ↔ ∀ x ∈ history, Clears .reference x.1 x.2) := by
  obtain ⟨history, s, run, -, seen⟩ := Machine.exec_reaches (M := screens .reference)
    (fun _ s => (decide s.Quiet, s.spinner.made))
    ⟨none, .empty, some "n", some "e", some "p", rfl⟩ emailInUse (true, 1) (by decide)
  rw [Prod.mk.injEq, decide_eq_true_eq] at seen
  exact ⟨history, s, run, seen.1, seen.2, noneLeft_iff run seen.1⟩

/-- The refuting pole: the arrivals of a stop are requested and the response has no data.
Nothing is pending, and the overlay is on the page. -/
theorem no_data_leaves_spinner :
    ∃ history s, (screens .reference).Run history s ∧ s.Quiet ∧
      s.spinner.attached = [(0, .addLinePage)] := by
  obtain ⟨history, s, run, -, seen⟩ := Machine.exec_reaches (M := screens .reference)
    (fun _ s => (decide s.Quiet, s.spinner.attached))
    ⟨some "u", .empty, some "n", some "e", some "p", rfl⟩
    ((AddLinePage.pickBank ++ [AddLinePage.Event.addStop "d"]).map Event.addLinePage ++
      [.mainQueue, .addLinePage (.lineData 0 .noData)])
    (true, [(0, .addLinePage)]) (by decide)
  rw [Prod.mk.injEq, decide_eq_true_eq] at seen
  exact ⟨history, s, run, seen⟩

end Screens

end MindTheGap
