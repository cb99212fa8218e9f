/-
# AddLinePage.SavedStop -- whether the home page can load what the form saved

The completion of `addStop` takes the line, its id, the naptan id and the station name of
the new document from the first arrival of the response, and the home page reads five of
its fields as strings.  What was asked for should come back as a row (`LoadsAs`).

Any of the four may be missing, and there may be no first arrival at all: the array is
empty when no train is due and when the response does not decode.  `loadsAs_iff` is the
exact condition: there is a first arrival with all four (`FirstIsFull`).
-/
import MindTheGap.AddLinePage.Effects

namespace MindTheGap

open MindTheGap.Theory

set_option autoImplicit false

namespace AddLinePage

/-- The document loads as a row with what was asked for. -/
def LoadsAs (request : StopRequest) (document : Option Fields) : Prop :=
  ∃ fields stop, document = some fields ∧
    QueryDocument.decode ⟨request.documentID, fields⟩ = some stop ∧
    stop.row.lineid = some request.line ∧ stop.row.naptanID = some request.naptan ∧
    stop.row.directionName = some request.direction ∧
    stop.row.documentID = some request.documentID

/-- There is a first arrival, and it has the four fields the document is made of. -/
def FirstIsFull (data : List TubeTimes) : Prop :=
  ∃ first ∈ data.head?, first.lineName.isSome = true ∧ first.lineId.isSome = true ∧
    first.naptanId.isSome = true ∧ first.stationName.isSome = true

/-- Arrivals carry the line and the naptan id they were requested for, if any. -/
def Carried (request : StopRequest) (data : List TubeTimes) : Prop :=
  ∀ time ∈ data, (∀ line ∈ time.lineId, line = request.line) ∧
    ∀ naptan ∈ time.naptanId, naptan = request.naptan

/-- The request was issued by an add tap on a form with its line, naptan id and direction. -/
def AskedFor (history : Machine.History AddLinePage Event) (request : StopRequest) : Prop :=
  ∃ x ∈ history, x.2 = .addStop request.documentID ∧ x.1.currentUser = some request.uid ∧
    x.1.checked = some ⟨request.line, request.naptan, request.direction⟩

/-- What every run keeps of the requests of add taps. -/
structure Pending (history : Machine.History AddLinePage Event) (s : AddLinePage) : Prop where
  asked : ∀ request ∈ s.stopRequests, AskedFor history request
  once : (s.stopRequests.map StopRequest.documentID).Nodup
  /-- Until it is answered, its document is not there. -/
  unsaved : ∀ request ∈ s.stopRequests, request.answered = false →
    s.store.savedStops request.ref = none

/-- The fields of the written document, as the home page reads them. -/
theorem stopData_fields (request : StopRequest) (first : Option TubeTimes) :
    let document : Option Fields := some (Doc.empty.merge (stopData request first))
    readString document "line" = first.bind TubeTimes.lineName ∧
      readString document "lowercaseline" = first.bind TubeTimes.lineId ∧
      readString document "direction" = some request.direction ∧
      readString document "naptanID" = first.bind TubeTimes.naptanId ∧
      readString document "stationName" = first.bind TubeTimes.stationName := by
  refine ⟨?_, ?_, ?_, ?_, ?_⟩ <;>
    simp [readString, Doc.merge, Doc.empty, stopData, List.lookup_cons]

/-- A new document made of the first arrival loads precisely when that is full. -/
theorem loadsAs_new {request : StopRequest} {data : List TubeTimes}
    (carried : Carried request data) :
    LoadsAs request (some (Doc.empty.merge (stopData request data.head?))) ↔ FirstIsFull data := by
  obtain ⟨line, lowercase, direction, naptan, station⟩ := stopData_fields request data.head?
  constructor
  · rintro ⟨fields, stop, isDocument, decoded, -⟩
    cases isDocument
    obtain ⟨hasLine, hasId, -, hasNaptan, hasStation, -⟩ := QueryDocument.decode_eq_some.1 decoded
    obtain ⟨first, isFirst, lineName⟩ := Option.bind_eq_some_iff.1 (line.symm.trans hasLine)
    have lineId : first.lineId = some stop.lineLowerCase := by
      simpa [isFirst] using lowercase.symm.trans hasId
    have naptanId : first.naptanId = some stop.naptan := by
      simpa [isFirst] using naptan.symm.trans hasNaptan
    have stationName : first.stationName = some stop.stationName := by
      simpa [isFirst] using station.symm.trans hasStation
    exact ⟨first, isFirst, by simp [lineName], by simp [lineId], by simp [naptanId],
      by simp [stationName]⟩
  · rintro ⟨first, isFirst, hasLine, hasId, hasNaptan, hasStation⟩
    obtain ⟨lineName, isLine⟩ := Option.isSome_iff_exists.1 hasLine
    obtain ⟨lineId, isId⟩ := Option.isSome_iff_exists.1 hasId
    obtain ⟨naptanId, isNaptan⟩ := Option.isSome_iff_exists.1 hasNaptan
    obtain ⟨stationName, isStation⟩ := Option.isSome_iff_exists.1 hasStation
    obtain ⟨sameLine, sameNaptan⟩ := carried first (List.mem_of_mem_head? isFirst)
    have isRequested : lineId = request.line := sameLine lineId isId
    have isThere : naptanId = request.naptan := sameNaptan naptanId isNaptan
    subst isRequested isThere
    rw [Option.mem_def] at isFirst
    rw [isFirst] at line lowercase naptan station
    refine ⟨_, ⟨lineName, request.line, request.direction, request.naptan, stationName,
      request.documentID⟩, rfl, QueryDocument.decode_eq_some.2 ?_, rfl, rfl, rfl, rfl⟩
    rw [isFirst]
    exact ⟨line.trans isLine, lowercase.trans isId, direction, naptan.trans isNaptan,
      station.trans isStation, rfl⟩

variable {history : Machine.History AddLinePage Event} {s s' : AddLinePage} {e : Event}

theorem AskedFor.later {request : StopRequest} (asked : AskedFor history request) :
    AskedFor ((s, e) :: history) request := by
  obtain ⟨x, member, isAdd⟩ := asked
  exact ⟨x, List.mem_cons_of_mem _ member, isAdd⟩

/-- Steps that neither issue nor answer a request of an add tap. -/
theorem Pending.frame (pending : Pending history s) (requests : s'.stopRequests = s.stopRequests)
    (store : s'.store = s.store) : Pending ((s, e) :: history) s' := by
  refine ⟨?_, ?_, ?_⟩
  · rw [requests]
    exact fun request member => (pending.asked request member).later
  · rw [requests]
    exact pending.once
  · rw [requests, store]
    exact pending.unsaved

theorem mem_newStopRequests {F : Frameworks} {user : Option String} {form : Form}
    {documentID : String} {request : StopRequest}
    (member : request ∈ newStopRequests F user form documentID) :
    user = some request.uid ∧ documentID = request.documentID ∧
      form = ⟨request.line, request.naptan, request.direction⟩ := by
  cases user with
  | none => cases member
  | some uid =>
      rw [newStopRequests] at member
      split at member
      · rw [List.mem_singleton] at member
        subst member
        exact ⟨rfl, rfl, rfl⟩
      · cases member

/-- Marking a request as answered keeps its document. -/
theorem answered_documentIDs {requests : List StopRequest} {k : Nat} {request : StopRequest}
    (issued : requests[k]? = some request) :
    (requests.set k { request with answered := true }).map StopRequest.documentID =
      requests.map StopRequest.documentID := by
  apply List.ext_getElem?
  intro i
  rw [List.getElem?_map, List.getElem?_map, List.getElem?_set]
  by_cases same : k = i
  · subst same
    obtain ⟨inside, isRequest⟩ := List.getElem?_eq_some_iff.1 issued
    simp [inside, isRequest]
  · rw [if_neg same]

/-- A request that is still unanswered after the `k`-th was answered is another one. -/
theorem unanswered_of_set {requests : List StopRequest} {k : Nat} {request other : StopRequest}
    (once : (requests.map StopRequest.documentID).Nodup) (issued : requests[k]? = some request)
    (member : other ∈ requests.set k { request with answered := true })
    (unanswered : other.answered = false) :
    other ∈ requests ∧ other.documentID ≠ request.documentID := by
  obtain ⟨i, found⟩ := List.mem_iff_getElem?.1 member
  rw [List.getElem?_set] at found
  by_cases same : k = i
  · -- the answered one itself
    subst same
    simp only [if_true, (List.getElem?_eq_some_iff.1 issued).1, Option.some.injEq] at found
    subst found
    cases unanswered
  · rw [if_neg same] at found
    refine ⟨List.mem_of_getElem? found, fun sameID => same ?_⟩
    exact index_unique once issued found sameID.symm

theorem Pending.answer {k : Nat} {request : StopRequest} (pending : Pending history s)
    (issued : s.stopRequests[k]? = some request)
    (requests : s'.stopRequests = s.stopRequests.set k { request with answered := true })
    (store : ∀ ref, ref ≠ request.ref → s'.store.savedStops ref = s.store.savedStops ref) :
    Pending ((s, e) :: history) s' := by
  refine ⟨?_, ?_, ?_⟩
  · intro other member
    rw [requests] at member
    rcases List.mem_or_eq_of_mem_set member with earlier | rfl
    · exact (pending.asked other earlier).later
    · exact (pending.asked request (List.mem_of_getElem? issued)).later
  · rw [requests, answered_documentIDs issued]
    exact pending.once
  · intro other member unanswered
    rw [requests] at member
    obtain ⟨earlier, another⟩ := unanswered_of_set pending.once issued member unanswered
    have away : other.ref ≠ request.ref := by
      intro same
      exact another (congrArg DocRef.documentID same)
    rw [store other.ref away]
    exact pending.unsaved other earlier unanswered

theorem newStopRequests_once (F : Frameworks) (user : Option String) (form : Form)
    (documentID : String) :
    ((newStopRequests F user form documentID).map StopRequest.documentID).Nodup := by
  cases user with
  | none => exact List.nodup_nil
  | some uid =>
      rw [newStopRequests]
      split
      · exact List.nodup_singleton _
      · exact List.nodup_nil

theorem Pending.step {F : Frameworks} (pending : Pending history s) (next : Next F s e s') :
    Pending ((s, e) :: history) s' := by
  cases next with
  | added documentID form passes absent unused =>
      refine ⟨?_, ?_, ?_⟩
      · intro request member
        rcases List.mem_append.1 member with earlier | new
        · exact (pending.asked request earlier).later
        · obtain ⟨user, rfl, rfl⟩ := mem_newStopRequests new
          exact ⟨_, List.mem_cons_self, rfl, user, passes⟩
      · rw [List.map_append, List.nodup_append]
        refine ⟨pending.once, newStopRequests_once F _ form documentID, ?_⟩
        intro id earlier id' new
        obtain ⟨request, there, rfl⟩ := List.mem_map.1 earlier
        obtain ⟨request', there', rfl⟩ := List.mem_map.1 new
        rw [← (mem_newStopRequests there').2.1]
        exact unused request there
      · intro request member unanswered
        rcases List.mem_append.1 member with earlier | new
        · exact pending.unsaved request earlier unanswered
        · obtain ⟨user, rfl, -⟩ := mem_newStopRequests new
          exact absent request.uid user
  | noData k response request issued records => exact pending.answer issued rfl fun ref _ => rfl
  | saved k response request times data issued records sorts =>
      refine pending.answer issued rfl fun ref away => ?_
      exact Function.update_of_ne away _ _
  | _ => exact pending.frame rfl rfl

theorem pending_of_run {F : Frameworks} (run : (addLinePage F).Run history s) :
    Pending history s := by
  apply run.invariant (I := Pending)
  · rintro s ⟨currentUser, store, rfl⟩
    refine ⟨?_, List.nodup_nil, ?_⟩
    · intro request member
      cases member
    · intro request member
      cases member
  · intro history s e s' _ pending enabled stepped
    exact pending.step (next_of_step F enabled stepped)

/-- **When the home page can load what was saved.** -/
theorem loadsAs_iff {F : Frameworks} (run : (addLinePage F).Run history s) {k : Nat}
    {request : StopRequest} (issued : s.stopRequests[k]? = some request)
    {response : Response TubeTimes} (enabled : s.Enabled (.lineData k response))
    {data : List TubeTimes} (handed : response.records.bind F.sortByTime = some data)
    (carried : Carried request data) :
    AskedFor history request ∧ ∃ s', (addLinePage F).step s (.lineData k response) = some s' ∧
      (LoadsAs request (s'.store.savedStops request.ref) ↔ FirstIsFull data) := by
  have pending := pending_of_run run
  have member := List.mem_of_getElem? issued
  refine ⟨pending.asked request member, ?_⟩
  obtain ⟨times, records, sorts⟩ := Option.bind_eq_some_iff.1 handed
  have unanswered : request.answered = false := by
    simpa [Enabled, issued] using enabled
  have absent := pending.unsaved request member unanswered
  refine ⟨_, answerLineData_handed F issued records sorts, ?_⟩
  rw [Firestore.setStop_new absent]
  exact loadsAs_new carried

/-- The form of `pickBank`, with the direction that came, is added as document `d`. -/
def addBank : List Event :=
  pickBank ++ [.directions 0 (.decoded [⟨some "Westbound - Platform 7"⟩]), .addStop "d"]

/-- What that form requests. -/
def bankRequest : StopRequest :=
  ⟨"u", "waterloo-city", "940GZZLUBNK", "Westbound - Platform 7", "d", false⟩

theorem addBank_run :
    ∃ history s, (addLinePage .reference).Run history s ∧ s.stopRequests = [bankRequest] ∧
      s.store.savedStops ⟨"u", "d"⟩ = none := by
  obtain ⟨history, s, run, -, seen⟩ := Machine.exec_reaches (M := addLinePage .reference)
    (fun _ s => (s.stopRequests, (s.store.savedStops ⟨"u", "d"⟩).isNone))
    ⟨some "u", .empty, rfl⟩ addBank ([bankRequest], true) (by decide)
  rw [Prod.mk.injEq, Option.isNone_iff_eq_none] at seen
  exact ⟨history, s, run, seen.1, seen.2⟩

/-- An arrival at Bank with every field. -/
def bankArrival : TubeTimes where
  naptanId := some "940GZZLUBNK"
  lineId := some "waterloo-city"
  stationName := some "Bank Underground Station"
  platformName := some "Westbound - Platform 7"
  timeToStation := some 60
  lineName := some "Waterloo & City"
  destinationName := some "Waterloo Underground Station"

theorem loadsAs_iff_bank :
    ∃ history s, (addLinePage .reference).Run history s ∧ AskedFor history bankRequest ∧
      ∃ s', (addLinePage .reference).step s (.lineData 0 (.decoded [bankArrival])) = some s' ∧
        (LoadsAs bankRequest (s'.store.savedStops bankRequest.ref) ↔
          FirstIsFull [bankArrival]) := by
  obtain ⟨history, s, run, requests, -⟩ := addBank_run
  have issued : s.stopRequests[0]? = some bankRequest := by rw [requests]; rfl
  have enabled : s.Enabled (.lineData 0 (.decoded [bankArrival])) := by
    show (s.stopRequests[0]?.map StopRequest.answered) = some false
    rw [issued]
    rfl
  exact ⟨history, s, run, loadsAs_iff run issued enabled (by decide)
    (by simp [Carried, bankArrival, bankRequest])⟩

/-- The refuting pole: no train is due, and the saved document has no line, no station and
no naptan id. -/
theorem no_train_due_saves_unloadable :
    ∃ history s s', (addLinePage .reference).Run history s ∧
      s.Enabled (.lineData 0 (.decoded [])) ∧
      (addLinePage .reference).step s (.lineData 0 (.decoded [])) = some s' ∧
      Carried bankRequest [] ∧ ¬ LoadsAs bankRequest (s'.store.savedStops bankRequest.ref) := by
  obtain ⟨history, s, run, requests, absent⟩ := addBank_run
  have issued : s.stopRequests[0]? = some bankRequest := by rw [requests]; rfl
  have records : (Response.decoded []).records = some ([] : List TubeTimes) := rfl
  have sorts : Frameworks.reference.sortByTime [] = some [] := by decide
  have stepped := answerLineData_handed .reference issued records sorts
  refine ⟨history, s, _, run, ?_, stepped, ?_, ?_⟩
  · show (s.stopRequests[0]?.map StopRequest.answered) = some false
    rw [issued]
    rfl
  · intro time member
    cases member
  · rintro ⟨fields, stop, isDocument, decoded, -⟩
    cases isDocument.symm.trans (Firestore.setStop_new absent (stopData bankRequest none))
    have hasLine := (QueryDocument.decode_eq_some.1 decoded).1
    have noLine := (stopData_fields bankRequest none).1.symm.trans hasLine
    cases noLine

end AddLinePage

end MindTheGap
