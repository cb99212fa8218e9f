/-
# Model.Decoding -- the decoders that the compiler makes for the records

`JSONDecoder().decode([T].self, from: data)` with the synthesised `init(from:)`: an
optional property is read with `decodeIfPresent`, any other with `decode`, also where it
has a default.  A body is what the parser makes of the data, `none` where that is no JSON.
-/
import MindTheGap.Theory.Decoder
import MindTheGap.Model.Cells
import MindTheGap.Model.Records

namespace MindTheGap

open MindTheGap.Theory MindTheGap.Theory.Json

set_option autoImplicit false

universe u

variable {ν : Type u} (int : ν → Option Int)

/-- The members of a JSON object. -/
abbrev Members (ν : Type u) := List (String × Json ν)

def TubeTimes.decode (members : Members ν) : Option TubeTimes := do
  let naptanId ← decodeIfPresent asString members "naptanId"
  let lineId ← decodeIfPresent asString members "lineId"
  let stationName ← decodeIfPresent asString members "stationName"
  let platformName ← decodeIfPresent asString members "platformName"
  let timeToStation ← decodeIfPresent (asInt int) members "timeToStation"
  let lineName ← decodeIfPresent asString members "lineName"
  let destinationName ← decodeIfPresent asString members "destinationName"
  return ⟨naptanId, lineId, stationName, platformName, timeToStation, lineName, destinationName⟩

def TubeDirection.decode (members : Members ν) : Option TubeDirection := do
  let platformName ← decodeIfPresent asString members "platformName"
  return ⟨platformName⟩

/-- The reason is decoded, and shown nowhere. -/
def Status.decode (members : Members ν) : Option Status := do
  let statusSeverityDescription ← Json.decode asString members "statusSeverityDescription"
  let _ ← decodeIfPresent asString members "reason"
  return ⟨statusSeverityDescription⟩

def TubeStatus.decode (members : Members ν) : Option TubeStatus := do
  let name ← decodeIfPresent asString members "name"
  let lineStatuses ← Json.decode (list (keyed Status.decode)) members "lineStatuses"
  return ⟨name, lineStatuses⟩

/-- What a callback has of its data, decoded as an array of `T`. -/
def Response.ofData {α : Type} (read : Json ν → Option α) :
    Option (Option (Json ν)) → Response α
  | none => .noData
  | some body =>
      match body.bind (list read) with
      | none => .undecodable
      | some records => .decoded records

/-- The arrivals, as `getTrainTimes` and `getLineData` decode them. -/
def arrivalsIn (data : Option (Option (Json ν))) : Response TubeTimes :=
  .ofData (keyed (TubeTimes.decode int)) data

/-- The same arrivals as `getDirections` decodes them. -/
def directionsIn (data : Option (Option (Json ν))) : Response TubeDirection :=
  .ofData (keyed TubeDirection.decode) data

/-- The statuses, as `getTubeStatus` decodes them. -/
def statusesIn (data : Option (Option (Json ν))) : Response TubeStatus :=
  .ofData (keyed TubeStatus.decode) data

end MindTheGap
