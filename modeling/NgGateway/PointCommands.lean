import NgGateway.CompensatedGroups
import NgGateway.DeviceCommands
import NgGateway.RuntimePoints

namespace NgGateway.PointCommands

open ActiveRecords CompensatedGroups DeviceCommands FiniteMaps GroupedChanges JsonDocuments
open KeyedGroups
open ResolveWrite (AccessMode)
open RuntimeMutation (NGError)
open RuntimePoints Value

structure PointActiveModel where
  deviceId : ActiveValue Int32
  name : ActiveValue String
  key : ActiveValue String
  type : ActiveValue DataPointType
  dataType : ActiveValue DataType
  accessMode : ActiveValue AccessMode
  unit : ActiveValue (Option String)
  minValue : ActiveValue (Option UInt64)
  maxValue : ActiveValue (Option UInt64)
  transformDataType : ActiveValue (Option DataType)
  transformScale : ActiveValue (Option UInt64)
  transformOffset : ActiveValue (Option UInt64)
  transformNegate : ActiveValue Bool
  driverConfig : ActiveValue Json

def PointActiveModel.over (change : PointActiveModel) (row : PointRow) : PointRow where
  deviceId := change.deviceId.over row.deviceId
  name := change.name.over row.name
  key := change.key.over row.key
  type := change.type.over row.type
  dataType := change.dataType.over row.dataType
  accessMode := change.accessMode.over row.accessMode
  unit := change.unit.over row.unit
  minValue := change.minValue.over row.minValue
  maxValue := change.maxValue.over row.maxValue
  transformDataType := change.transformDataType.over row.transformDataType
  transformScale := change.transformScale.over row.transformScale
  transformOffset := change.transformOffset.over row.transformOffset
  transformNegate := change.transformNegate.over row.transformNegate
  driverConfig := change.driverConfig.over row.driverConfig

def intoActiveModel (row : PointRow) : PointActiveModel where
  deviceId := .unchanged row.deviceId
  name := .unchanged row.name
  key := .unchanged row.key
  type := .unchanged row.type
  dataType := .unchanged row.dataType
  accessMode := .unchanged row.accessMode
  unit := .unchanged row.unit
  minValue := .unchanged row.minValue
  maxValue := .unchanged row.maxValue
  transformDataType := .unchanged row.transformDataType
  transformScale := .unchanged row.transformScale
  transformOffset := .unchanged row.transformOffset
  transformNegate := .unchanged row.transformNegate
  driverConfig := .unchanged row.driverConfig

def pointOf (entry : Int32 × PointRow) : PointModel := { entry.2 with id := entry.1 }

/-- A request to create a point, with the columns of its row. A missing value is null. -/
structure NewPoint extends PointRow

def NewPoint.row (point : NewPoint) : PointRow := point.toPointRow

structure UpdatePoint where
  id : Int32
  deviceId : Int32
  name : String
  key : String
  type : DataPointType
  dataType : DataType
  accessMode : AccessMode
  unit : Option (Option String)
  minValue : Option (Option UInt64)
  maxValue : Option (Option UInt64)
  transformDataType : Option DataType
  transformScale : Option UInt64
  transformOffset : Option UInt64
  transformNegate : Bool
  driverConfig : Json

def UpdatePoint.intoActiveModel (update : UpdatePoint) : PointActiveModel where
  deviceId := .set update.deviceId
  name := .set update.name
  key := .set update.key
  type := .set update.type
  dataType := .set update.dataType
  accessMode := .set update.accessMode
  unit := .ofOption update.unit
  minValue := .ofOption update.minValue
  maxValue := .ofOption update.maxValue
  transformDataType := .ofOption (update.transformDataType.map some)
  transformScale := .ofOption (update.transformScale.map some)
  transformOffset := .ofOption (update.transformOffset.map some)
  transformNegate := .set update.transformNegate
  driverConfig := .set update.driverConfig

def UpdatePoint.change (update : UpdatePoint) : Change Int32 PointRow :=
  ⟨update.id, update.intoActiveModel.over⟩

structure World extends DeviceWorld where
  points : AssocMap Int32 PointRow

structure GatewayEnv extends DeviceEnv where
  pointDrivers : PointDrivers
  pointFate : UpdateFate Int32 PointRow
  pointGroups : IterationOrder Int32 (List PointModel)

def GatewayEnv.deviceGroups (env : GatewayEnv) (rows : List (Int32 × PointRow)) :
    List (Int32 × List PointModel) :=
  env.pointGroups.arrange (groupByKey (fun model => model.deviceId) (rows.map pointOf))

def finish : Option (Stop Int32 PointModel NGError) → Except GatewayError Unit
  | none => .ok ()
  | some stop => .error (.runtime stop.error)

def createPoints (env : GatewayEnv) (world : World) (points : List NewPoint)
    (newIds : NewIds world.points (points.map NewPoint.row).length) (insertFails : Option Nat) :
    Except GatewayError Unit × World :=
  if points.isEmpty then (.ok (), world)
  else
    match createMany world.points (points.map NewPoint.row) newIds insertFails with
    | (.error e, table) => (.error (.storage e), { world with points := table })
    | (.ok rows, table) =>
      let (stop, index) :=
        applyGroups (addPoints env.pointDrivers) world.index (env.deviceGroups rows)
      (finish stop, { world with points := deleteStopped PointModel.id table stop, index := index })

def restoreOld (old : PointModel) : Change Int32 PointRow :=
  ⟨old.id, (intoActiveModel old.toPointRow).over⟩

/-- The old models of the group at which the loop stopped are written back. -/
def writeBack (env : GatewayEnv) (olds : List (Int32 × PointRow))
    (table : AssocMap Int32 PointRow) :
    Option (Stop Int32 PointModel NGError) → AssocMap Int32 PointRow
  | none => table
  | some stop =>
    let oldModels := (env.deviceGroups olds).flatMap Prod.snd
    ((oldModels.filter fun old => old.id ∈ stop.group.2.map PointModel.id).map restoreOld).foldl
      (updateLate env.pointFate) table

def updatePoints (env : GatewayEnv) (world : World) (points : List UpdatePoint) :
    Except GatewayError Unit × World :=
  if points.isEmpty then (.ok (), world)
  else
    let olds := (world.points.retain fun id _ => id ∈ points.map UpdatePoint.id).entries
    match updateAll env.pointFate world.points (points.map UpdatePoint.change) with
    | (.error e, table) => (.error (.storage e), { world with points := table })
    | (.ok rows, table) =>
      let (stop, index) :=
        applyGroups (replacePoints env.pointDrivers) world.index (env.deviceGroups rows)
      (finish stop, { world with points := writeBack env olds table stop, index := index })

def deletePoints (env : GatewayEnv) (world : World) (ids : List Int32) :
    Except GatewayError Unit × World :=
  if ids.isEmpty then (.ok (), world)
  else
    let (deleted, table) := deleteByIds world.points ids
    let (stop, index) :=
      applyGroups
        (fun index deviceId models =>
          removePoints env.pointDrivers index deviceId (models.map PointModel.id))
        world.index (env.deviceGroups deleted)
    (finish stop,
      { world with
        points := recreateStopped (fun model => (model.id, model.toPointRow)) table stop
        index := index })

theorem writeBack_same (env : GatewayEnv) (olds : List (Int32 × PointRow))
    (table : AssocMap Int32 PointRow) (stop : Option (Stop Int32 PointModel NGError)) :
    (writeBack env olds table stop).Same table := by
  have hwrite : ∀ (models : List PointModel) (table : AssocMap Int32 PointRow),
      ((models.map restoreOld).foldl (updateLate env.pointFate) table).Same table := by
    intro models
    induction models with
    | nil => exact fun table id => rfl
    | cons old models ih =>
      intro table id
      rw [List.map_cons, List.foldl_cons, ih, updateLate]
      cases htry : tryUpdate env.pointFate table (restoreOld old) with
      | error e => rfl
      | ok updated =>
        obtain ⟨row, next⟩ := updated
        obtain ⟨row', hrow, rfl, rfl⟩ := tryUpdate_eq_ok htry
        rw [lookup_insert]
        split
        · rename_i hid
          rw [hid, hrow]
          rfl
        · rfl
  cases stop with
  | none => exact fun id => rfl
  | some stop => exact hwrite _ table

end NgGateway.PointCommands
