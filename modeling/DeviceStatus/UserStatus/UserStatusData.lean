import DeviceStatus.Sequenceable.Parcel
import Mathlib.Algebra.GroupWithZero.Nat

/-!
# User-status data

`UserStatusData` writes what belongs to its feature, and reads what belongs to its status. Of the
applications it writes the first 50; the reader wants a name for each. `PlayAbilityStatusData`
writes its rows of accelerations without their number, and reads as many as a new object has.

## Main definitions

* `UserStatusData`, `PlayAbilityStatusData` — the data, with `marshalling` and `unmarshalling`.
* `received` — what a receiver makes of a parcel, the feature first.
-/

namespace DeviceStatus.UserStatus

open OrderedStore Sequenceable ParcelItem

def MAX_APP_SIZE : Int32 := 50
def FEATURE_USER_PREFERENCE_APP : UInt32 := 10
def FEATURE_USER_FACE_ANGLE : UInt32 := 11
def FEATURE_TIME_TUNNEL : UInt32 := 14

def userStatusPreferenceApp : StdString := "userStatusPreferenceApp".toUTF8.toList
def userFaceAngleStatus : StdString := "userFaceAngleStatus".toUTF8.toList
def timeTunnelStatus : StdString := "timeTunnelStatus".toUTF8.toList

variable {Flt PixelMap : Type}

structure UserStatusData where
  feature : UInt32 := 0
  result : Int32 := 0
  errorCode : Int32 := 0
  status : StdString := []
  coordinateX : Int32 := 0
  coordinateY : Int32 := 0
  pointerAction : Int32 := 0
  orientation : Int32 := 0
  displayId : Int32 := 0
  tpStatus : Int32 := 0
  resultApps : List StdString := []
  hpeDeviceId : StdString := []

/-! ### Reads that fall back on a default -/

def readInt32 : Reader (ParcelItem Flt PixelMap) Int32 := (read int32Kind).orDefault 0

def readString : Reader (ParcelItem Flt PixelMap) StdString := (read stringKind).orDefault []

theorem reads_readInt32 (n : Int32) :
    Reads (readInt32 : Reader (ParcelItem Flt PixelMap) _) [.int32 n] n :=
  (reads_read int32Kind n).orDefault 0

theorem reads_readString (s : StdString) :
    Reads (readString : Reader (ParcelItem Flt PixelMap) _) [.string s] s :=
  (reads_read stringKind s).orDefault []

def unMarshallingFeature : Reader (ParcelItem Flt PixelMap) Int32 :=
  ((read uint32Kind).orDefault 0).andThen fun feature => .returning feature.toInt32

/-- What a receiver makes of a parcel with these items. -/
def received {α : Type} (unmarshalling : Reader (ParcelItem Flt PixelMap) (Option α))
    (items : List (ParcelItem Flt PixelMap)) : Int32 × Option α :=
  let feature := unMarshallingFeature { items }
  (feature.1, (unmarshalling feature.2).1)

theorem received_cons {α : Type} (unmarshalling : Reader (ParcelItem Flt PixelMap) (Option α))
    (feature : UInt32) (items : List (ParcelItem Flt PixelMap)) :
    received unmarshalling ([.uint32 feature] ++ items) =
      (feature.toInt32, (unmarshalling { items }).1) :=
  rfl

namespace UserStatusData

/-! ### The writer -/

section Writer

variable (room : Room (ParcelItem Flt PixelMap)) (data : UserStatusData)

/-- The fields that all data have. -/
def writeHeader : Writer (ParcelItem Flt PixelMap) :=
  (write room uint32Kind data.feature).andThen <|
    (write room int32Kind data.result).andThen <|
      (write room int32Kind data.errorCode).andThen <|
        write room stringKind data.status

def appSize : Int32 :=
  if MAX_APP_SIZE < Int32.ofNat data.resultApps.length then MAX_APP_SIZE
  else Int32.ofNat data.resultApps.length

def writeResultApps : Writer (ParcelItem Flt PixelMap) :=
  if data.feature = FEATURE_USER_PREFERENCE_APP then
    (write room int32Kind data.appSize).andThen <|
      .each (write room stringKind) (data.resultApps.take data.appSize.toInt.toNat)
  else .done

def writeHpeDeviceId : Writer (ParcelItem Flt PixelMap) :=
  if data.feature = FEATURE_USER_FACE_ANGLE then write room stringKind data.hpeDeviceId else .done

def writeTimeTunnelData : Writer (ParcelItem Flt PixelMap) :=
  (write room int32Kind data.coordinateX).andThen <|
    (write room int32Kind data.coordinateY).andThen <|
      (write room int32Kind data.pointerAction).andThen <|
        (write room int32Kind data.orientation).andThen <|
          (write room int32Kind data.displayId).andThen <|
            write room int32Kind data.tpStatus

def marshalling : Writer (ParcelItem Flt PixelMap) :=
  (data.writeHeader room).andThen <|
    (data.writeResultApps room).andThen <|
      (data.writeHpeDeviceId room).andThen <|
        if data.feature = FEATURE_TIME_TUNNEL then data.writeTimeTunnelData room else .done

end Writer

/-! ### The reader -/

section Reader

variable (data : UserStatusData)

def readHeader : Reader (ParcelItem Flt PixelMap) (Option UserStatusData) :=
  readInt32.andThen fun result =>
    readInt32.andThen fun errorCode =>
      readString.andThen fun status =>
        if status = [] then .returning none
        else .returning (some { data with result, errorCode, status })

/-- One round of the loop over the applications. -/
def readBundleName (resultApps : List StdString) :
    Reader (ParcelItem Flt PixelMap) (Option (List StdString)) :=
  readString.andThen fun bundleName =>
    if bundleName = [] then .returning none else .returning (some (resultApps ++ [bundleName]))

def readResultApps : Reader (ParcelItem Flt PixelMap) (Option UserStatusData) :=
  if data.status = userStatusPreferenceApp then
    readInt32.andThen fun size =>
      if MAX_APP_SIZE < size ∨ size < 0 then .returning none
      else
        (Reader.loop readBundleName size.toInt.toNat data.resultApps).mapSome fun resultApps =>
          { data with resultApps }
  else .returning (some data)

def readHpeDeviceId : Reader (ParcelItem Flt PixelMap) UserStatusData :=
  if data.status = userFaceAngleStatus then
    readString.andThen fun hpeDeviceId => .returning { data with hpeDeviceId }
  else .returning data

def readTimeTunnelData : Reader (ParcelItem Flt PixelMap) UserStatusData :=
  if data.status = timeTunnelStatus then
    readInt32.andThen fun coordinateX =>
      readInt32.andThen fun coordinateY =>
        readInt32.andThen fun pointerAction =>
          readInt32.andThen fun orientation =>
            readInt32.andThen fun displayId =>
              readInt32.andThen fun tpStatus =>
                .returning { data with
                  coordinateX, coordinateY, pointerAction, orientation, displayId, tpStatus }
  else .returning data

def readFromParcel : Reader (ParcelItem Flt PixelMap) (Option UserStatusData) :=
  data.readHeader.orReturn none fun data =>
    data.readResultApps.orReturn none fun data =>
      data.readHpeDeviceId.andThen fun data =>
        data.readTimeTunnelData.andThen fun data => .returning (some data)

/-- A null pointer is `none`. -/
def unmarshalling : Reader (ParcelItem Flt PixelMap) (Option UserStatusData) :=
  readFromParcel {}

end Reader

/-! ### The items of the data -/

section Items

variable (data : UserStatusData)

def headerItems : List (ParcelItem Flt PixelMap) :=
  [.int32 data.result, .int32 data.errorCode, .string data.status]

def appItems : List (ParcelItem Flt PixelMap) :=
  if data.feature = FEATURE_USER_PREFERENCE_APP then
    .int32 data.appSize ::
      (data.resultApps.take data.appSize.toInt.toNat).flatMap fun app => [.string app]
  else []

def deviceItems : List (ParcelItem Flt PixelMap) :=
  if data.feature = FEATURE_USER_FACE_ANGLE then [.string data.hpeDeviceId] else []

def tunnelItems : List (ParcelItem Flt PixelMap) :=
  if data.feature = FEATURE_TIME_TUNNEL then
    [.int32 data.coordinateX, .int32 data.coordinateY, .int32 data.pointerAction,
      .int32 data.orientation, .int32 data.displayId, .int32 data.tpStatus]
  else []

/-- What follows the feature. -/
def items : List (ParcelItem Flt PixelMap) :=
  data.headerItems ++ (data.appItems ++ (data.deviceItems ++ data.tunnelItems))

theorem writeHeader_eq (room : Room (ParcelItem Flt PixelMap)) :
    data.writeHeader room = append room ([.uint32 data.feature] ++ data.headerItems) := by
  simp only [writeHeader, write_eq, append_andThen]
  rfl

theorem marshalling_eq (room : Room (ParcelItem Flt PixelMap)) :
    data.marshalling room = append room ([.uint32 data.feature] ++ data.items) := by
  have apps (app : StdString) : write room stringKind app = append room [.string app] := rfl
  rw [items, ← List.append_assoc]
  simp only [marshalling, writeHeader_eq, writeResultApps, writeHpeDeviceId, writeTimeTunnelData,
    each_append apps, write_eq, append_andThen, append_optional]
  rfl

end Items

/-! ### Data that are read back -/

/-- The feature and the status are of one kind of report. -/
structure SameKind (data : UserStatusData) : Prop where
  preference :
    data.feature = FEATURE_USER_PREFERENCE_APP ↔ data.status = userStatusPreferenceApp
  faceAngle : data.feature = FEATURE_USER_FACE_ANGLE ↔ data.status = userFaceAngleStatus
  timeTunnel : data.feature = FEATURE_TIME_TUNNEL ↔ data.status = timeTunnelStatus

/-- The fields that follow the feature in the parcel are equal. -/
structure SameWritten (data read : UserStatusData) : Prop where
  result : read.result = data.result
  errorCode : read.errorCode = data.errorCode
  status : read.status = data.status
  resultApps : data.feature = FEATURE_USER_PREFERENCE_APP → read.resultApps = data.resultApps
  hpeDeviceId : data.feature = FEATURE_USER_FACE_ANGLE → read.hpeDeviceId = data.hpeDeviceId
  timeTunnel : data.feature = FEATURE_TIME_TUNNEL →
    read.coordinateX = data.coordinateX ∧ read.coordinateY = data.coordinateY ∧
      read.pointerAction = data.pointerAction ∧ read.orientation = data.orientation ∧
      read.displayId = data.displayId ∧ read.tpStatus = data.tpStatus

theorem appSize_eq {data : UserStatusData} (count : data.resultApps.length < 2 ^ 31) :
    ¬ (MAX_APP_SIZE < data.appSize ∨ data.appSize < 0) ∧
      data.appSize.toInt.toNat = (data.resultApps.take 50).length ∧
      data.resultApps.take data.appSize.toInt.toNat = data.resultApps.take 50 := by
  have size := Int32.toInt_ofNat_of_lt count
  have max : MAX_APP_SIZE.toInt = 50 := rfl
  have zero : (0 : Int32).toInt = 0 := rfl
  simp only [Int32.lt_iff_toInt_lt, appSize, List.length_take, List.take_eq_take_iff]
  split_ifs <;> omega

section Reads

variable {data : UserStatusData}

theorem reads_readHeader (status : data.status ≠ []) (fresh : UserStatusData) :
    Reads (fresh.readHeader : Reader (ParcelItem Flt PixelMap) _) data.headerItems
      (some { fresh with
        result := data.result, errorCode := data.errorCode, status := data.status }) := by
  refine (reads_readInt32 data.result).andThen ((reads_readInt32 data.errorCode).andThen ?_)
  refine (reads_readString data.status).andThen_last ?_
  rw [if_neg status]
  exact reads_returning _

theorem reads_readBundleName {name : StdString} (some : name ≠ []) (resultApps : List StdString) :
    Reads (readBundleName resultApps : Reader (ParcelItem Flt PixelMap) _) [.string name]
      (.some (resultApps ++ [name])) := by
  refine (reads_readString name).andThen_last ?_
  rw [if_neg some]
  exact reads_returning _

theorem refuses_readBundleName (resultApps : List StdString) :
    Refuses (readBundleName resultApps : Reader (ParcelItem Flt PixelMap) _) [.string []] :=
  ((reads_readString []).andThen_last (reads_returning none)).refuses

theorem reads_readResultApps (kind : data.SameKind) (count : data.resultApps.length < 2 ^ 31)
    (names : data.feature = FEATURE_USER_PREFERENCE_APP → [] ∉ data.resultApps.take 50)
    (read : UserStatusData) (status : read.status = data.status) :
    Reads (read.readResultApps : Reader (ParcelItem Flt PixelMap) _) data.appItems
      (some (if data.feature = FEATURE_USER_PREFERENCE_APP then
        { read with resultApps := read.resultApps ++ data.resultApps.take 50 } else read)) := by
  obtain ⟨limits, size, taken⟩ := appSize_eq count
  rw [apply_ite some]
  refine Reads.optional (by rw [status, kind.preference]) (fun feature => ?_) (some read)
  have round : ∀ name ∈ data.resultApps.take 50, ∀ resultApps,
      Reads (readBundleName resultApps : Reader (ParcelItem Flt PixelMap) _) [.string name]
        (some (resultApps ++ [name])) := by
    intro name mem
    exact reads_readBundleName (ne_of_mem_of_not_mem mem (names feature))
  have loop := (Reads.loop round read.resultApps).mapSome
    fun resultApps => { read with resultApps }
  rw [List.foldl_append_eq_append, ← List.flatMap_def, List.flatMap_singleton'] at loop
  refine (reads_readInt32 data.appSize).andThen ?_
  rwa [if_neg limits, taken, size]

theorem refuses_readResultApps (kind : data.SameKind) (count : data.resultApps.length < 2 ^ 31)
    (feature : data.feature = FEATURE_USER_PREFERENCE_APP)
    (unnamed : [] ∈ data.resultApps.take 50) (read : UserStatusData)
    (status : read.status = data.status) :
    Refuses (read.readResultApps : Reader (ParcelItem Flt PixelMap) _) data.appItems := by
  obtain ⟨limits, size, taken⟩ := appSize_eq count
  unfold readResultApps appItems
  rw [if_pos (status.trans (kind.preference.mp feature)), if_pos feature]
  refine (reads_readInt32 data.appSize).andThen_refuses ?_
  rw [if_neg limits, taken, size]
  refine Refuses.orReturn (Refuses.loop (f := fun apps app => apps ++ [app])
    (fun app apps some => reads_readBundleName some apps) ?_ ⟨[], unnamed, rfl⟩ _) _
  rintro app apps rfl
  exact refuses_readBundleName apps

theorem reads_readHpeDeviceId (kind : data.SameKind) (read : UserStatusData)
    (status : read.status = data.status) :
    Reads (read.readHpeDeviceId : Reader (ParcelItem Flt PixelMap) _) data.deviceItems
      (if data.feature = FEATURE_USER_FACE_ANGLE then
        { read with hpeDeviceId := data.hpeDeviceId } else read) := by
  refine Reads.optional (by rw [status, kind.faceAngle]) (fun _ => ?_) read
  exact (reads_readString data.hpeDeviceId).andThen_last (reads_returning _)

theorem reads_readTimeTunnelData (kind : data.SameKind) (read : UserStatusData)
    (status : read.status = data.status) :
    Reads (read.readTimeTunnelData : Reader (ParcelItem Flt PixelMap) _) data.tunnelItems
      (if data.feature = FEATURE_TIME_TUNNEL then
        { read with
          coordinateX := data.coordinateX, coordinateY := data.coordinateY,
          pointerAction := data.pointerAction, orientation := data.orientation,
          displayId := data.displayId, tpStatus := data.tpStatus }
      else read) := by
  refine Reads.optional (by rw [status, kind.timeTunnel]) (fun _ => ?_) read
  refine (reads_readInt32 data.coordinateX).andThen ?_
  refine (reads_readInt32 data.coordinateY).andThen ?_
  refine (reads_readInt32 data.pointerAction).andThen ?_
  refine (reads_readInt32 data.orientation).andThen ?_
  refine (reads_readInt32 data.displayId).andThen ?_
  exact (reads_readInt32 data.tpStatus).andThen_last (reads_returning _)

/-- The data with the applications that are written. -/
def firstApps (data : UserStatusData) : UserStatusData :=
  { data with resultApps := data.resultApps.take 50 }

theorem reads_unmarshalling (some : data.status ≠ []) (kind : data.SameKind)
    (count : data.resultApps.length < 2 ^ 31)
    (names : data.feature = FEATURE_USER_PREFERENCE_APP → [] ∉ data.resultApps.take 50) :
    ∃ read, Reads (unmarshalling : Reader (ParcelItem Flt PixelMap) _) data.items (.some read) ∧
      SameWritten data.firstApps read := by
  let header : UserStatusData :=
    { result := data.result, errorCode := data.errorCode, status := data.status }
  let apps := if data.feature = FEATURE_USER_PREFERENCE_APP then
    { header with resultApps := header.resultApps ++ data.resultApps.take 50 } else header
  let device := if data.feature = FEATURE_USER_FACE_ANGLE then
    { apps with hpeDeviceId := data.hpeDeviceId } else apps
  have appsStatus : apps.status = data.status := by unfold apps; split_ifs <;> rfl
  have deviceStatus : device.status = data.status := by
    unfold device
    split_ifs <;> exact appsStatus
  let tunnel := if data.feature = FEATURE_TIME_TUNNEL then
    { device with
      coordinateX := data.coordinateX, coordinateY := data.coordinateY,
      pointerAction := data.pointerAction, orientation := data.orientation,
      displayId := data.displayId, tpStatus := data.tpStatus }
    else device
  refine ⟨tunnel, (reads_readHeader some {}).orReturn ?_ none, ?_⟩
  · refine (reads_readResultApps kind count names header rfl).orReturn ?_ none
    refine (reads_readHpeDeviceId kind apps appsStatus).andThen ?_
    exact (reads_readTimeTunnelData kind device deviceStatus).andThen_last (reads_returning _)
  · constructor <;> intros <;> simp_all [tunnel, device, apps, header, firstApps] <;>
      split_ifs <;> rfl

theorem refuses_unmarshalling (some : data.status ≠ []) (kind : data.SameKind)
    (count : data.resultApps.length < 2 ^ 31)
    (feature : data.feature = FEATURE_USER_PREFERENCE_APP)
    (unnamed : [] ∈ data.resultApps.take 50) :
    Refuses (unmarshalling : Reader (ParcelItem Flt PixelMap) _) data.items := by
  refine (reads_readHeader some {}).orReturn_refuses ?_
  let header : UserStatusData :=
    { result := data.result, errorCode := data.errorCode, status := data.status }
  have apps : Refuses (header.readResultApps : Reader (ParcelItem Flt PixelMap) _) data.appItems :=
    refuses_readResultApps kind count feature unnamed header rfl
  exact (apps.orReturn _).append _

end Reads

end UserStatusData

/-! ### The ability to play -/

structure PlayAbilityStatusData (Flt : Type) [Zero Flt] extends UserStatusData where
  visualAngle : List Flt := .replicate 4 0
  angularVelocity : List Flt := .replicate 3 0
  gravityAcc : List Flt := .replicate 3 0
  linearAcc : List (List Flt) := .replicate 4 (.replicate 3 0)
  gameRotationData : List Flt := .replicate 4 0
  faceNum : Int32 := 0
  isHandExist : Bool := false
  motionGesture : Int32 := -1
  handType : Int32 := -1
  handPosition : List Flt := .replicate 3 0
  directionAngle : List Flt := .replicate 3 0
  gestureSpeed : List Flt := .replicate 3 0

def readBool : Reader (ParcelItem Flt PixelMap) Bool := (read boolKind).orDefault false

/-- `ReadFloatVector` into a vector. -/
def readFloatVector (vector : List Flt) : Reader (ParcelItem Flt PixelMap) (List Flt) :=
  (read floatVectorKind).orDefault vector

theorem reads_readBool (b : Bool) :
    Reads (readBool : Reader (ParcelItem Flt PixelMap) _) [.bool b] b :=
  (reads_read boolKind b).orDefault false

theorem reads_readFloatVector (vector floats : List Flt) :
    Reads (readFloatVector vector : Reader (ParcelItem Flt PixelMap) _) [.floatVector floats]
      floats :=
  (reads_read floatVectorKind floats).orDefault vector

namespace PlayAbilityStatusData

variable [Zero Flt]

section Writer

variable (room : Room (ParcelItem Flt PixelMap)) (data : PlayAbilityStatusData Flt)

def marshallPlayAbilityData : Writer (ParcelItem Flt PixelMap) :=
  (write room int32Kind data.faceNum).andThen <|
    (write room floatVectorKind data.visualAngle).andThen <|
      (write room floatVectorKind data.angularVelocity).andThen <|
        (write room floatVectorKind data.gravityAcc).andThen <|
          (Writer.each (write room floatVectorKind) data.linearAcc).andThen <|
            (write room floatVectorKind data.gameRotationData).andThen <|
              (write room boolKind data.isHandExist).andThen <|
                (write room int32Kind data.motionGesture).andThen <|
                  (write room int32Kind data.handType).andThen <|
                    (write room floatVectorKind data.handPosition).andThen <|
                      (write room floatVectorKind data.directionAngle).andThen <|
                        write room floatVectorKind data.gestureSpeed

def marshalling : Writer (ParcelItem Flt PixelMap) :=
  (data.writeHeader room).andThen (data.marshallPlayAbilityData room)

end Writer

section Reader

variable (data : PlayAbilityStatusData Flt)

/-- The fields that the other data do not have. -/
def readPlayAbilityData : Reader (ParcelItem Flt PixelMap) (PlayAbilityStatusData Flt) :=
  readInt32.andThen fun faceNum =>
    (readFloatVector data.visualAngle).andThen fun visualAngle =>
      (readFloatVector data.angularVelocity).andThen fun angularVelocity =>
        (readFloatVector data.gravityAcc).andThen fun gravityAcc =>
          (Reader.traverse readFloatVector data.linearAcc).andThen fun linearAcc =>
            (readFloatVector data.gameRotationData).andThen fun gameRotationData =>
              readBool.andThen fun isHandExist =>
                readInt32.andThen fun motionGesture =>
                  readInt32.andThen fun handType =>
                    (readFloatVector data.handPosition).andThen fun handPosition =>
                      (readFloatVector data.directionAngle).andThen fun directionAngle =>
                        (readFloatVector data.gestureSpeed).andThen fun gestureSpeed =>
                          .returning { data with
                            faceNum, visualAngle, angularVelocity, gravityAcc, linearAcc,
                            gameRotationData, isHandExist, motionGesture, handType,
                            handPosition, directionAngle, gestureSpeed }

def readFromParcel : Reader (ParcelItem Flt PixelMap) (Option (PlayAbilityStatusData Flt)) :=
  data.toUserStatusData.readHeader.orReturn none fun header =>
    (readPlayAbilityData { data with toUserStatusData := header }).andThen fun data =>
      .returning (some data)

/-- A null pointer is `none`. -/
def unmarshalling : Reader (ParcelItem Flt PixelMap) (Option (PlayAbilityStatusData Flt)) :=
  readFromParcel {}

end Reader

variable (data : PlayAbilityStatusData Flt)

def playAbilityItems : List (ParcelItem Flt PixelMap) :=
  [.int32 data.faceNum, .floatVector data.visualAngle, .floatVector data.angularVelocity,
      .floatVector data.gravityAcc] ++
    (data.linearAcc.flatMap (fun acc => [.floatVector acc]) ++
      [.floatVector data.gameRotationData, .bool data.isHandExist, .int32 data.motionGesture,
        .int32 data.handType, .floatVector data.handPosition, .floatVector data.directionAngle,
        .floatVector data.gestureSpeed])

/-- What follows the feature. -/
def items : List (ParcelItem Flt PixelMap) :=
  data.headerItems ++ data.playAbilityItems

theorem marshalling_eq (room : Room (ParcelItem Flt PixelMap)) :
    data.marshalling room = append room ([.uint32 data.feature] ++ data.items) := by
  have rows (acc : List Flt) : write room floatVectorKind acc = append room [.floatVector acc] :=
    rfl
  rw [items, ← List.append_assoc]
  simp only [marshalling, marshallPlayAbilityData, UserStatusData.writeHeader_eq,
    each_append rows, write_eq, append_andThen]
  rfl

/-- The fields that follow the feature in the parcel are equal. -/
structure SameWritten (data read : PlayAbilityStatusData Flt) : Prop where
  result : read.result = data.result
  errorCode : read.errorCode = data.errorCode
  status : read.status = data.status
  playAbility : read = { data with toUserStatusData := read.toUserStatusData }

variable {data}

theorem reads_readPlayAbilityData (read : PlayAbilityStatusData Flt)
    (rows : read.linearAcc.length = data.linearAcc.length) :
    Reads (read.readPlayAbilityData : Reader (ParcelItem Flt PixelMap) _) data.playAbilityItems
      { data with toUserStatusData := read.toUserStatusData } := by
  refine (reads_readInt32 data.faceNum).andThen ?_
  refine (reads_readFloatVector _ data.visualAngle).andThen ?_
  refine (reads_readFloatVector _ data.angularVelocity).andThen ?_
  refine (reads_readFloatVector _ data.gravityAcc).andThen ?_
  refine (Reads.traverse reads_readFloatVector rows).andThen ?_
  refine (reads_readFloatVector _ data.gameRotationData).andThen ?_
  refine (reads_readBool data.isHandExist).andThen ?_
  refine (reads_readInt32 data.motionGesture).andThen ?_
  refine (reads_readInt32 data.handType).andThen ?_
  refine (reads_readFloatVector _ data.handPosition).andThen ?_
  refine (reads_readFloatVector _ data.directionAngle).andThen ?_
  exact (reads_readFloatVector _ data.gestureSpeed).andThen_last (reads_returning _)

theorem reads_unmarshalling (some : data.status ≠ []) (rows : data.linearAcc.length = 4) :
    ∃ read, Reads (unmarshalling : Reader (ParcelItem Flt PixelMap) _) data.items (.some read) ∧
      SameWritten data read := by
  let header : UserStatusData :=
    { result := data.result, errorCode := data.errorCode, status := data.status }
  refine ⟨{ data with toUserStatusData := header }, ?_, ⟨rfl, rfl, rfl, rfl⟩⟩
  refine (UserStatusData.reads_readHeader some {}).orReturn ?_ none
  have four : ({ toUserStatusData := header } : PlayAbilityStatusData Flt).linearAcc.length =
      data.linearAcc.length := rows.symm
  exact (reads_readPlayAbilityData _ four).andThen_last (reads_returning _)

end PlayAbilityStatusData

/-! ### Parcels of data -/

theorem received_eq {α : Type} {unmarshalling : Reader (ParcelItem Flt PixelMap) (Option α)}
    {format : List (ParcelItem Flt PixelMap)} {a : Option α} (h : Reads unmarshalling format a)
    (feature : UInt32) :
    received unmarshalling ([.uint32 feature] ++ format) = (feature.toInt32, a) := by
  have read := h [] false
  rw [List.append_nil] at read
  rw [received_cons, read]

/-- With fewer than 2³¹ applications and four rows of accelerations, what is received is what was
written: of the applications the first 50, and no object if one of these has no name. -/
theorem user_status_data_survives [Zero Flt] (room : Room (ParcelItem Flt PixelMap)) :
    (∀ (data : UserStatusData) (items : List (ParcelItem Flt PixelMap)), data.status ≠ [] →
      data.SameKind → data.resultApps.length < 2 ^ 31 → data.marshalling room [] = (true, items) →
        (¬ (data.feature = FEATURE_USER_PREFERENCE_APP ∧ [] ∈ data.resultApps.take 50) →
          ∃ read, received UserStatusData.unmarshalling items =
            (data.feature.toInt32, some read) ∧ data.firstApps.SameWritten read) ∧
        (data.feature = FEATURE_USER_PREFERENCE_APP ∧ [] ∈ data.resultApps.take 50 →
          received UserStatusData.unmarshalling items = (data.feature.toInt32, none))) ∧
    ∀ (data : PlayAbilityStatusData Flt) (items : List (ParcelItem Flt PixelMap)),
      data.status ≠ [] → data.linearAcc.length = 4 → data.marshalling room [] = (true, items) →
        ∃ read, received PlayAbilityStatusData.unmarshalling items =
          (data.feature.toInt32, some read) ∧ data.SameWritten read := by
  refine ⟨fun data items status kind count written => ⟨fun named => ?_, fun unnamed => ?_⟩,
    fun data items status rows written => ?_⟩
  · have names (feature : data.feature = FEATURE_USER_PREFERENCE_APP) :
        [] ∉ data.resultApps.take 50 := fun mem => named ⟨feature, mem⟩
    obtain ⟨read, reads, same⟩ := UserStatusData.reads_unmarshalling status kind count names
    rw [data.marshalling_eq] at written
    rw [append_eq written, List.nil_append]
    exact ⟨read, received_eq reads _, same⟩
  · have refuses : Refuses (UserStatusData.unmarshalling : Reader (ParcelItem Flt PixelMap) _)
        data.items := UserStatusData.refuses_unmarshalling status kind count unnamed.1 unnamed.2
    have refused := refuses [] false
    rw [List.append_nil] at refused
    rw [data.marshalling_eq] at written
    rw [append_eq written, List.nil_append, received_cons, refused]
  · obtain ⟨read, reads, same⟩ := PlayAbilityStatusData.reads_unmarshalling status rows
    rw [data.marshalling_eq] at written
    rw [append_eq written, List.nil_append]
    exact ⟨read, received_eq reads _, same⟩

/-- Preferred applications, each named `a`. -/
def preferred (count : ℕ) : UserStatusData where
  feature := FEATURE_USER_PREFERENCE_APP
  status := userStatusPreferenceApp
  resultApps := .replicate count [97]

theorem preferred_sameKind (count : ℕ) : (preferred count).SameKind where
  preference := iff_of_true rfl rfl
  faceAngle := by
    have feature : FEATURE_USER_PREFERENCE_APP ≠ FEATURE_USER_FACE_ANGLE := by decide
    have status : userStatusPreferenceApp ≠ userFaceAngleStatus := by decide +kernel
    exact iff_of_false feature status
  timeTunnel := by
    have feature : FEATURE_USER_PREFERENCE_APP ≠ FEATURE_TIME_TUNNEL := by decide
    have status : userStatusPreferenceApp ≠ timeTunnelStatus := by decide +kernel
    exact iff_of_false feature status

theorem preferred_named (count : ℕ) : [] ∉ (preferred count).resultApps.take 50 := by
  intro mem
  have eq : ([] : StdString) = [97] := List.eq_of_mem_replicate (List.mem_of_mem_take mem)
  cases eq

/-- Three applications that are told apart. -/
def threeApps : UserStatusData :=
  { preferred 0 with result := 3, errorCode := -1, resultApps := [[97], [98, 99], [100]] }

/-- A gesture in the air, with a different row for each acceleration. -/
def gesture : PlayAbilityStatusData ℕ where
  feature := 12
  status := [112]
  result := 2
  linearAcc := [[1, 2, 3], [4, 5, 6], [7, 8, 9], [10, 11, 12]]
  isHandExist := true
  motionGesture := 4
  gestureSpeed := [13, 14, 15]

theorem threeApps_and_gesture_survive :
    (∃ read, received UserStatusData.unmarshalling
        (threeApps.marshalling (fun _ (_ : ParcelItem ℕ Unit) => true) []).2 =
      (10, some read) ∧ read.resultApps = [[97], [98, 99], [100]]) ∧
    ∃ read, received PlayAbilityStatusData.unmarshalling
        (gesture.marshalling (fun _ (_ : ParcelItem ℕ Unit) => true) []).2 =
      (12, some read) ∧ gesture.SameWritten read := by
  obtain ⟨apps, play⟩ := user_status_data_survives fun _ (_ : ParcelItem ℕ Unit) => true
  constructor
  · have kind : threeApps.SameKind :=
      ⟨(preferred_sameKind 0).preference, (preferred_sameKind 0).faceAngle,
        (preferred_sameKind 0).timeTunnel⟩
    have named : [] ∉ threeApps.resultApps.take 50 := by decide +kernel
    obtain ⟨read, receives, same⟩ := (apps threeApps _ (by decide +kernel) kind (by decide +kernel)
      (Prod.ext (by decide +kernel) rfl)).1 fun unnamed => named unnamed.2
    exact ⟨read, receives, same.resultApps rfl⟩
  · exact play gesture _ (by decide) rfl (Prod.ext (by decide +kernel) rfl)

/-- Of 51 applications one is lost. -/
theorem user_status_data_cut :
    ¬ ∀ (room : Room (ParcelItem ℕ Unit)) (data : UserStatusData)
      (items : List (ParcelItem ℕ Unit)), data.status ≠ [] → data.SameKind →
        data.marshalling room [] = (true, items) →
          ∃ read, received UserStatusData.unmarshalling items =
            (data.feature.toInt32, some read) ∧ data.SameWritten read := by
  intro h
  have written : (preferred 51).marshalling (fun _ (_ : ParcelItem ℕ Unit) => true) [] =
      (true, [.uint32 (preferred 51).feature] ++ (preferred 51).items) := by decide +kernel
  obtain ⟨read, receives, same⟩ :=
    h _ (preferred 51) _ (by decide +kernel) (preferred_sameKind 51) written
  have some : (preferred 51).status ≠ [] := by decide +kernel
  have count : (preferred 51).resultApps.length < 2 ^ 31 := by decide +kernel
  obtain ⟨read', reads, same'⟩ := UserStatusData.reads_unmarshalling some (preferred_sameKind 51)
    count fun _ => preferred_named 51
  rw [received_eq reads] at receives
  obtain rfl : read' = read := by simpa using receives
  have lost := (same.resultApps rfl).symm.trans (same'.resultApps rfl)
  exact absurd (congrArg List.length lost) (by decide +kernel)

end DeviceStatus.UserStatus
