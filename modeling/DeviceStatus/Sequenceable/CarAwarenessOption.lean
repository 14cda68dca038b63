import DeviceStatus.Library.Entries
import DeviceStatus.Sequenceable.Parcel

/-!
# Car-awareness options

`SequenceableCarAwarenessOption` writes a map of maps, each with its size in front, and reads it
back entry by entry. The reader takes at most 50 entries of each map; a map of no entries is written
and not read.

## Main definitions

* `CarAwarenessOption` — the option.
* `CarAwarenessOption.marshalling`, `CarAwarenessOption.unmarshalling` — the writer and the reader.
-/

namespace DeviceStatus.Sequenceable

open OrderedStore Entries ParcelItem
open Std (ExtTreeMap)

namespace CarAwareness

/-- `ValueObj` of the car awareness. -/
inductive ValueObj where
  | bool (value : Bool)
  | int32 (value : Int32)
  | string (value : StdString)
  deriving DecidableEq

abbrev EntityInfo := ExtTreeMap StdString (ExtTreeMap StdString ValueObj)

def BOOL_INDEX : Int32 := 0
def INT32_INDEX : Int32 := 1
def STRING_INDEX : Int32 := 2
def MAX_ENTITY_INFO_ITEM_SIZE : Int32 := 50

variable {Flt PixelMap : Type}

namespace ValueObj

/-- `std::variant::index`. -/
def index : ValueObj → Int32
  | bool _ => BOOL_INDEX
  | int32 _ => INT32_INDEX
  | string _ => STRING_INDEX

def writeValueObj (room : Room (ParcelItem Flt PixelMap)) (obj : ValueObj) :
    Writer (ParcelItem Flt PixelMap) :=
  (write room int32Kind obj.index).andThen
    (match obj with
    | bool arg => write room boolKind arg
    | int32 arg => write room int32Kind arg
    | string arg => write room stringKind arg)

def readValueObj : Reader (ParcelItem Flt PixelMap) (Option ValueObj) :=
  (read int32Kind).orReturn none fun typeIndex =>
    if typeIndex = BOOL_INDEX then
      (read boolKind).mapSome .bool
    else if typeIndex = INT32_INDEX then
      (read int32Kind).mapSome .int32
    else if typeIndex = STRING_INDEX then
      (read stringKind).mapSome .string
    else .returning none

/-- The items of a value. -/
def items (obj : ValueObj) : List (ParcelItem Flt PixelMap) :=
  [.int32 obj.index] ++
    match obj with
    | bool arg => [.bool arg]
    | int32 arg => [.int32 arg]
    | string arg => [.string arg]

theorem writeValueObj_eq (room : Room (ParcelItem Flt PixelMap)) (obj : ValueObj) :
    obj.writeValueObj room = append room obj.items := by
  cases obj <;> exact append_andThen [_] [_]

theorem reads_readValueObj (obj : ValueObj) :
    Reads (readValueObj : Reader (ParcelItem Flt PixelMap) _) obj.items (some obj) := by
  refine (reads_read int32Kind obj.index).orReturn ?_ none
  cases obj with
  | bool arg => exact (reads_read boolKind arg).mapSome _
  | int32 arg => exact (reads_read int32Kind arg).mapSome _
  | string arg => exact (reads_read stringKind arg).mapSome _

end ValueObj

structure CarAwarenessOption where
  entityInfo : EntityInfo := ∅

namespace CarAwarenessOption

section Writer

variable (room : Room (ParcelItem Flt PixelMap))

/-- The turn of the inner loop for one entry. -/
def writeItem (item : StdString × ValueObj) : Writer (ParcelItem Flt PixelMap) :=
  (write room stringKind item.1).andThen (item.2.writeValueObj room)

/-- The turn of the outer loop for one entry. -/
def writeInfo (info : StdString × ExtTreeMap StdString ValueObj) :
    Writer (ParcelItem Flt PixelMap) :=
  (write room stringKind info.1).andThen <|
    (write room int32Kind (Int32.ofNat info.2.size)).andThen <|
      .each (writeItem room) info.2.toList

def marshalling (option : CarAwarenessOption) : Writer (ParcelItem Flt PixelMap) :=
  (write room int32Kind (Int32.ofNat option.entityInfo.size)).andThen <|
    .each (writeInfo room) option.entityInfo.toList

end Writer

section Reader

def readItem (key : StdString) (entityInfo : EntityInfo) :
    Reader (ParcelItem Flt PixelMap) (Option EntityInfo) :=
  (read stringKind).orReturn none fun innerKey =>
    ValueObj.readValueObj.mapSome fun obj => insertAt key entityInfo (innerKey, obj)

def readInfo (entityInfo : EntityInfo) : Reader (ParcelItem Flt PixelMap) (Option EntityInfo) :=
  (read stringKind).orReturn none fun key =>
    (read int32Kind).orReturn none fun innerSize =>
      if innerSize ≤ MAX_ENTITY_INFO_ITEM_SIZE then
        .loop (readItem key) innerSize.toInt.toNat entityInfo
      else .returning none

def readFromParcel : Reader (ParcelItem Flt PixelMap) (Option EntityInfo) :=
  (read int32Kind).orReturn none fun size =>
    if size ≤ MAX_ENTITY_INFO_ITEM_SIZE then .loop readInfo size.toInt.toNat ∅
    else .returning none

/-- `Unmarshalling` of a parcel with these items; a null pointer is `none`. -/
def unmarshalling (items : List (ParcelItem Flt PixelMap)) : Option CarAwarenessOption :=
  (readFromParcel { items }).1.map fun entityInfo => { entityInfo }

end Reader

/-! ### The items of an option -/

def itemItems (item : StdString × ValueObj) : List (ParcelItem Flt PixelMap) :=
  [.string item.1] ++ item.2.items

def infoItems (info : StdString × ExtTreeMap StdString ValueObj) :
    List (ParcelItem Flt PixelMap) :=
  [.string info.1] ++ ([.int32 (Int32.ofNat info.2.size)] ++ info.2.toList.flatMap itemItems)

def items (option : CarAwarenessOption) : List (ParcelItem Flt PixelMap) :=
  [.int32 (Int32.ofNat option.entityInfo.size)] ++ option.entityInfo.toList.flatMap infoItems

theorem marshalling_eq (room : Room (ParcelItem Flt PixelMap)) (option : CarAwarenessOption) :
    option.marshalling room = append room option.items := by
  have item (item : StdString × ValueObj) : writeItem room item = append room (itemItems item) := by
    rw [writeItem, item.2.writeValueObj_eq, write_eq, append_andThen]
    rfl
  have info (info : StdString × ExtTreeMap StdString ValueObj) :
      writeInfo room info = append room (infoItems info) := by
    simp only [writeInfo, each_append item, write_eq, append_andThen]
    rfl
  simp only [marshalling, each_append info, write_eq, append_andThen]
  rfl

/-- A size that the reader takes. -/
theorem size_le {n : ℕ} (h : n ≤ 50) :
    Int32.ofNat n ≤ MAX_ENTITY_INFO_ITEM_SIZE ∧ (Int32.ofNat n).toInt.toNat = n := by
  refine ⟨?_, toNat_ofNat (by omega)⟩
  rw [Int32.le_iff_toInt_le, Int32.toInt_ofNat_of_lt (by omega)]
  exact Int.ofNat_le.mpr h

theorem reads_readInfo {info : StdString × ExtTreeMap StdString ValueObj} (size : info.2.size ≤ 50)
    (entityInfo : EntityInfo) :
    Reads (readInfo entityInfo : Reader (ParcelItem Flt PixelMap) _) (infoItems info)
      (some (info.2.toList.foldl (insertAt info.1) entityInfo)) := by
  obtain ⟨limit, count⟩ := size_le size
  refine (reads_read stringKind info.1).orReturn ((reads_read int32Kind _).orReturn ?_ none) none
  rw [if_pos limit, count, ← ExtTreeMap.length_toList]
  refine Reads.loop (fun item _ entityInfo => ?_) entityInfo
  exact (reads_read stringKind item.1).orReturn (item.2.reads_readValueObj.mapSome _) none

theorem reads_readFromParcel {option : CarAwarenessOption} (size : option.entityInfo.size ≤ 50)
    (inner : ∀ info ∈ option.entityInfo.toList, info.2 ≠ ∅ ∧ info.2.size ≤ 50) :
    Reads (readFromParcel : Reader (ParcelItem Flt PixelMap) _) option.items
      (some option.entityInfo) := by
  obtain ⟨limit, count⟩ := size_le size
  refine (reads_read int32Kind _).orReturn ?_ none
  rw [if_pos limit, count, ← ExtTreeMap.length_toList]
  rw [← congrArg some (foldl_insertAt_toList fun info mem => (inner info mem).1)]
  exact Reads.loop (fun info mem => reads_readInfo (inner info mem).2) ∅

theorem marshalling_roomy (option : CarAwarenessOption) :
    option.marshalling (fun _ _ => true) [] =
      (true, (option.items : List (ParcelItem Flt PixelMap))) := by
  rw [marshalling_eq, append_roomy, List.nil_append]

/-- An option of at most 50 maps, none of which is empty and none of which has more than 50 entries,
survives its parcel. -/
theorem car_awareness_option_survives (room : Room (ParcelItem Flt PixelMap))
    (option : CarAwarenessOption) (size : option.entityInfo.size ≤ 50)
    (inner : ∀ info ∈ option.entityInfo.toList, info.2 ≠ ∅ ∧ info.2.size ≤ 50)
    {items : List (ParcelItem Flt PixelMap)}
    (written : option.marshalling room [] = (true, items)) :
    unmarshalling items = some option := by
  rw [marshalling_eq] at written
  have reads : Reads (readFromParcel : Reader (ParcelItem Flt PixelMap) _) option.items
      (some option.entityInfo) := reads_readFromParcel size inner
  have read := reads [] false
  rw [List.append_nil] at read
  rw [append_eq written, List.nil_append, unmarshalling, read]
  rfl

def oneEntry : ExtTreeMap StdString ValueObj :=
  ExtTreeMap.ofList [(([105] : StdString), ValueObj.int32 7)]

def threeEntries : ExtTreeMap StdString ValueObj :=
  ExtTreeMap.ofList [(([97] : StdString), ValueObj.bool true), ([98], .string [99, 100]),
    ([105], .int32 (-7))]

/-- Two maps, of three entries and of one. -/
def twoInfos : CarAwarenessOption where
  entityInfo := ExtTreeMap.ofList [(([107] : StdString), threeEntries), ([106], oneEntry)]

theorem twoInfos_survive :
    unmarshalling (twoInfos.items : List (ParcelItem Unit Unit)) = some twoInfos := by
  refine car_awareness_option_survives _ twoInfos (by decide) ?_ (marshalling_roomy twoInfos)
  have entries : twoInfos.entityInfo.toList = [([106], oneEntry), ([107], threeEntries)] := rfl
  have some {map : ExtTreeMap StdString ValueObj} (size : map.size ≠ 0) : map ≠ ∅ :=
    fun empty => size (congrArg ExtTreeMap.size empty)
  rw [entries, List.forall_mem_cons, List.forall_mem_singleton]
  exact ⟨⟨some (by decide), by decide⟩, some (by decide), by decide⟩

/-! ### Options that do not survive -/

theorem unmarshalling_refuses {option : CarAwarenessOption} (many : 50 < option.entityInfo.size)
    (inRange : option.entityInfo.size < 2 ^ 31) :
    unmarshalling (option.items : List (ParcelItem Flt PixelMap)) = none := by
  have limit : ¬ Int32.ofNat option.entityInfo.size ≤ MAX_ENTITY_INFO_ITEM_SIZE := by
    rw [Int32.le_iff_toInt_le, Int32.toInt_ofNat_of_lt inRange]
    exact Int.not_le.mpr (Int.ofNat_lt.mpr many)
  have reads : Reads (readFromParcel : Reader (ParcelItem Flt PixelMap) _)
      ([.int32 (Int32.ofNat option.entityInfo.size)] ++ []) none := by
    refine (reads_read int32Kind _).orReturn ?_ none
    rw [if_neg limit]
    exact reads_returning none
  rw [List.append_nil] at reads
  rw [unmarshalling, items, reads]
  rfl

def manyInfos : CarAwarenessOption where
  entityInfo :=
    ExtTreeMap.ofList ((List.range 51).map fun i => (([UInt8.ofNat i] : StdString), oneEntry))

theorem size_manyInfos : manyInfos.entityInfo.size = 51 := by
  have distinct : ((List.range 51).map fun i => (([UInt8.ofNat i] : StdString), oneEntry)).Pairwise
      fun a b => ¬ compare a.1 b.1 = .eq := by
    rw [List.pairwise_map]
    refine List.pairwise_lt_range.imp_of_mem fun {i j} hi hj lt same => ?_
    simp only [List.mem_range] at hi hj
    rw [Std.LawfulEqCmp.compare_eq_iff_eq] at same
    simp only [List.cons.injEq, ← UInt8.toNat_inj, UInt8.toNat_ofNat'] at same
    omega
  rw [manyInfos, ExtTreeMap.size_ofList distinct, List.length_map, List.length_range]

/-- The reader refuses 51 maps. -/
theorem car_awareness_option_refused :
    ¬ ∀ (room : Room (ParcelItem Unit Unit)) (option : CarAwarenessOption)
      (items : List (ParcelItem Unit Unit)), option.marshalling room [] = (true, items) →
        unmarshalling items = some option := by
  intro h
  have read := h _ manyInfos _ (marshalling_roomy manyInfos)
  have many : 50 < manyInfos.entityInfo.size := by rw [size_manyInfos]; decide
  have inRange : manyInfos.entityInfo.size < 2 ^ 31 := by rw [size_manyInfos]; decide
  rw [unmarshalling_refuses many inRange] at read
  cases read

end CarAwarenessOption

end CarAwareness

end DeviceStatus.Sequenceable
