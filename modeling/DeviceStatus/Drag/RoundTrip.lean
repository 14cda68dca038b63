import DeviceStatus.Drag.DragDataPacker
import DeviceStatus.Library.Entries

/-!
# Drag data survives its parcel

What `DragDataPacker` writes with `RET_OK` it reads back, section by section: the summaries as
long as their number is in the reader's range, the shadows up to the number that the writer
cuts them to.

## Main statements

* `SummaryPacker.summarys_survive`, `ShadowPacker.shadows_survive` — the
  sections.
* `DragDataPacker.unMarshalling_marshalling` — the whole of the drag data.
-/

namespace DeviceStatus.Drag

open Parcel
open Parcel.Reader
open Std (ExtTreeMap)

namespace SummaryPacker

variable (bytes : ReadableBytes) (val : SummaryMap) (rest : List Item)

theorem readEntry_writeEntry (entry : StdString × Int64) :
    readEntry val (writeEntry entry ++ rest) = .ok (val.insert entry.1 entry.2, rest) := rfl

/-- The entries take two values each, so their number is in the readable bytes. -/
theorem size_le_readable :
    val.size ≤ bytes.getReadableBytes (marshalling val ++ rest) := by
  have items : val.size ≤ (marshalling val ++ rest).length := by
    have two (entry : StdString × Int64) : (writeEntry entry).length = 2 := rfl
    simp [marshalling, List.length_flatMap, two]
    omega
  exact Nat.le_trans items (bytes.length_le _)

/-- The number of entries is written exactly as long as it is in the range of `int32_t`. -/
theorem toInt_size (h : val.size < 2 ^ 31) : (Int32.ofNat val.size).toInt.toNat = val.size := by
  rw [Int32.toInt_ofNat_of_lt h, Int.toNat_natCast]

theorem unMarshalling_count (count : Int32) (items : List Item) :
    unMarshalling bytes val (.int32 count :: items) =
      if count < 0 ∨ bytes.getReadableBytes (.int32 count :: items) < count.toInt.toNat ∨
        MAX_BUF_SIZE < count then .error .retErr
      else loop readEntry count.toInt.toNat val items := by
  simp only [unMarshalling, get_bind, readInt32_bind]
  split <;> rfl

theorem limit_toInt : MAX_BUF_SIZE.toInt = 1024 := rfl

theorem summarys_survive (h : val.size ≤ MAX_BUF_SIZE.toInt.toNat) :
    unMarshalling bytes ∅ (marshalling val ++ rest) = .ok (val, rest) := by
  rw [limit_toInt] at h
  have inRange : val.size < 2 ^ 31 := by omega
  have size := toInt_size val inRange
  have readable := size_le_readable bytes val rest
  have entries := loop_flatMap (f := fun acc entry => acc.insert entry.1 entry.2)
    (fun entry acc rest => readEntry_writeEntry acc rest entry) val.toList ∅ rest
  have made := Entries.insertAll_toList val
  rw [Entries.insertAll] at made
  rw [ExtTreeMap.length_toList, made] at entries
  rw [marshalling, List.cons_append] at readable ⊢
  rw [unMarshalling_count, if_neg, size, entries]
  rw [Int32.lt_iff_toInt_lt, Int32.lt_iff_toInt_lt, size, Int32.toInt_ofNat_of_lt inRange,
    limit_toInt]
  have zero : (0 : Int32).toInt = 0 := rfl
  omega

/-- More entries than the reader takes are refused, though the writer has written them. -/
theorem unMarshalling_refuses (h : MAX_BUF_SIZE.toInt.toNat < val.size)
    (inRange : val.size < 2 ^ 31) (acc : SummaryMap) :
    unMarshalling bytes acc (marshalling val ++ rest) = .error .retErr := by
  have many : MAX_BUF_SIZE < Int32.ofNat val.size := by
    rw [Int32.lt_iff_toInt_lt, Int32.toInt_ofNat_of_lt inRange]
    omega
  rw [marshalling, List.cons_append, unMarshalling_count, if_pos (.inr (.inr many))]

end SummaryPacker

namespace ShadowPacker

variable {PixelMap : Type} (pixelMaps : PixelMaps PixelMap) {isCross : Bool}

theorem unPackPixelMap_packUpPixelMap {pixelMap : PixelMap} {items : List Item}
    (h : packUpPixelMap pixelMaps pixelMap isCross = .ok items) (rest : List Item) :
    unPackPixelMap pixelMaps isCross (items ++ rest) = .ok (pixelMap, rest) := by
  cases isCross with
  | true =>
    cases encoded : pixelMaps.encodeTlv pixelMap with
    | none => simp [packUpPixelMap, encoded, throw, throwThe, MonadExceptOf.throw] at h
    | some buffer =>
      have written : items = [.uint8Vector buffer] := by
        simpa [packUpPixelMap, encoded, pure, Except.pure, eq_comm] using h
      have decoded := pixelMaps.decodeTlv_encodeTlv encoded
      simp [unPackPixelMap, written, decoded]
  | false =>
    cases marshalled : pixelMaps.marshalling pixelMap with
    | none => simp [packUpPixelMap, marshalled, throw, throwThe, MonadExceptOf.throw] at h
    | some items' =>
      have written : items = items' := by
        simpa [packUpPixelMap, marshalled, pure, Except.pure, eq_comm] using h
      have unmarshalled := pixelMaps.unmarshalling_marshalling rest marshalled
      simp [unPackPixelMap, written, unmarshalled]
      rfl

theorem unPackShadowInfo_packUpShadowInfo {shadowInfo : ShadowInfo PixelMap} {items : List Item}
    (h : packUpShadowInfo pixelMaps isCross shadowInfo = .ok items) (rest : List Item) :
    unPackShadowInfo pixelMaps isCross (items ++ rest) = .ok (shadowInfo, rest) := by
  obtain ⟨pixelMap, x, y⟩ := shadowInfo
  cases pixelMap with
  | none => cases h
  | some pixelMap =>
    cases packed : packUpPixelMap pixelMaps pixelMap isCross with
    | error err => simp only [packUpShadowInfo, packed] at h; cases h
    | ok pixels =>
      have written : items = pixels ++ [.int32 x, .int32 y] := by
        simp only [packUpShadowInfo, packed] at h; cases h; rfl
      have read := unPackPixelMap_packUpPixelMap pixelMaps packed (.int32 x :: .int32 y :: rest)
      rw [written, List.append_assoc, unPackShadowInfo]
      exact bind_of_ok _ read

theorem limit_toInt : SHADOW_NUM_LIMIT.toInt = 3 := rfl

/-- A number of shadows that the writer takes for no overflow is below 2^31, unless it has gone
round the whole range of `int32_t`. -/
theorem toInt_length {n : ℕ} (h : ¬ Int32.ofNat n < 0) (inRange : n < 2 ^ 32) :
    (Int32.ofNat n).toInt = n := by
  rw [Int32.lt_iff_toInt_lt, Int32.toInt_ofNat'] at h
  have zero : (0 : Int32).toInt = 0 := rfl
  rw [zero, Int.bmod_def, Int32.size] at h
  apply Int32.toInt_ofNat_of_lt
  split at h <;> omega

theorem toInt_shadowNum {shadowInfos : List (ShadowInfo PixelMap)}
    (h : ¬ Int32.ofNat shadowInfos.length < 0) (inRange : shadowInfos.length < 2 ^ 32) :
    (shadowNum shadowInfos).toInt = min shadowInfos.length 3 := by
  have exact := toInt_length h inRange
  unfold shadowNum
  simp only [Int32.lt_iff_toInt_lt, exact, limit_toInt]
  split
  · rw [limit_toInt]; omega
  · rw [exact]; omega

/-- What the writer has put down: a number, and each of so many shadows. -/
theorem marshalling_ok {shadowInfos : List (ShadowInfo PixelMap)} {items : List Item}
    (h : marshalling pixelMaps isCross shadowInfos = .ok items) :
    shadowInfos ≠ [] ∧ ¬ Int32.ofNat shadowInfos.length < 0 ∧ ∃ infos,
      items = .int32 (shadowNum shadowInfos) :: infos.flatten ∧
      List.Forall₂ (fun shadowInfo info => packUpShadowInfo pixelMaps isCross shadowInfo = .ok info)
        (shadowInfos.take (shadowNum shadowInfos).toInt.toNat) infos := by
  unfold marshalling at h
  split at h
  · cases h
  · split at h
    · cases h
    · cases packed : (shadowInfos.take (shadowNum shadowInfos).toInt.toNat).mapM
          fun shadowInfo => (packUpShadowInfo pixelMaps isCross shadowInfo).mapError
            fun _ => ErrCode.retErr with
      | error err => simp only [packed] at h; cases h
      | ok infos =>
        simp only [packed] at h
        cases h
        refine ⟨by assumption, by assumption, infos, rfl, ?_⟩
        refine (forall₂_of_mapM packed).imp fun shadowInfo info each => ?_
        cases one : packUpShadowInfo pixelMaps isCross shadowInfo with
        | error err => rw [one] at each; cases each
        | ok info' => rw [one] at each; cases each; rfl

theorem unMarshalling_count {count : Int32} (positive : 0 < count.toInt) (limit : count.toInt ≤ 3)
    (shadowInfos : List (ShadowInfo PixelMap)) (items : List Item) :
    unMarshalling pixelMaps isCross shadowInfos (.int32 count :: items) =
      loop (pushBackShadowInfo pixelMaps isCross) count.toInt.toNat shadowInfos items := by
  have accepted : ¬ (count ≤ 0 ∨ SHADOW_NUM_LIMIT < count) := by
    rw [Int32.le_iff_toInt_le, Int32.lt_iff_toInt_lt, limit_toInt]
    have zero : (0 : Int32).toInt = 0 := rfl
    omega
  rw [unMarshalling, readInt32_bind, if_neg accepted]

/-- The shadows come back, as many of them as the writer has kept. -/
theorem shadows_survive {shadowInfos : List (ShadowInfo PixelMap)} {items : List Item}
    (h : marshalling pixelMaps isCross shadowInfos = .ok items)
    (inRange : shadowInfos.length < 2 ^ 32) (rest : List Item) :
    unMarshalling pixelMaps isCross [] (items ++ rest) =
      .ok (shadowInfos.take SHADOW_NUM_LIMIT.toInt.toNat, rest) := by
  obtain ⟨some_, noOverflow, infos, written, packed⟩ := marshalling_ok pixelMaps h
  have count := toInt_shadowNum noOverflow inRange
  have one : 0 < shadowInfos.length := List.length_pos_iff.mpr some_
  have kept : shadowInfos.take (shadowNum shadowInfos).toInt.toNat =
      shadowInfos.take SHADOW_NUM_LIMIT.toInt.toNat := by
    rw [count, limit_toInt]
    rcases Nat.le_total shadowInfos.length 3 with few | many
    · rw [List.take_of_length_le (by omega), List.take_of_length_le (by simpa using few)]
    · congr 1; omega
  have length : (shadowInfos.take (shadowNum shadowInfos).toInt.toNat).length =
      (shadowNum shadowInfos).toInt.toNat := by
    rw [List.length_take, count]; omega
  rw [written, List.cons_append,
    unMarshalling_count pixelMaps (by omega) (by omega), ← length]
  have pushed : List.Forall₂ (fun shadowInfo info => ∀ acc rest,
      pushBackShadowInfo pixelMaps isCross acc (info ++ rest) = .ok (acc ++ [shadowInfo], rest))
      (shadowInfos.take (shadowNum shadowInfos).toInt.toNat) infos :=
    packed.imp fun shadowInfo info each acc rest => bind_of_ok _
      (orError_ok ErrCode.retErr (unPackShadowInfo_packUpShadowInfo pixelMaps each rest))
  rw [loop_forall₂ pushed, List.foldl_append_eq_append, List.nil_append, kept, ← List.flatMap_def,
    List.flatMap_singleton']

end ShadowPacker

namespace DragDataPacker

variable {PixelMap : Type} (pixelMaps : PixelMaps PixelMap) (bytes : ReadableBytes)
  {isCross : Bool} {dragData : DragData PixelMap} {items : List Item}

/-- The drag data as the reader has them: the shadows cut to the limit, and every other field
that is written; for another device `isDragDelay` is none of these. -/
def received (isCross : Bool) (dragData : DragData PixelMap) : DragData PixelMap :=
  { dragData with
    shadowInfos := dragData.shadowInfos.take SHADOW_NUM_LIMIT.toInt.toNat
    isDragDelay := if isCross then ({} : DragData PixelMap).isDragDelay else dragData.isDragDelay }

/-- The sections of a parcel that was written with `RET_OK`. -/
theorem marshalling_ok (h : marshalling pixelMaps isCross dragData = .ok items) :
    ∃ shadows, ShadowPacker.marshalling pixelMaps isCross dragData.shadowInfos = .ok shadows ∧
      items = shadows ++ fields dragData ++ SummaryPacker.marshalling dragData.summarys ++
        if isCross then [] else [.bool dragData.isDragDelay] := by
  unfold marshalling at h
  cases packed : ShadowPacker.marshalling pixelMaps isCross dragData.shadowInfos with
  | error err => rw [packed] at h; cases h
  | ok shadows => rw [packed] at h; cases h; exact ⟨shadows, rfl, rfl⟩

/-- What is marshalled with `RET_OK` is unmarshalled with `RET_OK`, and the reader has the same
drag data up to the shadows that the writer leaves out. -/
theorem unMarshalling_marshalling (h : marshalling pixelMaps isCross dragData = .ok items)
    (shadows : dragData.shadowInfos.length < 2 ^ 32)
    (summarys : dragData.summarys.size ≤ MAX_BUF_SIZE.toInt.toNat) (rest : List Item) :
    unMarshalling pixelMaps bytes isCross {} (items ++ rest) =
      .ok (received isCross dragData, rest) := by
  obtain ⟨shadowItems, packed, written⟩ := marshalling_ok pixelMaps h
  rw [written]
  simp only [List.append_assoc, unMarshalling]
  rw [bind_of_ok _ (orError_ok _ (ShadowPacker.shadows_survive pixelMaps packed shadows _))]
  simp only [fields, List.cons_append, List.nil_append, readUInt8Vector_bind, readString_bind,
    readInt32_bind, readBool_bind]
  rw [bind_of_ok _ (orError_ok _ (SummaryPacker.summarys_survive bytes _ _ summarys))]
  cases isCross <;> rfl

/-- The reader turns down more summaries than its limit, which the writer has not looked at. -/
theorem unMarshalling_refuses (h : marshalling pixelMaps isCross dragData = .ok items)
    (shadows : dragData.shadowInfos.length < 2 ^ 32)
    (many : MAX_BUF_SIZE.toInt.toNat < dragData.summarys.size)
    (inRange : dragData.summarys.size < 2 ^ 31) (rest : List Item) :
    unMarshalling pixelMaps bytes isCross {} (items ++ rest) = .error .retErr := by
  obtain ⟨shadowItems, packed, written⟩ := marshalling_ok pixelMaps h
  rw [written]
  simp only [List.append_assoc, unMarshalling]
  rw [bind_of_ok _ (orError_ok _ (ShadowPacker.shadows_survive pixelMaps packed shadows _))]
  simp only [fields, List.cons_append, List.nil_append, readUInt8Vector_bind, readString_bind,
    readInt32_bind, readBool_bind]
  exact bind_of_error _
    (orError_error _ (SummaryPacker.unMarshalling_refuses bytes _ _ many inRange _))

/-! ### Drag data that do not survive -/

/-- Pixel maps that are their own encoding. -/
def plainPixelMaps : PixelMaps (List UInt8) where
  encodeTlv := some
  decodeTlv := some
  marshalling p := some [.uint8Vector p]
  unmarshalling
    | .uint8Vector p :: rest => some (p, rest)
    | _ => none
  decodeTlv_encodeTlv h := by cases h; rfl
  unmarshalling_marshalling rest h := by cases h; rfl

def byteSize : Item → ℕ
  | .bool _ | .int32 _ => 4
  | .int64 _ => 8
  | .string value => 4 + (value.length + 4) / 4 * 4
  | .uint8Vector value => 4 + 4 * value.length

def plainBytes : ReadableBytes where
  getReadableBytes items := (items.map byteSize).sum
  length_le items := by
    induction items with
    | nil => exact Nat.le_refl 0
    | cons item items ih =>
      have one : 1 ≤ byteSize item := by cases item <;> simp only [byteSize] <;> omega
      simp only [List.length_cons, List.map_cons, List.sum_cons]
      omega

def fourShadows : DragData (List UInt8) :=
  { shadowInfos := List.replicate 4 { pixelMap := some [1] }, dragNum := 1 }

def manySummarys : SummaryMap :=
  .ofList ((List.range 1025).map fun i => ([UInt8.ofNat (i / 256), UInt8.ofNat i], (1 : Int64)))

def manySummarysData : DragData (List UInt8) :=
  { shadowInfos := [{ pixelMap := some [1] }], dragNum := 1, summarys := manySummarys }

theorem size_manySummarys : manySummarys.size = 1025 := by
  have distinct : ((List.range 1025).map fun i =>
      ([UInt8.ofNat (i / 256), UInt8.ofNat i], (1 : Int64))).Pairwise
        fun a b => ¬ compare a.1 b.1 = .eq := by
    rw [List.pairwise_map]
    refine List.pairwise_lt_range.imp_of_mem fun {i j} hi hj lt same => ?_
    simp only [List.mem_range] at hi hj
    rw [Std.LawfulEqCmp.compare_eq_iff_eq] at same
    simp only [List.cons.injEq, ← UInt8.toNat_inj, UInt8.toNat_ofNat'] at same
    omega
  rw [manySummarys, ExtTreeMap.size_ofList distinct, List.length_map, List.length_range]

theorem fourShadows_received :
    ∃ items, marshalling plainPixelMaps false fourShadows = .ok items ∧
      unMarshalling plainPixelMaps plainBytes false {} (items ++ []) =
        .ok (received false fourShadows, []) :=
  ⟨_, rfl, unMarshalling_marshalling plainPixelMaps plainBytes rfl (by decide)
    (by decide +kernel) []⟩

/-- One shadow of four is lost, and 1025 summaries are refused. -/
theorem notAll_survive :
    ((marshalling plainPixelMaps false fourShadows).bind fun items =>
        (unMarshalling plainPixelMaps plainBytes false {} items).map (·.1.shadowInfos.length)) =
      .ok 3 ∧ fourShadows.shadowInfos.length = 4 ∧
    ((marshalling plainPixelMaps false manySummarysData).bind
        (unMarshalling plainPixelMaps plainBytes false {})) = .error .retErr := by
  refine ⟨by decide +kernel, rfl, ?_⟩
  have marshalled : ∃ items, marshalling plainPixelMaps false manySummarysData = .ok items :=
    ⟨_, rfl⟩
  obtain ⟨items, marshalled⟩ := marshalled
  have refused := unMarshalling_refuses plainPixelMaps plainBytes marshalled (by decide)
    (by rw [manySummarysData, size_manySummarys]; decide)
    (by rw [manySummarysData, size_manySummarys]; decide) []
  rw [marshalled]
  rwa [List.append_nil] at refused

end DragDataPacker

end DeviceStatus.Drag
