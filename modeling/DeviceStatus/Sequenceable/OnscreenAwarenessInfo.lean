import DeviceStatus.Sequenceable.OnscreenParcel

/-!
# On-screen awareness in a parcel

`SequenceableOnscreenAwarenessInfo` holds entities, each a name and a map of values. Neither its
writer nor its reader looks at what comes of a map. Together with the maps, it says what survives a
parcel and what else is accepted.

## Main definitions

* `OnscreenAwarenessInfo` — the information, with `marshalling` and `readFromParcel`.
* `Nested`, `Entities` — the items that are taken for a map, and for entities.
* `InfoMisread` — contents that are taken though something is missing in a map.
-/

namespace DeviceStatus.Sequenceable.OnScreen

open OrderedStore Entries ParcelItem SequenceableUtil
open Std (ExtTreeMap)

variable {Flt PixelMap : Type}

structure OnscreenEntityInfo (PixelMap : Type) where
  entityName : StdString
  entityInfo : EntityInfo PixelMap

/-- The information without its page tags, which are not in the parcel. -/
structure OnscreenAwarenessInfo (PixelMap : Type) where
  resultCode : Int32
  timestamp : Int64
  bundleName : StdString
  appID : StdString
  appIndex : Int32
  pageId : StdString
  sampleId : StdString
  collectStrategy : Int32
  displayId : Int64
  windowId : Int32
  entityInfo : List (OnscreenEntityInfo PixelMap) := []

namespace OnscreenAwarenessInfo

/-! ### The writer -/

section Writer

variable (room : Room (ParcelItem Flt PixelMap))

/-- The fields in front of the entities. -/
def writeHeader (info : OnscreenAwarenessInfo PixelMap) : Writer (ParcelItem Flt PixelMap) :=
  (write room int32Kind info.resultCode).andThen <|
    (write room int64Kind info.timestamp).andThen <|
      (write room stringKind info.bundleName).andThen <|
        (write room stringKind info.appID).andThen <|
          (write room int32Kind info.appIndex).andThen <|
            (write room stringKind info.pageId).andThen <|
              (write room stringKind info.sampleId).andThen <|
                (write room int32Kind info.collectStrategy).andThen <|
                  (write room int64Kind info.displayId).andThen <|
                    write room int32Kind info.windowId

/-- The turn of the loop for one entity. -/
def writeEntity (entityItem : OnscreenEntityInfo PixelMap) : Writer (ParcelItem Flt PixelMap) :=
  (write room stringKind entityItem.entityName).andThen
    (SequenceableUtil.marshalling room entityItem.entityInfo).ignored

def marshalling (info : OnscreenAwarenessInfo PixelMap) : Writer (ParcelItem Flt PixelMap) :=
  (info.writeHeader room).andThen <|
    (write room int32Kind (Int32.ofNat info.entityInfo.length)).andThen <|
      .each (writeEntity room) info.entityInfo

end Writer

/-! ### The reader -/

def readHeader : Reader (ParcelItem Flt PixelMap) (Option (OnscreenAwarenessInfo PixelMap)) :=
  (read int32Kind).orReturn none fun resultCode =>
    (read int64Kind).orReturn none fun timestamp =>
      (read stringKind).orReturn none fun bundleName =>
        (read stringKind).orReturn none fun appID =>
          (read int32Kind).orReturn none fun appIndex =>
            (read stringKind).orReturn none fun pageId =>
              (read stringKind).orReturn none fun sampleId =>
                (read int32Kind).orReturn none fun collectStrategy =>
                  (read int64Kind).orReturn none fun displayId =>
                    (read int32Kind).mapSome fun windowId =>
                      { resultCode, timestamp, bundleName, appID, appIndex, pageId, sampleId,
                        collectStrategy, displayId, windowId }

/-- The loop over the entities, of which `count` turns are left, with the type indices that have
been read. -/
def readEntities : ℕ → List (OnscreenEntityInfo PixelMap) → List Int32 →
    Reader (ParcelItem Flt PixelMap) (Option (List (OnscreenEntityInfo PixelMap) × List Int32))
  | 0, entityInfo, typeIndices => .returning (some (entityInfo, typeIndices))
  | count + 1, entityInfo, typeIndices =>
    (read stringKind).orReturn none fun entityName =>
      (unmarshalling { typeIndices }).andThen fun read =>
        readEntities count (entityInfo ++ [{ entityName, entityInfo := read.2.entityInfo }])
          read.2.typeIndices

def readFromParcel :
    Reader (ParcelItem Flt PixelMap) (Option (OnscreenAwarenessInfo PixelMap × List Int32)) :=
  readHeader.orReturn none fun info =>
    (read int32Kind).orReturn none fun size =>
      (readEntities size.toInt.toNat [] []).mapSome fun read =>
        ({ info with entityInfo := read.1 }, read.2)

/-! ### The items of the information -/

def entryItems (entry : StdString × ValueObj PixelMap) : List (ParcelItem Flt PixelMap) :=
  [.string entry.1, .int32 entry.2.index] ++ entry.2.items

def mapItems (entityInfo : EntityInfo PixelMap) : List (ParcelItem Flt PixelMap) :=
  [.int32 (Int32.ofNat entityInfo.size)] ++ entityInfo.toList.flatMap entryItems

def entityItems (entity : OnscreenEntityInfo PixelMap) : List (ParcelItem Flt PixelMap) :=
  [.string entity.entityName] ++ mapItems entity.entityInfo

def headerItems (info : OnscreenAwarenessInfo PixelMap) : List (ParcelItem Flt PixelMap) :=
  [.int32 info.resultCode, .int64 info.timestamp, .string info.bundleName, .string info.appID,
    .int32 info.appIndex, .string info.pageId, .string info.sampleId,
    .int32 info.collectStrategy, .int64 info.displayId, .int32 info.windowId]

def items (info : OnscreenAwarenessInfo PixelMap) : List (ParcelItem Flt PixelMap) :=
  info.headerItems ++
    ([.int32 (Int32.ofNat info.entityInfo.length)] ++ info.entityInfo.flatMap entityItems)

theorem stores_marshalling (room : Room (ParcelItem Flt PixelMap))
    (info : OnscreenAwarenessInfo PixelMap) : Stores room (info.marshalling room) info.items := by
  have entry (entry : StdString × ValueObj PixelMap) :
      Stores room (writeEntry room entry) (entryItems entry) := by
    rw [writeEntry, writeValueObj_ignored, Writer.andThen_assoc, write_eq, write_eq,
      append_andThen]
    exact (stores_append _).andThen (stores_append _).ignored
  have entity (entity : OnscreenEntityInfo PixelMap) :
      Stores room (writeEntity room entity) (entityItems entity) :=
    (stores_append _).andThen (Stores.andThen (stores_append _) (.each entry _)).ignored
  have header : info.writeHeader room = append room info.headerItems := by
    simp only [writeHeader, write_eq, append_andThen]
    rfl
  rw [marshalling, header]
  exact (stores_append _).andThen ((stores_append _).andThen (.each entity _))

/-! ### The grammar -/

/-- `Nested sound items rest`: the reading of a map goes from the items to the rest; `sound` if it
returns true and nothing is missing. -/
inductive Nested : Bool → List (ParcelItem Flt PixelMap) → List (ParcelItem Flt PixelMap) → Prop
  | countless {rest : List (ParcelItem Flt PixelMap)} (missing : Missing int32Kind rest) :
      Nested false rest rest
  | entries {size : Int32} {sound : Bool} {entries : List (StdString × ValueObj PixelMap)}
      {items rest : List (ParcelItem Flt PixelMap)} (accepted : Accepted sound entries items rest)
      (enough : entries.length = size.toInt.toNat) : Nested sound (.int32 size :: items) rest
  | stuck {size : Int32} {sound : Bool} {entries : List (StdString × ValueObj PixelMap)}
      {items rest rest' : List (ParcelItem Flt PixelMap)}
      (accepted : Accepted sound entries items rest) (few : entries.length < size.toInt.toNat)
      (stuck : Stuck rest rest') : Nested false (.int32 size :: items) rest'

/-- `Entities sound count items`: the items begin with so many entities. -/
inductive Entities : Bool → ℕ → List (ParcelItem Flt PixelMap) → Prop
  | done (items : List (ParcelItem Flt PixelMap)) : Entities true 0 items
  | entity (entityName : StdString) {sound sound' : Bool} {count : ℕ}
      {items rest : List (ParcelItem Flt PixelMap)} (nested : Nested sound items rest)
      (more : Entities sound' count rest) :
      Entities (sound && sound') (count + 1) (.string entityName :: items)

/-- The fields and as many entities as the size says are there, and something is missing in a map or
a type index of it is not known. -/
def InfoMisread (items : List (ParcelItem Flt PixelMap)) : Prop :=
  ∃ (info : OnscreenAwarenessInfo PixelMap) (size : Int32) (rest : List (ParcelItem Flt PixelMap)),
    items = info.headerItems ++ .int32 size :: rest ∧ Entities false size.toInt.toNat rest

theorem nested_total (items : List (ParcelItem Flt PixelMap)) :
    ∃ sound rest, Nested sound items rest := by
  obtain missing | ⟨size, items, rfl⟩ := missing_or int32Kind items
  · exact ⟨false, items, .countless missing⟩
  obtain ⟨sound, entries, rest, accepted, enough | ⟨few, rest', stuck⟩⟩ :=
    accepted_or_stuck size.toInt.toNat items
  · exact ⟨sound, rest, .entries accepted enough⟩
  · exact ⟨false, rest', .stuck accepted few stuck⟩

theorem unmarshalling_nested {sound : Bool} {items rest : List (ParcelItem Flt PixelMap)}
    (nested : Nested sound items rest) (typeIndices : List Int32) (failed : Bool) :
    ∃ ok entityInfo typeIndices' failed',
      unmarshalling ({ typeIndices } : Unmarshalled PixelMap) { items, failed } =
        ((ok, ⟨entityInfo, typeIndices ++ typeIndices'⟩), { items := rest, failed := failed' }) ∧
      Traced sound typeIndices' failed failed' := by
  cases nested with
  | countless missing =>
    refine ⟨false, ∅, [], true, ?_, .inl rfl⟩
    rw [List.append_nil]
    exact Reader.orReturn_none (read_missing missing failed)
  | entries accepted enough =>
    obtain ⟨typeIndices', failed', read, traced⟩ :=
      readEntries_accepted accepted 0 { typeIndices } failed
    rw [Nat.add_zero, enough] at read
    exact ⟨true, _, typeIndices', failed', (unmarshalling_cons _ _ _ _).trans read, traced⟩
  | stuck accepted few stuck =>
    obtain ⟨typeIndices', read⟩ := readEntries_few accepted few stuck { typeIndices } failed
    exact ⟨false, _, typeIndices', true, (unmarshalling_cons _ _ _ _).trans read, .inl rfl⟩

theorem readEntities_entities {sound : Bool} {count : ℕ} {items : List (ParcelItem Flt PixelMap)}
    (taken : Entities sound count items) (entityInfo : List (OnscreenEntityInfo PixelMap))
    (typeIndices : List Int32) (failed : Bool) :
    ∃ entityInfo' typeIndices' rest failed',
      readEntities count entityInfo typeIndices { items, failed } =
        (some (entityInfo', typeIndices ++ typeIndices'), { items := rest, failed := failed' }) ∧
      Traced sound typeIndices' failed failed' := by
  induction taken generalizing entityInfo typeIndices failed with
  | done items =>
    refine ⟨entityInfo, [], items, failed, ?_, rfl, by simp⟩
    rw [List.append_nil]
    rfl
  | @entity entityName _ _ count items rest nested more ih =>
    obtain ⟨ok, map, typeIndices', failed', read, traced⟩ :=
      unmarshalling_nested nested typeIndices failed
    obtain ⟨entityInfo', typeIndices'', rest', failed'', reads, traces⟩ :=
      ih (entityInfo ++ [{ entityName, entityInfo := map }]) (typeIndices ++ typeIndices') failed'
    refine ⟨entityInfo', typeIndices' ++ typeIndices'', rest', failed'', ?_,
      traced_append traced traces⟩
    refine (Reader.orReturn_some (read_cons stringKind entityName items failed)).trans ?_
    rw [Reader.andThen, read, reads, List.append_assoc]

/-- Entities are read unless a name is missing. -/
theorem entities_of_readEntities {count : ℕ} {entityInfo : List (OnscreenEntityInfo PixelMap)}
    {typeIndices : List Int32} {items : List (ParcelItem Flt PixelMap)} {failed : Bool}
    {read : List (OnscreenEntityInfo PixelMap) × List Int32}
    (reads : (readEntities count entityInfo typeIndices { items, failed }).1 = some read) :
    ∃ sound, Entities sound count items := by
  induction count generalizing entityInfo typeIndices items failed with
  | zero => exact ⟨true, .done items⟩
  | succ count ih =>
    rw [readEntities] at reads
    obtain missing | ⟨entityName, items, rfl⟩ := missing_or stringKind items
    · rw [Reader.orReturn_none (read_missing missing failed)] at reads
      cases reads
    rw [Reader.orReturn_some (read_cons stringKind entityName items failed)] at reads
    obtain ⟨sound, rest, nested⟩ := nested_total items
    obtain ⟨ok, map, typeIndices', failed', again, -⟩ :=
      unmarshalling_nested nested typeIndices failed
    rw [Reader.andThen, again] at reads
    obtain ⟨sound', more⟩ := ih reads
    exact ⟨sound && sound', .entity entityName nested more⟩

/-! ### Contents -/

theorem reads_readHeader (info : OnscreenAwarenessInfo PixelMap) :
    Reads (readHeader : Reader (ParcelItem Flt PixelMap) _) info.headerItems
      (some { info with entityInfo := [] }) := by
  refine (reads_read int32Kind info.resultCode).orReturn ?_ none
  refine (reads_read int64Kind info.timestamp).orReturn ?_ none
  refine (reads_read stringKind info.bundleName).orReturn ?_ none
  refine (reads_read stringKind info.appID).orReturn ?_ none
  refine (reads_read int32Kind info.appIndex).orReturn ?_ none
  refine (reads_read stringKind info.pageId).orReturn ?_ none
  refine (reads_read stringKind info.sampleId).orReturn ?_ none
  refine (reads_read int32Kind info.collectStrategy).orReturn ?_ none
  refine (reads_read int64Kind info.displayId).orReturn ?_ none
  exact (reads_read int32Kind info.windowId).mapSome _

theorem header_of_readHeader {items : List (ParcelItem Flt PixelMap)} {failed : Bool}
    {info : OnscreenAwarenessInfo PixelMap} (ok : (readHeader { items, failed }).1 = some info) :
    ∃ rest, items = info.headerItems ++ rest := by
  obtain ⟨resultCode, rest₁, rfl, read₁⟩ := Reader.of_orReturn_read ok
  obtain ⟨timestamp, rest₂, rfl, read₂⟩ := Reader.of_orReturn_read read₁
  obtain ⟨bundleName, rest₃, rfl, read₃⟩ := Reader.of_orReturn_read read₂
  obtain ⟨appID, rest₄, rfl, read₄⟩ := Reader.of_orReturn_read read₃
  obtain ⟨appIndex, rest₅, rfl, read₅⟩ := Reader.of_orReturn_read read₄
  obtain ⟨pageId, rest₆, rfl, read₆⟩ := Reader.of_orReturn_read read₅
  obtain ⟨sampleId, rest₇, rfl, read₇⟩ := Reader.of_orReturn_read read₆
  obtain ⟨collectStrategy, rest₈, rfl, read₈⟩ := Reader.of_orReturn_read read₇
  obtain ⟨displayId, rest₉, rfl, read₉⟩ := Reader.of_orReturn_read read₈
  obtain ⟨windowId, rest₁₀, rfl, read₁₀⟩ := Reader.of_orReturn_read read₉
  cases read₁₀
  exact ⟨rest₁₀, rfl⟩

/-- If the reading returns true, then no read of it has failed and it knew every type index. -/
def InfoAllRead (items : List (ParcelItem Flt PixelMap)) : Prop :=
  let reading : Option (OnscreenAwarenessInfo PixelMap × List Int32) × _ :=
    readFromParcel { items }
  ∀ read, reading.1 = some read →
    reading.2.failed = false ∧ ∀ typeIndex ∈ read.2, typeIndex ∈ knownIndices

theorem readFromParcel_eq (info : OnscreenAwarenessInfo PixelMap) (size : Int32)
    (rest : List (ParcelItem Flt PixelMap)) :
    readFromParcel { items := info.headerItems ++ .int32 size :: rest } =
      (readEntities size.toInt.toNat [] []).mapSome
        (fun read => ({ info with entityInfo := read.1 }, read.2)) { items := rest } := by
  refine (Reader.orReturn_some (info.reads_readHeader _ false)).trans ?_
  exact Reader.orReturn_some (read_cons int32Kind size rest false)

theorem infoAllRead_iff (items : List (ParcelItem Flt PixelMap)) :
    InfoAllRead items ↔ ¬ InfoMisread items := by
  constructor
  · rintro allRead ⟨info, size, rest, rfl, taken⟩
    obtain ⟨entityInfo, typeIndices, rest', failed', read, traced⟩ :=
      readEntities_entities taken [] [] false
    have reads := (info.readFromParcel_eq size rest).trans (Reader.orReturn_some read)
    obtain ⟨fine, known⟩ := allRead _ (congrArg Prod.fst reads)
    rw [reads] at fine
    obtain failed | ⟨typeIndex, mem, unknown⟩ := traced
    · exact Bool.noConfusion (failed.symm.trans fine)
    · exact unknown (known typeIndex mem)
  · intro fine received ok
    obtain ⟨info, c, header, body⟩ := Reader.of_orReturn ok
    obtain ⟨rest, rfl⟩ := header_of_readHeader (congrArg Prod.fst header)
    obtain ⟨-, rfl⟩ := Prod.mk.inj (header.symm.trans (info.reads_readHeader rest false))
    obtain ⟨size, rest, rfl, loop⟩ := Reader.of_orReturn_read body
    obtain ⟨read, c, reads, -⟩ := Reader.of_orReturn loop
    obtain ⟨sound, taken⟩ := entities_of_readEntities (congrArg Prod.fst reads)
    cases sound with
    | false => exact absurd ⟨info, size, rest, rfl, taken⟩ fine
    | true =>
      obtain ⟨entityInfo, typeIndices, rest', failed', again, same, known⟩ :=
        readEntities_entities taken [] [] false
      have all := (info.readFromParcel_eq size rest).trans (Reader.orReturn_some again)
      cases (congrArg Prod.fst all).symm.trans ok
      exact ⟨(congrArg (fun read => read.2.failed) all).trans same, known⟩

/-! ### Information that survives -/

/-- The reading gives the information. -/
def InfoReadsBack (info : OnscreenAwarenessInfo PixelMap)
    (items : List (ParcelItem Flt PixelMap)) : Prop :=
  (readFromParcel { items }).1.map Prod.fst = some info

/-- The numbers of entities, of entries and of image IDs are in the range of `int32_t`. -/
structure Fits (info : OnscreenAwarenessInfo PixelMap) : Prop where
  entities : info.entityInfo.length < 2 ^ 31
  entries : ∀ entity ∈ info.entityInfo, entity.entityInfo.size < 2 ^ 31
  imageIds : ∀ entity ∈ info.entityInfo, ∀ entry ∈ entity.entityInfo.toList,
    ∀ imageIdArr, entry.2 = .imageIdArray imageIdArr → imageIdArr.length < 2 ^ 31

theorem complete_items {obj : ValueObj PixelMap}
    (fits : ∀ imageIdArr, obj = .imageIdArray imageIdArr → imageIdArr.length < 2 ^ 31) :
    obj.Complete (obj.items : List (ParcelItem Flt PixelMap)) := by
  cases obj with
  | imageIdArray arg => exact ⟨_, toNat_ofNat (fits arg rfl), rfl⟩
  | _ => rfl

theorem accepted_items {entries : List (StdString × ValueObj PixelMap)}
    (complete : ∀ entry ∈ entries,
      entry.2.Complete (entry.2.items : List (ParcelItem Flt PixelMap)))
    (rest : List (ParcelItem Flt PixelMap)) :
    Accepted true entries (entries.flatMap entryItems ++ rest) rest := by
  induction entries with
  | nil => exact .done rest
  | cons entry entries ih =>
    obtain ⟨here, later⟩ := List.forall_mem_cons.mp complete
    rw [List.flatMap_cons, List.append_assoc, entryItems, List.append_assoc]
    exact .entry (.complete here _) (ih later)

theorem unmarshalling_mapItems {entityInfo : EntityInfo PixelMap} (fits : entityInfo.size < 2 ^ 31)
    (complete : ∀ entry ∈ entityInfo.toList,
      entry.2.Complete (entry.2.items : List (ParcelItem Flt PixelMap)))
    (rest : List (ParcelItem Flt PixelMap)) (typeIndices : List Int32) (failed : Bool) :
    ∃ typeIndices', unmarshalling ({ typeIndices } : Unmarshalled PixelMap)
        { items := mapItems entityInfo ++ rest, failed } =
      ((true, ⟨entityInfo, typeIndices'⟩), { items := rest, failed }) := by
  obtain ⟨typeIndices', failed', read, rfl, -⟩ :=
    readEntries_accepted (accepted_items complete rest) 0 { typeIndices } failed
  rw [Nat.add_zero, ExtTreeMap.length_toList, insertAll_toList] at read
  refine ⟨typeIndices ++ typeIndices', ?_⟩
  have start := unmarshalling_cons { typeIndices } (Int32.ofNat entityInfo.size)
    (entityInfo.toList.flatMap entryItems ++ rest) failed'
  rw [toNat_ofNat fits] at start
  exact start.trans read

theorem readEntities_items {entities : List (OnscreenEntityInfo PixelMap)}
    (fits : ∀ entity ∈ entities, entity.entityInfo.size < 2 ^ 31)
    (complete : ∀ entity ∈ entities, ∀ entry ∈ entity.entityInfo.toList,
      entry.2.Complete (entry.2.items : List (ParcelItem Flt PixelMap)))
    (entityInfo : List (OnscreenEntityInfo PixelMap)) (typeIndices : List Int32)
    (rest : List (ParcelItem Flt PixelMap)) (failed : Bool) :
    ∃ typeIndices', readEntities entities.length entityInfo typeIndices
        { items := entities.flatMap entityItems ++ rest, failed } =
      (some (entityInfo ++ entities, typeIndices'), { items := rest, failed }) := by
  induction entities generalizing entityInfo typeIndices with
  | nil =>
    refine ⟨typeIndices, ?_⟩
    rw [List.append_nil]
    rfl
  | cons entity entities ih =>
    obtain ⟨fits, fits'⟩ := List.forall_mem_cons.mp fits
    obtain ⟨complete, complete'⟩ := List.forall_mem_cons.mp complete
    obtain ⟨typeIndices', read⟩ := unmarshalling_mapItems fits complete
      (entities.flatMap entityItems ++ rest) typeIndices failed
    obtain ⟨typeIndices'', reads⟩ := ih fits' complete' (entityInfo ++ [entity]) typeIndices'
    refine ⟨typeIndices'', ?_⟩
    rw [List.flatMap_cons, List.append_assoc, entityItems, List.append_assoc]
    have name := read_cons stringKind entity.entityName
      (mapItems entity.entityInfo ++ (entities.flatMap entityItems ++ rest)) failed
    refine (Reader.orReturn_some name).trans ?_
    rw [List.append_assoc] at reads
    rw [Reader.andThen, read]
    exact reads

theorem info_reads_back {info : OnscreenAwarenessInfo PixelMap} (fits : info.Fits) :
    InfoReadsBack info (info.items : List (ParcelItem Flt PixelMap)) := by
  have complete : ∀ entity ∈ info.entityInfo, ∀ entry ∈ entity.entityInfo.toList,
      entry.2.Complete (entry.2.items : List (ParcelItem Flt PixelMap)) := by
    intro entity mem entry mem'
    exact complete_items (fits.imageIds entity mem entry mem')
  obtain ⟨typeIndices, read⟩ := readEntities_items fits.entries complete [] [] [] false
  have start := info.readFromParcel_eq (Int32.ofNat info.entityInfo.length)
    (info.entityInfo.flatMap entityItems : List (ParcelItem Flt PixelMap))
  rw [toNat_ofNat fits.entities] at start
  rw [List.append_nil] at read
  have all := start.trans (Reader.orReturn_some read)
  exact congrArg (fun read => read.1.map Prod.fst) all

end OnscreenAwarenessInfo

/-! ### What survives, and what is accepted -/

/-- A map survives exactly if the losses of its values are harmless, and a content is accepted
without a failure exactly if it is not misread. Information survives if all of it finds room, and a
content is accepted for it without a failure exactly if it is not misread. -/
theorem onscreen_awareness_iff (room : Room (ParcelItem Flt PixelMap)) :
    (∀ (entityInfo : EntityInfo PixelMap) (items : List (ParcelItem Flt PixelMap)),
      marshalling room entityInfo [] = (true, items) →
        (ReadsBack entityInfo items ↔ entityInfo.size < 2 ^ 31 ∧
          Unharmed room entityInfo.toList [.int32 (Int32.ofNat entityInfo.size)])) ∧
    (∀ items : List (ParcelItem Flt PixelMap), AllRead items ↔ ¬ Misread items) ∧
    (∀ (info : OnscreenAwarenessInfo PixelMap) (items : List (ParcelItem Flt PixelMap)),
      info.marshalling room [] = (true, items) → info.Fits →
        kept room info.items [] = info.items → info.InfoReadsBack items) ∧
    ∀ items : List (ParcelItem Flt PixelMap),
      OnscreenAwarenessInfo.InfoAllRead items ↔ ¬ OnscreenAwarenessInfo.InfoMisread items := by
  refine ⟨fun entityInfo items succeeds => readsBack_iff succeeds, allRead_iff,
    fun info items succeeds fits all => ?_, OnscreenAwarenessInfo.infoAllRead_iff⟩
  have stored := info.stores_marshalling room [] all
  rw [succeeds] at stored
  obtain ⟨-, rfl⟩ := Prod.mk.inj stored
  exact OnscreenAwarenessInfo.info_reads_back fits

def oneBool : EntityInfo Unit :=
  ExtTreeMap.ofList [(([107] : StdString), ValueObj.bool true)]

/-- A flag, a text and two names. -/
def threeValues : EntityInfo Unit :=
  ExtTreeMap.ofList [(([107] : StdString), ValueObj.bool true), ([108], .string [116, 120]),
    ([109], .stringArray [[97], [98, 99]])]

theorem threeValues_survive : ReadsBack threeValues
    (marshalling (fun _ (_ : ParcelItem Unit Unit) => true) threeValues []).2 := by
  have iff := (onscreen_awareness_iff fun _ (_ : ParcelItem Unit Unit) => true).1 threeValues
    _ (Prod.ext (by decide +kernel) rfl)
  exact iff.mpr ⟨by decide, .inl rfl, .inl rfl, .inl rfl, trivial⟩

/-- A value that finds no room is missed by the reader, and a type index that is not known is taken
for a value. -/
theorem onscreen_awareness_not_checked :
    (¬ ∀ (room : Room (ParcelItem Unit Unit)) (entityInfo : EntityInfo Unit)
      (items : List (ParcelItem Unit Unit)), marshalling room entityInfo [] = (true, items) →
        ReadsBack entityInfo items) ∧
    ¬ ∀ items : List (ParcelItem Unit Unit), AllRead items := by
  constructor
  · intro h
    have read := h (fun _ item => item ≠ .bool true) oneBool
      [.int32 1, .string [107], .int32 0] (by decide)
    exact absurd read.1 (by decide)
  · intro h
    have read := h [.int32 1, .string [107], .int32 9] (by decide)
    exact absurd (read.2 9 (by decide)) (by decide)

end DeviceStatus.Sequenceable.OnScreen
