import DeviceStatus.Sequenceable.SequenceableUtil

/-!
# What the reader of on-screen values takes

A grammar of the contents that the reader takes for entries, with a mark for those in which nothing
is missing and every type index is known.

## Main definitions

* `Value`, `Accepted` — the items that are taken for a value, and for entries.
* `Misread` — contents that are taken though something is missing in them.
-/

namespace DeviceStatus.Sequenceable.OnScreen

open OrderedStore Entries ParcelItem

variable {Flt PixelMap : Type}

def imageIdItems (imageId : AwarenessInfoImageId) : List (ParcelItem Flt PixelMap) :=
  [.string imageId.compId, .string imageId.arkDataId]

namespace ValueObj

/-- The items of a value. -/
def items : ValueObj PixelMap → List (ParcelItem Flt PixelMap)
  | bool arg => [.bool arg]
  | int32 arg => [.int32 arg]
  | int64 arg => [.int64 arg]
  | string arg => [.string arg]
  | pageLink arg => [.string arg.httpLink, .string arg.deepLink]
  | pixelMap arg => [.pixelMap arg]
  | stringArray arg => [.stringVector arg]
  | imageIdArray arg => .int32 (Int32.ofNat arg.length) :: arg.flatMap imageIdItems

/-- The items make the value; a count below zero is one of no image ID. -/
def Complete : ValueObj PixelMap → List (ParcelItem Flt PixelMap) → Prop
  | imageIdArray arg, items =>
    ∃ count : Int32, count.toInt.toNat = arg.length ∧
      items = .int32 count :: arg.flatMap imageIdItems
  | obj, items => items = obj.items

end ValueObj

def knownIndices : List Int32 :=
  [BOOL_INDEX, INT32_INDEX, INT64_INDEX, STRING_INDEX, PAGE_LINK_INDEX, PIXEL_MAP_INDEX,
    STRING_ARRAY_INDEX, IMAGEID_ARRAY_INDEX]

theorem ValueObj.index_known (obj : ValueObj PixelMap) : obj.index ∈ knownIndices := by
  cases obj <;> simp [index, knownIndices]

/-! ### The grammar -/

/-- `Value sound typeIndex obj items rest`: with a type index, the reader takes the items up to the
rest for the value. -/
inductive Value : Bool → Int32 → ValueObj PixelMap → List (ParcelItem Flt PixelMap) →
    List (ParcelItem Flt PixelMap) → Prop
  | complete {obj : ValueObj PixelMap} {items : List (ParcelItem Flt PixelMap)}
      (complete : obj.Complete items) (rest : List (ParcelItem Flt PixelMap)) :
      Value true obj.index obj (items ++ rest) rest
  /-- Nothing is read for an index that is not known. -/
  | unknown {typeIndex : Int32} (unknown : typeIndex ∉ knownIndices)
      (rest : List (ParcelItem Flt PixelMap)) :
      Value false typeIndex (.bool false) rest rest
  /-- The count of an array is missing. -/
  | countless {rest : List (ParcelItem Flt PixelMap)} (missing : Missing int32Kind rest) :
      Value false IMAGEID_ARRAY_INDEX (.imageIdArray []) rest rest
  /-- One of the links is missing, or both. -/
  | pageLink (httpLink : Option StdString) {rest : List (ParcelItem Flt PixelMap)}
      (missing : Missing stringKind rest) :
      Value false PAGE_LINK_INDEX (.pageLink { httpLink := httpLink.getD [] })
        (httpLink.toList.map .string ++ rest) rest
  /-- There are fewer image IDs than the count says, and perhaps one half. -/
  | imageIds {count : Int32} {ids : List AwarenessInfoImageId}
      (few : ids.length < count.toInt.toNat) (compId : Option StdString)
      {rest : List (ParcelItem Flt PixelMap)} (missing : Missing stringKind rest) :
      Value false IMAGEID_ARRAY_INDEX (.imageIdArray ids)
        (.int32 count :: (ids.flatMap imageIdItems ++ (compId.toList.map .string ++ rest))) rest

/-- `Accepted sound entries items rest`: the reader takes the items up to the rest for the entries.
If there are strings missing in a value, then it is that of the last entry: the rest of it does not
begin with a string. -/
inductive Accepted : Bool → List (StdString × ValueObj PixelMap) → List (ParcelItem Flt PixelMap) →
    List (ParcelItem Flt PixelMap) → Prop
  | done (rest : List (ParcelItem Flt PixelMap)) : Accepted true [] rest rest
  | entry {key : StdString} {typeIndex : Int32} {obj : ValueObj PixelMap}
      {items rest rest' : List (ParcelItem Flt PixelMap)} {sound sound' : Bool}
      {entries : List (StdString × ValueObj PixelMap)}
      (value : Value sound typeIndex obj items rest)
      (more : Accepted sound' entries rest rest') :
      Accepted (sound && sound') ((key, obj) :: entries)
        (.string key :: .int32 typeIndex :: items) rest'

/-- Nothing is taken for a value. -/
def Refused (typeIndex : Int32) (items : List (ParcelItem Flt PixelMap)) : Prop :=
  (typeIndex = BOOL_INDEX ∧ Missing boolKind items) ∨
    (typeIndex = INT32_INDEX ∧ Missing int32Kind items) ∨
    (typeIndex = INT64_INDEX ∧ Missing int64Kind items) ∨
    (typeIndex = STRING_INDEX ∧ Missing stringKind items) ∨
    (typeIndex = PIXEL_MAP_INDEX ∧ Missing pixelMapKind items) ∨
    (typeIndex = STRING_ARRAY_INDEX ∧ Missing stringVectorKind items)

/-- The reader goes as far as the rest in an entry, and no further. -/
inductive Stuck : List (ParcelItem Flt PixelMap) → List (ParcelItem Flt PixelMap) → Prop
  | key {rest : List (ParcelItem Flt PixelMap)} (missing : Missing stringKind rest) :
      Stuck rest rest
  | typeIndex {rest : List (ParcelItem Flt PixelMap)} (key : StdString)
      (missing : Missing int32Kind rest) : Stuck (.string key :: rest) rest
  | value {rest : List (ParcelItem Flt PixelMap)} (key : StdString) {typeIndex : Int32}
      (refused : Refused typeIndex rest) : Stuck (.string key :: .int32 typeIndex :: rest) rest

/-- Entries are taken, as many as the size says, and in one of them something is missing or the type
index is not known. -/
def Misread (items : List (ParcelItem Flt PixelMap)) : Prop :=
  ∃ (size : Int32) (entries : List (StdString × ValueObj PixelMap))
    (rest rest' : List (ParcelItem Flt PixelMap)),
    items = .int32 size :: rest ∧ entries.length = size.toInt.toNat ∧
      Accepted false entries rest rest'

/-! ### The grammar covers all contents -/

/-- A value of one item. -/
theorem value_single (obj : ValueObj PixelMap) {item : ParcelItem Flt PixelMap}
    (complete : obj.Complete [item]) (rest : List (ParcelItem Flt PixelMap)) :
    ∃ sound obj' rest', Value sound obj.index obj' (item :: rest) rest' :=
  ⟨true, obj, rest, .complete complete rest⟩

theorem value_pageLink (items : List (ParcelItem Flt PixelMap)) :
    ∃ sound obj rest, Value sound PAGE_LINK_INDEX obj items rest := by
  obtain missing | ⟨httpLink, items, rfl⟩ := missing_or stringKind items
  · exact ⟨false, _, items, .pageLink none missing⟩
  obtain missing | ⟨deepLink, items, rfl⟩ := missing_or stringKind items
  · exact ⟨false, _, items, .pageLink (some httpLink) missing⟩
  have complete : (ValueObj.pageLink { httpLink, deepLink } : ValueObj PixelMap).Complete
      ([.string httpLink, .string deepLink] : List (ParcelItem Flt PixelMap)) := rfl
  exact ⟨true, _, items, .complete complete items⟩

/-- As many image IDs as are asked for, or as many as there are. -/
theorem imageIds_or_few (count : ℕ) (items : List (ParcelItem Flt PixelMap)) :
    ∃ ids : List AwarenessInfoImageId,
      (ids.length = count ∧ ∃ rest, items = ids.flatMap imageIdItems ++ rest) ∨
        ids.length < count ∧ ∃ (compId : Option StdString) (rest : _), Missing stringKind rest ∧
          items = ids.flatMap imageIdItems ++ (compId.toList.map .string ++ rest) := by
  induction count generalizing items with
  | zero => exact ⟨[], .inl ⟨rfl, items, rfl⟩⟩
  | succ count ih =>
    obtain missing | ⟨compId, items, rfl⟩ := missing_or stringKind items
    · exact ⟨[], .inr ⟨count.succ_pos, none, items, missing, rfl⟩⟩
    obtain missing | ⟨arkDataId, items, rfl⟩ := missing_or stringKind items
    · exact ⟨[], .inr ⟨count.succ_pos, some compId, items, missing, rfl⟩⟩
    obtain ⟨ids, ⟨all, rest, rfl⟩ | ⟨few, half, rest, missing, rfl⟩⟩ := ih items
    · exact ⟨⟨compId, arkDataId⟩ :: ids, .inl ⟨congrArg Nat.succ all, rest, rfl⟩⟩
    · exact ⟨⟨compId, arkDataId⟩ :: ids, .inr ⟨Nat.succ_lt_succ few, half, rest, missing, rfl⟩⟩

theorem value_imageIdArray (items : List (ParcelItem Flt PixelMap)) :
    ∃ sound obj rest, Value sound IMAGEID_ARRAY_INDEX obj items rest := by
  obtain missing | ⟨count, items, rfl⟩ := missing_or int32Kind items
  · exact ⟨false, _, items, .countless missing⟩
  obtain ⟨ids, all | few⟩ := imageIds_or_few count.toInt.toNat items
  · obtain ⟨length, rest, rfl⟩ := all
    have complete : (ValueObj.imageIdArray ids : ValueObj PixelMap).Complete
        (.int32 count :: ids.flatMap imageIdItems : List (ParcelItem Flt PixelMap)) :=
      ⟨count, length.symm, rfl⟩
    exact ⟨true, _, rest, .complete complete rest⟩
  · obtain ⟨few, compId, rest, missing, rfl⟩ := few
    exact ⟨false, _, rest, .imageIds few compId missing⟩

theorem value_or_refused (typeIndex : Int32) (items : List (ParcelItem Flt PixelMap)) :
    (∃ sound obj rest, Value sound typeIndex obj items rest) ∨ Refused typeIndex items := by
  by_cases known : typeIndex ∈ knownIndices
  · simp only [knownIndices, List.mem_cons, List.not_mem_nil, or_false] at known
    obtain rfl | rfl | rfl | rfl | rfl | rfl | rfl | rfl := known
    · obtain missing | ⟨arg, rest, rfl⟩ := missing_or boolKind items
      · exact .inr (.inl ⟨rfl, missing⟩)
      · exact .inl (value_single (.bool arg) rfl rest)
    · obtain missing | ⟨arg, rest, rfl⟩ := missing_or int32Kind items
      · exact .inr (.inr (.inl ⟨rfl, missing⟩))
      · exact .inl (value_single (.int32 arg) rfl rest)
    · obtain missing | ⟨arg, rest, rfl⟩ := missing_or int64Kind items
      · exact .inr (.inr (.inr (.inl ⟨rfl, missing⟩)))
      · exact .inl (value_single (.int64 arg) rfl rest)
    · obtain missing | ⟨arg, rest, rfl⟩ := missing_or stringKind items
      · exact .inr (.inr (.inr (.inr (.inl ⟨rfl, missing⟩))))
      · exact .inl (value_single (.string arg) rfl rest)
    · exact .inl (value_pageLink items)
    · obtain missing | ⟨arg, rest, rfl⟩ := missing_or pixelMapKind items
      · exact .inr (.inr (.inr (.inr (.inr (.inl ⟨rfl, missing⟩)))))
      · exact .inl (value_single (.pixelMap arg) rfl rest)
    · obtain missing | ⟨arg, rest, rfl⟩ := missing_or stringVectorKind items
      · exact .inr (.inr (.inr (.inr (.inr (.inr ⟨rfl, missing⟩)))))
      · exact .inl (value_single (.stringArray arg) rfl rest)
    · exact .inl (value_imageIdArray items)
  · exact .inl ⟨false, _, items, .unknown known items⟩

/-- Whatever the content, entries are taken until there are enough or the reader gets stuck. -/
theorem accepted_or_stuck (count : ℕ) (items : List (ParcelItem Flt PixelMap)) :
    ∃ sound entries rest, Accepted sound entries items rest ∧
      (entries.length = count ∨ entries.length < count ∧ ∃ rest', Stuck rest rest') := by
  induction count generalizing items with
  | zero => exact ⟨true, [], items, .done items, .inl rfl⟩
  | succ count ih =>
    obtain missing | ⟨key, items, rfl⟩ := missing_or stringKind items
    · exact ⟨true, [], items, .done items, .inr ⟨count.succ_pos, items, .key missing⟩⟩
    obtain missing | ⟨typeIndex, items, rfl⟩ := missing_or int32Kind items
    · exact ⟨true, [], _, .done _, .inr ⟨count.succ_pos, items, .typeIndex key missing⟩⟩
    obtain ⟨sound, obj, rest, value⟩ | refused := value_or_refused typeIndex items
    · obtain ⟨sound', entries, rest', more, enough | few⟩ := ih rest
      · exact ⟨_, (key, obj) :: entries, rest', .entry value more, .inl (congrArg Nat.succ enough)⟩
      · obtain ⟨few, stuck⟩ := few
        exact ⟨_, (key, obj) :: entries, rest', .entry value more,
          .inr ⟨Nat.succ_lt_succ few, stuck⟩⟩
    · exact ⟨true, [], _, .done _, .inr ⟨count.succ_pos, items, .value key refused⟩⟩

/-! ### Reading what the grammar gives -/

namespace SequenceableUtil

theorem readImageIds_complete (imageIdArr ids : List AwarenessInfoImageId) :
    Reads (readImageIds ids.length imageIdArr : Reader (ParcelItem Flt PixelMap) _)
      (ids.flatMap imageIdItems) (imageIdArr ++ ids) := by
  induction ids generalizing imageIdArr with
  | nil =>
    rw [List.append_nil]
    exact reads_returning imageIdArr
  | cons id ids ih =>
    have more := ih (imageIdArr ++ [id])
    rw [List.append_assoc] at more
    exact (reads_read stringKind id.compId).orReturn
      ((reads_read stringKind id.arkDataId).orReturn more _) _

theorem readImageIds_few {count : ℕ} {ids : List AwarenessInfoImageId} (few : ids.length < count)
    (compId : Option StdString) {rest : List (ParcelItem Flt PixelMap)}
    (missing : Missing stringKind rest) (imageIdArr : List AwarenessInfoImageId) (failed : Bool) :
    readImageIds count imageIdArr
        { items := ids.flatMap imageIdItems ++ (compId.toList.map .string ++ rest), failed } =
      (imageIdArr ++ ids, { items := rest, failed := true }) := by
  induction ids generalizing count imageIdArr with
  | nil =>
    obtain ⟨count, rfl⟩ := Nat.exists_eq_add_one_of_ne_zero (Nat.ne_zero_of_lt few)
    rw [List.append_nil]
    cases compId with
    | none => exact Reader.orReturn_none (read_missing missing failed)
    | some compId =>
      refine (Reader.orReturn_some (read_cons stringKind compId rest failed)).trans ?_
      exact Reader.orReturn_none (read_missing missing failed)
  | cons id ids ih =>
    obtain ⟨count, rfl⟩ := Nat.exists_eq_add_one_of_ne_zero (Nat.ne_zero_of_lt few)
    have more := ih (Nat.lt_of_succ_lt_succ few) (imageIdArr ++ [id])
    rw [List.append_assoc] at more
    refine (Reader.orReturn_some (read_cons stringKind id.compId _ failed)).trans ?_
    exact (Reader.orReturn_some (read_cons stringKind id.arkDataId _ failed)).trans more

theorem readValueObj_pageLink :
    (readValueObj PAGE_LINK_INDEX : Reader (ParcelItem Flt PixelMap) _) =
      readPageLink.andThen fun pageLink => .returning (some (.pageLink pageLink)) :=
  rfl

theorem readValueObj_imageIdArray :
    (readValueObj IMAGEID_ARRAY_INDEX : Reader (ParcelItem Flt PixelMap) _) =
      readImageId.andThen fun imageIdArr => .returning (some (.imageIdArray imageIdArr)) :=
  rfl

theorem readValueObj_complete {obj : ValueObj PixelMap} {items : List (ParcelItem Flt PixelMap)}
    (complete : obj.Complete items) :
    Reads (readValueObj obj.index : Reader (ParcelItem Flt PixelMap) _) items (some obj) := by
  cases obj with
  | bool arg => cases complete; exact (reads_read boolKind arg).mapSome _
  | int32 arg => cases complete; exact (reads_read int32Kind arg).mapSome _
  | int64 arg => cases complete; exact (reads_read int64Kind arg).mapSome _
  | string arg => cases complete; exact (reads_read stringKind arg).mapSome _
  | pageLink arg =>
    cases complete
    have link : Reads (readPageLink : Reader (ParcelItem Flt PixelMap) _)
        (ValueObj.pageLink arg : ValueObj PixelMap).items arg :=
      (reads_read stringKind arg.httpLink).orReturn
        ((reads_read stringKind arg.deepLink).orReturn (reads_returning arg) _) _
    rw [ValueObj.index, readValueObj_pageLink]
    exact link.andThen_last (reads_returning _)
  | pixelMap arg => cases complete; exact (reads_read pixelMapKind arg).mapSome _
  | stringArray arg => cases complete; exact (reads_read stringVectorKind arg).mapSome _
  | imageIdArray arg =>
    obtain ⟨count, length, rfl⟩ := complete
    have ids : Reads (readImageId : Reader (ParcelItem Flt PixelMap) _)
        ([.int32 count] ++ arg.flatMap imageIdItems) arg := by
      refine (reads_read int32Kind count).orReturn ?_ []
      rw [length]
      exact readImageIds_complete [] arg
    rw [ValueObj.index, readValueObj_imageIdArray]
    exact ids.andThen_last (reads_returning _)

/-- What a value leaves behind: if it is sound, no read has failed and its type index is known. -/
def Traced (sound : Bool) (typeIndices : List Int32) (failed failed' : Bool) : Prop :=
  if sound then failed' = failed ∧ ∀ typeIndex ∈ typeIndices, typeIndex ∈ knownIndices
  else failed' = true ∨ ∃ typeIndex ∈ typeIndices, typeIndex ∉ knownIndices

theorem readValueObj_value {sound : Bool} {typeIndex : Int32} {obj : ValueObj PixelMap}
    {items rest : List (ParcelItem Flt PixelMap)} (value : Value sound typeIndex obj items rest)
    (failed : Bool) :
    ∃ failed', readValueObj typeIndex { items, failed } =
        (some obj, { items := rest, failed := failed' }) ∧
      Traced sound [typeIndex] failed failed' := by
  cases value with
  | complete complete =>
    refine ⟨failed, ?_, rfl, by simpa using obj.index_known⟩
    exact readValueObj_complete complete rest failed
  | unknown unknown =>
    refine ⟨failed, ?_, .inr ⟨typeIndex, by simp, unknown⟩⟩
    simp only [knownIndices, List.mem_cons, not_or] at unknown
    simp only [readValueObj, unknown, if_false]
    rfl
  | countless missing =>
    refine ⟨true, ?_, .inl rfl⟩
    have ids : readImageId { items, failed } = ([], { items, failed := true }) :=
      Reader.orReturn_none (read_missing missing failed)
    rw [readValueObj_imageIdArray, Reader.andThen, ids]
    rfl
  | @pageLink httpLink rest missing =>
    refine ⟨true, ?_, .inl rfl⟩
    have link : readPageLink { items := httpLink.toList.map .string ++ rest, failed } =
        ({ httpLink := httpLink.getD [] }, { items := rest, failed := true }) := by
      cases httpLink with
      | none => exact Reader.orReturn_none (read_missing missing failed)
      | some httpLink =>
        refine (Reader.orReturn_some (read_cons stringKind httpLink rest failed)).trans ?_
        exact Reader.orReturn_none (read_missing missing failed)
    rw [readValueObj_pageLink, Reader.andThen, link]
    rfl
  | @imageIds count ids few compId rest missing =>
    refine ⟨true, ?_, .inl rfl⟩
    have ids : readImageId { items := .int32 count ::
          (ids.flatMap imageIdItems ++ (compId.toList.map .string ++ rest)), failed } =
        (ids, { items := rest, failed := true }) :=
      (Reader.orReturn_some (read_cons int32Kind count _ failed)).trans
        (readImageIds_few few compId missing [] failed)
    rw [readValueObj_imageIdArray, Reader.andThen, ids]
    rfl

/-! ### Entries -/

theorem traced_append {sound sound' : Bool} {typeIndices typeIndices' : List Int32}
    {failed failed' failed'' : Bool} (h : Traced sound typeIndices failed failed')
    (h' : Traced sound' typeIndices' failed' failed'') :
    Traced (sound && sound') (typeIndices ++ typeIndices') failed failed'' := by
  cases sound <;> cases sound' <;> simp_all [Traced] <;> grind

/-- Where the reader is, and what it has, when it has taken entries. -/
theorem readEntries_accepted {sound : Bool} {entries : List (StdString × ValueObj PixelMap)}
    {items rest : List (ParcelItem Flt PixelMap)} (accepted : Accepted sound entries items rest)
    (count : ℕ) (u : Unmarshalled PixelMap) (failed : Bool) :
    ∃ typeIndices failed', readEntries (entries.length + count) u { items, failed } =
        readEntries count ⟨insertAll entries u.entityInfo, u.typeIndices ++ typeIndices⟩
          { items := rest, failed := failed' } ∧
      Traced sound typeIndices failed failed' := by
  induction accepted generalizing u failed with
  | done rest =>
    refine ⟨[], failed, ?_, rfl, by simp⟩
    rw [List.append_nil, List.length_nil, Nat.zero_add]
    rfl
  | @entry key typeIndex obj items rest rest' sound sound' entries value more ih =>
    obtain ⟨failed', read, traced⟩ := readValueObj_value value failed
    obtain ⟨typeIndices, failed'', reads, traces⟩ :=
      ih { entityInfo := u.entityInfo.insert key obj, typeIndices := u.typeIndices ++ [typeIndex] }
        failed'
    refine ⟨typeIndex :: typeIndices, failed'', ?_, traced_append traced traces⟩
    rw [List.append_assoc] at reads
    rw [List.length_cons, Nat.add_right_comm]
    refine (Reader.orReturn_some (read_cons stringKind key _ failed)).trans ?_
    refine (Reader.orReturn_some (read_cons int32Kind typeIndex _ failed)).trans ?_
    exact (Reader.orReturn_some read).trans reads

theorem readValueObj_refused {typeIndex : Int32} {items : List (ParcelItem Flt PixelMap)}
    (refused : Refused typeIndex items) (failed : Bool) :
    readValueObj typeIndex { items, failed } = (none, { items, failed := true }) := by
  obtain ⟨rfl, missing⟩ | ⟨rfl, missing⟩ | ⟨rfl, missing⟩ | ⟨rfl, missing⟩ | ⟨rfl, missing⟩ |
    ⟨rfl, missing⟩ := refused <;> exact Reader.orReturn_none (read_missing missing failed)

theorem readEntries_stuck {items rest : List (ParcelItem Flt PixelMap)} (stuck : Stuck items rest)
    (count : ℕ) (u : Unmarshalled PixelMap) (failed : Bool) :
    ∃ typeIndices, readEntries (count + 1) u { items, failed } =
      ((false, ⟨u.entityInfo, u.typeIndices ++ typeIndices⟩),
        { items := rest, failed := true }) := by
  cases stuck with
  | key missing =>
    refine ⟨[], ?_⟩
    rw [List.append_nil]
    exact Reader.orReturn_none (read_missing missing failed)
  | typeIndex key missing =>
    refine ⟨[], (Reader.orReturn_some (read_cons stringKind key _ failed)).trans ?_⟩
    rw [List.append_nil]
    exact Reader.orReturn_none (read_missing missing failed)
  | @value _ key typeIndex refused =>
    refine ⟨[typeIndex], (Reader.orReturn_some (read_cons stringKind key _ failed)).trans ?_⟩
    refine (Reader.orReturn_some (read_cons int32Kind typeIndex _ failed)).trans ?_
    exact Reader.orReturn_none (readValueObj_refused refused failed)

/-- A reader that gets stuck returns false. -/
theorem readEntries_few {sound : Bool} {entries : List (StdString × ValueObj PixelMap)}
    {items rest rest' : List (ParcelItem Flt PixelMap)}
    (accepted : Accepted sound entries items rest) {count : ℕ} (few : entries.length < count)
    (stuck : Stuck rest rest') (u : Unmarshalled PixelMap) (failed : Bool) :
    ∃ typeIndices, readEntries count u { items, failed } =
      ((false, ⟨insertAll entries u.entityInfo, u.typeIndices ++ typeIndices⟩),
        { items := rest', failed := true }) := by
  obtain ⟨more, rfl⟩ := Nat.exists_eq_add_of_lt few
  obtain ⟨typeIndices, failed', read, -⟩ := readEntries_accepted accepted (more + 1) u failed
  obtain ⟨typeIndices', stays⟩ := readEntries_stuck stuck more
    ⟨insertAll entries u.entityInfo, u.typeIndices ++ typeIndices⟩ failed'
  refine ⟨typeIndices ++ typeIndices', ?_⟩
  rw [Nat.add_assoc, read, stays, List.append_assoc]

/-! ### Contents -/

theorem unmarshalling_cons (u : Unmarshalled PixelMap) (size : Int32)
    (items : List (ParcelItem Flt PixelMap)) (failed : Bool) :
    unmarshalling u { items := .int32 size :: items, failed } =
      readEntries size.toInt.toNat u { items, failed } :=
  Reader.orReturn_some (read_cons int32Kind size items failed)

/-- If the reading returns true, then no read of it has failed and it knew every type index. -/
def AllRead (items : List (ParcelItem Flt PixelMap)) : Prop :=
  let read := unmarshalling ({} : Unmarshalled PixelMap) { items }
  read.1.1 = true →
    read.2.failed = false ∧ ∀ typeIndex ∈ read.1.2.typeIndices, typeIndex ∈ knownIndices

theorem allRead_iff (items : List (ParcelItem Flt PixelMap)) : AllRead items ↔ ¬ Misread items := by
  dsimp only [AllRead]
  obtain missing | ⟨size, items, rfl⟩ := missing_or int32Kind items
  · rw [unmarshalling, Reader.orReturn_none (read_missing missing false)]
    refine iff_of_true nofun ?_
    rintro ⟨size, entries, rest, rest', rfl, -⟩
    cases missing
  have start : unmarshalling ({} : Unmarshalled PixelMap) { items := int32Kind.put size :: items } =
      readEntries size.toInt.toNat {} { items } := unmarshalling_cons {} size items false
  rw [start]
  constructor
  · rintro allRead ⟨size', entries, rest, rest', eq, length, accepted⟩
    cases eq
    obtain ⟨typeIndices, failed', read, traced⟩ := readEntries_accepted accepted 0 {} false
    rw [Nat.add_zero, length] at read
    rw [read] at allRead
    obtain ⟨fine, known⟩ := allRead rfl
    obtain failed | ⟨typeIndex, mem, unknown⟩ := traced
    · exact Bool.noConfusion (failed.symm.trans fine)
    · exact unknown (known typeIndex (List.mem_append_right _ mem))
  · intro fine ok
    obtain ⟨sound, entries, rest, accepted, enough | ⟨few, rest', stuck⟩⟩ :=
      accepted_or_stuck size.toInt.toNat items
    · obtain ⟨typeIndices, failed', read, traced⟩ := readEntries_accepted accepted 0 {} false
      rw [Nat.add_zero, enough] at read
      cases sound with
      | false => exact absurd ⟨size, entries, items, rest, rfl, enough, accepted⟩ fine
      | true =>
        rw [read]
        obtain ⟨fine, known⟩ := traced
        exact ⟨fine, known⟩
    · obtain ⟨u', read⟩ := readEntries_few accepted few stuck {} false
      rw [read] at ok
      cases ok

end SequenceableUtil

end DeviceStatus.Sequenceable.OnScreen
