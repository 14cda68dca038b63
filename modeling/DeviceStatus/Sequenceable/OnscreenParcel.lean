import DeviceStatus.Sequenceable.OnscreenContent

/-!
# Parcels of on-screen values

When a map comes back as it was written, although values may have lost items for lack of room.

## Main definitions

* `written` — the items of entries, of which each value may lack some at its end.
* `Unharmed` — no value lacks an item by which it could be told.
-/

namespace DeviceStatus.Sequenceable.OnScreen

open OrderedStore Entries ParcelItem
open Std (ExtTreeMap)

variable {Flt PixelMap : Type}

/-- The items that are kept of a value are read as the value: they are all, or the missing count is
one of no image ID, or the missing links are empty and nothing follows. -/
def Harmless (obj : ValueObj PixelMap) (kept : List (ParcelItem Flt PixelMap)) (last : Prop) :
    Prop :=
  obj.Complete kept ∨ (obj = .imageIdArray [] ∧ kept = []) ∨
    last ∧ ∃ httpLink : Option StdString,
      obj = .pageLink { httpLink := httpLink.getD [] } ∧ kept = httpLink.toList.map .string

section Written

variable (room : Room (ParcelItem Flt PixelMap))

/-- The items of entries behind those that are stored, if their keys and type indices find room. -/
def written : List (StdString × ValueObj PixelMap) → List (ParcelItem Flt PixelMap) →
    List (ParcelItem Flt PixelMap)
  | [], _ => []
  | (key, obj) :: entries, stored =>
    let stored := stored ++ [.string key, .int32 obj.index]
    let kept := kept room obj.items stored
    .string key :: .int32 obj.index :: (kept ++ written entries (stored ++ kept))

def Unharmed : List (StdString × ValueObj PixelMap) → List (ParcelItem Flt PixelMap) → Prop
  | [], _ => True
  | (key, obj) :: entries, stored =>
    let stored := stored ++ [.string key, .int32 obj.index]
    let kept := kept room obj.items stored
    Harmless obj kept (entries = []) ∧ Unharmed entries (stored ++ kept)

end Written

/-! ### Writing -/

namespace SequenceableUtil

variable {room : Room (ParcelItem Flt PixelMap)}

theorem writeValueObj_ignored (obj : ValueObj PixelMap) :
    (writeValueObj room obj).ignored = (append room obj.items).ignored := by
  have id (imageId : AwarenessInfoImageId) :
      (write room stringKind imageId.compId).andThen (write room stringKind imageId.arkDataId) =
        append room (imageIdItems imageId) :=
    append_andThen [_] [_]
  cases obj with
  | imageIdArray arg =>
    have ids : writeImageId room arg = append room (ValueObj.imageIdArray arg).items := by
      rw [writeImageId, each_append id, write_eq, append_andThen]
      rfl
    rw [writeValueObj, ids]
    rfl
  | pageLink arg => exact congrArg Writer.ignored (append_andThen [_] [_])
  | _ => rfl

/-- One turn of the loop stores the key, the type index and what finds room of the value. -/
theorem writeEntry_stores {key : StdString} {obj : ValueObj PixelMap}
    {stored : List (ParcelItem Flt PixelMap)}
    (succeeds : (writeEntry room (key, obj) stored).1 = true) :
    (writeEntry room (key, obj) stored).2 =
      stored ++ [.string key, .int32 obj.index] ++
        kept room obj.items (stored ++ [.string key, .int32 obj.index]) := by
  have eq : writeEntry room (key, obj) =
      (append room [.string key, .int32 obj.index]).andThen (append room obj.items).ignored := by
    rw [writeEntry, writeValueObj_ignored, Writer.andThen_assoc, write_eq, write_eq,
      append_andThen]
    rfl
  rw [eq] at succeeds ⊢
  exact append_ignored succeeds

theorem each_writeEntry {entries : List (StdString × ValueObj PixelMap)}
    {stored items : List (ParcelItem Flt PixelMap)}
    (succeeds : Writer.each (writeEntry room) entries stored = (true, items)) :
    items = stored ++ written room entries stored := by
  induction entries generalizing stored with
  | nil =>
    cases succeeds
    exact (List.append_nil _).symm
  | cons entry entries ih =>
    obtain ⟨key, obj⟩ := entry
    rw [Writer.each, Writer.andThen] at succeeds
    split_ifs at succeeds with first
    · rw [writeEntry_stores first] at succeeds
      rw [ih succeeds, written]
      simp
    · cases succeeds

end SequenceableUtil

/-! ### Harmless losses -/

section Unharmed

variable {room : Room (ParcelItem Flt PixelMap)}

/-- Entries begin with a key. -/
theorem written_missing (entries : List (StdString × ValueObj PixelMap))
    (stored : List (ParcelItem Flt PixelMap)) :
    Missing int32Kind (written room entries stored) := by
  cases entries <;> rfl

theorem value_of_harmless {obj : ValueObj PixelMap} {kept rest : List (ParcelItem Flt PixelMap)}
    {last : Prop} (harmless : Harmless obj kept last) (missing : Missing int32Kind rest)
    (nothing : last → rest = []) : ∃ sound, Value sound obj.index obj (kept ++ rest) rest := by
  obtain complete | ⟨rfl, rfl⟩ | ⟨here, httpLink, rfl, rfl⟩ := harmless
  · exact ⟨true, .complete complete rest⟩
  · exact ⟨false, .countless missing⟩
  · obtain rfl := nothing here
    exact ⟨false, .pageLink httpLink rfl⟩

theorem accepted_of_unharmed {entries : List (StdString × ValueObj PixelMap)}
    {stored : List (ParcelItem Flt PixelMap)} (unharmed : Unharmed room entries stored) :
    ∃ sound, Accepted sound entries (written room entries stored) [] := by
  induction entries generalizing stored with
  | nil => exact ⟨true, .done []⟩
  | cons entry entries ih =>
    obtain ⟨key, obj⟩ := entry
    obtain ⟨harmless, unharmed⟩ := unharmed
    obtain ⟨sound', more⟩ := ih unharmed
    obtain ⟨sound, value⟩ := value_of_harmless harmless (written_missing entries _) (by
      rintro rfl
      rfl)
    exact ⟨sound && sound', .entry value more⟩

/-! ### Harm -/

/-- Of the items of a value only the first may be an `int32_t`. -/
theorem int32_first {obj : ValueObj PixelMap} {before after : List (ParcelItem Flt PixelMap)}
    {item : ParcelItem Flt PixelMap} {n : Int32}
    (eq : obj.items = before ++ item :: .int32 n :: after) : False := by
  have mem : .int32 n ∈ (obj.items : List (ParcelItem Flt PixelMap)).tail := by
    rw [eq]
    cases before <;> simp
  cases obj <;> simp [ValueObj.items, imageIdItems] at mem

/-- Entries are not taken from what does not begin with a key. -/
theorem Accepted.eq_nil {sound : Bool} {entries : List (StdString × ValueObj PixelMap)}
    {items rest : List (ParcelItem Flt PixelMap)} (accepted : Accepted sound entries items rest)
    (missing : Missing stringKind items) : entries = [] := by
  cases accepted with
  | done => rfl
  | entry => cases missing

/-- Items that make the value and begin as the value was written are those of the value. -/
theorem eq_items_of_complete {obj : ValueObj PixelMap}
    {items rest kept tail : List (ParcelItem Flt PixelMap)} (complete : obj.Complete items)
    (eq : items ++ rest = kept ++ tail) (keeps : kept <+: obj.items)
    (missing : Missing int32Kind tail) : items = obj.items := by
  cases obj with
  | imageIdArray arg =>
    obtain ⟨count, length, rfl⟩ := complete
    cases kept with
    | nil =>
      rw [List.nil_append] at eq
      rw [← eq] at missing
      cases missing
    | cons item kept =>
      obtain ⟨lost, keeps⟩ := keeps
      obtain ⟨rfl, -⟩ := List.cons.inj keeps
      obtain ⟨count, -⟩ := List.cons.inj eq
      cases count
      rfl
  | _ => exact complete

/-- No items of a value are made up for by the next key: a type index is behind it. -/
theorem lost_eq_nil {obj : ValueObj PixelMap}
    {kept lost rest stored : List (ParcelItem Flt PixelMap)}
    {entries : List (StdString × ValueObj PixelMap)} (split : kept ++ lost = obj.items)
    (eq : lost ++ rest = written room entries stored)
    (last : Missing stringKind rest → entries = []) : lost = [] := by
  cases lost with
  | nil => rfl
  | cons item lost =>
    cases entries with
    | nil => cases eq
    | cons entry entries =>
      obtain ⟨-, more⟩ := List.cons.inj eq
      cases lost with
      | nil =>
        change rest = _ at more
        rw [more] at last
        cases last rfl
      | cons other lost =>
        obtain ⟨rfl, -⟩ := List.cons.inj more
        exact (int32_first split.symm).elim

/-- Behind the links that are there, there is none that is missing. -/
theorem rest_eq_nil_of_links {httpLink : Option StdString} {rest : List (ParcelItem Flt PixelMap)}
    (keeps : httpLink.toList.map .string ++ rest <+:
      (ValueObj.pageLink { httpLink := httpLink.getD [] } : ValueObj PixelMap).items)
    (missing : Missing stringKind rest) : rest = [] := by
  obtain ⟨lost, keeps⟩ := keeps
  cases rest with
  | nil => rfl
  | cons item rest =>
    cases httpLink with
    | none =>
      obtain ⟨rfl, -⟩ := List.cons.inj keeps
      cases missing
    | some httpLink =>
      obtain ⟨-, keeps⟩ := List.cons.inj keeps
      obtain ⟨rfl, -⟩ := List.cons.inj keeps
      cases missing

/-- If what is kept of a value is taken for the value and entries follow as they should, then the
loss is harmless. -/
theorem harmless_of_value {sound sound' : Bool} {typeIndex : Int32} {obj : ValueObj PixelMap}
    {items kept rest rest' stored : List (ParcelItem Flt PixelMap)}
    {entries entries' : List (StdString × ValueObj PixelMap)}
    (value : Value sound typeIndex obj items rest) (index : typeIndex = obj.index)
    (eq : items = kept ++ written room entries stored) (keeps : kept <+: obj.items)
    (more : Accepted sound' entries' rest rest') (length : entries'.length = entries.length) :
    Harmless obj kept (entries = []) ∧ rest = written room entries stored := by
  have last (missing : Missing stringKind rest) : entries = [] := by
    rw [← List.length_eq_zero_iff, ← length, more.eq_nil missing, List.length_nil]
  have missing : Missing int32Kind (written room entries stored) := written_missing entries stored
  cases value with
  | complete complete rest =>
    obtain rfl := eq_items_of_complete complete eq keeps missing
    obtain ⟨lost, split⟩ := keeps
    rw [← split, List.append_assoc, List.append_cancel_left_eq] at eq
    obtain rfl := lost_eq_nil split eq last
    rw [List.append_nil] at split
    rw [split]
    exact ⟨.inl complete, eq⟩
  | unknown unknown rest =>
    rw [index] at unknown
    exact absurd (ValueObj.index_known _) unknown
  | countless missing' =>
    cases kept with
    | nil => exact ⟨.inr (.inl ⟨rfl, rfl⟩), eq⟩
    | cons item kept =>
      obtain ⟨lost, keeps⟩ := keeps
      obtain ⟨rfl, -⟩ := List.cons.inj keeps
      rw [eq] at missing'
      cases missing'
  | pageLink httpLink missing' =>
    obtain rfl := last missing'
    rw [written, List.append_nil] at eq
    rw [← eq] at keeps
    have empty : rest = [] := rest_eq_nil_of_links keeps missing'
    rw [empty, List.append_nil] at eq
    exact ⟨.inr (.inr ⟨rfl, httpLink, rfl, eq.symm⟩), empty⟩
  | imageIds few compId missing' =>
    obtain rfl := last missing'
    rw [written, List.append_nil] at eq
    rw [← eq] at keeps
    obtain ⟨lost, keeps⟩ := keeps
    obtain ⟨count, -⟩ := List.cons.inj keeps
    cases count
    exact absurd few (Nat.not_lt.mpr (toNat_ofNat_le _))

theorem unharmed_of_accepted {entries entries' : List (StdString × ValueObj PixelMap)}
    {stored rest : List (ParcelItem Flt PixelMap)} {sound : Bool} {map : EntityInfo PixelMap}
    (accepted : Accepted sound entries' (written room entries stored) rest)
    (length : entries'.length = entries.length)
    (agree : ∀ entry ∈ entries, map[entry.1]? = some entry.2)
    (agree' : ∀ entry ∈ entries', map[entry.1]? = some entry.2) :
    Unharmed room entries stored := by
  induction entries generalizing entries' stored sound with
  | nil => trivial
  | cons entry entries ih =>
    obtain ⟨key, obj⟩ := entry
    obtain ⟨here, agree⟩ := List.forall_mem_cons.mp agree
    generalize eq : written room ((key, obj) :: entries) stored = items at accepted
    cases accepted with
    | done => cases length
    | @entry key' typeIndex obj' items items' _ _ _ entries' value more =>
      obtain ⟨here', others⟩ := List.forall_mem_cons.mp agree'
      obtain ⟨sameKey, tail⟩ := List.cons.inj eq
      obtain ⟨sameIndex, tail⟩ := List.cons.inj tail
      cases sameKey
      obtain rfl : obj = obj' := Option.some.inj (here.symm.trans here')
      obtain ⟨harmless, rest⟩ := harmless_of_value value (ParcelItem.int32.inj sameIndex).symm
        tail.symm (prefix_kept _ _) more (Nat.succ.inj length)
      rw [rest] at more
      exact ⟨harmless, ih more (Nat.succ.inj length) agree others⟩

end Unharmed

namespace SequenceableUtil

/-- The reading returns true and gives the map. -/
def ReadsBack (entityInfo : EntityInfo PixelMap) (items : List (ParcelItem Flt PixelMap)) : Prop :=
  let read := unmarshalling ({} : Unmarshalled PixelMap) { items }
  read.1.1 = true ∧ read.1.2.entityInfo = entityInfo

theorem marshalling_written {room : Room (ParcelItem Flt PixelMap)}
    {entityInfo : EntityInfo PixelMap} {items : List (ParcelItem Flt PixelMap)}
    (succeeds : marshalling room entityInfo [] = (true, items)) :
    items = .int32 (Int32.ofNat entityInfo.size) ::
      written room entityInfo.toList [.int32 (Int32.ofNat entityInfo.size)] := by
  rw [marshalling, Writer.andThen] at succeeds
  split_ifs at succeeds with first
  · obtain ⟨stores, all⟩ := append_kept room [.int32 (Int32.ofNat entityInfo.size)] []
    have size : (write room int32Kind (Int32.ofNat entityInfo.size) []).2 =
        [.int32 (Int32.ofNat entityInfo.size)] := by
      rw [write_eq] at first ⊢
      exact stores.trans (all.mp first)
    rw [size] at succeeds
    exact each_writeEntry succeeds
  · cases succeeds

theorem readsBack_iff {room : Room (ParcelItem Flt PixelMap)}
    {entityInfo : EntityInfo PixelMap} {items : List (ParcelItem Flt PixelMap)}
    (succeeds : marshalling room entityInfo [] = (true, items)) :
    ReadsBack entityInfo items ↔ entityInfo.size < 2 ^ 31 ∧
      Unharmed room entityInfo.toList [.int32 (Int32.ofNat entityInfo.size)] := by
  rw [marshalling_written succeeds]
  dsimp only [ReadsBack]
  rw [unmarshalling_cons]
  constructor
  · rintro ⟨ok, same⟩
    obtain ⟨sound, entries, rest, accepted, length | ⟨few, rest', stuck⟩⟩ :=
      accepted_or_stuck (Int32.ofNat entityInfo.size).toInt.toNat
        (written room entityInfo.toList [.int32 (Int32.ofNat entityInfo.size)])
    · obtain ⟨typeIndices, failed', read, -⟩ := readEntries_accepted accepted 0 {} false
      rw [Nat.add_zero, length] at read
      rw [read] at same
      change insertAll entries ∅ = entityInfo at same
      have most := size_insertAll_le entries
      rw [same, length] at most
      have least := toNat_ofNat_le entityInfo.size
      have fits : entityInfo.size < 2 ^ 31 := by
        have bound := Int32.toInt_lt (Int32.ofNat entityInfo.size)
        omega
      refine ⟨fits, unharmed_of_accepted accepted ?_ ?_ (getElem?_insertAll same ?_)⟩
      · rw [length, toNat_ofNat fits, ExtTreeMap.length_toList]
      · rintro ⟨key, obj⟩ mem
        exact ExtTreeMap.mem_toList_iff_getElem?_eq_some.mp mem
      · omega
    · obtain ⟨u', read⟩ := readEntries_few accepted few stuck {} false
      rw [read] at ok
      cases ok
  · rintro ⟨fits, unharmed⟩
    obtain ⟨sound, accepted⟩ := accepted_of_unharmed unharmed
    obtain ⟨typeIndices, failed', read, -⟩ := readEntries_accepted accepted 0 {} false
    rw [Nat.add_zero, ExtTreeMap.length_toList] at read
    rw [toNat_ofNat fits, read]
    exact ⟨rfl, insertAll_toList entityInfo⟩

end SequenceableUtil

end DeviceStatus.Sequenceable.OnScreen
