import Mathlib.Data.List.Basic

/-!
# Ordered stores

A store keeps values of several kinds in the order in which they were written. A write may find no
room and then leaves the store as it was. A read takes the next value if it is of the kind that is
asked for; otherwise it fails and takes nothing.

## Main definitions

* `Kind` — a kind of values, as items of a store.
* `Writer`, `append`, `kept` — computations that write, the one that writes given items, and those
  of the items that find room.
* `Reader`, `Reads`, `Refuses` — computations that read, the items from which they read a value, and
  those from which they do not.
-/

namespace OrderedStore

variable {Item α β γ : Type*}

/-- Values of one kind, told from those of the other kinds. -/
structure Kind (Item α : Type*) where
  put : α → Item
  get : Item → Option α
  get_put : ∀ a, get (put a) = some a
  put_of_get : ∀ {item a}, get item = some a → item = put a

/-! ### Writing -/

/-- Whether an item finds room behind those that are stored. -/
abbrev Room (Item : Type*) := List Item → Item → Bool

/-- Whether the writing succeeds, and what is stored then. -/
abbrev Writer (Item : Type*) := List Item → Bool × List Item

def write (room : Room Item) (kind : Kind Item α) (a : α) : Writer Item := fun items =>
  if room items (kind.put a) then (true, items ++ [kind.put a]) else (false, items)

namespace Writer

def done : Writer Item := fun items => (true, items)

/-- The second after the first has succeeded. -/
def andThen (first second : Writer Item) : Writer Item := fun items =>
  if (first items).1 then second (first items).2 else (false, (first items).2)

/-- What comes of it is not looked at. -/
def ignored (writer : Writer Item) : Writer Item := fun items => (true, (writer items).2)

/-- One after the other, as long as they succeed. -/
def each (writer : α → Writer Item) : List α → Writer Item
  | [] => done
  | a :: as => (writer a).andThen (each writer as)

theorem andThen_assoc (first second third : Writer Item) :
    first.andThen (second.andThen third) = (first.andThen second).andThen third := by
  funext items
  unfold andThen
  split_ifs <;> simp_all

end Writer

/-! ### Appending -/

/-- The items one after the other, as long as there is room. -/
def append (room : Room Item) : List Item → Writer Item
  | [] => .done
  | item :: items => fun stored =>
    if room stored item then append room items (stored ++ [item]) else (false, stored)

/-- The items that find room, up to the first that does not. -/
def kept (room : Room Item) : List Item → List Item → List Item
  | [], _ => []
  | item :: items, stored =>
    if room stored item then item :: kept room items (stored ++ [item]) else []

section Append

variable {room : Room Item} {format : List Item}

theorem append_cons (item : Item) (format stored : List Item) :
    append room (item :: format) stored =
      if room stored item then append room format (stored ++ [item]) else (false, stored) :=
  rfl

theorem write_eq (kind : Kind Item α) (a : α) : write room kind a = append room [kind.put a] :=
  rfl

theorem append_andThen (format format' : List Item) :
    (append room format).andThen (append room format') = append room (format ++ format') := by
  funext stored
  induction format generalizing stored with
  | nil => rfl
  | cons item format ih =>
    have rest := ih (stored ++ [item])
    unfold Writer.andThen at rest ⊢
    rw [List.cons_append, append_cons, append_cons]
    split_ifs <;> simp_all

theorem each_append {writer : α → Writer Item} {format : α → List Item}
    (h : ∀ a, writer a = append room (format a)) (as : List α) :
    Writer.each writer as = append room (as.flatMap format) := by
  induction as with
  | nil => rfl
  | cons a as ih => rw [Writer.each, h, ih, append_andThen, List.flatMap_cons]

theorem append_optional {c : Prop} [Decidable c] :
    (if c then append room format else Writer.done) = append room (if c then format else []) := by
  split_ifs <;> rfl

theorem prefix_kept (format stored : List Item) : kept room format stored <+: format := by
  induction format generalizing stored with
  | nil => exact List.nil_prefix
  | cons item format ih =>
    rw [kept]
    split_ifs
    · exact List.prefix_cons_inj item |>.mpr (ih _)
    · exact List.nil_prefix

/-- The items that are kept are stored, and they are all if the writing succeeds. -/
theorem append_kept (room : Room Item) (format stored : List Item) :
    (append room format stored).2 = stored ++ kept room format stored ∧
      ((append room format stored).1 = true ↔ kept room format stored = format) := by
  induction format generalizing stored with
  | nil => exact ⟨(List.append_nil stored).symm, iff_of_true rfl rfl⟩
  | cons item format ih =>
    obtain ⟨stores, succeeds⟩ := ih (stored ++ [item])
    rw [append_cons, kept]
    split_ifs with fits
    · rw [stores, succeeds, List.append_assoc]
      simp
    · simp

/-- What has been stored by a writing that succeeds. -/
theorem append_eq {stored items : List Item} (written : append room format stored = (true, items)) :
    items = stored ++ format := by
  obtain ⟨stores, succeeds⟩ := append_kept room format stored
  simp only [written, true_iff] at stores succeeds
  rw [stores, succeeds]

/-- Items that have to find room, and others of which those are stored that do. -/
theorem append_ignored {format format' stored : List Item}
    (succeeds : ((append room format).andThen (append room format').ignored stored).1 = true) :
    ((append room format).andThen (append room format').ignored stored).2 =
      stored ++ format ++ kept room format' (stored ++ format) := by
  obtain ⟨stores, all⟩ := append_kept room format stored
  unfold Writer.andThen at succeeds ⊢
  split_ifs at succeeds ⊢ with first
  rw [all] at first
  rw [stores, first]
  exact (append_kept room format' _).1

/-- With room for everything. -/
theorem append_roomy (format stored : List Item) :
    append (fun _ _ => true) format stored = (true, stored ++ format) := by
  induction format generalizing stored with
  | nil => rw [List.append_nil]; rfl
  | cons item format ih =>
    rw [append_cons, if_pos rfl, ih, List.append_assoc]
    rfl

end Append

/-! ### Room for all items -/

/-- The writer stores the items, if all of them find room. -/
def Stores (room : Room Item) (writer : Writer Item) (format : List Item) : Prop :=
  ∀ stored, kept room format stored = format → writer stored = (true, stored ++ format)

section Stores

variable {room : Room Item} {writer first second : Writer Item} {format format' : List Item}

theorem kept_append {stored : List Item}
    (all : kept room (format ++ format') stored = format ++ format') :
    kept room format stored = format ∧ kept room format' (stored ++ format) = format' := by
  induction format generalizing stored with
  | nil =>
    rw [List.append_nil]
    exact ⟨rfl, all⟩
  | cons item format ih =>
    rw [List.cons_append, kept] at all
    rw [kept]
    split_ifs at all ⊢ with fits
    obtain ⟨first, second⟩ := ih (List.cons.inj all).2
    rw [List.append_assoc] at second
    exact ⟨congrArg (item :: ·) first, second⟩

theorem stores_append (format : List Item) : Stores room (append room format) format := by
  intro stored all
  obtain ⟨stores, succeeds⟩ := append_kept room format stored
  rw [all] at stores
  exact Prod.ext (succeeds.mpr all) stores

theorem Stores.andThen (h : Stores room first format) (h' : Stores room second format') :
    Stores room (first.andThen second) (format ++ format') := by
  intro stored all
  obtain ⟨fits, fits'⟩ := kept_append all
  rw [Writer.andThen, h stored fits, ← List.append_assoc]
  exact h' _ fits'

theorem Stores.ignored (h : Stores room writer format) : Stores room writer.ignored format := by
  intro stored all
  rw [Writer.ignored, h stored all]

theorem Stores.each {writer : α → Writer Item} {format : α → List Item}
    (h : ∀ a, Stores room (writer a) (format a)) (as : List α) :
    Stores room (Writer.each writer as) (as.flatMap format) := by
  induction as with
  | nil => exact stores_append []
  | cons a as ih => exact (h a).andThen ih

end Stores

/-! ### Reading -/

/-- What has not been read yet, and whether a read has failed. -/
structure Cursor (Item : Type*) where
  items : List Item
  failed : Bool := false
  deriving DecidableEq

abbrev Reader (Item α : Type*) := Cursor Item → α × Cursor Item

def read (kind : Kind Item α) : Reader Item (Option α) := fun c =>
  match c.items with
  | [] => (none, { c with failed := true })
  | item :: items =>
    match kind.get item with
    | none => (none, { c with failed := true })
    | some a => (some a, { c with items })

/-- The next item is not of the kind, or there is none. -/
def Missing (kind : Kind Item α) (items : List Item) : Prop :=
  items.head?.bind kind.get = none

theorem read_cons (kind : Kind Item α) (a : α) (rest : List Item) (failed : Bool) :
    read kind { items := kind.put a :: rest, failed } = (some a, { items := rest, failed }) := by
  rw [read]
  simp only [kind.get_put]

theorem read_missing {kind : Kind Item α} {items : List Item} (missing : Missing kind items)
    (failed : Bool) : read kind { items, failed } = (none, { items, failed := true }) := by
  cases items with
  | nil => rfl
  | cons item items =>
    have none : kind.get item = none := missing
    rw [read]
    simp only [none]

theorem missing_or (kind : Kind Item α) (items : List Item) :
    Missing kind items ∨ ∃ a rest, items = kind.put a :: rest := by
  cases items with
  | nil => exact .inl rfl
  | cons item items =>
    cases got : kind.get item with
    | none => exact .inl got
    | some a => exact .inr ⟨a, items, by rw [kind.put_of_get got]⟩

namespace Reader

/-- Goes on with what is read, or returns `otherwise`. -/
def orReturn (reader : Reader Item (Option α)) (otherwise : β) (next : α → Reader Item β) :
    Reader Item β := fun c =>
  match reader c with
  | (none, c) => (otherwise, c)
  | (some a, c) => next a c

theorem orReturn_some {reader : Reader Item (Option α)} {next : α → Reader Item β}
    {otherwise : β} {c c' : Cursor Item} {a : α} (h : reader c = (some a, c')) :
    reader.orReturn otherwise next c = next a c' := by
  rw [orReturn, h]

theorem orReturn_none {reader : Reader Item (Option α)} {next : α → Reader Item β}
    {otherwise : β} {c c' : Cursor Item} (h : reader c = (none, c')) :
    reader.orReturn otherwise next c = (otherwise, c') := by
  rw [orReturn, h]

/-- The value that stands for one that cannot be read. -/
def orDefault (reader : Reader Item (Option α)) (default : α) : Reader Item α := fun c =>
  ((reader c).1.getD default, (reader c).2)

/-- Goes on with what is read. -/
def andThen (reader : Reader Item α) (next : α → Reader Item β) : Reader Item β := fun c =>
  next (reader c).1 (reader c).2

def returning (a : α) : Reader Item α := fun c => (a, c)

/-- What is made of a value, if one is read. -/
def mapSome (reader : Reader Item (Option α)) (f : α → β) : Reader Item (Option β) :=
  reader.orReturn none fun a => returning (some (f a))

theorem of_orReturn {reader : Reader Item (Option α)} {next : α → Reader Item (Option β)} {b : β}
    {c : Cursor Item} (h : (reader.orReturn none next c).1 = some b) :
    ∃ a c', reader c = (some a, c') ∧ (next a c').1 = some b := by
  cases found : reader c with
  | mk a c' =>
    cases a with
    | none =>
      rw [orReturn_none found] at h
      cases h
    | some a =>
      rw [orReturn_some found] at h
      exact ⟨a, c', rfl, h⟩

theorem of_orReturn_read {kind : Kind Item α} {next : α → Reader Item (Option β)} {b : β}
    {items : List Item} {failed : Bool}
    (h : ((read kind).orReturn none next { items, failed }).1 = some b) :
    ∃ a rest, items = kind.put a :: rest ∧ (next a { items := rest, failed }).1 = some b := by
  obtain missing | ⟨a, rest, rfl⟩ := missing_or kind items
  · rw [orReturn_none (read_missing missing failed)] at h
    cases h
  · rw [orReturn_some (read_cons kind a rest failed)] at h
    exact ⟨a, rest, rfl, h⟩

/-- So many rounds, each on what the last one gave, as long as they succeed. -/
def loop (body : β → Reader Item (Option β)) : ℕ → β → Reader Item (Option β)
  | 0, b => returning (some b)
  | n + 1, b => (body b).orReturn none (loop body n)

/-- One value for each of the list. -/
def traverse (reader : α → Reader Item β) : List α → Reader Item (List β)
  | [] => returning []
  | a :: as =>
    (reader a).andThen fun b => (traverse reader as).andThen fun bs => returning (b :: bs)

end Reader

/-- The reader takes the items, whatever comes behind them, and makes the value of them. -/
def Reads (reader : Reader Item α) (format : List Item) (a : α) : Prop :=
  ∀ rest failed, reader { items := format ++ rest, failed } = (a, { items := rest, failed })

section Reads

variable {reader : Reader Item α} {format format' : List Item} {a : α}

theorem reads_read (kind : Kind Item α) (a : α) : Reads (read kind) [kind.put a] (some a) := by
  exact read_cons kind a

theorem reads_returning (a : α) : Reads (Reader.returning a : Reader Item α) [] a :=
  fun _ _ => rfl

theorem Reads.orReturn {reader : Reader Item (Option α)} {next : α → Reader Item β} {b : β}
    (h : Reads reader format (some a)) (h' : Reads (next a) format' b) (otherwise : β) :
    Reads (reader.orReturn otherwise next) (format ++ format') b := by
  intro rest failed
  rw [Reader.orReturn, List.append_assoc, h]
  exact h' rest failed

theorem Reads.mapSome {reader : Reader Item (Option α)} (h : Reads reader format (some a))
    (f : α → β) : Reads (reader.mapSome f) format (some (f a)) := by
  intro rest failed
  rw [Reader.mapSome, Reader.orReturn, h]
  rfl

theorem Reads.orDefault {reader : Reader Item (Option α)} (h : Reads reader format (some a))
    (default : α) : Reads (reader.orDefault default) format a := by
  intro rest failed
  rw [Reader.orDefault, h]
  rfl

theorem Reads.andThen {next : α → Reader Item β} {b : β} (h : Reads reader format a)
    (h' : Reads (next a) format' b) : Reads (reader.andThen next) (format ++ format') b := by
  intro rest failed
  rw [Reader.andThen, List.append_assoc, h]
  exact h' rest failed

/-- The last items have been read. -/
theorem Reads.andThen_last {next : α → Reader Item β} {b : β} (h : Reads reader format a)
    (h' : Reads (next a) [] b) : Reads (reader.andThen next) format b := by
  have both := h.andThen h'
  rwa [List.append_nil] at both

/-- What is read under a condition under which it has been written. -/
theorem Reads.optional {c c' : Prop} [Decidable c] [Decidable c'] (same : c' ↔ c)
    (h : c → Reads reader format a) (b : α) :
    Reads (if c' then reader else Reader.returning b) (if c then format else [])
      (if c then a else b) := by
  simp only [same]
  split_ifs with holds
  · exact h holds
  · exact reads_returning b

/-- A loop reads what has been written round by round. -/
theorem Reads.loop {body : β → Reader Item (Option β)} {write : α → List Item} {f : β → α → β}
    {as : List α} (h : ∀ a ∈ as, ∀ b, Reads (body b) (write a) (some (f b a))) (b : β) :
    Reads (Reader.loop body as.length b) (as.flatMap write) (some (as.foldl f b)) := by
  induction as generalizing b with
  | nil => exact reads_returning _
  | cons a as ih =>
    obtain ⟨here, later⟩ := List.forall_mem_cons.mp h
    exact (here b).orReturn (ih later (f b a)) none

theorem Reads.traverse {reader : α → Reader Item β} {write : β → List Item}
    (h : ∀ a b, Reads (reader a) (write b) b) {as : List α} {bs : List β}
    (length : as.length = bs.length) :
    Reads (Reader.traverse reader as) (bs.flatMap write) bs := by
  induction as generalizing bs with
  | nil =>
    obtain rfl := List.length_eq_zero_iff.mp length.symm
    exact reads_returning []
  | cons a as ih =>
    cases bs with
    | nil => cases length
    | cons b bs =>
      exact (h a b).andThen ((ih (Nat.succ.inj length)).andThen_last (reads_returning (b :: bs)))

end Reads

/-! ### Refusals -/

/-- The reader makes no value of what begins with the items. -/
def Refuses (reader : Reader Item (Option α)) (format : List Item) : Prop :=
  ∀ rest failed, (reader { items := format ++ rest, failed }).1 = none

section Refuses

variable {format format' : List Item} {a : α}

theorem Reads.refuses {reader : Reader Item (Option α)} (h : Reads reader format none) :
    Refuses reader format := by
  intro rest failed
  rw [h]

theorem Refuses.append {reader : Reader Item (Option α)} (h : Refuses reader format)
    (more : List Item) : Refuses reader (format ++ more) := by
  intro rest failed
  rw [List.append_assoc]
  exact h _ failed

theorem Refuses.orReturn {reader : Reader Item (Option α)} (h : Refuses reader format)
    (next : α → Reader Item (Option β)) : Refuses (reader.orReturn none next) format := by
  intro rest failed
  have none := h rest failed
  unfold Reader.orReturn
  split
  · rfl
  · simp_all

theorem Reads.orReturn_refuses {reader : Reader Item (Option α)}
    {next : α → Reader Item (Option β)} (h : Reads reader format (some a))
    (h' : Refuses (next a) format') : Refuses (reader.orReturn none next) (format ++ format') := by
  intro rest failed
  rw [Reader.orReturn, List.append_assoc, h]
  exact h' rest failed

theorem Reads.andThen_refuses {reader : Reader Item α} {next : α → Reader Item (Option β)}
    (h : Reads reader format a) (h' : Refuses (next a) format') :
    Refuses (reader.andThen next) (format ++ format') := by
  intro rest failed
  rw [Reader.andThen, List.append_assoc, h]
  exact h' rest failed

/-- A loop stops at the first round that is refused. -/
theorem Refuses.loop {body : β → Reader Item (Option β)} {write : α → List Item} {f : β → α → β}
    {refused : α → Prop} (reads : ∀ a b, ¬ refused a → Reads (body b) (write a) (some (f b a)))
    (refuses : ∀ a b, refused a → Refuses (body b) (write a)) {as : List α}
    (some : ∃ a ∈ as, refused a) (b : β) :
    Refuses (Reader.loop body as.length b) (as.flatMap write) := by
  induction as generalizing b with
  | nil => simp at some
  | cons a as ih =>
    by_cases here : refused a
    · exact ((refuses a b here).orReturn _).append _
    · obtain ⟨other, mem, there⟩ := some
      have later : other ∈ as := by
        refine List.mem_of_ne_of_mem ?_ mem
        rintro rfl
        exact here there
      exact (reads a b here).orReturn_refuses (ih ⟨other, later, there⟩ (f b a))

end Refuses

end OrderedStore
