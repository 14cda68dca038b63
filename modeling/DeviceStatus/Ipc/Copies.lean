import DeviceStatus.Ipc.Cursor
import DeviceStatus.Ipc.NetPacket

/-!
# Copies of packets

A copy is made by writing what has been written to the original to a clean buffer. So a copy can
be read from its start and has no error, however much of the original has been read and whatever
has failed there; but nothing cannot be written, and a copy of an empty packet has an error. A
packet that is assigned to itself is cleaned before it is copied.

## Main definitions

* `Copying` — the ways of copying a packet.
* `Copying.Faithful` — the copy has the same unread bytes and the same error.
* `Copying.Copyable` — the packets that are copied faithfully.
-/

namespace DeviceStatus.Ipc

open Transition.System

namespace StreamBuffer

/-- `StreamBuffer(const StreamBuffer &)`. -/
def copy (buf : StreamBuffer) : StreamBuffer := (clone buf {}).2

/-- `operator=` to a buffer `b` other than `buffer`. -/
def assign (b buffer : StreamBuffer) : StreamBuffer := (clone buffer b).2

/-- `operator=` to the buffer itself: once it is clean, so is what is copied. -/
def assignSelf (b : StreamBuffer) : StreamBuffer := (b.clean.write b.clean.written).2

/-- What may have happened to a buffer before it is copied. -/
inductive Action : Type 1 where
  | operation (op : Operation)
  | assign (buffer : StreamBuffer)
  | assignSelf

def act : Action → StreamBuffer → StreamBuffer
  | .operation op, b => next op b
  | .assign buffer, b => b.assign buffer
  | .assignSelf, b => b.assignSelf

end StreamBuffer

/-- `NetPacket(const NetPacket &)`. -/
def NetPacket.copy (pkt : NetPacket) : NetPacket :=
  let copied := NetPacket.ofId pkt.msgId
  { copied with toStreamBuffer := (pkt.toStreamBuffer.clone copied.toStreamBuffer).2 }

open StreamBuffer

inductive Copying where
  | construct
  | assign (previous : StreamBuffer)
  | assignSelf
  | constructPacket (msgId : MessageId)

namespace Copying

/-- What a reader of the copy gets is what a reader of the original would have got. -/
structure SameAs (copy p : StreamBuffer) : Prop where
  unread : copy.unread = p.unread
  chkRWError : copy.chkRWError = p.chkRWError

def Faithful (p : StreamBuffer) : Copying → Prop
  | construct => SameAs p.copy p
  | assign previous => SameAs (previous.assign p) p
  | assignSelf => SameAs p.assignSelf p
  | constructPacket msgId =>
    (NetPacket.copy { p with msgId }).msgId = msgId ∧
      SameAs (NetPacket.copy { p with msgId }).toStreamBuffer p

/-- A packet to which nothing has been written and that has an error, or of which nothing has been
read and that has none. Assigned to itself, one that has an error and nothing to be read. -/
def Copyable (p : StreamBuffer) : Copying → Prop
  | assignSelf => p.unread = [] ∧ p.chkRWError = true
  | construct | assign _ | constructPacket _ =>
    p.wPos = 0 ∧ p.chkRWError = true ∨ 0 < p.wPos ∧ p.rPos = 0 ∧ p.chkRWError = false

end Copying

namespace StreamBuffer

variable {b p : StreamBuffer}

/-! ## Nothing written -/

/-- Where nothing has been written, nothing has been read either. -/
def StartsTogether (b : StreamBuffer) : Prop := b.wPos = 0 → b.rPos = 0

namespace StartsTogether

theorem write (h : b.StartsTogether) (buf : List UInt8) : (b.write buf).2.StartsTogether := by
  obtain ⟨fits, -, nonempty, eq⟩ | ⟨-, eq⟩ := write_cases buf b
  · rw [eq]
    intro empty
    have positive : 0 < buf.length := List.length_pos_iff.mpr nonempty
    rw [wPos_append] at empty
    omega
  · rw [eq]
    exact h

theorem read (h : b.StartsTogether) (size : Nat) : (b.read size).2.StartsTogether := by
  obtain ⟨inside, -, positive, small, eq⟩ | ⟨-, eq⟩ := read_cases size b
  · rw [eq]
    intro empty
    -- behind nothing there is no byte, however many are asked for
    have empty : b.wPos = 0 := empty
    have start := h empty
    rw [addInt32_of_mem (by omega) (by omega)] at inside
    omega
  · rw [eq]
    exact h

theorem readString (h : b.StartsTogether) : b.readString.2.StartsTogether := by
  unfold StreamBuffer.readString
  split_ifs with ended inArray
  · exact h
  · intro empty
    have empty : b.wPos = 0 := empty
    exact absurd (by rw [h empty, empty]; rfl) ended
  · exact h

theorem seekReadPos (h : b.StartsTogether) (n : Int) :
    (b.seekReadPos n).2.StartsTogether := by
  unfold StreamBuffer.seekReadPos
  dsimp only
  split
  · exact h
  · next inside =>
    intro empty
    rw [wPos_moveTo] at empty
    rw [rPos_moveTo]
    omega

theorem next (h : b.StartsTogether) (op : Operation) : (next op b).StartsTogether := by
  cases op with
  | reset | clean => exact fun _ => rfl
  | seekReadPos n => exact h.seekReadPos n.toInt
  | readString => exact h.readString
  | getString data =>
    rw [StreamBuffer.next, snd_getString]
    exact h.readString
  | read size => exact h.read size
  | @get T _ data =>
    rw [StreamBuffer.next, snd_get]
    exact h.read _
  | writeString buf | putString buf => exact h.write (buf ++ [0])
  | write buf => exact h.write buf
  | @put T _ data => exact h.write (Bytes.image data)

theorem act (action : Action) (b : StreamBuffer) (h : b.StartsTogether) :
    (act action b).StartsTogether := by
  have clean : b.clean.StartsTogether := fun _ => rfl
  cases action with
  | operation op => exact h.next op
  | assign buffer => exact clean.write _
  | assignSelf => exact clean.write _

end StartsTogether

/-! ## What a copy is -/

/-- Nothing cannot be copied. -/
theorem clone_of_empty (empty : p.wPos = 0) :
    (clone p b).2.unread = [] ∧ (clone p b).2.chkRWError = true := by
  have nothing : p.written = [] := by simp [written, empty]
  rw [clone, nothing, write_of_not_fits (by simp)]
  exact ⟨rfl, rfl⟩

/-- A copy has all that was written to be read, and no error. -/
theorem clone_of_pos (positive : 0 < p.wPos) :
    (clone p b).2.unread = p.written ∧ (clone p b).2.chkRWError = false := by
  have something : p.written ≠ [] := by
    rw [← List.length_pos_iff, length_written]
    exact positive
  have fits : b.clean.wPos + p.written.length ≤ MAX_STREAM_BUF_SIZE := by
    rw [length_written]
    exact (Nat.zero_add p.wPos).trans_le p.wPos_le
  rw [clone, write_of_fits rfl something fits]
  exact ⟨unread_append le_rfl p.written fits, rfl⟩

theorem unread_eq_written_iff (positive : 0 < p.wPos) : p.unread = p.written ↔ p.rPos = 0 := by
  constructor
  · intro same
    have length := congrArg List.length same
    rw [length_unread, length_written, residualSize_eq] at length
    omega
  · intro start
    have whole : p.residualSize = p.wPos := by
      rw [residualSize_eq, start, sub_zero, Int.toNat_natCast]
    rw [unread, written, whole, start]

theorem StartsTogether.unread_eq_nil (h : p.StartsTogether) (empty : p.wPos = 0) :
    p.unread = [] := by
  rw [← List.length_eq_zero_iff, length_unread, residualSize_eq, h empty, empty]
  rfl

theorem sameAs_clone_iff (h : p.StartsTogether) (b : StreamBuffer) :
    Copying.SameAs (clone p b).2 p ↔
      p.wPos = 0 ∧ p.chkRWError = true ∨ 0 < p.wPos ∧ p.rPos = 0 ∧ p.chkRWError = false := by
  obtain empty | positive := p.wPos.eq_zero_or_pos
  · obtain ⟨nothing, error⟩ := clone_of_empty (b := b) empty
    have unread := h.unread_eq_nil empty
    constructor
    · intro same
      exact .inl ⟨empty, same.chkRWError.symm.trans error⟩
    · rintro (⟨-, failed⟩ | ⟨positive, -⟩)
      · exact ⟨nothing.trans unread.symm, error.trans failed.symm⟩
      · omega
  · obtain ⟨everything, ok⟩ := clone_of_pos (b := b) positive
    constructor
    · intro same
      have start := (unread_eq_written_iff positive).mp (same.unread.symm.trans everything)
      exact .inr ⟨positive, start, same.chkRWError.symm.trans ok⟩
    · rintro (⟨empty, -⟩ | ⟨-, start, sound⟩)
      · omega
      · have unread := (unread_eq_written_iff positive).mpr start
        exact ⟨everything.trans unread.symm, ok.trans sound.symm⟩

theorem sameAs_assignSelf_iff :
    Copying.SameAs p.assignSelf p ↔ p.unread = [] ∧ p.chkRWError = true := by
  obtain ⟨nothing, error⟩ := clone_of_empty (p := p.clean) (b := p) rfl
  constructor
  · intro same
    exact ⟨same.unread.symm.trans nothing, same.chkRWError.symm.trans error⟩
  · rintro ⟨unread, failed⟩
    exact ⟨nothing.trans unread.symm, error.trans failed.symm⟩

end StreamBuffer

/-- Of all that can become of a packet, only what is not empty, has not been read and has not
failed is copied, or what is empty and has failed. -/
theorem Copying.faithful_iff_copyable (actions : List Action) (copying : Copying) :
    copying.Faithful (runFrom act {} actions) ↔ copying.Copyable (runFrom act {} actions) := by
  have together : (runFrom act {} actions).StartsTogether :=
    runFrom_invariant (I := StreamBuffer.StartsTogether) StartsTogether.act (fun _ => rfl) actions
  cases copying with
  | construct => exact sameAs_clone_iff together {}
  | assign previous => exact sameAs_clone_iff together previous
  | assignSelf => exact sameAs_assignSelf_iff
  | constructPacket msgId => exact (and_iff_right rfl).trans (sameAs_clone_iff together {})

/-- The copy of a new packet has an error. -/
theorem Copying.new_not_faithful : ¬ Copying.construct.Faithful (runFrom act {} []) := by
  intro same
  exact absurd same.chkRWError (by decide)

end DeviceStatus.Ipc
