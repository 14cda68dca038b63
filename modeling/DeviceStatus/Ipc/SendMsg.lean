import DeviceStatus.Ipc.NetPacket
import DeviceStatus.Library.Transition
import Mathlib.Data.List.TakeDrop

/-!
# Sending packets

`SendMsg` of `socket_session.cpp` and `stream_session.cpp`: a packet is written to the socket by
at most `SEND_RETRY_LIMIT` calls of `send`. What happens to the socket when the calls do not
suffice is left to the caller.

## Main definitions

* `SendAnswer`, `accepted` — what the kernel answers to a `send`, and how far a message gets.
* `SendingSession`, `SendingSession.next` — a session and the bytes on its socket, one call.
* `SendingSession.Whole` — what is expected of an operation.
-/

namespace DeviceStatus.Ipc

open Framing Transition.System

def SEND_RETRY_LIMIT : ℕ := 32

inductive SendAnswer where
  /-- so many bytes were accepted, if there were as many -/
  | count (n : ℕ)
  /-- `EAGAIN`, `EINTR` or `EWOULDBLOCK` -/
  | again
  | error
  deriving DecidableEq

/-- The variables of the loop, and whether it has returned `false`. -/
structure Sending where
  idx : ℕ := 0
  retryCount : ℕ := 0
  failed : Bool := false
  deriving DecidableEq

/-- The loop of `SendMsg`; each round counts as a retry, so `SEND_RETRY_LIMIT` rounds suffice. -/
def sendLoop (answers : ℕ → SendAnswer) (size : ℕ) : ℕ → Sending → Sending
  | 0, st => st
  | rounds + 1, st =>
    if 0 < size - st.idx ∧ st.retryCount < SEND_RETRY_LIMIT then
      let retryCount := st.retryCount + 1
      match answers st.retryCount with
      | .error => { st with retryCount, failed := true }
      | .again => sendLoop answers size rounds { st with retryCount }
      | .count n =>
        sendLoop answers size rounds { st with retryCount, idx := st.idx + min n (size - st.idx) }
    else st

/-- How many bytes of a message the kernel accepts in the first sends, an error ending them. -/
def accepted (answers : ℕ → SendAnswer) (size : ℕ) : ℕ → ℕ
  | 0 => 0
  | sends + 1 =>
    match answers sends with
    | .count n =>
      if ∀ earlier < sends, answers earlier ≠ .error then
        accepted answers size sends + min n (size - accepted answers size sends)
      else accepted answers size sends
    | _ => accepted answers size sends

/-- A session, with what it has written so far. -/
structure SendingSession where
  fd : Int32 := 0
  written : List UInt8 := []
  /-- a packet was begun and not finished -/
  torn : Bool := false
  /-- the packets of the calls that succeeded -/
  delivered : List Packet := []

namespace SendingSession

/-- `SendMsg(const char *, size_t)`: whether it succeeds, and what it writes. -/
def sendBuf (buf : List UInt8) (answers : ℕ → SendAnswer) (s : SendingSession) :
    Bool × List UInt8 :=
  if buf.length = 0 ∨ MAX_PACKET_BUF_SIZE < buf.length then (false, [])
  else if s.fd < 0 then (false, [])
  else
    let st := sendLoop answers buf.length SEND_RETRY_LIMIT {}
    if st.failed then (false, buf.take st.idx)
    else if SEND_RETRY_LIMIT ≤ st.retryCount ∨ buf.length - st.idx ≠ 0 then
      (false, buf.take st.idx)
    else (true, buf.take st.idx)

def sendMsg (pkt : NetPacket) (answers : ℕ → SendAnswer) (s : SendingSession) : Bool × List UInt8 :=
  if pkt.chkRWError then (false, [])
  else match pkt.makeData {} with
    | (false, _) => (false, [])
    | (true, buf) => s.sendBuf buf.written answers

inductive Label where
  | sendMsg (pkt : NetPacket) (answers : ℕ → SendAnswer)
  /-- of `StreamSession` only -/
  | close

def next : Label → SendingSession → SendingSession
  | .sendMsg pkt answers, s =>
    let (ok, bytes) := s.sendMsg pkt answers
    { s with
      written := s.written ++ bytes
      torn := s.torn || (bytes ≠ [] ∧ bytes ≠ pkt.content.encode)
      delivered := if ok then s.delivered ++ [pkt.content] else s.delivered }
  | .close, s => { s with fd := if 0 ≤ s.fd then -1 else s.fd }

/-- A call succeeds exactly if it writes its packet, and writes nothing after a packet that was
not finished. -/
def Whole (l : Label) (s : SendingSession) : Prop :=
  ∀ pkt answers, l = .sendMsg pkt answers →
    ((s.sendMsg pkt answers).1 = true ↔ (s.sendMsg pkt answers).2 = pkt.content.encode) ∧
      (s.torn = true → (s.sendMsg pkt answers).2 = [])

/-- The packet goes to the kernel: it has no error and fits into a buffer, and the session is
open. -/
def Sends (pkt : NetPacket) (s : SendingSession) : Prop :=
  pkt.chkRWError = false ∧ headSize + pkt.wPos ≤ MAX_PACKET_BUF_SIZE ∧ 0 ≤ s.fd

/-- The kernel does not complete a packet with the last send that is allowed, and accepts nothing
more after a packet that was not finished. -/
def InTime (l : Label) (s : SendingSession) : Prop :=
  ∀ pkt answers, l = .sendMsg pkt answers → s.Sends pkt →
    (accepted answers (headSize + pkt.wPos) SEND_RETRY_LIMIT = headSize + pkt.wPos →
      accepted answers (headSize + pkt.wPos) (SEND_RETRY_LIMIT - 1) = headSize + pkt.wPos) ∧
    (s.torn = true → accepted answers (headSize + pkt.wPos) SEND_RETRY_LIMIT = 0)

end SendingSession

section Loop

variable {answers : ℕ → SendAnswer} {size : ℕ}

theorem accepted_le (sends : ℕ) : accepted answers size sends ≤ size := by
  induction sends with
  | zero => exact Nat.zero_le _
  | succ sends ih =>
    simp only [accepted]
    grind

theorem accepted_mono {m n : ℕ} (h : m ≤ n) :
    accepted answers size m ≤ accepted answers size n := by
  induction n, h using Nat.le_induction with
  | base => exact Nat.le_refl _
  | succ n _ ih =>
    simp only [accepted]
    grind

/-- Nothing is accepted after an error. -/
theorem accepted_of_error {error : ℕ} (size m : ℕ) (h : answers error = .error)
    (later : error ≤ m) :
    accepted answers size m = accepted answers size error := by
  induction m, later using Nat.le_induction with
  | base => rfl
  | succ m later ih =>
    simp only [accepted]
    grind

/-- The loop is where the kernel is after as many sends. -/
structure Sending.Follows (answers : ℕ → SendAnswer) (size : ℕ) (st : Sending) : Prop where
  idx : st.idx = accepted answers size st.retryCount
  fine : ∀ earlier < st.retryCount, answers earlier ≠ .error
  within : st.retryCount ≤ SEND_RETRY_LIMIT
  /-- the last send was needed -/
  needed : ∀ sends < st.retryCount, accepted answers size sends < size
  going : st.failed = false

/-- How the loop ends. -/
structure Sending.Ends (answers : ℕ → SendAnswer) (size : ℕ) (st : Sending) : Prop where
  idx : st.idx = accepted answers size SEND_RETRY_LIMIT
  success : (st.failed = false ∧ st.retryCount < SEND_RETRY_LIMIT ∧ st.idx = size) ↔
    accepted answers size (SEND_RETRY_LIMIT - 1) = size

theorem Sending.Follows.next {st : Sending} {idx : ℕ} (h : st.Follows answers size)
    (going : st.idx < size) (room : st.retryCount < SEND_RETRY_LIMIT)
    (fine : answers st.retryCount ≠ .error)
    (moved : idx = accepted answers size (st.retryCount + 1)) :
    Sending.Follows answers size { st with retryCount := st.retryCount + 1, idx } where
  idx := moved
  fine := by
    intro earlier hlt
    rcases Nat.lt_succ_iff_lt_or_eq.mp hlt with before | rfl
    · exact h.fine earlier before
    · exact fine
  within := room
  needed := by
    intro sends hlt
    rcases Nat.lt_succ_iff_lt_or_eq.mp hlt with before | rfl
    · exact h.needed sends before
    · exact h.idx ▸ going
  going := h.going

/-- The loop stops because all is written or because there were too many sends. -/
theorem Sending.Follows.ends {st : Sending} (h : st.Follows answers size)
    (stop : st.idx = size ∨ st.retryCount = SEND_RETRY_LIMIT) : st.Ends answers size := by
  have bound : accepted answers size SEND_RETRY_LIMIT ≤ size := accepted_le _
  have upTo : accepted answers size st.retryCount ≤ accepted answers size SEND_RETRY_LIMIT :=
    accepted_mono h.within
  have idx := h.idx
  by_cases full : st.retryCount = SEND_RETRY_LIMIT
  · have before := h.needed (SEND_RETRY_LIMIT - 1) (by rw [full]; decide)
    refine ⟨by rw [idx, full], ?_⟩
    omega
  · have within := h.within
    have all := stop.resolve_right full
    have last : accepted answers size st.retryCount ≤
        accepted answers size (SEND_RETRY_LIMIT - 1) := accepted_mono (by omega)
    have bound' : accepted answers size (SEND_RETRY_LIMIT - 1) ≤ size := accepted_le _
    refine ⟨by omega, iff_of_true ⟨h.going, by omega, all⟩ (by omega)⟩

theorem sendLoop_ends {rounds : ℕ} {st : Sending} (h : st.Follows answers size)
    (enough : SEND_RETRY_LIMIT ≤ rounds + st.retryCount) :
    (sendLoop answers size rounds st).Ends answers size := by
  have within := h.within
  have upTo : st.idx ≤ size := h.idx ▸ accepted_le _
  induction rounds generalizing st with
  | zero => exact h.ends (.inr (by omega))
  | succ rounds ih =>
    rw [sendLoop]
    split
    next guard =>
      have going : st.idx < size := by omega
      split
      next failed =>
        have stays := fun m later => accepted_of_error size m failed later
        have idx : st.idx = accepted answers size SEND_RETRY_LIMIT :=
          h.idx.trans (stays _ within).symm
        refine ⟨idx, iff_of_false (by simp) ?_⟩
        have := stays (SEND_RETRY_LIMIT - 1) (by omega)
        rw [this, ← h.idx]
        omega
      next again =>
        have moved : st.idx = accepted answers size (st.retryCount + 1) := by
          simp only [accepted, again, h.idx]
        have next := h.next going guard.2 (by simp [again]) moved
        exact ih next (by simp only; omega) next.within upTo
      next n counted =>
        have moved : st.idx + min n (size - st.idx) =
            accepted answers size (st.retryCount + 1) := by
          simp only [accepted, counted, h.idx]
          exact (if_pos h.fine).symm
        have next := h.next going guard.2 (by simp [counted]) moved
        exact ih next (by simp only; omega) next.within (by simp only; omega)
    next stop =>
      exact h.ends (by omega)

theorem follows_start : Sending.Follows answers size {} :=
  ⟨rfl, by simp, Nat.zero_le _, by simp, rfl⟩

end Loop

namespace SendingSession

variable {pkt : NetPacket} {answers : ℕ → SendAnswer} {s : SendingSession} {buf : List UInt8}

theorem sendBuf_spec (answers : ℕ → SendAnswer) (some : buf.length ≠ 0)
    (fits : buf.length ≤ MAX_PACKET_BUF_SIZE) (isOpen : 0 ≤ s.fd) :
    (s.sendBuf buf answers).2 = buf.take (accepted answers buf.length SEND_RETRY_LIMIT) ∧
      ((s.sendBuf buf answers).1 = true ↔
        accepted answers buf.length (SEND_RETRY_LIMIT - 1) = buf.length) := by
  have ends : (sendLoop answers buf.length SEND_RETRY_LIMIT {}).Ends answers buf.length :=
    sendLoop_ends follows_start (by simp)
  have upTo : accepted answers buf.length SEND_RETRY_LIMIT ≤ buf.length := accepted_le _
  rw [← ends.success, ← ends.idx]
  rw [← ends.idx] at upTo
  have fd : ¬ s.fd < 0 := by simpa using isOpen
  simp only [sendBuf, some, Nat.not_lt.mpr fits, fd]
  grind

/-- A packet that is not given to the kernel fails and writes nothing. -/
theorem sendMsg_of_not_sends (h : ¬ s.Sends pkt) : s.sendMsg pkt answers = (false, []) := by
  unfold sendMsg
  split
  next => rfl
  next status =>
  split
  next => rfl
  next buf made =>
  have fits := pkt.makeData_eq_true.mp (by rw [made])
  have closed : s.fd < 0 := by
    by_contra isOpen
    exact h ⟨by simpa using status, fits, by simpa using isOpen⟩
  simp [sendBuf, closed]

theorem sendMsg_spec (answers : ℕ → SendAnswer) (h : s.Sends pkt) :
    (s.sendMsg pkt answers).2 =
        pkt.content.encode.take (accepted answers (headSize + pkt.wPos) SEND_RETRY_LIMIT) ∧
      ((s.sendMsg pkt answers).1 = true ↔
        accepted answers (headSize + pkt.wPos) (SEND_RETRY_LIMIT - 1) = headSize + pkt.wPos) := by
  obtain ⟨status, fits, isOpen⟩ := h
  have made := pkt.makeData_eq_true.mpr fits
  have bytes := NetPacket.written_makeData made
  have length : pkt.content.encode.length = headSize + pkt.wPos := by
    simp [NetPacket.content]
  have sent : s.sendMsg pkt answers = s.sendBuf pkt.content.encode answers := by
    rw [← bytes]
    unfold sendMsg
    split
    next => simp_all
    next => split <;> simp_all
  have some : pkt.content.encode.length ≠ 0 := by
    rw [length, headSize]
    omega
  have spec := sendBuf_spec answers some (by rw [length]; exact fits) isOpen
  rw [length] at spec
  exact sent ▸ spec

/-- A call writes the beginning of its packet. -/
theorem sendMsg_prefix (pkt : NetPacket) (answers : ℕ → SendAnswer) (s : SendingSession) :
    (s.sendMsg pkt answers).2 <+: pkt.content.encode := by
  by_cases h : s.Sends pkt
  · rw [(sendMsg_spec answers h).1]
    exact List.take_prefix _ _
  · simp [sendMsg_of_not_sends h]

/-- A packet of which something is written can be read. -/
theorem valid_of_sendMsg (some : (s.sendMsg pkt answers).2 ≠ []) :
    packetFormat.valid pkt.content := by
  have sends : s.Sends pkt := by
    by_contra h
    exact some (by rw [sendMsg_of_not_sends h])
  have fits := sends.2.1
  simp only [packetFormat_valid, NetPacket.content, StreamBuffer.length_written]
  omega

theorem whole_iff (l : Label) (s : SendingSession) : s.Whole l ↔ s.InTime l := by
  simp only [Whole, InTime]
  apply forall₃_congr
  intro pkt answers _
  by_cases h : s.Sends pkt
  · obtain ⟨bytes, success⟩ := sendMsg_spec answers h
    have length : pkt.content.encode.length = headSize + pkt.wPos := by
      simp [NetPacket.content]
    have bound : accepted answers (headSize + pkt.wPos) SEND_RETRY_LIMIT ≤ headSize + pkt.wPos :=
      accepted_le _
    have later : accepted answers (headSize + pkt.wPos) (SEND_RETRY_LIMIT - 1) ≤
        accepted answers (headSize + pkt.wPos) SEND_RETRY_LIMIT := accepted_mono (by omega)
    have nonempty := Packet.encode_ne_nil pkt.content
    have all : pkt.content.encode.take (accepted answers (headSize + pkt.wPos)
        SEND_RETRY_LIMIT) = pkt.content.encode ↔
        headSize + pkt.wPos ≤ accepted answers (headSize + pkt.wPos) SEND_RETRY_LIMIT := by
      rw [List.take_eq_self_iff, length]
    rw [success, bytes, all, List.take_eq_nil_iff]
    simp only [nonempty, or_false, h, forall_const]
    apply and_congr_left'
    omega
  · have nonempty := Packet.encode_ne_nil pkt.content
    simp [sendMsg_of_not_sends h, h, Ne.symm nonempty]

/-- The bytes on the socket are the packets that were delivered, and the beginning of one more
if a packet was torn. -/
structure Streamed (s : SendingSession) : Prop where
  valid : ∀ p ∈ s.delivered, packetFormat.valid p
  parts : ∃ tail, s.written = packetFormat.stream s.delivered ++ tail ∧
    packetFormat.decode tail = none ∧ (s.torn = false → tail = [])

theorem Streamed.next {l : Label} (h : s.Streamed) (whole : s.Whole l) :
    (next l s).Streamed := by
  cases l with
  | close => exact ⟨h.valid, h.parts⟩
  | sendMsg pkt answers =>
    obtain ⟨success, after⟩ := whole pkt answers rfl
    obtain ⟨tail, written, stuck, clean⟩ := h.parts
    have start := sendMsg_prefix pkt answers s
    have nonempty := Packet.encode_ne_nil pkt.content
    have valid : (s.sendMsg pkt answers).2 ≠ [] → packetFormat.valid pkt.content :=
      valid_of_sendMsg
    obtain ⟨⟨ok, bytes⟩, sent⟩ : ∃ r, s.sendMsg pkt answers = r := ⟨_, rfl⟩
    simp only [sent] at success after start valid
    simp only [SendingSession.next, sent]
    by_cases silent : bytes = []
    · subst silent
      obtain rfl : ok = false := by simpa [Ne.symm nonempty] using success
      exact ⟨h.valid, tail, by simpa using written, stuck, by simpa using clean⟩
    · have intact : s.torn = false := by simpa [silent] using after
      obtain rfl := clean intact
      by_cases full : bytes = pkt.content.encode
      · obtain rfl : ok = true := success.mpr full
        constructor
        · intro p hp
          rcases List.mem_append.mp hp with old | new
          · exact h.valid p old
          · exact List.mem_singleton.mp new ▸ valid silent
        · exact ⟨[], by simp [written, full], packetFormat.decode_nil, fun _ => rfl⟩
      · obtain rfl : ok = false := by simpa [full] using success
        have proper : bytes.length < pkt.content.encode.length := by
          by_contra longer
          exact full (start.eq_of_length_le (Nat.not_lt.mp longer))
        obtain ⟨more, parts⟩ := start
        refine ⟨h.valid, bytes, by simp [written], ?_, by simp [silent, full]⟩
        exact packetFormat.decode_eq_none_of_prefix (valid silent) parts proper

/-- What a receiver takes off the bytes of a run in which the calls write whole packets: the
packets that were delivered, never one that starts inside another. -/
theorem split_written {fd : Int32} {tr : List Label} (whole : EachStep next Whole { fd } tr) :
    ∃ tail, packetFormat.split (runFrom next { fd } tr).delivered.length
        (runFrom next { fd } tr).written = ((runFrom next { fd } tr).delivered, tail) ∧
      packetFormat.decode tail = none := by
  have streamed : (runFrom next { fd } tr).Streamed := by
    refine whole.invariant (I := Streamed) (fun l s h ok => h.next ok) ⟨by simp, [], ?_⟩
    exact ⟨rfl, packetFormat.decode_nil, fun _ => rfl⟩
  obtain ⟨tail, written, stuck, -⟩ := streamed.parts
  refine ⟨tail, ?_, stuck⟩
  rw [written]
  exact packetFormat.split_stream_append streamed.valid stuck le_rfl

/-- In every run the calls write whole packets, but for an incomplete one at the very end, and
succeed for these alone, exactly if the kernel is in time in every step; a receiver then takes the
packets of the calls that succeeded off the bytes. -/
theorem whole_iff_inTime (fd : Int32) (tr : List Label) :
    (EachStep next Whole { fd } tr ↔ EachStep next InTime { fd } tr) ∧
      (EachStep next InTime { fd } tr → ∃ tail,
        packetFormat.split (runFrom next { fd } tr).delivered.length
          (runFrom next { fd } tr).written = ((runFrom next { fd } tr).delivered, tail) ∧
        packetFormat.decode tail = none) := by
  have same : EachStep next Whole { fd } tr ↔ EachStep next InTime { fd } tr :=
    EachStep.iff_of_invariant (I := fun _ => True) (fun _ _ _ _ => trivial)
      (fun l s _ => whole_iff l s) trivial
  exact ⟨same, fun h => split_written (same.mpr h)⟩

/-- A packet that the last send completes is reported as failed, and a packet follows one that was
cut off by an error. -/
theorem packets_not_whole :
    ¬ EachStep next Whole {} [.sendMsg (NetPacket.ofId 1)
      fun send => if send < 31 then .again else .count 8] ∧
    ¬ EachStep next Whole {} [.sendMsg (NetPacket.ofId 1)
      fun send => if send = 0 then .count 4 else .error,
      .sendMsg (NetPacket.ofId 2) fun _ => .count 8] := by
  constructor
  · intro h
    have failed := (h.head _ _ rfl).1
    revert failed
    decide +kernel
  · intro h
    have silent := (h.tail.head _ _ rfl).2
    revert silent
    decide +kernel

end SendingSession

end DeviceStatus.Ipc
