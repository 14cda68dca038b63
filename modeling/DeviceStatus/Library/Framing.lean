import Mathlib.Data.List.Basic

/-!
# Packets in a byte stream

A format says how a packet is written and when a packet can be taken off the head of some
bytes. A stream is the concatenation of written packets; of the first `n` bytes of a stream
some packets are complete, and what is left over is the beginning of the next one.

## Main definitions

* `Format` — a prefix-free packet format.
* `Format.split` — take packets off the head of a buffer, at most a given number of them.
* `Format.received`, `Format.pending`, `Format.residue` — the packets that the first `n` bytes
  of a stream complete, those they do not, and the number of bytes left over.
-/

namespace Framing

variable {P β : Type*}

/-- What holds of every element of a list and the elements before it, taken apart at the
head of the list. -/
theorem forall_piece_cons {α : Type*} {Q : List α → α → Prop} {a : α} {l : List α} :
    (∀ before x, before ++ [x] <+: a :: l → Q before x) ↔
      Q [] a ∧ ∀ before x, before ++ [x] <+: l → Q (a :: before) x := by
  constructor
  · intro h
    exact ⟨h [] a (by simp), fun before x hx => h (a :: before) x (by simpa using hx)⟩
  · rintro ⟨first, later⟩ before x hx
    rcases before with _ | ⟨b, before⟩
    · obtain rfl : x = a := by simpa using hx
      exact first
    · obtain ⟨rfl, tail⟩ := List.cons_prefix_cons.mp hx
      exact later before x tail

/-- A packet is taken off exactly when the bytes start with a valid packet as it is written. -/
structure Format (P β : Type*) where
  valid : P → Prop
  encode : P → List β
  decode : List β → Option (P × List β)
  encode_ne_nil : ∀ p, encode p ≠ []
  decode_eq_some : ∀ {bs p rest}, decode bs = some (p, rest) ↔ valid p ∧ bs = encode p ++ rest

namespace Format

variable (fmt : Format P β)

theorem length_encode_pos (p : P) : 0 < (fmt.encode p).length :=
  List.length_pos_iff.mpr (fmt.encode_ne_nil p)

theorem decode_encode {p : P} (h : fmt.valid p) (rest : List β) :
    fmt.decode (fmt.encode p ++ rest) = some (p, rest) :=
  fmt.decode_eq_some.mpr ⟨h, rfl⟩

theorem decode_nil : fmt.decode [] = none := by
  cases decoded : fmt.decode [] with
  | none => rfl
  | some taken =>
    have start := (fmt.decode_eq_some.mp decoded).2
    exact absurd (List.append_eq_nil_iff.mp start.symm).1 (fmt.encode_ne_nil _)

/-- No written packet is the beginning of another one. -/
theorem encode_append_inj {p q : P} {r s : List β} (hp : fmt.valid p) (hq : fmt.valid q)
    (h : fmt.encode p ++ r = fmt.encode q ++ s) : p = q ∧ r = s := by
  have decoded := fmt.decode_encode hp r
  rw [h, fmt.decode_encode hq s] at decoded
  simp only [Option.some.injEq, Prod.mk.injEq] at decoded
  exact ⟨decoded.1.symm, decoded.2.symm⟩

/-- The bytes of some packets, one after another. -/
def stream (ps : List P) : List β := ps.flatMap fmt.encode

@[simp] theorem stream_nil : fmt.stream [] = [] := rfl

@[simp] theorem stream_cons (p : P) (ps : List P) :
    fmt.stream (p :: ps) = fmt.encode p ++ fmt.stream ps := rfl

@[simp] theorem stream_append (ps qs : List P) :
    fmt.stream (ps ++ qs) = fmt.stream ps ++ fmt.stream qs := by
  simp [stream]

/-! ## Taking packets off a buffer -/

/-- The packets at the head of a buffer, at most `limit`, and the bytes after them. -/
def split : Nat → List β → List P × List β
  | 0, bs => ([], bs)
  | limit + 1, bs =>
    match fmt.decode bs with
    | none => ([], bs)
    | some (p, rest) => (p :: (split limit rest).1, (split limit rest).2)

theorem split_of_none {bs : List β} (h : fmt.decode bs = none) (limit : Nat) :
    fmt.split limit bs = ([], bs) := by
  cases limit <;> simp [split, h]

theorem split_of_some {bs rest : List β} {p : P} (h : fmt.decode bs = some (p, rest))
    (limit : Nat) :
    fmt.split (limit + 1) bs = (p :: (fmt.split limit rest).1, (fmt.split limit rest).2) := by
  simp [split, h]

theorem stream_split (limit : Nat) (bs : List β) :
    fmt.stream (fmt.split limit bs).1 ++ (fmt.split limit bs).2 = bs := by
  induction limit generalizing bs with
  | zero => rfl
  | succ limit ih =>
    cases h : fmt.decode bs with
    | none => simp [split_of_none, h]
    | some taken =>
      obtain ⟨p, rest⟩ := taken
      rw [fmt.split_of_some h, stream_cons, List.append_assoc, ih]
      exact (fmt.decode_eq_some.mp h).2.symm

theorem length_split_le (limit : Nat) (bs : List β) : (fmt.split limit bs).1.length ≤ limit := by
  induction limit generalizing bs with
  | zero => simp [split]
  | succ limit ih =>
    cases h : fmt.decode bs with
    | none => simp [split_of_none, h]
    | some taken =>
      rw [fmt.split_of_some h, List.length_cons]
      exact Nat.succ_le_succ (ih taken.2)

/-- Packets are left only when the limit is reached. -/
theorem decode_split_of_lt {limit : Nat} {bs : List β}
    (h : (fmt.split limit bs).1.length < limit) :
    fmt.decode (fmt.split limit bs).2 = none := by
  induction limit generalizing bs with
  | zero => exact absurd h (Nat.not_lt_zero _)
  | succ limit ih =>
    cases decoded : fmt.decode bs with
    | none => rw [fmt.split_of_none decoded, decoded]
    | some taken =>
      obtain ⟨p, rest⟩ := taken
      rw [fmt.split_of_some decoded] at h ⊢
      exact ih (Nat.lt_of_succ_lt_succ h)

theorem length_le_length_stream (ps : List P) : ps.length ≤ (fmt.stream ps).length := by
  induction ps with
  | nil => simp
  | cons p ps ih =>
    have := fmt.length_encode_pos p
    simp only [List.length_cons, stream_cons, List.length_append]
    omega

/-- A limit of the number of bytes is no limit. -/
theorem decode_split_of_length_le {limit : Nat} {bs : List β} (h : bs.length ≤ limit) :
    fmt.decode (fmt.split limit bs).2 = none := by
  have parts := congrArg List.length (fmt.stream_split limit bs)
  have count := fmt.length_le_length_stream (fmt.split limit bs).1
  rw [List.length_append] at parts
  by_cases less : (fmt.split limit bs).1.length < limit
  · exact fmt.decode_split_of_lt less
  · have empty : (fmt.split limit bs).2 = [] := List.length_eq_zero_iff.mp (by omega)
    rw [empty, decode_nil]

/-- From packets with something undecodable after them, `split` takes the packets. -/
theorem split_stream_append {ps : List P} (valid : ∀ p ∈ ps, fmt.valid p) {rest : List β}
    (h : fmt.decode rest = none) {limit : Nat} (fits : ps.length ≤ limit) :
    fmt.split limit (fmt.stream ps ++ rest) = (ps, rest) := by
  induction ps generalizing limit with
  | nil => exact fmt.split_of_none h limit
  | cons p ps ih =>
    obtain ⟨limit, rfl⟩ : ∃ k, limit = k + 1 := ⟨limit - 1, by simp at fits; omega⟩
    have taken : fmt.decode (fmt.stream (p :: ps) ++ rest) = some (p, fmt.stream ps ++ rest) := by
      rw [stream_cons, List.append_assoc]
      exact fmt.decode_encode (valid p (by simp)) _
    rw [fmt.split_of_some taken,
      ih (fun q hq => valid q (by simp [hq])) (by simpa using fits)]

/-- When there are more packets than the limit, the first ones are taken. -/
theorem split_stream_append_of_lt {ps : List P} (valid : ∀ p ∈ ps, fmt.valid p) (rest : List β)
    {limit : Nat} (more : limit ≤ ps.length) :
    fmt.split limit (fmt.stream ps ++ rest) =
      (ps.take limit, fmt.stream (ps.drop limit) ++ rest) := by
  induction limit generalizing ps with
  | zero => simp [split]
  | succ limit ih =>
    cases ps with
    | nil => simp at more
    | cons p ps =>
      have taken : fmt.decode (fmt.stream (p :: ps) ++ rest) =
          some (p, fmt.stream ps ++ rest) := by
        rw [stream_cons, List.append_assoc]
        exact fmt.decode_encode (valid p (by simp)) _
      rw [fmt.split_of_some taken,
        ih (fun q hq => valid q (by simp [hq])) (by simpa using more)]
      simp

/-! ## How far the first bytes of a stream go -/

/-- The packets that the first `n` bytes complete. -/
def received : List P → Nat → List P
  | [], _ => []
  | p :: ps, n =>
    if (fmt.encode p).length ≤ n then p :: received ps (n - (fmt.encode p).length) else []

/-- The packets that the first `n` bytes do not complete. -/
def pending : List P → Nat → List P
  | [], _ => []
  | p :: ps, n =>
    if (fmt.encode p).length ≤ n then pending ps (n - (fmt.encode p).length) else p :: ps

/-- How many of the first `n` bytes belong to the packet that they do not complete. -/
def residue : List P → Nat → Nat
  | [], n => n
  | p :: ps, n =>
    if (fmt.encode p).length ≤ n then residue ps (n - (fmt.encode p).length) else n

theorem received_append_pending (ps : List P) (n : Nat) :
    fmt.received ps n ++ fmt.pending ps n = ps := by
  induction ps generalizing n with
  | nil => rfl
  | cons p ps ih =>
    by_cases h : (fmt.encode p).length ≤ n
    · simp [received, pending, h, ih]
    · simp [received, pending, h]

theorem residue_add (ps : List P) (n : Nat) :
    fmt.residue ps n + (fmt.stream (fmt.received ps n)).length = n := by
  induction ps generalizing n with
  | nil => rfl
  | cons p ps ih =>
    by_cases h : (fmt.encode p).length ≤ n
    · have := ih (n - (fmt.encode p).length)
      simp only [residue, received, h, if_true, stream_cons, List.length_append]
      omega
    · simp [residue, received, h]

/-- The left-over bytes are fewer than the packet they belong to. -/
theorem residue_lt {ps qs : List P} {n : Nat} {p : P} (h : fmt.pending ps n = p :: qs) :
    fmt.residue ps n < (fmt.encode p).length := by
  induction ps generalizing n with
  | nil => simp [pending] at h
  | cons q ps ih =>
    by_cases fits : (fmt.encode q).length ≤ n
    · simp only [pending, residue, fits, if_true] at h ⊢
      exact ih h
    · simp only [pending, residue, fits, if_false, List.cons.injEq] at h ⊢
      obtain ⟨rfl, -⟩ := h
      omega

theorem received_of_lt {p : P} {ps : List P} {n : Nat} (h : n < (fmt.encode p).length) :
    fmt.received (p :: ps) n = [] := by
  rw [received, if_neg (by omega)]

theorem received_pending_residue (ps : List P) (n : Nat) :
    fmt.received (fmt.pending ps n) (fmt.residue ps n) = [] := by
  cases h : fmt.pending ps n with
  | nil => rfl
  | cons p qs => exact fmt.received_of_lt (fmt.residue_lt h)

theorem residue_of_received_nil {ps : List P} {n : Nat} (h : fmt.received ps n = []) :
    fmt.residue ps n = n ∧ fmt.pending ps n = ps := by
  have count := fmt.residue_add ps n
  have parts := fmt.received_append_pending ps n
  rw [h] at count parts
  exact ⟨by simpa using count, by simpa using parts⟩

theorem received_stream (ps : List P) : fmt.received ps (fmt.stream ps).length = ps := by
  induction ps with
  | nil => rfl
  | cons p ps ih =>
    rw [received, if_pos (by simp), stream_cons, List.length_append, Nat.add_sub_cancel_left, ih]

/-- Bytes that come later are bytes for the packets that were pending. -/
theorem parts_add (ps : List P) (m k : Nat) :
    fmt.received ps (m + k) =
        fmt.received ps m ++ fmt.received (fmt.pending ps m) (fmt.residue ps m + k) ∧
      fmt.residue ps (m + k) = fmt.residue (fmt.pending ps m) (fmt.residue ps m + k) ∧
      fmt.pending ps (m + k) = fmt.pending (fmt.pending ps m) (fmt.residue ps m + k) := by
  induction ps generalizing m with
  | nil => exact ⟨rfl, rfl, rfl⟩
  | cons p ps ih =>
    by_cases h : (fmt.encode p).length ≤ m
    · have more : (fmt.encode p).length ≤ m + k := Nat.le_add_right_of_le h
      have rest : m + k - (fmt.encode p).length = m - (fmt.encode p).length + k :=
        Nat.sub_add_comm h
      obtain ⟨received_ih, residue_ih, pending_ih⟩ := ih (m - (fmt.encode p).length)
      simp only [received, pending, residue, h, more, if_true, rest, List.cons_append]
      exact ⟨congrArg (p :: ·) received_ih, residue_ih, pending_ih⟩
    · simp [received, pending, residue, h]

/-- Receiving more bytes completes the packets that were pending. -/
theorem received_add (ps : List P) (m k : Nat) :
    fmt.received ps (m + k) =
      fmt.received ps m ++ fmt.received (fmt.pending ps m) (fmt.residue ps m + k) :=
  (fmt.parts_add ps m k).1

theorem residue_add_bytes (ps : List P) (m k : Nat) :
    fmt.residue ps (m + k) = fmt.residue (fmt.pending ps m) (fmt.residue ps m + k) :=
  (fmt.parts_add ps m k).2.1

theorem pending_add_bytes (ps : List P) (m k : Nat) :
    fmt.pending ps (m + k) = fmt.pending (fmt.pending ps m) (fmt.residue ps m + k) :=
  (fmt.parts_add ps m k).2.2

/-- The packets that the `k` bytes after the first `n` ones complete. -/
def completed (ps : List P) (n k : Nat) : List P :=
  fmt.received (fmt.pending ps n) (fmt.residue ps n + k)

theorem completed_add (ps : List P) (m n k : Nat) :
    fmt.completed ps (m + n) k = fmt.completed (fmt.pending ps m) (fmt.residue ps m + n) k := by
  rw [completed, completed, pending_add_bytes, residue_add_bytes]

/-- A proper beginning of a written packet is not taken for a packet. -/
theorem decode_eq_none_of_prefix {p : P} {bs more : List β} (valid : fmt.valid p)
    (h : bs ++ more = fmt.encode p) (proper : bs.length < (fmt.encode p).length) :
    fmt.decode bs = none := by
  cases decoded : fmt.decode bs with
  | none => rfl
  | some taken =>
    obtain ⟨q, rest⟩ := taken
    obtain ⟨hq, rfl⟩ := fmt.decode_eq_some.mp decoded
    have same : fmt.encode q ++ (rest ++ more) = fmt.encode p ++ [] := by
      rw [← List.append_assoc, h, List.append_nil]
    obtain ⟨-, empty⟩ := fmt.encode_append_inj hq valid same
    have full : more = [] := (List.append_eq_nil_iff.mp empty).2
    rw [full, List.append_nil] at h
    exact absurd proper (by simp [h])

/-- The beginning of a stream is its complete packets and a beginning of the next one. -/
theorem eq_stream_received_append {ps : List P} {bs : List β} (h : bs <+: fmt.stream ps) :
    ∃ tail, bs = fmt.stream (fmt.received ps bs.length) ++ tail ∧
      tail.length = fmt.residue ps bs.length ∧
      tail <+: fmt.stream (fmt.pending ps bs.length) := by
  induction ps generalizing bs with
  | nil =>
    obtain rfl := List.prefix_nil.mp h
    exact ⟨[], by simp [received, residue, pending]⟩
  | cons p ps ih =>
    by_cases fits : (fmt.encode p).length ≤ bs.length
    · obtain ⟨rest, rfl⟩ : fmt.encode p <+: bs :=
        List.prefix_of_prefix_length_le (List.prefix_append _ _) h fits
      have later : rest <+: fmt.stream ps := (List.prefix_append_right_inj _).mp h
      obtain ⟨tail, parts, length, start⟩ := ih later
      refine ⟨tail, ?_, ?_, ?_⟩
      · simpa [received] using parts
      · simpa [residue] using length
      · simpa [pending] using start
    · exact ⟨bs, by simp [received, residue, pending, fits]; exact h⟩

theorem mem_of_mem_received {ps : List P} {n : Nat} {p : P} (h : p ∈ fmt.received ps n) :
    p ∈ ps := by
  rw [← fmt.received_append_pending ps n]
  exact List.mem_append_left _ h

theorem mem_of_mem_pending {ps : List P} {n : Nat} {p : P} (h : p ∈ fmt.pending ps n) :
    p ∈ ps := by
  rw [← fmt.received_append_pending ps n]
  exact List.mem_append_right _ h

/-- What a receiver finds when `bs` starts a stream: the complete packets, then nothing that
can be taken off. -/
theorem split_of_prefix {ps : List P} (valid : ∀ p ∈ ps, fmt.valid p) {bs : List β}
    (h : bs <+: fmt.stream ps) {limit : Nat}
    (fits : (fmt.received ps bs.length).length ≤ limit) :
    ∃ tail, fmt.split limit bs = (fmt.received ps bs.length, tail) ∧
      tail.length = fmt.residue ps bs.length ∧
      tail <+: fmt.stream (fmt.pending ps bs.length) := by
  obtain ⟨tail, parts, length, start⟩ := fmt.eq_stream_received_append h
  refine ⟨tail, ?_, length, start⟩
  have stuck : fmt.decode tail = none := by
    cases rest : fmt.pending ps bs.length with
    | nil =>
      rw [rest] at start
      obtain rfl := List.prefix_nil.mp start
      exact fmt.decode_nil
    | cons p qs =>
      have short : tail.length < (fmt.encode p).length := by
        rw [length]
        exact fmt.residue_lt rest
      rw [rest, stream_cons] at start
      obtain ⟨more, whole⟩ : tail <+: fmt.encode p :=
        List.prefix_of_prefix_length_le start (List.prefix_append _ _) (Nat.le_of_lt short)
      exact fmt.decode_eq_none_of_prefix
        (valid p (fmt.mem_of_mem_pending (rest ▸ List.mem_cons_self))) whole short
  conv_lhs => rw [parts]
  exact fmt.split_stream_append (fun p hp => valid p (fmt.mem_of_mem_received hp)) stuck fits

end Format

end Framing
