import Mathlib.Data.List.Pairwise
import Mathlib.Tactic.SplitIfs

/-!
# The pieces of a list between delimiters

The pieces of a list are its non-empty stretches without delimiter that cannot be extended, in
order. They are what splitting at the delimiters leaves when the empty parts are dropped.

## Main definitions

* `pieces` — the pieces, by splitting.
* `IsPiece`, `ArePieces` — what pieces are, by their positions in the list.
-/

namespace Pieces

variable {α : Type*} (p : α → Bool)

def pieces (s : List α) : List (List α) := (s.splitOnP p).filter fun piece => !piece.isEmpty

/-- The list from position `i` up to position `j` is a piece. -/
structure IsPiece (s : List α) (i j : ℕ) : Prop where
  nonempty : i < j
  inside : j ≤ s.length
  free : ∀ k a, i ≤ k → k < j → s[k]? = some a → p a = false
  left : i = 0 ∨ ∃ k a, i = k + 1 ∧ s[k]? = some a ∧ p a
  right : j = s.length ∨ ∃ a, s[j]? = some a ∧ p a

/-- The lists are all pieces, each once and in the order of their positions. -/
def ArePieces (s : List α) (out : List (List α)) : Prop :=
  ∃ spans : List (ℕ × ℕ), spans.Pairwise (fun x y => x.2 < y.1) ∧
    (∀ i j, (i, j) ∈ spans ↔ IsPiece p s i j) ∧
    out = spans.map fun span => s.extract span.1 span.2

variable {p} {s a rest : List α} {c : α}

theorem pieces_of_free (free : ∀ x ∈ s, p x = false) :
    pieces p s = if s = [] then [] else [s] := by
  rw [pieces, List.splitOnP_eq_singleton free]
  cases s <;> rfl

/-- The first delimiter ends the first piece, if there is one. -/
theorem pieces_append_cons (free : ∀ x ∈ a, p x = false) (hc : p c) (rest : List α) :
    pieces p (a ++ c :: rest) = (if a = [] then [] else [a]) ++ pieces p rest := by
  rw [pieces, List.splitOnP_append_cons_of_forall_mem free c hc, List.filter_cons]
  cases a <;> rfl

theorem isPiece_of_free (free : ∀ x ∈ s, p x = false) {i j : ℕ} :
    IsPiece p s i j ↔ i = 0 ∧ j = s.length ∧ s ≠ [] := by
  have none {k : ℕ} {a : α} (here : s[k]? = some a) : ¬ p a := by
    simp [free a (List.mem_of_getElem? here)]
  constructor
  · intro h
    have start : i = 0 := h.left.resolve_right fun ⟨_, _, _, here, delimiter⟩ => none here delimiter
    have stop : j = s.length :=
      h.right.resolve_right fun ⟨_, here, delimiter⟩ => none here delimiter
    refine ⟨start, stop, ?_⟩
    rintro rfl
    exact absurd h.nonempty (by simp [start, stop])
  · rintro ⟨rfl, rfl, nonempty⟩
    refine ⟨List.length_pos_iff.mpr nonempty, Nat.le_refl _, ?_, .inl rfl, .inl rfl⟩
    intro k a _ _ here
    exact free a (List.mem_of_getElem? here)

theorem getElem?_append_cons_add (k : ℕ) :
    (a ++ c :: rest)[k + (a.length + 1)]? = rest[k]? := by
  rw [List.getElem?_append_right (by omega), show k + (a.length + 1) - a.length = k + 1 by omega,
    List.getElem?_cons_succ]

theorem length_append_cons : (a ++ c :: rest).length = rest.length + (a.length + 1) := by
  simp only [List.length_append, List.length_cons]
  omega

/-- The pieces behind a delimiter are those of what is behind it. -/
theorem isPiece_behind (hc : p c) {i j : ℕ} :
    IsPiece p (a ++ c :: rest) (i + (a.length + 1)) (j + (a.length + 1)) ↔ IsPiece p rest i j := by
  constructor
  · intro h
    refine ⟨?_, ?_, ?_, ?_, ?_⟩
    · have := h.nonempty
      omega
    · have := h.inside
      rw [length_append_cons] at this
      omega
    · intro k b ge lt here
      rw [← getElem?_append_cons_add (a := a) (c := c)] at here
      exact h.free _ b (by omega) (by omega) here
    · cases i with
      | zero => exact .inl rfl
      | succ i =>
        obtain ⟨k, b, before, here, delimiter⟩ := h.left.resolve_left (by omega)
        obtain rfl : k = i + (a.length + 1) := by omega
        rw [getElem?_append_cons_add] at here
        exact .inr ⟨i, b, rfl, here, delimiter⟩
    · refine h.right.imp (fun whole => ?_) fun stop => ?_
      · rw [length_append_cons] at whole
        omega
      · rwa [getElem?_append_cons_add] at stop
  · intro h
    refine ⟨?_, ?_, ?_, ?_, ?_⟩
    · have := h.nonempty
      omega
    · have := h.inside
      rw [length_append_cons]
      omega
    · intro k b ge lt here
      obtain ⟨k, rfl⟩ : ∃ k', k = k' + (a.length + 1) := ⟨k - (a.length + 1), by omega⟩
      rw [getElem?_append_cons_add] at here
      exact h.free k b (by omega) (by omega) here
    · right
      rcases h.left with zero | ⟨k, b, rfl, here, delimiter⟩
      · exact ⟨a.length, c, by omega, by simp, hc⟩
      · refine ⟨k + (a.length + 1), b, by omega, ?_, delimiter⟩
        rwa [getElem?_append_cons_add]
    · refine h.right.imp (fun whole => ?_) fun stop => ?_
      · rw [length_append_cons]
        omega
      · rwa [getElem?_append_cons_add]

/-- A piece lies before the first delimiter or behind it. -/
theorem isPiece_append_cons (free : ∀ x ∈ a, p x = false) (hc : p c) {i j : ℕ} :
    IsPiece p (a ++ c :: rest) i j ↔
      (i = 0 ∧ j = a.length ∧ a ≠ []) ∨
        ∃ i' j', i = i' + (a.length + 1) ∧ j = j' + (a.length + 1) ∧ IsPiece p rest i' j' := by
  have before {k : ℕ} {b : α} (lt : k < a.length) (here : (a ++ c :: rest)[k]? = some b) :
      ¬ p b := by
    rw [List.getElem?_append_left lt] at here
    simp [free b (List.mem_of_getElem? here)]
  constructor
  · intro h
    have nonempty := h.nonempty
    by_cases first : j ≤ a.length
    · have start : i = 0 := h.left.resolve_right fun ⟨_, _, _, here, delimiter⟩ =>
        before (by omega) here delimiter
      have stop : j = a.length := by
        rcases h.right with whole | ⟨b, here, delimiter⟩
        · rw [length_append_cons] at whole
          omega
        · by_contra other
          exact before (by omega) here delimiter
      refine .inl ⟨start, stop, ?_⟩
      rintro rfl
      simp at stop
      omega
    · have later : a.length < i := by
        by_contra notLater
        have := h.free a.length c (by omega) (by omega) (by simp)
        simp [hc] at this
      obtain ⟨i, rfl⟩ : ∃ i', i = i' + (a.length + 1) := ⟨i - (a.length + 1), by omega⟩
      obtain ⟨j, rfl⟩ : ∃ j', j = j' + (a.length + 1) := ⟨j - (a.length + 1), by omega⟩
      exact .inr ⟨i, j, rfl, rfl, (isPiece_behind hc).mp h⟩
  · rintro (⟨rfl, rfl, nonempty⟩ | ⟨i, j, rfl, rfl, h⟩)
    · refine ⟨List.length_pos_iff.mpr nonempty, ?_, ?_, .inl rfl, .inr ⟨c, by simp, hc⟩⟩
      · rw [length_append_cons]
        omega
      · intro k b _ lt here
        simpa using before lt here
    · exact (isPiece_behind hc).mpr h

theorem arePieces_of_free (free : ∀ x ∈ s, p x = false) :
    ArePieces p s (if s = [] then [] else [s]) := by
  refine ⟨if s = [] then [] else [(0, s.length)], ?_, ?_, ?_⟩
  · split_ifs <;> simp
  · intro i j
    rw [isPiece_of_free free]
    split_ifs with empty <;> simp [empty]
  · split_ifs <;> simp

theorem arePieces_append_cons (free : ∀ x ∈ a, p x = false) (hc : p c) {out : List (List α)}
    (h : ArePieces p rest out) :
    ArePieces p (a ++ c :: rest) ((if a = [] then [] else [a]) ++ out) := by
  obtain ⟨spans, sorted, mem, rfl⟩ := h
  let shift (span : ℕ × ℕ) : ℕ × ℕ := (span.1 + (a.length + 1), span.2 + (a.length + 1))
  have later : (spans.map shift).Pairwise fun x y => x.2 < y.1 := by
    refine List.pairwise_map.mpr (sorted.imp ?_)
    intro x y lt
    simp only [shift]
    omega
  have behind : (spans.map shift).map (fun span => (a ++ c :: rest).extract span.1 span.2) =
      spans.map fun span => rest.extract span.1 span.2 := by
    rw [List.map_map]
    refine List.map_congr_left fun span _ => ?_
    have start : a ++ c :: rest = (a ++ [c]) ++ rest := by simp
    simp only [Function.comp_apply, shift, List.extract_eq_take_drop, Nat.add_sub_add_right]
    rw [start, List.drop_append, List.drop_of_length_le (by simp), List.nil_append]
    simp
  refine ⟨(if a = [] then [] else [(0, a.length)]) ++ spans.map shift, ?_, ?_, ?_⟩
  · refine List.pairwise_append.mpr ⟨?_, later, ?_⟩
    · split_ifs <;> simp
    · intro x first y mem
      obtain ⟨span, _, rfl⟩ := List.mem_map.mp mem
      split_ifs at first <;> simp at first
      simp only [first, shift]
      omega
  · intro i j
    rw [isPiece_append_cons free hc, List.mem_append, List.mem_map]
    refine or_congr ?_ ?_
    · split_ifs with empty <;> simp [empty]
    · constructor
      · rintro ⟨⟨i', j'⟩, listed, same⟩
        simp only [shift, Prod.mk.injEq] at same
        exact ⟨i', j', same.1.symm, same.2.symm, (mem i' j').mp listed⟩
      · rintro ⟨i', j', rfl, rfl, piece⟩
        exact ⟨(i', j'), (mem i' j').mpr piece, rfl⟩
  · rw [List.map_append, behind]
    split_ifs <;> simp

/-- A list has no delimiter, or a first one. -/
theorem free_or_first (p : α → Bool) (s : List α) :
    (∀ x ∈ s, p x = false) ∨
      ∃ a c rest, s = a ++ c :: rest ∧ (∀ x ∈ a, p x = false) ∧ p c := by
  induction s with
  | nil => exact .inl (by simp)
  | cons x s ih =>
    by_cases delimiter : p x
    · exact .inr ⟨[], x, s, rfl, by simp, delimiter⟩
    · rcases ih with free | ⟨a, c, rest, rfl, free, hc⟩
      · exact .inl (by simpa [delimiter] using free)
      · exact .inr ⟨x :: a, c, rest, rfl, by simpa [delimiter] using free, hc⟩

theorem exists_eq_append_of_findIdx? {seat : ℕ} (h : s.findIdx? p = some seat) :
    ∃ a c rest, s = a ++ c :: rest ∧ (∀ x ∈ a, p x = false) ∧ p c ∧ seat = a.length := by
  rcases free_or_first p s with free | ⟨a, c, rest, rfl, free, hc⟩
  · rw [List.findIdx?_eq_none_iff.mpr free] at h
    cases h
  · refine ⟨a, c, rest, rfl, free, hc, ?_⟩
    rw [List.findIdx?_append, List.findIdx?_eq_none_iff.mpr free] at h
    simpa [List.findIdx?_cons, hc] using h.symm

/-- The first delimiter of either kind is the nearer one of the two. -/
theorem findIdx?_or (p q : α → Bool) (s : List α) :
    s.findIdx? (fun c => p c || q c) =
      (s.findIdx? q).elim (s.findIdx? p) fun second =>
        some ((s.findIdx? p).elim second fun first => min first second) := by
  induction s with
  | nil => rfl
  | cons c s ih =>
    simp only [List.findIdx?_cons, ih]
    cases p c <;> cases q c <;> cases s.findIdx? p <;> cases s.findIdx? q <;> simp

/-- Splitting and dropping the empty parts leaves the pieces. -/
theorem arePieces_pieces (p : α → Bool) (s : List α) : ArePieces p s (pieces p s) := by
  induction n : s.length using Nat.strongRecOn generalizing s with
  | _ n ih =>
    rcases free_or_first p s with free | ⟨a, c, rest, rfl, free, hc⟩
    · rw [pieces_of_free free]
      exact arePieces_of_free free
    · rw [pieces_append_cons free hc]
      rw [length_append_cons] at n
      exact arePieces_append_cons free hc (ih rest.length (by omega) rest rfl)

end Pieces
