import Mathlib.Data.List.Basic
import Mathlib.Data.List.Forall2
import Mathlib.Data.List.Induction

/-!
# Hash-linked sequences

Records with a sequence number, a hash and the hash of their predecessor.  `IsChainFrom n h` says
that a list of records is numbered from `n` on without a gap and linked from `h` on.

* `isChainFrom_append`, `isChainFrom_concat`: how chains compose and grow.
* `mem_seq_bounds`, `exists_of_seq`, `eq_of_seq`: a chain holds exactly one record for each number.
* `concat_of_new_successor`: what a table keyed by the number lets in continues the chain.
* `forall₂_of_lastHash_eq`: where equal hashes mean equal contents, two chains from the same start
  that end in the same hash have the same contents throughout.
-/

namespace HashChain

/-- The fields of a record that chain it to its predecessor. -/
structure Link (E H : Type) : Type where
  seq : E → Nat
  previous : E → H
  hash : E → H

variable {E H : Type} (link : Link E H)

/-- Numbered from `n` on and linked from the hash `h` on. -/
def IsChainFrom : Nat → H → List E → Prop
  | _, _, [] => True
  | n, h, e :: rest =>
    link.seq e = n ∧ link.previous e = h ∧ IsChainFrom (n + 1) (link.hash e) rest

/-- The hash a chain ends in, which is the one it starts from when it is empty. -/
def lastHash (h : H) (es : List E) : H := (es.getLast?.map link.hash).getD h

variable {link} {n : Nat} {h : H} {e : E} {es fs : List E}

@[simp] theorem isChainFrom_nil : IsChainFrom link n h [] := trivial

@[simp] theorem lastHash_nil : lastHash link h [] = h := rfl

@[simp] theorem lastHash_concat : lastHash link h (es ++ [e]) = link.hash e := by
  simp [lastHash]

theorem lastHash_cons : lastHash link h (e :: es) = lastHash link (link.hash e) es := by
  cases es with
  | nil => rfl
  | cons f fs => simp [lastHash, List.getLast?_cons]

/-- Two chains compose when the second starts where the first ends. -/
theorem isChainFrom_append :
    IsChainFrom link n h (es ++ fs) ↔
      IsChainFrom link n h es ∧ IsChainFrom link (n + es.length) (lastHash link h es) fs := by
  induction es generalizing n h with
  | nil => simp
  | cons e es ih =>
    rw [List.cons_append, lastHash_cons, List.length_cons]
    simp only [IsChainFrom, ih, and_assoc]
    rw [show n + 1 + es.length = n + (es.length + 1) by omega]

/-- A chain grows by exactly the record that continues it. -/
theorem isChainFrom_concat :
    IsChainFrom link n h (es ++ [e]) ↔
      IsChainFrom link n h es ∧ link.seq e = n + es.length ∧
        link.previous e = lastHash link h es := by
  simp [isChainFrom_append, IsChainFrom]

/-- The numbers of a chain are the ones from its start up to its length. -/
theorem mem_seq_bounds (chain : IsChainFrom link n h es) (mem : e ∈ es) :
    n ≤ link.seq e ∧ link.seq e < n + es.length := by
  induction es generalizing n h with
  | nil => cases mem
  | cons f es ih =>
    obtain ⟨seq, -, rest⟩ := chain
    rw [List.length_cons]
    rcases List.mem_cons.mp mem with rfl | mem
    · omega
    · have := ih rest mem
      omega

/-- Every number up to the length of the chain has its record. -/
theorem exists_of_seq (chain : IsChainFrom link n h es) {k : Nat} (low : n ≤ k)
    (high : k < n + es.length) : ∃ e ∈ es, link.seq e = k := by
  induction es generalizing n h with
  | nil => simp at high; omega
  | cons f es ih =>
    obtain ⟨seq, -, rest⟩ := chain
    rcases Nat.eq_or_lt_of_le low with rfl | below
    · exact ⟨f, List.mem_cons_self, seq⟩
    · obtain ⟨e, mem, found⟩ := ih rest below (by rw [List.length_cons] at high; omega)
      exact ⟨e, List.mem_cons_of_mem _ mem, found⟩

/-- A number names one record of the chain. -/
theorem eq_of_seq (chain : IsChainFrom link n h es) {a b : E} (memA : a ∈ es) (memB : b ∈ es)
    (same : link.seq a = link.seq b) : a = b := by
  induction es generalizing n h with
  | nil => cases memA
  | cons f es ih =>
    obtain ⟨seq, -, rest⟩ := chain
    rcases List.mem_cons.mp memA with firstA | restA <;>
      rcases List.mem_cons.mp memB with firstB | restB
    · rw [firstA, firstB]
    · have := (mem_seq_bounds rest restB).1
      rw [firstA] at same
      omega
    · have := (mem_seq_bounds rest restA).1
      rw [firstB] at same
      omega
    · exact ih rest restA restB

/-- The numbers of a chain ascend. -/
theorem pairwise_seq (chain : IsChainFrom link n h es) :
    es.Pairwise fun a b => link.seq a < link.seq b := by
  induction es generalizing n h with
  | nil => exact .nil
  | cons f es ih =>
    obtain ⟨seq, -, rest⟩ := chain
    refine List.pairwise_cons.mpr ⟨fun e mem => ?_, ih rest⟩
    have := (mem_seq_bounds rest mem).1
    omega

/-- Changing a record where the link does not look leaves the chain. -/
theorem isChainFrom_map {f : E → E} (seq : ∀ e, link.seq (f e) = link.seq e)
    (previous : ∀ e, link.previous (f e) = link.previous e)
    (hash : ∀ e, link.hash (f e) = link.hash e) :
    IsChainFrom link n h (es.map f) ↔ IsChainFrom link n h es := by
  induction es generalizing n h with
  | nil => simp
  | cons e es ih =>
    rw [List.map_cons, IsChainFrom, IsChainFrom, seq, previous, hash, ih]

/-- The last record of a chain has the highest number, and its hash is the chain's. -/
theorem getLast?_spec (chain : IsChainFrom link n h es) (last : es.getLast? = some e) :
    link.seq e + 1 = n + es.length ∧ lastHash link h es = link.hash e := by
  obtain ⟨front, rfl⟩ := List.getLast?_eq_some_iff.mp last
  obtain ⟨-, seq, -⟩ := isChainFrom_concat.mp chain
  refine ⟨?_, lastHash_concat⟩
  rw [seq, List.length_append, List.length_singleton]
  omega

/-- A record that starts a chain or follows one of its records, and whose number is still free,
continues the chain. -/
theorem concat_of_new_successor (chain : IsChainFrom link n h es)
    (follows : (link.seq e = n ∧ link.previous e = h) ∨
      ∃ before ∈ es, link.seq e = link.seq before + 1 ∧ link.previous e = link.hash before)
    (free : ∀ other ∈ es, link.seq other ≠ link.seq e) : IsChainFrom link n h (es ++ [e]) := by
  have notBelow : ∀ k, n ≤ k → link.seq e = k → n + es.length ≤ k := by
    intro k low same
    by_contra inside
    obtain ⟨other, mem, taken⟩ := exists_of_seq chain low (Nat.not_le.mp inside)
    exact free other mem (taken.trans same.symm)
  rw [isChainFrom_concat]
  rcases follows with ⟨seq, previous⟩ | ⟨before, mem, seq, previous⟩
  · have short := notBelow n (Nat.le_refl n) seq
    obtain rfl : es = [] := List.eq_nil_of_length_eq_zero (by omega)
    exact ⟨chain, by simpa using seq, by simpa using previous⟩
  · obtain ⟨low, high⟩ := mem_seq_bounds chain mem
    have full := notBelow _ (by omega) seq
    obtain ⟨last, isLast⟩ : ∃ last, es.getLast? = some last :=
      ⟨es.getLast (List.ne_nil_of_mem mem), List.getLast?_eq_some_getLast _⟩
    obtain ⟨lastSeq, lastHash⟩ := getLast?_spec chain isLast
    have same : before = last :=
      eq_of_seq chain mem (List.mem_of_getLast? isLast) (by omega)
    exact ⟨chain, by omega, by rw [previous, lastHash, same]⟩

/-- **Determined by the last hash.**  When records with equal hashes agree, including in number
and in predecessor, two non-empty chains that end in the same hash and start at the same number
agree record by record. -/
theorem forall₂_of_lastHash_eq {Agree : E → E → Prop} {h' : H} {es es' : List E}
    (determined : ∀ a ∈ es, ∀ b ∈ es', link.hash a = link.hash b → Agree a b)
    (sameSeq : ∀ a b, Agree a b → link.seq a = link.seq b)
    (samePrevious : ∀ a b, Agree a b → link.previous a = link.previous b)
    (chain : IsChainFrom link n h es) (chain' : IsChainFrom link n h' es')
    (nonempty : es ≠ []) (nonempty' : es' ≠ [])
    (same : lastHash link h es = lastHash link h' es') :
    List.Forall₂ Agree es es' := by
  induction es using List.reverseRecOn generalizing es' with
  | nil => exact absurd rfl nonempty
  | append_singleton front e ih =>
    obtain ⟨front', e', rfl⟩ : ∃ front' e', es' = front' ++ [e'] :=
      ⟨es'.dropLast, es'.getLast nonempty', (List.dropLast_append_getLast nonempty').symm⟩
    rw [lastHash_concat, lastHash_concat] at same
    have agree : Agree e e' := determined e (by simp) e' (by simp) same
    obtain ⟨chainFront, seq, previous⟩ := isChainFrom_concat.mp chain
    obtain ⟨chainFront', seq', previous'⟩ := isChainFrom_concat.mp chain'
    have sameLength : front.length = front'.length := by
      have := sameSeq e e' agree
      omega
    refine List.rel_append ?_ (List.Forall₂.cons agree .nil)
    rcases List.eq_nil_or_concat front with rfl | ⟨init, last, rfl⟩
    · obtain rfl : front' = [] := List.eq_nil_of_length_eq_zero sameLength.symm
      exact .nil
    · refine ih ?_ chainFront chainFront' (by simp) ?_ ?_
      · intro a memA b memB
        exact determined a (List.mem_append_left _ memA) b (List.mem_append_left _ memB)
      · rintro rfl
        simp at sameLength
      · rw [← previous, ← previous']
        exact samePrevious e e' agree

end HashChain
