import Mathlib.Data.List.Basic

/-!
# Histories that are read page by page

A source holds records in the order of their times.  It answers a query for a window with the first
records of it: so many at least, or all.  A reader that goes on right after the last record of each
page has read the window up to its cursor: `Collected.next`.
-/

namespace Paging

variable {ρ : Type} {time : ρ → Int} {history page collected : List ρ} {last : ρ}
  {start cursor stop : Int} {size : Nat}

/-- The records between two times, both included. -/
def window (time : ρ → Int) (history : List ρ) (start stop : Int) : List ρ :=
  history.filter fun record => start ≤ time record ∧ time record ≤ stop

/-- The records of a history are in the order of their times, one at a time. -/
def Ordered (time : ρ → Int) (history : List ρ) : Prop :=
  history.Pairwise (time · < time ·)

/-- The first of some records, so many at least or all. -/
structure IsPage (size : Nat) (records page : List ρ) : Prop where
  first : ∃ rest, records = page ++ rest
  full : size ≤ page.length ∨ page = records

/-- What was read of a window up to a cursor. -/
structure Collected (time : ρ → Int) (history : List ρ) (start cursor stop : Int)
    (collected : List ρ) : Prop where
  later : start ≤ cursor
  split : window time history start stop = collected ++ window time history cursor stop

theorem mem_window {record : ρ} :
    record ∈ window time history start stop ↔
      record ∈ history ∧ start ≤ time record ∧ time record ≤ stop := by
  rw [window, List.mem_filter, decide_eq_true_iff]

/-- A later window is what is left of an earlier one. -/
theorem window_of_le (le : start ≤ cursor) :
    window time history cursor stop =
      (window time history start stop).filter fun record => cursor ≤ time record := by
  rw [window, window, List.filter_filter]
  refine List.filter_congr fun record _ => ?_
  rw [← Bool.decide_and, decide_eq_decide]
  omega

/-- After the last record of the first ones of a window come the others. -/
theorem window_after (ordered : Ordered time history) {rest : List ρ}
    (split : window time history cursor stop = page ++ rest) (isLast : page.getLast? = some last) :
    cursor ≤ time last ∧ time last ≤ stop ∧ window time history (time last + 1) stop = rest := by
  rcases List.getLast?_eq_some_iff.mp isLast with ⟨earlier, rfl⟩
  have within : last ∈ window time history cursor stop := by simp [split]
  have sorted : ((earlier ++ [last]) ++ rest).Pairwise (time · < time ·) :=
    split ▸ ordered.filter _
  rcases List.pairwise_append.mp sorted with ⟨front, -, across⟩
  rcases mem_window.mp within with ⟨-, after, before⟩
  refine ⟨after, before, ?_⟩
  rw [window_of_le (by omega : cursor ≤ time last + 1), split, List.filter_append]
  have read : (earlier ++ [last]).filter (fun record => time last + 1 ≤ time record) = [] := by
    rw [List.filter_eq_nil_iff]
    intro record mem
    have upTo : time record ≤ time last := by
      rcases List.mem_append.mp mem with mem | mem
      · exact Int.le_of_lt ((List.pairwise_append.mp front).2.2 record mem last List.mem_cons_self)
      · exact Int.le_of_eq (congrArg time (List.mem_singleton.mp mem))
    rw [decide_eq_true_iff]
    omega
  have left : rest.filter (fun record => time last + 1 ≤ time record) = rest := by
    rw [List.filter_eq_self]
    intro record mem
    have later := across last (by simp) record mem
    rw [decide_eq_true_iff]
    omega
  rw [read, left, List.nil_append]

theorem Collected.none : Collected time history start start stop [] where
  later := Int.le_refl _
  split := (List.nil_append _).symm

/-- **The next page.**  Right after it, the reader has read it too. -/
theorem Collected.next (read : Collected time history start cursor stop collected)
    (ordered : Ordered time history) (isPage : IsPage size (window time history cursor stop) page)
    (isLast : page.getLast? = some last) :
    cursor ≤ time last ∧ time last ≤ stop ∧
      Collected time history start (time last + 1) stop (collected ++ page) := by
  rcases isPage.first with ⟨rest, split⟩
  rcases window_after ordered split isLast with ⟨after, before, left⟩
  have later := read.later
  refine ⟨after, before, by omega, ?_⟩
  rw [read.split, split, left, List.append_assoc]

/-- A page is empty only when nothing is left. -/
theorem IsPage.nil {records : List ρ} (isPage : IsPage size records []) (positive : 0 < size) :
    records = [] := by
  rcases isPage.full with full | all
  · rw [List.length_nil] at full
    omega
  · exact all.symm

/-- The first records of a source are a page of them. -/
theorem isPage_take (size : Nat) (records : List ρ) : IsPage size records (records.take size) where
  first := ⟨records.drop size, (List.take_append_drop size records).symm⟩
  full := by
    rcases Nat.le_total size records.length with enough | few
    · exact .inl (Nat.le_of_eq (List.length_take_of_le enough).symm)
    · exact .inr (List.take_of_length_le few)

/-- Past the end of a window nothing is left. -/
theorem window_eq_nil (past : stop < start) : window time history start stop = [] := by
  rw [window, List.filter_eq_nil_iff]
  intro record _
  rw [decide_eq_true_iff]
  omega

end Paging
