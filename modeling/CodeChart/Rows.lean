/-!
# Rows in ascending order of code

A table of the code chart is an array of rows.  Each row starts at a code and holds until the next
row starts.  `rank` counts the rows that start at or before a code, by halving; `floor?` is the row
that holds there.

Without any assumption on the order, `rank` stops where the row before it starts at or before the
code and the row at it, if there is one, starts after the code (`rank_cut`).  In an ascending table
there is one such place, and the row before it is the last one that starts at or before the code
(`floor?_eq_getLast?_started`).
-/

namespace CodeChart.Rows

variable {α : Type}

/-- Halves the stretch from `lo` to `hi`, at most as many times as the first number says.  The row
before `lo` starts at or before `code`, the row at `hi` starts after it. -/
def rankBetween (first : α → Nat) (rows : Array α) (code : Nat) : Nat → Nat → Nat → Nat
  | 0, lo, _ => lo
  | steps + 1, lo, hi =>
    if lo < hi then
      let mid := (lo + hi) / 2
      match rows[mid]? with
      | none => lo
      | some row =>
        if first row ≤ code then rankBetween first rows code steps (mid + 1) hi
        else rankBetween first rows code steps lo mid
    else lo

/-- The number of rows that start at or before `code`. -/
def rank (first : α → Nat) (rows : Array α) (code : Nat) : Nat :=
  rankBetween first rows code rows.size 0 rows.size

/-- The row that holds at `code`: the last one that starts at or before it. -/
def floor? (first : α → Nat) (rows : Array α) (code : Nat) : Option α :=
  match rank first rows code with
  | 0 => none
  | before + 1 => rows[before]?

/-! ## Where the search stops -/

/-- The search keeps what it was given about both ends, and ends where they meet. -/
theorem rankBetween_cut (first : α → Nat) (rows : Array α) (code steps lo hi : Nat)
    (enough : hi - lo ≤ steps) (ordered : lo ≤ hi) (bounded : hi ≤ rows.size)
    (low : ∀ before row, lo = before + 1 → rows[before]? = some row → first row ≤ code)
    (high : ∀ row, rows[hi]? = some row → code < first row) :
    let found := rankBetween first rows code steps lo hi
    (∀ before row, found = before + 1 → rows[before]? = some row → first row ≤ code) ∧
      ∀ row, rows[found]? = some row → code < first row := by
  induction steps generalizing lo hi with
  | zero =>
    obtain rfl : lo = hi := by omega
    exact ⟨low, high⟩
  | succ steps ih =>
    by_cases apart : lo < hi
    · have inside : (lo + hi) / 2 < rows.size := by omega
      simp only [rankBetween, if_pos apart, Array.getElem?_eq_getElem inside]
      split
      · next starts =>
        refine ih _ _ (by omega) (by omega) bounded ?_ high
        intro before row eq found
        obtain rfl : (lo + hi) / 2 = before := by omega
        rw [Array.getElem?_eq_getElem inside] at found
        exact Option.some.inj found ▸ starts
      · next starts =>
        refine ih _ _ (by omega) (by omega) (by omega) low ?_
        intro row found
        rw [Array.getElem?_eq_getElem inside] at found
        exact Option.some.inj found ▸ Nat.lt_of_not_le starts
    · obtain rfl : lo = hi := by omega
      simpa only [rankBetween, if_neg apart] using And.intro low high

/-- The rank lies between a row that starts at or before the code and one that starts after it. -/
theorem rank_cut (first : α → Nat) (rows : Array α) (code : Nat) :
    (∀ before row, rank first rows code = before + 1 → rows[before]? = some row →
      first row ≤ code) ∧
    ∀ row, rows[rank first rows code]? = some row → code < first row :=
  rankBetween_cut first rows code rows.size 0 rows.size (by omega) (by omega) (Nat.le_refl _)
    (by intros; omega) (by simp)

/-- The row found is a row of the table. -/
theorem mem_of_floor? {first : α → Nat} {rows : Array α} {code : Nat} {row : α}
    (h : floor? first rows code = some row) : row ∈ rows := by
  unfold floor? at h
  split at h
  · simp at h
  · exact Array.mem_of_getElem? h

/-! ## Ascending tables -/

/-- Each row starts before the later ones. -/
def Ascending (first : α → Nat) (rows : Array α) : Prop :=
  rows.toList.Pairwise fun row later => first row < first later

/-- The rows that start at or before a code. -/
def started (first : α → Nat) (rows : Array α) (code : Nat) : List α :=
  rows.toList.filter fun row => first row ≤ code

/-- The search does not go beyond its upper end. -/
theorem rankBetween_le (first : α → Nat) (rows : Array α) (code steps lo hi : Nat)
    (ordered : lo ≤ hi) : rankBetween first rows code steps lo hi ≤ hi := by
  induction steps generalizing lo hi with
  | zero => exact ordered
  | succ steps ih =>
    by_cases apart : lo < hi
    · simp only [rankBetween, if_pos apart]
      split
      · exact ordered
      · split
        · exact ih _ _ (by omega)
        · exact Nat.le_trans (ih lo _ (by omega)) (by omega)
    · simpa only [rankBetween, if_neg apart] using ordered

variable {first : α → Nat} {rows : Array α}

/-- In an ascending table the rows in front of the rank are the ones that start at or before the
code. -/
theorem started_eq_take_rank (ascending : Ascending first rows) (code : Nat) :
    started first rows code = rows.toList.take (rank first rows code) := by
  obtain ⟨low, high⟩ := rank_cut first rows code
  have inside : rank first rows code ≤ rows.toList.length :=
    rankBetween_le first rows code _ _ _ (Nat.zero_le _)
  generalize rank first rows code = rank at low high inside
  simp only [← Array.getElem?_toList] at low high
  have order := List.pairwise_iff_getElem.1 ascending
  have front : ∀ row ∈ rows.toList.take rank, decide (first row ≤ code) = true := by
    intro row mem
    obtain ⟨i, lt, rfl⟩ := List.mem_take_iff_getElem.1 mem
    have last := low (rank - 1) _ (by omega) (List.getElem?_eq_getElem (by omega))
    rcases Nat.lt_or_ge i (rank - 1) with earlier | same
    · have := order i (rank - 1) (by omega) (by omega) earlier
      exact decide_eq_true (by omega)
    · obtain rfl : i = rank - 1 := by omega
      exact decide_eq_true last
  have behind : ∀ row ∈ rows.toList.drop rank, ¬ decide (first row ≤ code) = true := by
    intro row mem
    obtain ⟨i, lt, rfl⟩ := List.mem_drop_iff_getElem.1 mem
    have next := high _ (List.getElem?_eq_getElem (by omega))
    rcases Nat.eq_zero_or_pos i with rfl | later
    · simpa using next
    · have := order rank (rank + i) (by omega) (by omega) (by omega)
      simp only [decide_eq_true_eq]
      omega
  calc started first rows code
      = (rows.toList.take rank ++ rows.toList.drop rank).filter (first · ≤ code) := by
        rw [List.take_append_drop, started]
    _ = rows.toList.take rank := by
        rw [List.filter_append, List.filter_eq_self.2 front, List.filter_eq_nil_iff.2 behind,
          List.append_nil]

/-- In an ascending table the row found is the last one that starts at or before the code. -/
theorem floor?_eq_getLast?_started (ascending : Ascending first rows) (code : Nat) :
    floor? first rows code = (started first rows code).getLast? := by
  have inside : rank first rows code ≤ rows.size :=
    rankBetween_le first rows code _ _ _ (Nat.zero_le _)
  rw [started_eq_take_rank ascending, floor?]
  split
  · next none_starts => simp [none_starts]
  · next before eq =>
    have found : rows[before]? = some rows[before] := Array.getElem?_eq_getElem (by omega)
    simp [eq, List.getLast?_take, found]

end CodeChart.Rows
