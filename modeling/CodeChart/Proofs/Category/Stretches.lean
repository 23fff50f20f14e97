import CodeChart.Category.Table
import CodeChart.Proofs.Interval

/-!
# Stretches of one category

The category of a character is read off four tables.  In a row they are one list of rows that covers
all codes, and reading that list up to a code gives the category there
(`Category.ofChar_eq_heldAt`).

So ascending intervals of codes can be cut where the category changes, in one pass over the rows:
the codes below the start of the next row have the category that holds there, and the others are cut
by the rest of the rows.  The stretches of a category contain just those codes of the intervals that
have it (`Category.exists_mem_cut_iff`).
-/

namespace CodeChart

namespace Category

/-- An interval of codes with one category. -/
structure Stretch extends Interval where
  /-- The category of the characters. -/
  category : Category
  deriving DecidableEq

namespace Table

/-- The rows of all tables. -/
def rows : List (Nat × Category) :=
  western.toList ++ alphabets.toList ++ symbols.toList ++ supplementary.toList

/-- The category at a code, read off the rows behind a place where `held` holds. -/
def heldAt : (held : Category) → List (Nat × Category) → (code : Nat) → Category
  | held, [], _ => held
  | held, (start, next) :: rest, code => if code < start then held else heldAt next rest code

variable {held : Category} {code : Nat}

/-- Reading stops in front of rows that start after the code. -/
theorem heldAt_append_of_lt {front back : List (Nat × Category)}
    (behind : ∀ row ∈ back, code < row.1) :
    heldAt held (front ++ back) code = heldAt held front code := by
  induction front generalizing held with
  | nil =>
    cases back with
    | nil => rfl
    | cons row rest => exact if_pos (behind row List.mem_cons_self)
  | cons row rest ih =>
    simp only [List.cons_append, heldAt, ih]

/-- Rows that start at or before the code are read over, and what holds in front of the next row
makes no difference. -/
theorem heldAt_append_of_le {front back : List (Nat × Category)}
    (before : ∀ row ∈ front, row.1 ≤ code) {first : Nat × Category}
    (starts : back.head? = some first) (le : first.1 ≤ code) (other : Category) :
    heldAt held (front ++ back) code = heldAt other back code := by
  induction front generalizing held with
  | nil =>
    obtain ⟨rest, rfl⟩ := List.head?_eq_some_iff.1 starts
    simp only [List.nil_append, heldAt, if_neg (Nat.not_lt.2 le)]
  | cons row front ih =>
    obtain ⟨le_row, before⟩ := List.forall_mem_cons.1 before
    simp only [List.cons_append, heldAt, if_neg (Nat.not_lt.2 le_row), ih before]

/-- In ascending rows reading ends at the row found there. -/
theorem heldAt_eq_getLast? {rows : List (Nat × Category)}
    (ascending : rows.Pairwise fun row later => row.1 < later.1) :
    heldAt held rows code = ((rows.filter (·.1 ≤ code)).getLast?.map Prod.snd).getD held := by
  induction rows generalizing held with
  | nil => rfl
  | cons row rest ih =>
    obtain ⟨apart, ascending⟩ := List.pairwise_cons.1 ascending
    rw [heldAt]
    split
    · next before =>
      have none_starts : (row :: rest).filter (·.1 ≤ code) = [] := by
        simp only [List.filter_eq_nil_iff, List.forall_mem_cons, decide_eq_true_eq]
        refine ⟨Nat.not_le.2 before, fun later mem => ?_⟩
        have := apart later mem
        omega
      rw [none_starts]
      rfl
    · next starts =>
      have started : decide (row.1 ≤ code) = true := decide_eq_true (Nat.not_lt.1 starts)
      rw [List.filter_cons, if_pos started, List.getLast?_cons, ih ascending]
      cases (rest.filter (·.1 ≤ code)).getLast? <;> rfl

/-- The rows of each table ascend. -/
theorem ascending {table : Array (Nat × Category)}
    (mem : table ∈ [western, alphabets, symbols, supplementary]) :
    Rows.Ascending Prod.fst table := by
  have chains : ∀ table ∈ [western, alphabets, symbols, supplementary],
      (table.toList.map Prod.fst).IsChain (· < ·) := by
    decide +kernel
  exact List.pairwise_map.1 (List.isChain_iff_pairwise.1 (chains table mem))

/-- The row found for a code is the one that reading the table ends at. -/
theorem floor?_eq_heldAt {table : Array (Nat × Category)}
    (mem : table ∈ [western, alphabets, symbols, supplementary]) :
    ((Rows.floor? Prod.fst table code).map Prod.snd).getD .cn = heldAt .cn table.toList code := by
  rw [Rows.floor?_eq_getLast?_started (ascending mem), heldAt_eq_getLast? (ascending mem),
    Rows.started]

/-- Each table begins where the interval that it is picked for does. -/
theorem head?_tables :
    alphabets.toList.head? = some (0x590, .cn) ∧ symbols.toList.head? = some (0x2000, .zs) ∧
      supplementary.toList.head? = some (0x10000, .lo) :=
  ⟨rfl, rfl, rfl⟩

/-- No row of a table starts outside that interval. -/
theorem bounds :
    (∀ row ∈ western.toList, row.1 < 0x590) ∧
    (∀ row ∈ alphabets.toList, 0x590 ≤ row.1 ∧ row.1 < 0x2000) ∧
    (∀ row ∈ symbols.toList, 0x2000 ≤ row.1 ∧ row.1 < 0x10000) ∧
    (∀ row ∈ supplementary.toList, 0x10000 ≤ row.1) := by
  decide +kernel

/-- Reading the rows of all tables is reading the table that is picked for the code. -/
theorem heldAt_stretches (code : Nat) :
    heldAt .cn (stretches code).toList code = heldAt .cn rows code := by
  obtain ⟨west, alphabet, symbol, supplement⟩ := bounds
  obtain ⟨first₁, first₂, first₃⟩ := head?_tables
  rw [rows, stretches]
  split
  · rw [heldAt_append_of_lt (by grind), heldAt_append_of_lt (by grind),
      heldAt_append_of_lt (by grind)]
  · split
    · rw [heldAt_append_of_lt (by grind), heldAt_append_of_lt (by grind),
        heldAt_append_of_le (by grind) first₁ (by omega) .cn]
    · split
      · rw [heldAt_append_of_lt (by grind), heldAt_append_of_le (by grind) first₂ (by omega) .cn]
      · rw [heldAt_append_of_le (by grind) first₃ (by omega) .cn]

end Table

/-- The category of a character is read off the rows of all tables. -/
theorem ofChar_eq_heldAt (c : Char) : ofChar c = Table.heldAt .cn Table.rows c.toNat := by
  rw [← Table.heldAt_stretches, ← Table.floor?_eq_heldAt (Table.stretches_mem c.toNat), ofChar]
  split
  · next stretch found =>
    rw [found]
    rfl
  · next none_found =>
    rw [none_found]
    rfl

/-- Ascending intervals, cut where the category changes.  In front of the rows `held` holds. -/
def cut : (held : Category) → List (Nat × Category) → List Interval → List Stretch
  | held, [], intervals => intervals.map (Stretch.mk · held)
  | held, (start, next) :: rest, intervals =>
    (Interval.below start intervals).map (Stretch.mk · held) ++
      cut next rest (Interval.above start intervals)

theorem exists_mem_map_mk_iff {held category : Category} {intervals : List Interval} {code : Nat} :
    (∃ stretch ∈ intervals.map (Stretch.mk · held),
        stretch.contains code ∧ stretch.category = category) ↔
      Interval.Covered intervals code ∧ held = category := by
  simp only [List.mem_map, Interval.Covered]
  constructor
  · rintro ⟨_, ⟨interval, mem, rfl⟩, inside, same⟩
    exact ⟨⟨interval, mem, inside⟩, same⟩
  · rintro ⟨⟨interval, mem, inside⟩, same⟩
    exact ⟨_, ⟨interval, mem, rfl⟩, inside, same⟩

/-- The stretches of a category contain the codes of the intervals that have it. -/
theorem exists_mem_cut_iff {held category : Category} {rows : List (Nat × Category)}
    {intervals : List Interval} {low code : Nat} (ascending : Interval.ascend low intervals) :
    (∃ stretch ∈ cut held rows intervals, stretch.contains code ∧ stretch.category = category) ↔
      Interval.Covered intervals code ∧ Table.heldAt held rows code = category := by
  induction rows generalizing held intervals with
  | nil => exact exists_mem_map_mk_iff
  | cons row rest ih =>
    -- both sides ask whether the code is below the start of the row
    simp only [cut, List.mem_append, or_and_right, exists_or, exists_mem_map_mk_iff,
      ih (Interval.ascend_above ascending), Interval.covered_below_iff ascending,
      Interval.covered_above_iff ascending, Table.heldAt]
    split
    · grind
    · grind

/-- The codes of ascending intervals that have a category. -/
def part (category : Category) (intervals : List Interval) : List Interval :=
  ((cut .cn Table.rows (Interval.join intervals)).filter (·.category = category)).map
    Stretch.toInterval

/-- A character lies in the part of a category if its code is one of the intervals' and it has the
category. -/
theorem covered_part_iff {category : Category} {intervals : List Interval} {low : Nat}
    (ascending : Interval.ascend low intervals) {c : Char} :
    Interval.Covered (part category intervals) c.toNat ↔
      Interval.Covered intervals c.toNat ∧ ofChar c = category := by
  obtain ⟨ascends, covered_iff⟩ := Interval.join_spec ascending
  rw [ofChar_eq_heldAt, ← covered_iff, ← exists_mem_cut_iff ascends]
  simp only [Interval.Covered, part, List.mem_map, List.mem_filter, decide_eq_true_eq]
  constructor
  · rintro ⟨_, ⟨stretch, ⟨mem, own⟩, rfl⟩, inside⟩
    exact ⟨stretch, mem, inside, own⟩
  · rintro ⟨stretch, mem, inside, own⟩
    exact ⟨_, ⟨stretch, ⟨mem, own⟩, rfl⟩, inside⟩

end Category

end CodeChart
