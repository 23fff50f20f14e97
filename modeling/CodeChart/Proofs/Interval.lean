import Mathlib.Data.List.Basic

/-!
# Intervals of codes

A set of codes is given by ascending intervals (`Interval.ascend`, `Interval.Covered`).  Such a list
can be cut at a bound into the part below it and the part from it on, and intervals without a gap
between them can be taken together.  Each of these is one pass over the list that ends as soon as it
can, and each is described by the codes that are covered before and after it.
-/

namespace CodeChart

/-- An interval of codes. -/
structure Interval where
  /-- The first code. -/
  first : Nat
  /-- The last code. -/
  last : Nat
  deriving DecidableEq

namespace Interval

/-- The code lies in the interval. -/
def contains (interval : Interval) (code : Nat) : Prop :=
  interval.first ≤ code ∧ code ≤ interval.last

/-- The code lies in one of the intervals. -/
def Covered (intervals : List Interval) (code : Nat) : Prop :=
  ∃ interval ∈ intervals, interval.contains code

/-- No interval is empty, the first one begins at `low` or later, and each of the others behind the
one before it. -/
def ascend : (low : Nat) → List Interval → Bool
  | _, [] => true
  | low, interval :: rest =>
    low ≤ interval.first && interval.first ≤ interval.last && ascend (interval.last + 1) rest

/-- The last code of the last interval, or `last` if there is none. -/
def lastOf : (last : Nat) → List Interval → Nat
  | last, [] => last
  | _, interval :: rest => lastOf interval.last rest

/-- The part of ascending intervals below a bound. -/
def below (bound : Nat) : List Interval → List Interval
  | [] => []
  | interval :: rest =>
    if interval.last < bound then interval :: below bound rest
    else if interval.first < bound then [⟨interval.first, bound - 1⟩]
    else []

/-- The part of ascending intervals from a bound on. -/
def above (bound : Nat) : List Interval → List Interval
  | [] => []
  | interval :: rest =>
    if interval.last < bound then above bound rest
    else if interval.first < bound then ⟨bound, interval.last⟩ :: rest
    else interval :: rest

/-- An interval and ascending ones behind it, those without a gap between them taken together. -/
def joinTo : Interval → List Interval → List Interval
  | joined, [] => [joined]
  | joined, interval :: rest =>
    if joined.last + 1 = interval.first then joinTo ⟨joined.first, interval.last⟩ rest
    else joined :: joinTo interval rest

/-- Ascending intervals, those without a gap between them taken together. -/
def join : List Interval → List Interval
  | [] => []
  | interval :: rest => joinTo interval rest

variable {intervals : List Interval} {low bound code : Nat}

@[simp] theorem covered_nil : ¬ Covered [] code := by
  simp [Covered]

@[simp] theorem covered_cons {interval : Interval} :
    Covered (interval :: intervals) code ↔ interval.contains code ∨ Covered intervals code := by
  simp [Covered]

theorem ascend_cons {interval : Interval} : ascend low (interval :: intervals) = true ↔
    low ≤ interval.first ∧ interval.first ≤ interval.last ∧
      ascend (interval.last + 1) intervals = true := by
  simp [ascend, and_assoc]

/-- Ascending intervals also ascend from an earlier code on. -/
theorem ascend_of_le {earlier : Nat} (le : earlier ≤ low) (ascending : ascend low intervals) :
    ascend earlier intervals := by
  cases intervals with
  | nil => rfl
  | cons interval rest =>
    rw [ascend_cons] at ascending ⊢
    exact ⟨Nat.le_trans le ascending.1, ascending.2⟩

theorem le_first_of_mem (ascending : ascend low intervals) {interval : Interval}
    (mem : interval ∈ intervals) : low ≤ interval.first ∧ interval.first ≤ interval.last := by
  induction intervals generalizing low with
  | nil => exact absurd mem List.not_mem_nil
  | cons first rest ih =>
    obtain ⟨starts, ordered, behind⟩ := ascend_cons.1 ascending
    rcases List.mem_cons.1 mem with rfl | later
    · exact ⟨starts, ordered⟩
    · have := ih behind later
      omega

theorem le_of_covered (ascending : ascend low intervals) (covered : Covered intervals code) :
    low ≤ code := by
  obtain ⟨interval, mem, inside⟩ := covered
  exact Nat.le_trans (le_first_of_mem ascending mem).1 inside.1

/-- Of two ascending intervals the later one begins behind the other. -/
theorem pairwise_of_ascend (ascending : ascend low intervals) :
    intervals.Pairwise fun interval later =>
      interval.first ≤ interval.last ∧ interval.last < later.first := by
  induction intervals generalizing low with
  | nil => exact List.Pairwise.nil
  | cons interval rest ih =>
    obtain ⟨-, ordered, behind⟩ := ascend_cons.1 ascending
    exact List.Pairwise.cons (fun later mem => ⟨ordered, (le_first_of_mem behind mem).1⟩)
      (ih behind)

theorem le_lastOf {last : Nat} (ascending : ascend (last + 1) intervals) :
    last ≤ lastOf last intervals := by
  induction intervals generalizing last with
  | nil => exact Nat.le_refl last
  | cons interval rest ih =>
    obtain ⟨starts, ordered, behind⟩ := ascend_cons.1 ascending
    have := ih behind
    rw [lastOf]
    omega

/-- Ascending intervals do not reach beyond the last code of the last one. -/
theorem le_lastOf_of_covered {last : Nat} (ascending : ascend low intervals)
    (covered : Covered intervals code) : code ≤ lastOf last intervals := by
  induction intervals generalizing low last with
  | nil => exact absurd covered covered_nil
  | cons interval rest ih =>
    obtain ⟨-, -, behind⟩ := ascend_cons.1 ascending
    rcases covered_cons.1 covered with inside | later
    · exact Nat.le_trans inside.2 (le_lastOf behind)
    · exact ih behind later

theorem covered_below_iff (ascending : ascend low intervals) :
    Covered (below bound intervals) code ↔ Covered intervals code ∧ code < bound := by
  induction intervals generalizing low with
  | nil => simp [below]
  | cons interval rest ih =>
    obtain ⟨-, ordered, behind⟩ := ascend_cons.1 ascending
    -- the pass ends here if the interval reaches the bound: all later codes lie behind it
    have later : Covered rest code → interval.last + 1 ≤ code := le_of_covered behind
    rw [below, covered_cons, contains]
    split
    · rw [covered_cons, ih behind, contains]
      grind
    · split
      · rw [covered_cons, contains]
        grind [covered_nil]
      · grind [covered_nil]

theorem ascend_above (ascending : ascend low intervals) : ascend low (above bound intervals) := by
  induction intervals generalizing low with
  | nil => rfl
  | cons interval rest ih =>
    obtain ⟨starts, ordered, behind⟩ := ascend_cons.1 ascending
    rw [above]
    split
    · exact ascend_of_le (by omega) (ih behind)
    · split
      · exact ascend_cons.2 ⟨by simp only; omega, by simp only; omega, behind⟩
      · exact ascending

theorem covered_above_iff (ascending : ascend low intervals) :
    Covered (above bound intervals) code ↔ Covered intervals code ∧ bound ≤ code := by
  induction intervals generalizing low with
  | nil => simp [above]
  | cons interval rest ih =>
    obtain ⟨-, ordered, behind⟩ := ascend_cons.1 ascending
    have later : Covered rest code → interval.last + 1 ≤ code := le_of_covered behind
    rw [above, covered_cons, contains]
    split
    · rw [ih behind]
      grind
    · split
      · rw [covered_cons, contains]
        grind
      · rw [covered_cons, contains]
        grind

theorem joinTo_spec {joined : Interval} (ascending : ascend low (joined :: intervals)) :
    ascend low (joinTo joined intervals) ∧
      ∀ code, Covered (joinTo joined intervals) code ↔ Covered (joined :: intervals) code := by
  induction intervals generalizing joined low with
  | nil => exact ⟨ascending, fun _ => Iff.rfl⟩
  | cons interval rest ih =>
    obtain ⟨starts, ordered, behind⟩ := ascend_cons.1 ascending
    obtain ⟨apart, ordered', behind'⟩ := ascend_cons.1 behind
    -- what is joined so far is again one interval in front of ascending ones
    rw [joinTo]
    split
    · have together : ascend low (⟨joined.first, interval.last⟩ :: rest) :=
        ascend_cons.2 ⟨starts, by simp only; omega, behind'⟩
      obtain ⟨ascends, covered_iff⟩ := ih together
      refine ⟨ascends, fun code => ?_⟩
      rw [covered_iff]
      simp only [covered_cons, contains]
      grind
    · obtain ⟨ascends, covered_iff⟩ := ih behind
      refine ⟨ascend_cons.2 ⟨starts, ordered, ascends⟩, fun code => ?_⟩
      rw [covered_cons, covered_iff, ← covered_cons]

/-- Taking intervals together changes no code, and they still ascend. -/
theorem join_spec (ascending : ascend low intervals) :
    ascend low (join intervals) ∧
      ∀ code, Covered (join intervals) code ↔ Covered intervals code := by
  cases intervals with
  | nil => exact ⟨rfl, fun _ => Iff.rfl⟩
  | cons interval rest => exact joinTo_spec ascending

end Interval

end CodeChart
