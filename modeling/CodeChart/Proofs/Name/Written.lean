import CodeChart.Name
import CodeChart.Proofs.Category.Stretches
import Mathlib.Data.List.Forall2
import Mathlib.Data.Option.Basic

/-!
# Runs written out

The texts of a run are string literals.  To look at every character of them they are written out as
lists of characters (`Written`, `Run.IsWritten`).  One pass over these counts the commas and sees
whether all else are letters and no name is empty.  If so, the run gives names only
(`Written.spells_of_spelling?`), one for each code of an interval that the number of commas tells
(`Written.isSome_spelling?_iff`).
-/

namespace CodeChart.Name

/-! ## Items -/

namespace Run

/-- There are as many items as commas, and one more. -/
theorem isSome_item?_iff {position : Nat} {cs : List Char} :
    (item? position cs).isSome ↔ position ≤ cs.count ',' := by
  induction cs generalizing position with
  | nil => cases position <;> simp [item?]
  | cons c cs ih =>
    cases position with
    | zero => simp [item?]
    | succ position =>
      rw [item?]
      split
      · next comma => rw [ih, comma, List.count_cons_self, Nat.succ_le_succ_iff]
      · next other => rw [ih, List.count_cons_of_ne other]

/-- An item holds characters of the list, and no comma. -/
theorem mem_of_item? {position : Nat} {cs item : List Char} (found : item? position cs = some item)
    {c : Char} (mem : c ∈ item) : c ∈ cs ∧ c ≠ ',' := by
  induction cs generalizing position with
  | nil =>
    cases position with
    | zero =>
      obtain rfl : [] = item := by simpa [item?] using found
      exact absurd mem List.not_mem_nil
    | succ position => exact absurd found (by simp [item?])
  | cons first cs ih =>
    cases position with
    | zero =>
      obtain rfl := Option.some.inj found
      have other := List.all_eq_true.1 List.all_takeWhile c mem
      exact ⟨(List.takeWhile_sublist _).mem mem, of_decide_eq_true other⟩
    | succ position =>
      rw [item?] at found
      split at found
      all_goals exact (ih found).imp_left (List.mem_cons_of_mem first)

/-- A name of a run is its stem with an item behind it. -/
theorem spelling?_eq_some_iff {run : Run} {code : Nat} {text : String} :
    run.spelling? code = some text ↔ run.first ≤ code ∧
      ∃ item, item? (code - run.first) (run.tails.flatMap String.toList) = some item ∧
        run.stem ++ String.ofList item = text := by
  simp only [spelling?, Option.bind_eq_bind, Option.bind_eq_some_iff, Option.guard_eq_some',
    exists_and_left, exists_const, Option.pure_def, Option.some.injEq]

end Run

/-! ## One pass over the items -/

/-- Counts the commas of a list of items and goes on with `behind`.  There is no number if another
character than letters and commas is in the list, or an empty item if the items are `bare`, which
are those without a stem in front of them.  Nothing has been read yet of a `fresh` bare item. -/
def commas? (bare : Bool) (behind : (fresh : Bool) → Option Nat) :
    (fresh : Bool) → List Char → Option Nat
  | fresh, [] => behind fresh
  | fresh, c :: cs =>
    if isLetter c then commas? bare behind false cs
    else if c = ',' ∧ fresh = false then (commas? bare behind bare cs).map (· + 1)
    else none

/-- Behind the last item no commas are counted. -/
def stop (fresh : Bool) : Option Nat :=
  if fresh then none else some 0

theorem commas?_append {bare : Bool} {behind : Bool → Option Nat} {fresh : Bool}
    {front back : List Char} : commas? bare behind fresh (front ++ back) =
      commas? bare (fun fresh => commas? bare behind fresh back) fresh front := by
  induction front generalizing fresh with
  | nil => rfl
  | cons c front ih => simp only [List.cons_append, commas?, ih]

theorem commas?_eq_some {bare fresh : Bool} {cs : List Char} {commas : Nat}
    (counted : commas? bare stop fresh cs = some commas) :
    (∀ c ∈ cs, c ≠ ',' → isLetter c = true) ∧ commas = cs.count ',' := by
  induction cs generalizing fresh commas with
  | nil =>
    cases fresh with
    | true => exact absurd counted (by simp [commas?, stop])
    | false =>
      obtain rfl := Option.some.inj counted
      exact ⟨by simp, by simp⟩
  | cons c cs ih =>
    rw [commas?] at counted
    split at counted
    · next letter =>
      obtain ⟨letters, rfl⟩ := ih counted
      have other : c ≠ ',' := by
        rintro rfl
        exact absurd letter (by decide)
      exact ⟨List.forall_mem_cons.2 ⟨fun _ => letter, letters⟩,
        (List.count_cons_of_ne other).symm⟩
    · split at counted
      · next comma =>
        obtain ⟨later, counted', rfl⟩ := Option.map_eq_some_iff.1 counted
        obtain ⟨letters, rfl⟩ := ih counted'
        refine ⟨List.forall_mem_cons.2 ⟨fun other => absurd comma.1 other, letters⟩, ?_⟩
        rw [comma.1, List.count_cons_self]
      · exact absurd counted (by simp)

/-- No bare item is empty. -/
theorem ne_nil_of_commas? {fresh : Bool} {cs : List Char} {commas : Nat}
    (counted : commas? true stop fresh cs = some commas) {position : Nat} {item : List Char}
    (found : Run.item? position cs = some item) (whole : position = 0 → fresh = true) :
    item ≠ [] := by
  -- only the first item can have been begun before the list, so only it depends on `fresh`
  induction cs generalizing fresh commas position with
  | nil =>
    cases position with
    | zero => exact absurd counted (by simp [commas?, stop, whole rfl])
    | succ position => exact absurd found (by simp [Run.item?])
  | cons c cs ih =>
    rw [commas?] at counted
    split at counted
    · next letter =>
      have other : c ≠ ',' := by
        rintro rfl
        exact absurd letter (by decide)
      cases position with
      | zero =>
        obtain rfl := Option.some.inj found
        simp [other]
      | succ position =>
        rw [Run.item?, if_neg other] at found
        exact ih counted found (by simp)
    · split at counted
      · next comma =>
        obtain ⟨later, counted', -⟩ := Option.map_eq_some_iff.1 counted
        cases position with
        | zero => exact absurd (whole rfl) (by simp [comma.2])
        | succ position =>
          rw [Run.item?, if_pos comma.1] at found
          exact ih counted' found fun _ => rfl
      · exact absurd counted (by simp)

/-! ## Runs -/

/-- A run with its texts written out. -/
structure Written where
  /-- The code of the first name. -/
  first : Nat
  /-- What the names have in common. -/
  stem : List Char
  /-- The pieces of what follows the stem in each name. -/
  tails : List (List Char)

/-- The run is written out like this. -/
inductive Run.IsWritten : Run → Written → Prop
  | intro {first : Nat} {stem : List Char} {texts : List String} {tails : List (List Char)}
      (same : List.Forall₂ (fun text tail => text = String.ofList tail) texts tails) :
      IsWritten ⟨first, String.ofList stem, texts⟩ ⟨first, stem, tails⟩

namespace Written

/-- The run that is written out. -/
def run (written : Written) : Run where
  first := written.first
  stem := String.ofList written.stem
  tails := written.tails.map String.ofList

/-- The number of commas, if what the run gives is spelled with letters and not empty. -/
def commas? (written : Written) : Option Nat :=
  let bare := written.stem.isEmpty
  written.tails.foldr (fun tail behind fresh => Name.commas? bare behind fresh tail) stop bare

/-- The codes that have names. -/
def interval (written : Written) : Interval where
  first := written.first
  last := written.first + written.commas?.getD 0

/-- All that the run gives are names. -/
def isNaming (written : Written) : Bool :=
  written.stem.all isLetter && written.commas?.isSome

theorem eq_run_of_isWritten {run : Run} {written : Written} (isWritten : run.IsWritten written) :
    run = written.run := by
  obtain ⟨same⟩ := isWritten
  rw [← List.forall₂_map_right_iff, List.forall₂_eq_eq_eq] at same
  rw [Written.run, same]

theorem toList_tails_run (written : Written) :
    written.run.tails.flatMap String.toList = written.tails.flatten := by
  simp [run, List.flatMap_map]

/-- The pieces are read as one list. -/
theorem commas?_eq (written : Written) : written.commas? =
    Name.commas? written.stem.isEmpty stop written.stem.isEmpty written.tails.flatten := by
  rw [commas?]
  generalize written.stem.isEmpty = bare
  have reads (fresh : Bool) :
      written.tails.foldr (fun tail behind fresh => Name.commas? bare behind fresh tail) stop
        fresh = Name.commas? bare stop fresh written.tails.flatten := by
    induction written.tails generalizing fresh with
    | nil => rfl
    | cons tail tails ih => rw [List.foldr_cons, funext ih, List.flatten_cons, commas?_append]
  exact reads bare

variable {written : Written}

theorem isNaming_iff : written.isNaming = true ↔
    (∀ c ∈ written.stem, isLetter c = true) ∧ ∃ commas, written.commas? = some commas := by
  rw [isNaming, Bool.and_eq_true, List.all_eq_true, Option.isSome_iff_exists]

/-- The codes of the interval have names, and no others. -/
theorem isSome_spelling?_iff (naming : written.isNaming) {code : Nat} :
    (written.run.spelling? code).isSome ↔ written.interval.contains code := by
  obtain ⟨-, commas, counted⟩ := isNaming_iff.1 naming
  rw [interval, counted, Option.getD_some, Interval.contains]
  rw [commas?_eq] at counted
  obtain ⟨-, rfl⟩ := commas?_eq_some counted
  have item : (Run.item? (code - written.first) written.tails.flatten).isSome ↔
      code - written.first ≤ written.tails.flatten.count ',' := Run.isSome_item?_iff
  simp only [Option.isSome_iff_exists] at item ⊢
  simp only [Run.spelling?_eq_some_iff, toList_tails_run]
  constructor
  · rintro ⟨_, le, text, found, rfl⟩
    have := item.1 ⟨text, found⟩
    exact ⟨le, by omega⟩
  · rintro ⟨le, ge⟩
    obtain ⟨text, found⟩ := item.2 (by omega)
    exact ⟨_, le, text, found, rfl⟩

/-- The names are spelled as names are. -/
theorem spells_of_spelling? (naming : written.isNaming) {code : Nat} {text : String}
    (found : written.run.spelling? code = some text) : Spells text := by
  obtain ⟨stem, commas, counted⟩ := isNaming_iff.1 naming
  rw [commas?_eq] at counted
  obtain ⟨letters, -⟩ := commas?_eq_some counted
  obtain ⟨-, item, shown, rfl⟩ := Run.spelling?_eq_some_iff.1 found
  rw [toList_tails_run] at shown
  have toList : (written.run.stem ++ String.ofList item).toList = written.stem ++ item := by
    simp [run]
  rw [Spells, toList]
  refine ⟨fun empty => ?_, fun c mem => ?_⟩
  · obtain ⟨no_stem, no_item⟩ := List.append_eq_nil_iff.1 empty
    rw [no_stem] at counted
    exact ne_nil_of_commas? counted shown (fun _ => rfl) no_item
  · rcases List.mem_append.1 mem with front | back
    · exact stem c front
    · obtain ⟨mem, other⟩ := Run.mem_of_item? shown back
      exact letters c mem other

end Written

end CodeChart.Name
