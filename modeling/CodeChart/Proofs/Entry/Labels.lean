import CodeChart.Proofs.Entry.Points
import Mathlib.Tactic.TFAE

/-!
# What the columns tell of a missing character or name

The category of a character comes from one table and its name from others, and a code without a
character is given both by hand.  The columns agree all the same.  No character is in the category
of the surrogates (`Category.ofChar_ne_cs`), so this category tells that there is no character.  No
name begins with an angle bracket, so a label that does tells that there is no name, and a label
that tells a category is there for no other (`label_eq_standIn_iff`).
-/

namespace CodeChart

/-! ## Categories of characters -/

namespace Category

/-- No table lists surrogates. -/
theorem Table.no_surrogates :
    ∀ table ∈ [western, alphabets, symbols, supplementary],
      table.toList.all (fun stretch => stretch.2 ≠ .cs) = true := by
  decide +kernel

/-- No character is in the category of the surrogates. -/
theorem ofChar_ne_cs (c : Char) : ofChar c ≠ .cs := by
  unfold ofChar
  split
  · next stretch found =>
    have listed := Array.mem_toList_iff.2 (Rows.mem_of_floor? found)
    have other := List.all_eq_true.1 (Table.no_surrogates _ (Table.stretches_mem _)) _ listed
    exact of_decide_eq_true other
  · decide

end Category

namespace Entry

/-! ## Labels -/

theorem label_of_named {entry : Entry} {name : Name} (named : entry.name? = some name) :
    entry.label = name.text := by
  rw [label, named]

theorem label_of_unnamed {entry : Entry} (unnamed : entry.name? = none) :
    entry.label = standIn entry.category := by
  rw [label, unnamed]

/-- What stands in for a name begins with an angle bracket. -/
theorem head?_standIn (category : Category) : (standIn category).toList.head? = some '<' := by
  cases category <;> decide

/-- No name begins with an angle bracket. -/
theorem head?_text_ne (name : Name) : name.text.toList.head? ≠ some '<' := by
  intro begins
  have letter := name.spells.2 '<' (List.mem_of_mem_head? begins)
  exact absurd letter (by decide)

/-- A label begins with an angle bracket exactly if there is no name. -/
theorem head?_label_eq_iff {entry : Entry} :
    entry.label.toList.head? = some '<' ↔ entry.name? = none := by
  cases named : entry.name? with
  | none =>
    rw [label_of_unnamed named]
    exact iff_of_true (head?_standIn _) rfl
  | some name =>
    rw [label_of_named named]
    exact iff_of_false (head?_text_ne name) (by simp)

/-- A category that a label tells is told for no other category. -/
theorem standIn_inj {category told : Category} (tells : told ∈ [.cc, .cs, .co, .cn]) :
    standIn category = standIn told ↔ category = told := by
  simp only [List.mem_cons, List.not_mem_nil, or_false] at tells
  rcases tells with rfl | rfl | rfl | rfl <;> cases category <;> decide

/-- A label tells a category exactly if there is no name and the category is this one. -/
theorem label_eq_standIn_iff (told : Category) {entry : Entry}
    (tells : told ∈ [.cc, .cs, .co, .cn]) :
    entry.label = standIn told ↔ entry.name? = none ∧ entry.category = told := by
  constructor
  · intro same
    have unnamed : entry.name? = none := by
      rw [← head?_label_eq_iff, same]
      exact head?_standIn told
    rw [label_of_unnamed unnamed] at same
    exact ⟨unnamed, (standIn_inj tells).1 same⟩
  · rintro ⟨unnamed, rfl⟩
    exact label_of_unnamed unnamed

/-! ## The columns of a code -/

/-- A code without a character is one in the category of the surrogates, which has no name. -/
theorem category_ofCode_eq_cs_iff {code : UInt32} :
    (ofCode code).category = .cs ↔ (ofCode code).character? = none := by
  rcases ofCode_cases code with ⟨c, -, entry⟩ | ⟨absent, entry⟩
  · rw [entry, character?_ofChar]
    exact iff_of_false (Category.ofChar_ne_cs c) (by simp)
  · rw [entry]
    exact iff_of_true rfl absent

theorem name?_of_character?_eq_none {code : UInt32} (absent : (ofCode code).character? = none) :
    (ofCode code).name? = none := by
  rcases ofCode_cases code with ⟨c, -, entry⟩ | ⟨-, entry⟩
  · rw [entry, character?_ofChar] at absent
    exact absurd absent (by simp)
  · rw [entry]

/-- For each code the following are the same: it has no character; it is a surrogate or above
U+10FFFF; its category is that of the surrogates; its label tells a surrogate.  A label begins with
an angle bracket exactly if there is no name, and it tells a control, a private use or a missing
assignment exactly if there is no name and the category is the one of these. -/
theorem columns_tell_missing_character_and_name (code : UInt32) :
    let entry := ofCode code
    [entry.character? = none,
      0xD800 ≤ code ∧ code ≤ 0xDFFF ∨ 0x10FFFF < code,
      entry.category = .cs,
      entry.label = "<surrogate>"].TFAE ∧
    (entry.label.toList.head? = some '<' ↔ entry.name? = none) ∧
    (entry.label = "<control>" ↔ entry.name? = none ∧ entry.category = .cc) ∧
    (entry.label = "<private-use>" ↔ entry.name? = none ∧ entry.category = .co) ∧
    (entry.label = "<unassigned>" ↔ entry.name? = none ∧ entry.category = .cn) := by
  intro entry
  refine ⟨?_, head?_label_eq_iff, label_eq_standIn_iff .cc (by decide),
    label_eq_standIn_iff .co (by decide), label_eq_standIn_iff .cn (by decide)⟩
  tfae_have 1 ↔ 2 := by
    rw [character?, code_ofCode]
    exact characterOf?_eq_none_iff
  tfae_have 3 ↔ 1 := category_ofCode_eq_cs_iff
  tfae_have 4 → 3 := fun told => ((label_eq_standIn_iff .cs (by decide)).1 told).2
  tfae_have 1 → 4 := fun absent => (label_eq_standIn_iff .cs (by decide)).2
    ⟨name?_of_character?_eq_none absent, category_ofCode_eq_cs_iff.2 absent⟩
  tfae_finish

end Entry

end CodeChart
