import CodeChart.Proofs.Entry.Columns
import CodeChart.Proofs.Entry.Labels
import CodeChart.Proofs.Name.Named

/-!
# What the columns tell of a missing assignment

The tables of categories know fewer characters than the names do.  A character that only the names
know has the category of the unassigned codes and shows a name all the same, so the two columns
disagree about it.  This is the only way in which they do (`unassigned_columns_agree_iff`): a label
that tells a missing assignment always stands behind the category `Cn`, and a category `Cn` without
that label always stands before a name.

The codes of these characters are known (`unassigned_and_named_iff`): those of the unassigned parts
of the families, and those that `Table.unassigned` lists.
-/

namespace CodeChart.Entry

/-! ## Unassigned and named -/

/-- Neither the families nor the codes listed have surrogates among them, or codes of no plane. -/
theorem parts_and_unassigned_bounded :
    (∀ part ∈ Name.Family.parts,
      (part.last < 0xD800 ∨ 0xDFFF < part.first) ∧ part.last ≤ 0x10FFFF) ∧
    ∀ interval ∈ Name.Table.unassigned,
      (interval.last < 0xD800 ∨ 0xDFFF < interval.first) ∧ interval.last ≤ 0x10FFFF := by
  decide +kernel

/-- The codes that have the category of the unassigned ones and a name. -/
theorem unassigned_and_named_iff {code : UInt32} :
    (ofCode code).category = .cn ∧ (ofCode code).name? ≠ none ↔
      (∃ part ∈ Name.Family.parts, part.contains code.toNat ∧ part.category = .cn) ∨
        Interval.Covered Name.Table.unassigned code.toNat := by
  rcases ofCode_cases code with ⟨c, rfl, entry⟩ | ⟨absent, entry⟩
  · rw [entry, ← Option.isSome_iff_ne_none, And.comm]
    exact Name.isSome_of?_and_cn_iff
  · rw [entry]
    refine iff_of_false (by simp) ?_
    rw [characterOf?_eq_none_iff_toNat] at absent
    obtain ⟨parts, unassigned⟩ := parts_and_unassigned_bounded
    rintro (⟨part, mem, inside, -⟩ | ⟨interval, mem, inside⟩)
    · have := parts part mem
      have := inside.1
      have := inside.2
      omega
    · have := unassigned interval mem
      have := inside.1
      have := inside.2
      omega

/-- The category and the label disagree about an assignment exactly if the category is that of the
unassigned codes and there is a name. -/
theorem unassigned_agree_iff (entry : Entry) :
    (entry.category = .cn ↔ entry.label = standIn .cn) ↔
      ¬ (entry.category = .cn ∧ entry.name? ≠ none) := by
  rw [label_eq_standIn_iff .cn (by decide)]
  tauto

theorem unassigned_agree_iff_not_listed {code : UInt32} :
    ((ofCode code).category = .cn ↔ (ofCode code).label = standIn .cn) ↔
      (∀ part ∈ Name.Family.parts, part.contains code.toNat → part.category ≠ .cn) ∧
        ∀ interval ∈ Name.Table.unassigned, ¬ interval.contains code.toNat := by
  rw [unassigned_agree_iff, unassigned_and_named_iff, Interval.Covered]
  push Not
  rfl

/-! ## The columns of a family -/

/-- The codes of the families are those of characters. -/
theorem exists_ofChar_of_family {family : Name.Family} (mem : family ∈ Name.Family.all)
    {code : UInt32} (inside : family.contains code.toNat) :
    ∃ c : Char, c.val = code ∧ ofCode code = ofChar c := by
  rcases ofCode_cases code with character | ⟨absent, -⟩
  · exact character
  · have apart : ∀ family ∈ Name.Family.all,
        (family.last < 0xD800 ∨ 0xDFFF < family.first) ∧ family.last ≤ 0x10FFFF := by decide
    have := apart family mem
    have between := Name.Family.contains_iff.1 inside
    rw [characterOf?_eq_none_iff_toNat] at absent
    omega

/-- The codes of the families have names, and the category of their part. -/
theorem named_of_family {family : Name.Family} (mem : family ∈ Name.Family.all) {code : UInt32}
    (inside : family.contains code.toNat) :
    (ofCode code).name? ≠ none ∧
      ((ofCode code).category = .cn ↔
        ∃ part ∈ Name.Family.parts, part.contains code.toNat ∧ part.category = .cn) := by
  obtain ⟨c, rfl, entry⟩ := exists_ofChar_of_family mem inside
  have named : (Name.Family.spelling? c.toNat).isSome :=
    Name.Family.isSome_spelling?_iff.2 ⟨family, mem, inside⟩
  have parts := @Name.Family.exists_mem_parts_iff c .cn
  rw [and_iff_right named] at parts
  rw [entry, ← Option.isSome_iff_ne_none]
  exact ⟨Name.isSome_of?_iff.2 (.inr (.inl named)), parts.symm⟩

/-- In a family they disagree on the unassigned parts. -/
theorem unassigned_agree_of_family_iff {family : Name.Family} (mem : family ∈ Name.Family.all)
    {code : UInt32} (inside : family.contains code.toNat) :
    ((ofCode code).category = .cn ↔ (ofCode code).label = standIn .cn) ↔
      ∀ part ∈ Name.Family.parts, part.contains code.toNat → part.category ≠ .cn := by
  obtain ⟨named, category_iff⟩ := named_of_family mem inside
  rw [unassigned_agree_iff, and_iff_left named, category_iff]
  push Not
  rfl

/-! ## The columns of a line -/

theorem abbreviation_eq_cn_iff {category : Category} :
    category.abbreviation.toList = "Cn".toList ↔ category = .cn := by
  cases category <;> decide

/-- For every point from 0 to U+10FFFF there is a line, and it has four columns.  A last column
`<unassigned>` stands behind the category `Cn` only.  The two columns disagree about an assignment
exactly if `Cn` stands before a name, which is a label that does not begin with an angle bracket.
They do so exactly for the codes of the unassigned parts of the families and for those listed as
unassigned though the table names them.  A character that is named by its code has a name, so its
columns agree exactly if it lies in no unassigned part of its family. -/
theorem unassigned_columns_agree_iff {point : Int64} (codePoint : 0 ≤ point ∧ point ≤ 0x10FFFF) :
    ∃ (line : Line) (code character category label : List Char),
      Catalogue.unicode point = .ok line ∧
      line.text.toList.splitOn '\t' = [code, character, category, label] ∧
      (label = "<unassigned>".toList → category = "Cn".toList) ∧
      ((category = "Cn".toList ↔ label = "<unassigned>".toList) ↔
        ¬ (category = "Cn".toList ∧ label.head? ≠ some '<')) ∧
      ((category = "Cn".toList ↔ label = "<unassigned>".toList) ↔
        (∀ part ∈ Name.Family.parts, part.contains point.toInt.toNat → part.category ≠ .cn) ∧
          ∀ interval ∈ Name.Table.unassigned, ¬ interval.contains point.toInt.toNat) ∧
      ∀ family ∈ Name.Family.all, family.contains point.toInt.toNat →
        label.head? ≠ some '<' ∧
        ((category = "Cn".toList ↔ label = "<unassigned>".toList) ↔
          ∀ part ∈ Name.Family.parts, part.contains point.toInt.toNat → part.category ≠ .cn) := by
  have number := toNat_ofNat_of_codePoint (codePoint_iff.1 codePoint)
  have same : (UInt32.ofNat point.toInt.toNat).toNat = point.toInt.toNat := by omega
  have found := Catalogue.unicode_of_codePoint codePoint.1 codePoint.2
  rw [← same]
  generalize UInt32.ofNat point.toInt.toNat = code at found
  have tells : (ofCode code).label.toList = "<unassigned>".toList ↔
      (ofCode code).label = standIn .cn := String.toList_inj
  refine ⟨_, _, _, _, _, found, splitOn_tab_line _, ?_, ?_, ?_, fun family mem inside => ⟨?_, ?_⟩⟩
  · rw [tells, abbreviation_eq_cn_iff, label_eq_standIn_iff .cn (by decide)]
    exact And.right
  · rw [tells, abbreviation_eq_cn_iff, Ne, head?_label_eq_iff]
    exact unassigned_agree_iff _
  · rw [tells, abbreviation_eq_cn_iff]
    exact unassigned_agree_iff_not_listed
  · rw [Ne, head?_label_eq_iff]
    exact (named_of_family mem inside).1
  · rw [tells, abbreviation_eq_cn_iff]
    exact unassigned_agree_of_family_iff mem inside

/-- The first ideograph behind those that have a category disagrees. -/
theorem columns_of_ideograph_disagree :
    ∃ (line : Line) (code character category label : List Char),
      Catalogue.unicode 0x9FEB = .ok line ∧
      line.text.toList.splitOn '\t' = [code, character, category, label] ∧
      label.head? ≠ some '<' ∧ ¬ (category = "Cn".toList ↔ label = "<unassigned>".toList) := by
  obtain ⟨line, code, character, category, label, found, columns, -, -, -, families⟩ :=
    @unassigned_columns_agree_iff 0x9FEB (by decide)
  obtain ⟨named, agree_iff⟩ :=
    families ⟨0x4E00, 0x9FFF, "CJK UNIFIED IDEOGRAPH-"⟩ (by simp [Name.Family.all]) rfl
  refine ⟨line, code, character, category, label, found, columns, named, fun agree => ?_⟩
  exact agree_iff.1 agree ⟨⟨0x9FEB, 0x9FFF⟩, .cn⟩ (by decide) ⟨by decide, by decide⟩ rfl

/-- So does a letter that is listed with its name. -/
theorem columns_of_letter_disagree :
    ∃ (line : Line) (code character category label : List Char),
      Catalogue.unicode 0x560 = .ok line ∧
      line.text.toList.splitOn '\t' = [code, character, category, label] ∧
      category = "Cn".toList ∧ label = "ARMENIAN SMALL LETTER TURNED AYB".toList ∧
      ¬ (category = "Cn".toList ↔ label = "<unassigned>".toList) := by
  have category : (ofCode 0x560).category.abbreviation.toList = "Cn".toList := by decide +kernel
  have label : (ofCode 0x560).label = "ARMENIAN SMALL LETTER TURNED AYB" := by decide +kernel
  refine ⟨_, _, _, _, _, rfl, splitOn_tab_line (ofCode 0x560), category, congrArg _ label, ?_⟩
  rw [category, label]
  decide

end CodeChart.Entry
