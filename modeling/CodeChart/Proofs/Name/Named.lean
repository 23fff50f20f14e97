import CodeChart.Proofs.Name.Table
import CodeChart.Proofs.Text.Plain

/-!
# Which characters have names

The syllables, the families and the table each give texts that spell names, so a character has for
its name the text that is looked up for it, and none is lost (`Name.text_of?`).

The categories are told by tables of their own, and these know fewer characters than the names do.
The characters that have a name and no category are those of some parts of the families
(`Family.parts`) and those that `Table.unassigned` lists (`Name.isSome_of?_and_cn_iff`).
-/

namespace CodeChart.Name

/-- Letters behind a name make another name. -/
theorem Spells.append {front back : String} (spells : Spells front)
    (letters : ∀ c ∈ back.toList, isLetter c = true) : Spells (front ++ back) := by
  rw [Spells, String.toList_append]
  exact ⟨List.append_ne_nil_of_left_ne_nil spells.1 _,
    List.forall_mem_append.2 ⟨spells.2, letters⟩⟩

/-! ## Syllables -/

namespace Hangul

/-- A syllable is called by the short names of its parts. -/
theorem exists_of_spelling?_eq_some {code : Nat} {text : String}
    (found : spelling? code = some text) : ∃ lead ∈ leading, ∃ vowel ∈ vowels, ∃ tail ∈ trailing,
      "HANGUL SYLLABLE " ++ lead ++ vowel ++ tail = text := by
  simp only [spelling?, Option.bind_eq_bind, Option.bind_eq_some_iff, Option.guard_eq_some',
    exists_and_left, exists_const, Option.pure_def, Option.some.injEq] at found
  obtain ⟨-, lead, isLead, vowel, isVowel, tail, isTail, same⟩ := found
  exact ⟨lead, Array.mem_of_getElem? isLead, vowel, Array.mem_of_getElem? isVowel,
    tail, Array.mem_of_getElem? isTail, same⟩

/-- The short names are spelled with letters of names. -/
theorem letters_of_mem {short : String}
    (mem : short ∈ leading.toList ++ vowels.toList ++ trailing.toList) :
    ∀ c ∈ short.toList, isLetter c = true := by
  have all : ∀ short ∈ leading.toList ++ vowels.toList ++ trailing.toList,
      short.toList.all isLetter = true := by
    decide +kernel
  exact List.all_eq_true.1 (all short mem)

theorem spells_of_spelling? {code : Nat} {text : String} (found : spelling? code = some text) :
    Spells text := by
  obtain ⟨lead, isLead, vowel, isVowel, tail, isTail, rfl⟩ := exists_of_spelling?_eq_some found
  have syllable : Spells "HANGUL SYLLABLE " := by decide +kernel
  refine ((syllable.append ?_).append ?_).append ?_
  all_goals exact letters_of_mem (by simp [*])

/-- The syllable blocks are letters. -/
theorem category_of_isSome {c : Char} (found : (spelling? c.toNat).isSome) :
    Category.ofChar c = .lo := by
  have ascending : Interval.ascend 0 [⟨0xAC00, 0xD7A3⟩] := rfl
  have blocks : Category.part .lo [⟨0xAC00, 0xD7A3⟩] = [⟨0xAC00, 0xD7A3⟩] := by decide +kernel
  suffices inside : Interval.Covered [⟨0xAC00, 0xD7A3⟩] c.toNat by
    rw [← blocks, Category.covered_part_iff ascending] at inside
    exact inside.2
  by_contra outside
  rw [Interval.covered_cons, Interval.contains] at outside
  have missing : spelling? c.toNat = none := spelling?_eq_none (by grind)
  rw [missing] at found
  exact absurd found Bool.false_ne_true

end Hangul

/-! ## Families -/

namespace Family

/-- Upper-case digits are letters of names. -/
theorem isLetter_of_mem_upper {n : Nat} {c : Char} (mem : c ∈ Text.Hex.upper n) :
    isLetter c = true := by
  have digits : ∀ d < 16, isLetter d.digitChar.toUpper = true := by decide
  rw [Text.Hex.upper] at mem
  obtain ⟨lower, digit, rfl⟩ := List.mem_map.1 mem
  obtain ⟨d, lt, rfl⟩ := Text.exists_digit_of_mem_toDigits digit
  exact digits d lt

theorem stem_spells {family : Family} (mem : family ∈ all) : Spells family.stem := by
  revert family
  decide +kernel

theorem spells_of_spelling? {code : Nat} {text : String} (found : spelling? code = some text) :
    Spells text := by
  obtain ⟨family, named, rfl⟩ := Option.map_eq_some_iff.1 found
  refine (stem_spells (List.mem_of_find?_eq_some named)).append fun c mem => ?_
  rw [String.toList_ofList] at mem
  exact isLetter_of_mem_upper mem

theorem isSome_spelling?_iff {code : Nat} :
    (spelling? code).isSome ↔ ∃ family ∈ all, family.contains code = true := by
  rw [spelling?, Option.isSome_map, List.find?_isSome]

/-- The interval of the codes. -/
def interval (family : Family) : Interval where
  first := family.first
  last := family.last

/-- The families, cut where the category changes. -/
def parts : List Category.Stretch := [
  ⟨⟨0x3400, 0x4DB5⟩, .lo⟩, ⟨⟨0x4DB6, 0x4DBF⟩, .cn⟩,
  ⟨⟨0x4E00, 0x9FEA⟩, .lo⟩, ⟨⟨0x9FEB, 0x9FFF⟩, .cn⟩,
  ⟨⟨0xF900, 0xFA6D⟩, .lo⟩,
  ⟨⟨0xFA70, 0xFAD9⟩, .lo⟩,
  ⟨⟨0x13460, 0x143FA⟩, .cn⟩,
  ⟨⟨0x18B00, 0x18CD5⟩, .cn⟩,
  ⟨⟨0x18CFF, 0x18CFF⟩, .cn⟩,
  ⟨⟨0x1B170, 0x1B2FB⟩, .lo⟩,
  ⟨⟨0x20000, 0x2A6D6⟩, .lo⟩, ⟨⟨0x2A6D7, 0x2A6DF⟩, .cn⟩,
  ⟨⟨0x2A700, 0x2B734⟩, .lo⟩, ⟨⟨0x2B735, 0x2B739⟩, .cn⟩,
  ⟨⟨0x2B740, 0x2B81D⟩, .lo⟩,
  ⟨⟨0x2B820, 0x2CEA1⟩, .lo⟩,
  ⟨⟨0x2CEB0, 0x2EBE0⟩, .lo⟩,
  ⟨⟨0x2EBF0, 0x2EE5D⟩, .cn⟩,
  ⟨⟨0x2F800, 0x2FA1D⟩, .lo⟩,
  ⟨⟨0x30000, 0x3134A⟩, .cn⟩,
  ⟨⟨0x31350, 0x323AF⟩, .cn⟩]

/-- The parts of a category contain the characters of the families that have it. -/
theorem exists_mem_parts_iff {c : Char} {category : Category} :
    (∃ part ∈ parts, part.contains c.toNat ∧ part.category = category) ↔
      (spelling? c.toNat).isSome ∧ Category.ofChar c = category := by
  have ascending : Interval.ascend 0 (all.map interval) := by decide
  have cut : Category.cut .cn Category.Table.rows (all.map interval) = parts := by decide +kernel
  have covered : Interval.Covered (all.map interval) c.toNat ↔
      ∃ family ∈ all, family.contains c.toNat = true := by
    simp only [Interval.Covered, List.mem_map, exists_exists_and_eq_and, contains_iff]
    rfl
  rw [← cut, Category.exists_mem_cut_iff ascending, ← Category.ofChar_eq_heldAt, covered,
    isSome_spelling?_iff]

end Family

/-! ## All characters -/

/-- What is looked up spells a name. -/
theorem spells_of_spelling? {code : Nat} {text : String} (found : spelling? code = some text) :
    Spells text := by
  simp only [spelling?, Option.orElse_eq_orElse, Option.orElse_eq_or, Option.or_eq_some_iff]
    at found
  rcases found with syllable | ⟨-, family | ⟨-, listed⟩⟩
  · exact Hangul.spells_of_spelling? syllable
  · exact Family.spells_of_spelling? family
  · exact Table.spells_of_spelling? listed

/-- A character has for its name the text that is looked up for it. -/
theorem text_of? (c : Char) : (of? c).map text = spelling? c.toNat := by
  rw [of?]
  cases found : spelling? c.toNat with
  | none => rfl
  | some spelled =>
    have named : ofString? spelled = some ⟨spelled, spells_of_spelling? found⟩ := dif_pos _
    rw [Option.bind_eq_bind, Option.bind_some, named, Option.map_some]

theorem isSome_of?_iff {c : Char} : (of? c).isSome ↔ (Hangul.spelling? c.toNat).isSome ∨
    (Family.spelling? c.toNat).isSome ∨ (Table.spelling? c.toNat).isSome := by
  have named : (of? c).isSome = ((of? c).map text).isSome := Option.isSome_map.symm
  rw [named, text_of?, spelling?]
  simp only [Option.orElse_eq_orElse, Option.orElse_eq_or, Option.isSome_or, Bool.or_eq_true]

/-- The characters that have a name and no category. -/
theorem isSome_of?_and_cn_iff {c : Char} : (of? c).isSome ∧ Category.ofChar c = .cn ↔
    (∃ part ∈ Family.parts, part.contains c.toNat ∧ part.category = .cn) ∨
      Interval.Covered Table.unassigned c.toNat := by
  have syllable : (Hangul.spelling? c.toNat).isSome → Category.ofChar c ≠ .cn := by
    intro block unassigned
    rw [Hangul.category_of_isSome block] at unassigned
    exact absurd unassigned (by decide)
  rw [isSome_of?_iff, Family.exists_mem_parts_iff, Table.covered_unassigned_iff]
  tauto

end CodeChart.Name
