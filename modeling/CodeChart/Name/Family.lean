import CodeChart.Text.Numeral

/-!
# Names by code

Some repertoires are too large to name one by one.  Their characters are called by what they are and
by their code: a fixed beginning, then the code in hexadecimal.
-/

namespace CodeChart.Name

/-- An interval of codes whose characters are named by their code. -/
structure Family where
  /-- The first code of the interval. -/
  first : Nat
  /-- The last code of the interval. -/
  last : Nat
  /-- What stands before the code. -/
  stem : String

namespace Family

/-- The intervals whose characters are named by their code. -/
def all : List Family := [
  ⟨0x3400, 0x4DBF, "CJK UNIFIED IDEOGRAPH-"⟩,
  ⟨0x4E00, 0x9FFF, "CJK UNIFIED IDEOGRAPH-"⟩,
  ⟨0xF900, 0xFA6D, "CJK COMPATIBILITY IDEOGRAPH-"⟩,
  ⟨0xFA70, 0xFAD9, "CJK COMPATIBILITY IDEOGRAPH-"⟩,
  ⟨0x13460, 0x143FA, "EGYPTIAN HIEROGLYPH-"⟩,
  ⟨0x18B00, 0x18CD5, "KHITAN SMALL SCRIPT CHARACTER-"⟩,
  ⟨0x18CFF, 0x18CFF, "KHITAN SMALL SCRIPT CHARACTER-"⟩,
  ⟨0x1B170, 0x1B2FB, "NUSHU CHARACTER-"⟩,
  ⟨0x20000, 0x2A6DF, "CJK UNIFIED IDEOGRAPH-"⟩,
  ⟨0x2A700, 0x2B739, "CJK UNIFIED IDEOGRAPH-"⟩,
  ⟨0x2B740, 0x2B81D, "CJK UNIFIED IDEOGRAPH-"⟩,
  ⟨0x2B820, 0x2CEA1, "CJK UNIFIED IDEOGRAPH-"⟩,
  ⟨0x2CEB0, 0x2EBE0, "CJK UNIFIED IDEOGRAPH-"⟩,
  ⟨0x2EBF0, 0x2EE5D, "CJK UNIFIED IDEOGRAPH-"⟩,
  ⟨0x2F800, 0x2FA1D, "CJK COMPATIBILITY IDEOGRAPH-"⟩,
  ⟨0x30000, 0x3134A, "CJK UNIFIED IDEOGRAPH-"⟩,
  ⟨0x31350, 0x323AF, "CJK UNIFIED IDEOGRAPH-"⟩]

/-- The code lies in the interval. -/
def contains (family : Family) (code : Nat) : Bool :=
  family.first ≤ code && code ≤ family.last

theorem contains_iff {family : Family} {code : Nat} :
    family.contains code = true ↔ family.first ≤ code ∧ code ≤ family.last := by
  rw [contains, Bool.and_eq_true, decide_eq_true_eq, decide_eq_true_eq]

/-- The name of a character of a family, `none` for a code in no family. -/
def spelling? (code : Nat) : Option String :=
  (all.find? (·.contains code)).map fun family => family.stem ++ String.ofList (Text.Hex.upper code)

end Family

end CodeChart.Name
