import CodeChart.Entry

/-!
# Points, codes and characters

An entry is found from a point, from a code or from a character.  A point is a signed word of 64
bits and a code an unsigned one of 32, so most points are no code, and of many of those the lower
half is one.  They are refused as they are: what is found for a point is the entry of the code that
is the same number (`ofPoint_eq_ok_iff`), and a point that is refused is named in full
(`ofPoint_eq_error_iff`).

Among the codes, those of characters have the entries of the characters, and the others have an
entry without a character (`ofCode_cases`).  `ofPoint_ofCode_ofChar_agree` puts this together.
-/

namespace CodeChart

namespace Entry

/-! ## Codes -/

/-- The codes without a character, as numbers. -/
theorem characterOf?_eq_none_iff_toNat {code : UInt32} :
    characterOf? code = none ↔
      0xD800 ≤ code.toNat ∧ code.toNat ≤ 0xDFFF ∨ 0x10FFFF < code.toNat := by
  have valid : code.isValidChar ↔
      code.toNat < 0xD800 ∨ 0xDFFF < code.toNat ∧ code.toNat < 0x110000 := Iff.rfl
  rw [characterOf?, dite_eq_right_iff]
  constructor
  · intro invalid
    have outside : ¬ code.isValidChar := fun isValid => absurd (invalid isValid) (by simp)
    rw [valid] at outside
    omega
  · intro outside isValid
    rw [valid] at isValid
    omega

/-- The codes without a character are the surrogates and those above U+10FFFF. -/
theorem characterOf?_eq_none_iff {code : UInt32} :
    characterOf? code = none ↔ 0xD800 ≤ code ∧ code ≤ 0xDFFF ∨ 0x10FFFF < code := by
  have low : (0xD800 : UInt32).toNat = 0xD800 := rfl
  have high : (0xDFFF : UInt32).toNat = 0xDFFF := rfl
  have last : (0x10FFFF : UInt32).toNat = 0x10FFFF := rfl
  rw [UInt32.le_iff_toNat_le, UInt32.le_iff_toNat_le, UInt32.lt_iff_toNat_lt, low, high, last]
  exact characterOf?_eq_none_iff_toNat

/-- A code is that of a character and has its entry, or it has an entry without a character. -/
theorem ofCode_cases (code : UInt32) :
    (∃ c : Char, c.val = code ∧ ofCode code = ofChar c) ∨
      characterOf? code = none ∧ ofCode code = ⟨code, .cs, none⟩ := by
  cases found : characterOf? code with
  | none => exact .inr ⟨rfl, by rw [ofCode, found]⟩
  | some c =>
    refine .inl ⟨c, ?_, by rw [ofCode, found]⟩
    unfold characterOf? at found
    split at found
    · exact Option.some.inj found ▸ rfl
    · exact absurd found (by simp)

/-! ## Points -/

/-- The points from 0 to U+10FFFF, as numbers. -/
theorem codePoint_iff {point : Int64} :
    0 ≤ point ∧ point ≤ 0x10FFFF ↔ 0 ≤ point.toInt ∧ point.toInt ≤ 0x10FFFF := by
  have zero : (0 : Int64).toInt = 0 := rfl
  have last : (0x10FFFF : Int64).toInt = 0x10FFFF := rfl
  rw [Int64.le_iff_toInt_le, Int64.le_iff_toInt_le, zero, last]

/-- A point up to U+10FFFF is the number of the code that is made of it. -/
theorem toNat_ofNat_of_codePoint {point : Int64}
    (codePoint : 0 ≤ point.toInt ∧ point.toInt ≤ 0x10FFFF) :
    ((UInt32.ofNat point.toInt.toNat).toNat : Int) = point.toInt := by
  rw [UInt32.toNat_ofNat']
  omega

/-- The entry of a point up to U+10FFFF is about that point. -/
theorem toNat_code_of_codePoint {point : Int64} (least : 0 ≤ point) (greatest : point ≤ 0x10FFFF) :
    (ofCode (UInt32.ofNat point.toInt.toNat)).code.toNat = point.toInt.toNat := by
  have number := toNat_ofNat_of_codePoint (codePoint_iff.1 ⟨least, greatest⟩)
  rw [code_ofCode]
  omega

/-- The numbers of codes up to U+10FFFF are the points up to there. -/
theorem exists_code_iff {point : Int64} :
    (∃ code : UInt32, (code.toNat : Int) = point.toInt ∧ code.toNat ≤ 0x10FFFF) ↔
      0 ≤ point.toInt ∧ point.toInt ≤ 0x10FFFF := by
  constructor
  · rintro ⟨code, same, last⟩
    omega
  · intro codePoint
    have same := toNat_ofNat_of_codePoint codePoint
    exact ⟨_, same, by omega⟩

/-- A point has the entry of the code that is the same number, and no other. -/
theorem ofPoint_eq_ok_iff {point : Int64} {entry : Entry} :
    ofPoint point = .ok entry ↔
      ∃ code : UInt32, (code.toNat : Int) = point.toInt ∧ code.toNat ≤ 0x10FFFF ∧
        entry = ofCode code := by
  rw [ofPoint]
  constructor
  · intro found
    split at found
    · next codePoint =>
      have same := toNat_ofNat_of_codePoint (codePoint_iff.1 codePoint)
      have last := (codePoint_iff.1 codePoint).2
      exact ⟨_, same, by omega, (Except.ok.inj found).symm⟩
    · exact absurd found (by simp)
  · rintro ⟨code, same, last, rfl⟩
    have codePoint := exists_code_iff.1 ⟨code, same, last⟩
    have number := (toNat_ofNat_of_codePoint codePoint).trans same.symm
    rw [if_pos (codePoint_iff.2 codePoint), UInt32.toNat_inj.1 (Int.ofNat.inj number)]

/-- A point that is no number of a code is refused, and the refusal names it in full. -/
theorem ofPoint_eq_error_iff {point : Int64} {absent : NoEntry} :
    ofPoint point = .error absent ↔
      absent = ⟨point⟩ ∧ ¬ (0 ≤ point.toInt ∧ point.toInt ≤ 0x10FFFF) := by
  rw [ofPoint, ← codePoint_iff]
  constructor
  · intro refused
    split at refused
    · exact absurd refused (by simp)
    · next outside => exact ⟨(Except.error.inj refused).symm, outside⟩
  · rintro ⟨rfl, outside⟩
    rw [if_neg outside]

/-! ## Agreement -/

/-- An entry is found for a point exactly if the point is a number from 0 to U+10FFFF, and any other
point is refused and named in full.  The entry is the one of the code that is the same number, so no
two points have the same entry.  The code of a character has the entry of the character, which shows
this character.  Any other code is kept as it is in its entry, without a character and a name, and
in the category of the surrogates. -/
theorem ofPoint_ofCode_ofChar_agree :
    (∀ point : Int64,
      ((∃ entry, ofPoint point = .ok entry) ↔ 0 ≤ point.toInt ∧ point.toInt ≤ 0x10FFFF) ∧
      ∀ absent, ofPoint point = .error absent → absent = ⟨point⟩) ∧
    (∀ (point : Int64) (entry : Entry), ofPoint point = .ok entry →
      (entry.code.toNat : Int) = point.toInt ∧
      ∀ code : UInt32, (code.toNat : Int) = point.toInt → entry = ofCode code) ∧
    (∀ (point other : Int64) (entry : Entry),
      ofPoint point = .ok entry → ofPoint other = .ok entry → point = other) ∧
    (∀ c : Char, ofCode c.val = ofChar c ∧ (ofCode c.val).character? = some c) ∧
    ∀ code : UInt32, 0xD800 ≤ code ∧ code ≤ 0xDFFF ∨ 0x10FFFF < code →
      (ofCode code).code = code ∧ (ofCode code).character? = none ∧ (ofCode code).name? = none ∧
        (ofCode code).category = .cs := by
  have code_of {point : Int64} {entry : Entry} (found : ofPoint point = .ok entry) :
      (entry.code.toNat : Int) = point.toInt := by
    obtain ⟨code, same, -, rfl⟩ := ofPoint_eq_ok_iff.1 found
    rw [code_ofCode, same]
  refine ⟨fun point => ⟨⟨?_, fun codePoint => ?_⟩, fun absent refused =>
    (ofPoint_eq_error_iff.1 refused).1⟩, fun point entry found => ⟨code_of found, ?_⟩,
    fun point other entry found found' => ?_, fun c => ?_, fun code outside => ?_⟩
  · rintro ⟨entry, found⟩
    obtain ⟨code, same, last, -⟩ := ofPoint_eq_ok_iff.1 found
    exact exists_code_iff.1 ⟨code, same, last⟩
  · obtain ⟨code, same, last⟩ := exists_code_iff.2 codePoint
    exact ⟨ofCode code, ofPoint_eq_ok_iff.2 ⟨code, same, last, rfl⟩⟩
  · intro code same
    obtain ⟨found_code, same', -, rfl⟩ := ofPoint_eq_ok_iff.1 found
    rw [← same'] at same
    rw [UInt32.toNat_inj.1 (Int.ofNat.inj same)]
  · exact Int64.toInt_inj.1 ((code_of found).symm.trans (code_of found'))
  · rw [ofCode_val]
    exact ⟨rfl, character?_ofChar c⟩
  · have absent := characterOf?_eq_none_iff.2 outside
    rcases ofCode_cases code with ⟨c, rfl, -⟩ | ⟨-, entry⟩
    · rw [characterOf?_val] at absent
      exact absurd absent (by simp)
    · rw [entry]
      exact ⟨rfl, absent, rfl, rfl⟩

/-- A point of which the lower half is the letter A is refused in full; the letter, the last
surrogate and the first code above U+10FFFF have entries of their own. -/
theorem entries_beyond_characters :
    ofPoint 0x100000041 = .error ⟨0x100000041⟩ ∧
    (∃ entry, ofPoint 65 = .ok entry ∧ entry.code = 65 ∧ entry = ofChar 'A') ∧
    (ofCode 0xDFFF).character? = none ∧
    (ofCode 0x110000).code = 0x110000 ∧ (ofCode 0x110000).category = .cs := by
  obtain ⟨points, entries, -, chars, others⟩ := ofPoint_ofCode_ofChar_agree
  refine ⟨?_, ?_, (others 0xDFFF (by decide)).2.1, (others 0x110000 (by decide)).1,
    (others 0x110000 (by decide)).2.2.2⟩
  · cases found : ofPoint 0x100000041 with
    | ok entry => exact absurd ((points _).1.1 ⟨entry, found⟩) (by decide)
    | error absent => rw [(points _).2 absent found]
  · obtain ⟨entry, found⟩ := (points 65).1.2 (by decide)
    obtain ⟨number, same⟩ := entries 65 entry found
    have letter : entry = ofChar 'A' := (same 'A'.val rfl).trans (chars 'A').1
    exact ⟨entry, found, letter ▸ rfl, letter⟩

end Entry

/-! ## The lines of code points -/

namespace Catalogue

/-- The points that are code points have the lines of their entries. -/
theorem unicode_of_codePoint {point : Int64} (least : 0 ≤ point) (greatest : point ≤ 0x10FFFF) :
    unicode point = .ok (Entry.ofCode (UInt32.ofNat point.toInt.toNat)).line := by
  rw [unicode, Entry.ofPoint, if_pos ⟨least, greatest⟩]
  rfl

/-- All other points are refused. -/
theorem unicode_of_not_codePoint {point : Int64} (outside : ¬ (0 ≤ point ∧ point ≤ 0x10FFFF)) :
    unicode point = .error ⟨point⟩ := by
  rw [unicode, Entry.ofPoint, if_neg outside]
  rfl

/-- A point with a line is a code point, and the line is that of its entry. -/
theorem codePoint_of_unicode_eq_ok {point : Int64} {line : Line}
    (found : unicode point = .ok line) :
    (0 ≤ point ∧ point ≤ 0x10FFFF) ∧
      line = (Entry.ofCode (UInt32.ofNat point.toInt.toNat)).line := by
  by_cases codePoint : 0 ≤ point ∧ point ≤ 0x10FFFF
  · rw [unicode_of_codePoint codePoint.1 codePoint.2] at found
    exact ⟨codePoint, (Except.ok.inj found).symm⟩
  · rw [unicode_of_not_codePoint codePoint] at found
    exact nomatch found

end Catalogue

end CodeChart
