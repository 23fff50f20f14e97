import CodeChart.Fault
import CodeChart.Proofs.Text.Quoted

/-!
# What the words of a fault tell

The words of each kind of fault begin with a character of their own, `Fault.initial`.  Behind that
they hold everything the fault is about: a number in base ten, which has one numeral, or a token
between double quotes, which can be read back with anything behind it.  So two faults that are told
in the same words are the same fault (`messageWith_tells_fault`), whichever characters a quoted
token shows as themselves, and whatever a token looks like.

A rejection is left out: of the names in it only what is visible is told.
-/

namespace CodeChart

namespace Text.Decimal

theorem natural_inj {m n : Nat} : natural m = natural n ↔ m = n := by
  constructor
  · intro same
    have value : Nat.ofDigitChars 10 (natural m) 0 = Nat.ofDigitChars 10 (natural n) 0 := by
      rw [same]
    rw [natural, natural, Nat.ofDigitChars_ten_toDigits, Nat.ofDigitChars_ten_toDigits] at value
    exact value
  · rintro rfl
    rfl

/-- The numeral of a natural number has no sign. -/
theorem natural_ne_hyphen_cons (n : Nat) (rest : List Char) : natural n ≠ '-' :: rest := by
  intro eq
  have isDigit : '-'.isDigit = true := by
    refine Nat.isDigit_of_mem_toDigits (b := 10) (n := n) (by decide) (by decide) ?_
    rw [← natural, eq]
    exact List.mem_cons_self
  exact absurd isDigit (by decide)

/-- No two integers have the same numeral. -/
theorem text_inj {i j : Int} : text i = text j ↔ i = j := by
  constructor
  · intro same
    rw [text, text, String.ofList_inj, integer, integer] at same
    split at same
    · split at same
      · have distance := natural_inj.1 (List.cons.inj same).2
        omega
      · exact absurd same.symm (natural_ne_hyphen_cons _ _)
    · split at same
      · exact absurd same (natural_ne_hyphen_cons _ _)
      · have distance := natural_inj.1 same
        omega
  · rintro rfl
    rfl

end Text.Decimal

theorem Point.Defect.message_inj {defect other : Point.Defect} :
    defect.message = other.message ↔ defect = other := by
  cases defect <;> cases other <;> decide

theorem Refusal.message_inj {refusal other : Refusal} :
    refusal.message = other.message ↔ refusal = other := by
  cases refusal <;> cases other <;> decide

namespace Fault

/-! ## The beginning -/

/-- The character with which the words of a fault begin. -/
def initial : Fault → Char
  | notTwoPoints _ => 'S'
  | unreadable .. => 'i'
  | noEntry _ => 'c'
  | unwritten _ => 'f'
  | rejected .. => 'e'

theorem head?_messageWith (literal : Char → Bool) (fault : Fault) :
    (fault.messageWith literal).toList.head? = some fault.initial := by
  have begins (first rest : String) {c : Char} (head : first.toList.head? = some c) :
      (first ++ rest).toList.head? = some c := by
    rw [String.toList_append, List.head?_append, head, Option.some_or]
  -- the beginning is the innermost of the texts that are joined
  cases fault with
  | notTwoPoints given => exact begins _ _ (begins _ _ (begins _ _ rfl))
  | unreadable token defect => exact begins _ _ (begins _ _ (begins _ _ rfl))
  | noEntry absent => exact begins _ _ (begins _ _ rfl)
  | unwritten refusal => exact begins _ _ rfl
  | rejected program rejection =>
    cases rejection with
    | notUtf8 => exact begins _ _ rfl
    | unknownFlag flag =>
      iterate 7 apply begins
      rfl

/-- Faults that are told in the same words are of one kind. -/
theorem initial_eq_of_messageWith_eq {literal : Char → Bool} {fault other : Fault}
    (same : fault.messageWith literal = other.messageWith literal) :
    fault.initial = other.initial := by
  have first := head?_messageWith literal fault
  rw [same, head?_messageWith] at first
  exact (Option.some.inj first).symm

/-- No other fault is told in the words of a refusal. -/
theorem eq_unwritten_of_message_eq {fault : Fault} {refusal : Refusal}
    (same : fault.message = (unwritten refusal).message) : ∃ other, fault = unwritten other := by
  have kinds := initial_eq_of_messageWith_eq same
  cases fault with
  | unwritten other => exact ⟨other, rfl⟩
  | _ => exact absurd kinds (by simp [initial])

/-! ## The words of each kind -/

theorem messageWith_notTwoPoints (literal : Char → Bool) (given : Nat) :
    (notTwoPoints given).messageWith literal =
      Usage.message ++ " (got " ++ Text.Decimal.text given ++ " arguments)" := rfl

theorem messageWith_unreadable (literal : Char → Bool) (token : String) (defect : Point.Defect) :
    (unreadable token defect).messageWith literal =
      "invalid code point " ++ Text.Escape.quoted literal token ++ ": " ++ defect.message := rfl

theorem messageWith_noEntry (literal : Char → Bool) (absent : NoEntry) :
    (noEntry absent).messageWith literal =
      "code point " ++ Text.Decimal.text absent.point.toInt ++ " is outside 0..=0x10FFFF" := rfl

theorem messageWith_unwritten (literal : Char → Bool) (refusal : Refusal) :
    (unwritten refusal).messageWith literal = "failed to write output: " ++ refusal.message := rfl

/-- The token that is quoted in words about a token, and what is told behind it. -/
def quoted? (message : String) : Option (String × List Char) :=
  Text.Escape.readQuoted? (message.toList.drop "invalid code point ".length)

/-- The words about a token read back to the token and its defect, whatever is in the token. -/
theorem quoted?_messageWith_unreadable (literal : Char → Bool) (token : String)
    (defect : Point.Defect) :
    quoted? ((unreadable token defect).messageWith literal) =
      some (token, (": " ++ defect.message).toList) := by
  have words : ((unreadable token defect).messageWith literal).toList =
      "invalid code point ".toList ++ ((Text.Escape.quoted literal token).toList ++
        (": " ++ defect.message).toList) := by
    simp only [messageWith_unreadable, String.toList_append, List.append_assoc]
  rw [quoted?, words, List.drop_left' (by rfl), Text.Escape.readQuoted?_quoted]

/-! ## The fault -/

/-- A fault is known by its words, unless it is a rejection: no other fault is told in them,
whichever characters a quoted token shows as themselves.  In particular the token that is not read
can be read back from the words, whatever quotes, backslashes, controls, escapes or words of faults
are in it. -/
theorem messageWith_tells_fault (literal : Char → Bool) :
    (∀ fault other : Fault, (∀ program rejection, fault ≠ rejected program rejection) →
      (fault.messageWith literal = other.messageWith literal ↔ fault = other)) ∧
    ∀ (token : String) (defect : Point.Defect),
      (quoted? ((unreadable token defect).messageWith literal)).map Prod.fst = some token := by
  constructor
  · intro fault other told
    refine ⟨fun same => ?_, fun eq => by rw [eq]⟩
    have kinds := initial_eq_of_messageWith_eq same
    cases fault with
    | notTwoPoints given =>
      cases other with
      | notTwoPoints given' =>
        rw [messageWith_notTwoPoints, messageWith_notTwoPoints, String.append_left_inj,
          String.append_right_inj, Text.Decimal.text_inj] at same
        rw [Int.ofNat.inj same]
      | _ => exact absurd kinds (by simp [initial])
    | unreadable token defect =>
      cases other with
      | unreadable token' defect' =>
        have read := quoted?_messageWith_unreadable literal token defect
        rw [same, quoted?_messageWith_unreadable, Option.some_inj, Prod.mk.injEq, String.toList_inj,
          String.append_right_inj, Point.Defect.message_inj] at read
        rw [read.1, read.2]
      | _ => exact absurd kinds (by simp [initial])
    | noEntry absent =>
      cases other with
      | noEntry absent' =>
        rw [messageWith_noEntry, messageWith_noEntry, String.append_left_inj,
          String.append_right_inj, Text.Decimal.text_inj, Int64.toInt_inj] at same
        exact congrArg (fun point => noEntry ⟨point⟩) same
      | _ => exact absurd kinds (by simp [initial])
    | unwritten refusal =>
      cases other with
      | unwritten refusal' =>
        rw [messageWith_unwritten, messageWith_unwritten, String.append_right_inj,
          Refusal.message_inj] at same
        rw [same]
      | _ => exact absurd kinds (by simp [initial])
    | rejected program rejection => exact absurd rfl (told program rejection)
  · intro token defect
    rw [quoted?_messageWith_unreadable]
    rfl

/-- A token that imitates the words behind a quoted one is not taken for that one, and a token that
spells an escape is not taken for the character that is escaped so. -/
theorem imitating_tokens_are_told_apart :
    let imitating : Fault := unreadable "\": invalid digit found in string" .notADigit
    let spelling : Fault := unreadable "\\u\x7b7\x7d" .notADigit
    (∀ program rejection, imitating ≠ rejected program rejection) ∧
    (∀ program rejection, spelling ≠ rejected program rejection) ∧
    imitating.message ≠ (unreadable "" .notADigit).message ∧
    spelling.message ≠ (unreadable "\x07" .notADigit).message ∧
    (quoted? imitating.message).map Prod.fst = some "\": invalid digit found in string" ∧
    (quoted? spelling.message).map Prod.fst = some "\\u\x7b7\x7d" := by
  intro imitating spelling
  have imitating_told : ∀ program rejection, imitating ≠ rejected program rejection :=
    fun _ _ => Fault.noConfusion
  have spelling_told : ∀ program rejection, spelling ≠ rejected program rejection :=
    fun _ _ => Fault.noConfusion
  obtain ⟨tells, reads⟩ := messageWith_tells_fault Text.isLiteral
  exact ⟨imitating_told, spelling_told, mt (tells _ _ imitating_told).1 (by decide),
    mt (tells _ _ spelling_told).1 (by decide), reads _ _, reads _ _⟩

end Fault

end CodeChart
