import Mathlib.Data.List.TakeDrop
import Mathlib.Data.List.TakeWhile
import Stencil.Proofs.Literal.Grammar

/-!
# Reading numbers

A number is read exactly when the text starts with a sign, a mantissa and an exponent of the
grammar, and nothing is left that the number could go on with.  Each part of a number has one lemma
for what it was read from and one for what it is read as.
-/

namespace Stencil.Literal

/-- No literal goes on with the text: it is empty, or starts with a space, a comma or a closing
character. -/
def Stops (rest : Text) : Prop :=
  ∀ c ∈ rest.head?, isSpace c = true ∨ c = ',' ∨ c = ']' ∨ c = ')'

/-- The digits before the point. -/
def Mantissa.front : Mantissa → Text
  | .whole front => front.text
  | .pointed front _ _ => front.text
  | .bare _ => []

/-- The digits after the point, if there is a point. -/
def Mantissa.fraction? : Mantissa → Option Text
  | .whole _ => none
  | .pointed _ fraction _ => some fraction
  | .bare fraction => some fraction.text

/-- The numeral with the given parts. -/
def numeralOf (sign : Sign) (mantissa : Mantissa) (exponent : Option Exponent) : Numeral where
  negative := sign.isNegative
  whole := mantissa.front
  fraction := mantissa.fraction?
  exponent := exponent.map fun exponent => Exponent.value (some exponent)

theorem toLiteral_numeralOf (sign : Sign) (mantissa : Mantissa) (exponent : Option Exponent)
    (marked : mantissa.hasPoint = true ∨ exponent.isSome = true) :
    (numeralOf sign mantissa exponent).toLiteral = .double (doubleOf sign mantissa exponent) := by
  cases mantissa with
  | whole front =>
      cases exponent with
      | none => simp [Mantissa.hasPoint] at marked
      | some exponent =>
          simp [numeralOf, Numeral.toLiteral, doubleOf, Mantissa.front, Mantissa.fraction?,
            Mantissa.digits, Mantissa.places]
  | pointed front fraction _ =>
      cases exponent <;>
        simp [numeralOf, Numeral.toLiteral, doubleOf, Mantissa.front, Mantissa.fraction?,
          Mantissa.digits, Mantissa.places, Exponent.value]
  | bare fraction =>
      cases exponent <;>
        simp [numeralOf, Numeral.toLiteral, doubleOf, Mantissa.front, Mantissa.fraction?,
          Mantissa.digits, Mantissa.places, Exponent.value]

/-- A numeral has the value that the grammar gives to its parts. -/
theorem derives_numeralOf (sign : Sign) (mantissa : Mantissa) (exponent : Option Exponent) :
    Derives (sign.text ++ mantissa.text ++ Exponent.text exponent)
      (numeralOf sign mantissa exponent).toLiteral := by
  by_cases marked : mantissa.hasPoint = true ∨ exponent.isSome = true
  · rw [toLiteral_numeralOf sign mantissa exponent marked]
    exact Derives.double sign mantissa exponent marked
  · obtain ⟨no_point, no_exponent⟩ := not_or.mp marked
    cases mantissa with
    | whole front =>
        obtain rfl : exponent = none := by simpa using no_exponent
        rw [Exponent.text, List.append_nil]
        exact Derives.integer sign front
    | pointed front fraction _ => exact absurd rfl no_point
    | bare fraction => exact absurd rfl no_point

/-! ## What starts and ends the parts -/

theorem Digits.head_isDigit (digits : Digits) (rest : Text) :
    ∀ c ∈ (digits.text ++ rest).head?, c.isDigit = true := by
  obtain ⟨text, nonempty, all_digits⟩ := digits
  cases text with
  | nil => exact absurd rfl nonempty
  | cons c tail => simpa using all_digits c (by simp)

theorem isDigit_unsigned {c : Char} (digit : c.isDigit = true) : c ≠ '-' ∧ c ≠ '+' := by
  constructor <;> rintro rfl <;> simp at digit

theorem Digits.unsigned (digits : Digits) (rest : Text) :
    ∀ c ∈ (digits.text ++ rest).head?, c ≠ '-' ∧ c ≠ '+' :=
  fun c member => isDigit_unsigned (digits.head_isDigit rest c member)

/-- A mantissa starts with a digit or a point. -/
theorem Mantissa.head_text (mantissa : Mantissa) (rest : Text) :
    ∀ c ∈ (mantissa.text ++ rest).head?, c.isDigit = true ∨ c = '.' := by
  intro c member
  cases mantissa with
  | whole front => exact .inl (front.head_isDigit rest c member)
  | pointed front fraction _ =>
      rw [Mantissa.text, List.append_assoc] at member
      exact .inl (front.head_isDigit _ c member)
  | bare fraction => exact .inr (by simpa [Mantissa.text, eq_comm] using member)

theorem Mantissa.unsigned (mantissa : Mantissa) (rest : Text) :
    ∀ c ∈ (mantissa.text ++ rest).head?, c ≠ '-' ∧ c ≠ '+' := by
  intro c member
  rcases mantissa.head_text rest c member with digit | rfl
  · exact isDigit_unsigned digit
  · decide

theorem isSpace_iff {c : Char} : isSpace c = true ↔ c = ' ' ∨ c = '\t' ∨ c = '\r' ∨ c = '\n' := by
  simp [isSpace, or_assoc]

theorem Stops.head {rest : Text} (stops : Stops rest) :
    ∀ c ∈ rest.head?, c.isDigit = false ∧ c ≠ '.' ∧ ¬ (c = 'e' ∨ c = 'E') := by
  intro c member
  rcases stops c member with space | rfl | rfl | rfl
  · rcases isSpace_iff.mp space with rfl | rfl | rfl | rfl <;> decide
  all_goals decide

theorem Stops.exponent {rest : Text} (stops : Stops rest) :
    ∀ c ∈ rest.head?, c.isDigit = false ∧ ¬ (c = 'e' ∨ c = 'E') :=
  fun c member => ⟨(stops.head c member).1, (stops.head c member).2.2⟩

/-- No mantissa goes on with the letter of an exponent. -/
theorem letter_ends {letter : Char} (letter_eq : letter = 'e' ∨ letter = 'E') (rest : Text) :
    ∀ c ∈ (letter :: rest).head?, c.isDigit = false ∧ c ≠ '.' := by
  intro c member
  obtain rfl : letter = c := by simpa using member
  rcases letter_eq with rfl | rfl <;> decide

/-- No mantissa goes on with an exponent or what stands after it. -/
theorem Exponent.ends (exponent : Option Exponent) {rest : Text} (stops : Stops rest) :
    ∀ c ∈ (Exponent.text exponent ++ rest).head?, c.isDigit = false ∧ c ≠ '.' := by
  intro c member
  cases exponent with
  | none => exact ⟨(stops.head c member).1, (stops.head c member).2.1⟩
  | some exponent => exact letter_ends exponent.letter_eq _ c member

namespace Numeral

/-! ## Digits -/

theorem isDigits_nil : IsDigits [] := fun _ member => absurd member List.not_mem_nil

theorem readDigits_sound {s digits rest : Text} (read : readDigits s = (digits, rest)) :
    s = digits ++ rest ∧ IsDigits digits := by
  rw [readDigits, List.span_eq_takeWhile_dropWhile] at read
  obtain ⟨rfl, rfl⟩ := Prod.mk.inj read
  exact ⟨List.takeWhile_append_dropWhile.symm, fun c member => List.mem_takeWhile_imp member⟩

theorem readDigits_append {digits rest : Text} (all_digits : IsDigits digits)
    (no_digit : ∀ c ∈ rest.head?, c.isDigit = false) :
    readDigits (digits ++ rest) = (digits, rest) := by
  rw [readDigits, List.span_eq_takeWhile_dropWhile, List.takeWhile_append_of_pos all_digits,
    List.dropWhile_append_of_pos all_digits]
  cases rest with
  | nil => simp
  | cons c tail => simp [no_digit c rfl]

/-! ## Signs -/

theorem readSign_sound (s : Text) :
    ∃ sign : Sign, s = sign.text ++ (readSign s).2 ∧ (readSign s).1 = sign.isNegative := by
  unfold readSign
  split
  · exact ⟨.minus, rfl, rfl⟩
  · exact ⟨.plus, rfl, rfl⟩
  · exact ⟨.none, rfl, rfl⟩

theorem readSign_append (sign : Sign) {s : Text} (unsigned : ∀ c ∈ s.head?, c ≠ '-' ∧ c ≠ '+') :
    readSign (sign.text ++ s) = (sign.isNegative, s) := by
  cases sign with
  | plus => rfl
  | minus => rfl
  | none =>
      cases s with
      | nil => rfl
      | cons c tail =>
          obtain ⟨not_minus, not_plus⟩ := unsigned c rfl
          simp [Sign.text, Sign.isNegative, readSign, not_minus, not_plus]

/-! ## Mantissas -/

theorem readMagnitude?_sound {s whole rest : Text} {fraction : Option Text}
    (read : readMagnitude? s = some (whole, fraction, rest)) :
    ∃ mantissa : Mantissa, s = mantissa.text ++ rest ∧ whole = mantissa.front ∧
      fraction = mantissa.fraction? := by
  unfold readMagnitude? at read
  split at read
  next after before =>
    obtain ⟨rfl, -⟩ := readDigits_sound before
    split at read
    next => simp at read
    next digits tail nonempty found =>
      obtain ⟨rfl, all_digits⟩ := readDigits_sound found
      simp only [Option.some.injEq, Prod.mk.injEq] at read
      obtain ⟨rfl, rfl, rfl⟩ := read
      exact ⟨.bare ⟨digits, nonempty, all_digits⟩, by simp [Mantissa.text], rfl, rfl⟩
  next => simp at read
  next front after nonempty before =>
    obtain ⟨rfl, front_digits⟩ := readDigits_sound before
    cases found : readDigits after with
    | mk digits tail =>
        obtain ⟨rfl, all_digits⟩ := readDigits_sound found
        simp only [found, Option.some.injEq, Prod.mk.injEq] at read
        obtain ⟨rfl, rfl, rfl⟩ := read
        exact ⟨.pointed ⟨front, nonempty, front_digits⟩ digits all_digits,
          by simp [Mantissa.text], rfl, rfl⟩
  next front after _ nonempty _ before =>
    obtain ⟨rfl, front_digits⟩ := readDigits_sound before
    simp only [Option.some.injEq, Prod.mk.injEq] at read
    obtain ⟨rfl, rfl, rfl⟩ := read
    exact ⟨.whole ⟨front, nonempty, front_digits⟩, rfl, rfl, rfl⟩

theorem readMagnitude?_append (mantissa : Mantissa) {rest : Text}
    (ends : ∀ c ∈ rest.head?, c.isDigit = false ∧ c ≠ '.') :
    readMagnitude? (mantissa.text ++ rest) = some (mantissa.front, mantissa.fraction?, rest) := by
  have no_digit : ∀ c ∈ rest.head?, c.isDigit = false := fun c member => (ends c member).1
  cases mantissa with
  | whole front =>
      have before := readDigits_append front.digits no_digit
      rw [readMagnitude?, Mantissa.text, before]
      split
      next heq => exact absurd (congrArg Prod.fst heq) front.nonempty
      next heq => exact absurd (congrArg Prod.fst heq) front.nonempty
      next heq =>
        obtain ⟨-, rfl⟩ := Prod.mk.inj heq
        exact absurd rfl (ends '.' rfl).2
      next heq =>
        obtain ⟨rfl, rfl⟩ := Prod.mk.inj heq
        rfl
  | pointed front fraction fraction_digits =>
      have before : readDigits (front.text ++ '.' :: (fraction ++ rest)) =
          (front.text, '.' :: (fraction ++ rest)) :=
        readDigits_append front.digits (by simp)
      have after := readDigits_append fraction_digits no_digit
      rw [readMagnitude?, Mantissa.text, List.append_assoc, List.cons_append, before]
      split
      next heq => exact absurd (congrArg Prod.fst heq) front.nonempty
      next heq => exact absurd (congrArg Prod.fst heq) front.nonempty
      next heq =>
        obtain ⟨rfl, point⟩ := Prod.mk.inj heq
        obtain rfl := List.tail_eq_of_cons_eq point
        rw [after]
        rfl
      next no_point heq =>
        obtain ⟨rfl, rfl⟩ := Prod.mk.inj heq
        exact absurd rfl (no_point _)
  | bare fraction =>
      have before : readDigits ('.' :: (fraction.text ++ rest)) =
          ([], '.' :: (fraction.text ++ rest)) :=
        readDigits_append isDigits_nil (by simp)
      have after := readDigits_append fraction.digits no_digit
      rw [readMagnitude?, Mantissa.text, List.cons_append, before]
      simp only [after]
      split
      next heq => exact absurd (congrArg Prod.fst heq) fraction.nonempty
      next heq =>
        obtain ⟨rfl, rfl⟩ := Prod.mk.inj heq
        rfl

/-! ## Exponents -/

theorem readExponent_sound {s rest : Text} {value : Option Int}
    (read : readExponent s = .found value rest) :
    ∃ exponent : Option Exponent, s = Exponent.text exponent ++ rest ∧
      value = exponent.map fun exponent => Exponent.value (some exponent) := by
  unfold readExponent at read
  split at read
  next =>
    obtain ⟨rfl, rfl⟩ := Reading.found.inj read
    exact ⟨none, rfl, rfl⟩
  next c tail =>
    by_cases letter : c = 'e' ∨ c = 'E'
    · obtain ⟨sign, tail_eq, negative⟩ := readSign_sound tail
      rw [if_pos letter] at read
      dsimp only at read
      split at read
      next => simp at read
      next digits after nonempty found =>
        obtain ⟨signed_eq, all_digits⟩ := readDigits_sound found
        obtain ⟨rfl, rfl⟩ := Reading.found.inj read
        refine ⟨some ⟨c, letter, sign, ⟨digits, nonempty, all_digits⟩⟩, ?_, ?_⟩
        · rw [Exponent.text, List.cons_append, List.append_assoc, ← signed_eq, ← tail_eq]
        · simp [Exponent.value, Sign.apply, negative]
    · rw [if_neg letter] at read
      obtain ⟨rfl, rfl⟩ := Reading.found.inj read
      exact ⟨none, rfl, rfl⟩

theorem readExponent_append (exponent : Option Exponent) {rest : Text}
    (ends : ∀ c ∈ rest.head?, c.isDigit = false ∧ ¬ (c = 'e' ∨ c = 'E')) :
    readExponent (Exponent.text exponent ++ rest) =
      .found (exponent.map fun exponent => Exponent.value (some exponent)) rest := by
  cases exponent with
  | none =>
      cases rest with
      | nil => rfl
      | cons c tail =>
          rw [Exponent.text, List.nil_append, readExponent, if_neg (ends c rfl).2]
          rfl
  | some exponent =>
      obtain ⟨letter, letter_eq, sign, digits⟩ := exponent
      have signed : readSign (sign.text ++ (digits.text ++ rest)) =
          (sign.isNegative, digits.text ++ rest) :=
        readSign_append sign (digits.unsigned rest)
      have found := readDigits_append digits.digits fun c member => (ends c member).1
      rw [Exponent.text, List.cons_append, List.append_assoc, readExponent, if_pos letter_eq]
      dsimp only
      rw [signed]
      dsimp only
      rw [found]
      split
      next heq => exact absurd (congrArg Prod.fst heq) digits.nonempty
      next heq =>
        obtain ⟨rfl, rfl⟩ := Prod.mk.inj heq
        rfl

/-! ## Numbers -/

/-- A number is only read from a text of the grammar. -/
theorem read_sound {s rest : Text} {numeral : Numeral} (found : read s = .found numeral rest) :
    ∃ sign mantissa exponent, s = sign.text ++ mantissa.text ++ Exponent.text exponent ++ rest ∧
      numeral = numeralOf sign mantissa exponent := by
  obtain ⟨sign, s_eq, negative⟩ := readSign_sound s
  unfold read at found
  dsimp only at found
  split at found
  next => simp at found
  next whole fraction after magnitude =>
    obtain ⟨mantissa, unsigned_eq, rfl, rfl⟩ := readMagnitude?_sound magnitude
    split at found
    next value tail power =>
      obtain ⟨exponent, rfl, rfl⟩ := readExponent_sound power
      obtain ⟨rfl, rfl⟩ := Reading.found.inj found
      refine ⟨sign, mantissa, exponent, ?_, by rw [numeralOf, negative]⟩
      rw [s_eq, unsigned_eq]
      simp only [List.append_assoc]
    next => simp at found
    next => simp at found

/-- A number of the grammar is read to its end, wherever no literal goes on. -/
theorem read_append (sign : Sign) (mantissa : Mantissa) (exponent : Option Exponent) {rest : Text}
    (stops : Stops rest) :
    read (sign.text ++ mantissa.text ++ Exponent.text exponent ++ rest) =
      .found (numeralOf sign mantissa exponent) rest := by
  have signed := readSign_append sign (mantissa.unsigned (Exponent.text exponent ++ rest))
  have magnitude := readMagnitude?_append mantissa (Exponent.ends exponent stops)
  have power := readExponent_append exponent stops.exponent
  rw [List.append_assoc, List.append_assoc, read, signed]
  dsimp only
  rw [magnitude]
  dsimp only
  rw [power]
  rfl

/-- No number starts with a character that is no digit, sign or point. -/
theorem read_eq_miss {c : Char} (rest : Text) (no_sign : c ≠ '-' ∧ c ≠ '+')
    (no_digit : c.isDigit = false) (no_point : c ≠ '.') : read (c :: rest) = .miss := by
  have signed : readSign (c :: rest) = (false, c :: rest) :=
    readSign_append .none (by simpa using no_sign)
  have before : readDigits (c :: rest) = ([], c :: rest) :=
    readDigits_append isDigits_nil (by simpa using no_digit)
  have magnitude : readMagnitude? (c :: rest) = none := by
    rw [readMagnitude?, before]
    split
    next heq => exact absurd (List.cons.inj (Prod.mk.inj heq).2).1 no_point
    next => rfl
    next nonempty heq => exact absurd (Prod.mk.inj heq).1.symm nonempty
    next nonempty _ heq => exact absurd (Prod.mk.inj heq).1.symm nonempty
  rw [read, signed]
  dsimp only
  rw [magnitude]

end Numeral

end Stencil.Literal
