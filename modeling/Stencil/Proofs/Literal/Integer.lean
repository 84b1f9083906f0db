import Mathlib.Tactic.Positivity
import Stencil.Proofs.Literal.Written

/-!
# Integers of any width

A written integer has any number of digits, with zeros in front and with either sign.  Whether it
fits into 64 bits or is kept as its digits, it is shown as the canonical decimal of the number that
it denotes.  The rules for canonical decimals and the printer of integers agree because a run of
digits without zeros in front is the decimal of its own value.
-/

namespace Stencil.Literal

/-! ## Digits and their value -/

theorem exists_digitChar {c : Char} (digit : c.isDigit = true) : ∃ n < 10, c = n.digitChar := by
  have bounds : 48 ≤ c.toNat ∧ c.toNat ≤ 57 := by
    simpa [Char.isDigit, UInt32.le_iff_toNat_le] using digit
  obtain ⟨low, high⟩ := bounds
  refine ⟨c.toNat - 48, by omega, ?_⟩
  rw [← Char.toNat_inj, Nat.toNat_digitChar_of_lt_ten (by omega)]
  omega

/-- Digits that follow the decimal of a positive number continue it. -/
theorem toDigits_ofDigitChars {digits : Text} (all_digits : IsDigits digits) {front : Nat}
    (positive : 0 < front) :
    Nat.toDigits 10 (Nat.ofDigitChars 10 digits front) = Nat.toDigits 10 front ++ digits := by
  induction digits generalizing front with
  | nil => simp
  | cons c rest ih =>
      obtain ⟨c_digit, rest_digits⟩ := List.forall_mem_cons.mp all_digits
      obtain ⟨n, small, rfl⟩ := exists_digitChar c_digit
      have extended : Nat.toDigits 10 (10 * front + n) =
          Nat.toDigits 10 front ++ [n.digitChar] := by
        rw [← Nat.toDigits_append_toDigits (by omega) positive small,
          Nat.toDigits_of_lt_base small]
      rw [Nat.ofDigitChars_cons_digitChar_of_lt_ten small, ih rest_digits (by omega), extended,
        List.append_assoc, List.singleton_append]

/-- Digits without zeros in front. -/
structure Leading (digits : Text) : Prop where
  all_digits : IsDigits digits
  head : ∃ c, digits.head? = some c ∧ c ≠ '0'

/-- Digits without zeros in front are the decimal of their value, which is no zero. -/
theorem Leading.ofNat_toNat {digits : Text} (leading : Leading digits) :
    0 < Decimal.toNat digits ∧ Decimal.ofNat (Decimal.toNat digits) = digits := by
  obtain ⟨all_digits, first, starts, nonzero⟩ := leading
  cases digits with
  | nil => cases starts
  | cons c rest =>
      obtain rfl := Option.some.inj starts
      obtain ⟨c_digit, rest_digits⟩ := List.forall_mem_cons.mp all_digits
      obtain ⟨n, small, rfl⟩ := exists_digitChar c_digit
      have positive : 0 < n := Nat.pos_of_ne_zero fun zero => nonzero (zero ▸ rfl)
      have value : Decimal.toNat (n.digitChar :: rest) = Nat.ofDigitChars 10 rest n := by
        rw [Decimal.toNat, Nat.ofDigitChars_cons_digitChar_of_lt_ten small, Nat.mul_zero,
          Nat.zero_add]
      rw [value]
      constructor
      · rw [Nat.ofDigitChars_eq_ofDigitChars_zero]
        positivity
      · rw [Decimal.ofNat, toDigits_ofDigitChars rest_digits positive,
          Nat.toDigits_of_lt_base small, List.singleton_append]

/-- The digits without the zeros in front. -/
def stripZeros (digits : Text) : Text := digits.dropWhile (· == '0')

theorem toNat_stripZeros (digits : Text) :
    Decimal.toNat (stripZeros digits) = Decimal.toNat digits := by
  induction digits with
  | nil => rfl
  | cons c rest ih =>
      by_cases zero : c = '0'
      · subst zero
        exact ih
      · rw [stripZeros, List.dropWhile_cons_of_neg (by simpa using zero)]

theorem leading_stripZeros {digits : Text} (all_digits : IsDigits digits)
    (nonempty : stripZeros digits ≠ []) : Leading (stripZeros digits) := by
  constructor
  · exact fun c member => all_digits c ((List.dropWhile_suffix _).subset member)
  · obtain ⟨c, rest, split⟩ := List.exists_cons_of_ne_nil nonempty
    have head := List.head?_dropWhile_not (· == '0') digits
    rw [← stripZeros, split] at head
    exact ⟨c, by rw [split]; rfl, by simpa using head⟩

/-! ## Canonical decimals -/

/-- The canonical decimal of an integer: zero is one digit without a sign, and any other number has
a minus sign or none and no zeros in front. -/
inductive IsDecimalOf : Text → Int → Prop
  | zero : IsDecimalOf ['0'] 0
  | positive {digits : Text} (leading : Leading digits) : IsDecimalOf digits (Decimal.toNat digits)
  | negative {digits : Text} (leading : Leading digits) :
      IsDecimalOf ('-' :: digits) (-Decimal.toNat digits)

theorem IsDecimalOf.eq_ofInt {text : Text} {n : Int} (canonical : IsDecimalOf text n) :
    text = Decimal.ofInt n := by
  cases canonical with
  | zero => rfl
  | positive leading => exact leading.ofNat_toNat.2.symm
  | negative leading =>
      obtain ⟨positive, decimal⟩ := leading.ofNat_toNat
      obtain ⟨pred, value⟩ := Nat.exists_eq_succ_of_ne_zero positive.ne'
      rw [value] at decimal ⊢
      exact congrArg ('-' :: ·) decimal.symm

theorem ofInt_injective {m n : Int} (same : Decimal.ofInt m = Decimal.ofInt n) : m = n := by
  have unsigned (k l : Nat) : Decimal.ofNat k ≠ '-' :: Decimal.ofNat l := fun same => by
    have digit := isDigits_ofNat k '-' (same ▸ List.mem_cons_self)
    cases digit
  have magnitude {k l : Nat} (same : Decimal.ofNat k = Decimal.ofNat l) : k = l := by
    rw [← Decimal.toNat_ofNat k, same, Decimal.toNat_ofNat]
  cases m with
  | ofNat k =>
      cases n with
      | ofNat l => rw [magnitude same]
      | negSucc l => exact absurd same (unsigned _ _)
  | negSucc k =>
      cases n with
      | ofNat l => exact absurd same.symm (unsigned _ _)
      | negSucc l => rw [Nat.succ.inj (magnitude (List.tail_eq_of_cons_eq same))]

/-! ## Written integers -/

/-- An integer as it may be written: an optional sign and digits. -/
structure Integer where
  sign : Sign
  digits : Digits

namespace Integer

/-- The integer as it is written. -/
def text (integer : Integer) : Text := integer.sign.text ++ integer.digits.text

/-- The number that is denoted. -/
def value (integer : Integer) : Int := integer.sign.apply (Decimal.toNat integer.digits.text)

/-- The integer without a plus sign and without zeros in front; of nothing but zeros one is left,
without a sign. -/
def shortened (integer : Integer) : Text :=
  match stripZeros integer.digits.text with
  | [] => ['0']
  | digits => if integer.sign.isNegative then '-' :: digits else digits

theorem isDecimalOf_shortened (integer : Integer) :
    IsDecimalOf integer.shortened integer.value := by
  obtain ⟨sign, digits⟩ := integer
  have same_value := toNat_stripZeros digits.text
  rw [shortened, value, Sign.apply, ← same_value]
  split
  next zeros =>
    rw [zeros]
    simpa [Decimal.toNat] using IsDecimalOf.zero
  next nonempty =>
    have leading := leading_stripZeros digits.digits nonempty
    split
    next => exact .negative leading
    next => exact .positive leading

theorem readList_text (integer : Integer) : readList integer.text = .ok [.ofInt integer.value] := by
  obtain ⟨sign, digits⟩ := integer
  refine DerivesList.readList_eq
    ⟨⟨noSpaces, [⟨noSpaces, sign.text ++ digits.text, _, noSpaces⟩], none, noSpaces⟩, ?_, rfl, ?_⟩
  · simp [Layout.text, Layout.separated, Layout.commaText, Item.written, noSpaces, text]
  · exact List.forall_mem_singleton.mpr (Derives.integer sign digits)

end Integer

theorem ofInt_of_fits {n : Int} (fits : -2 ^ 63 ≤ n ∧ n < 2 ^ 63) :
    ∃ word : Int64, ofInt n = .int word ∧ word.toInt = n := by
  refine ⟨Int64.ofInt n, ?_, Int64.toInt_ofInt_of_le fits.1 fits.2⟩
  have bounds : Int64.minValue.toInt = -2 ^ 63 ∧ Int64.maxValue.toInt = 2 ^ 63 - 1 := ⟨rfl, rfl⟩
  rw [ofInt, if_pos (by omega)]

theorem ofInt_of_not_fits {n : Int} (unfit : ¬(-2 ^ 63 ≤ n ∧ n < 2 ^ 63)) :
    ofInt n = .wide (Decimal.ofInt n) := by
  have bounds : Int64.minValue.toInt = -2 ^ 63 ∧ Int64.maxValue.toInt = 2 ^ 63 - 1 := ⟨rfl, rfl⟩
  exact ofInt_of_isWide (by omega)

theorem toText_ofInt (n : Int) : (ofInt n).toText = Decimal.ofInt n := by
  by_cases fits : -2 ^ 63 ≤ n ∧ n < 2 ^ 63
  · obtain ⟨word, literal_eq, value_eq⟩ := ofInt_of_fits fits
    rw [literal_eq]
    exact congrArg Decimal.ofInt value_eq
  · rw [ofInt_of_not_fits fits]
    rfl

/-- A written integer is read as one literal, of 64 bits if the number fits and as its digits if
not.  In both cases the literal is shown as the canonical decimal of the number, which is the text
without a plus sign and without zeros in front.  So two written integers are shown alike exactly
when they denote the same number. -/
theorem readList_integer :
    ∃ literal : Integer → Literal,
      (∀ integer : Integer, readList integer.text = .ok [literal integer] ∧
        (if -2 ^ 63 ≤ integer.value ∧ integer.value < 2 ^ 63
          then ∃ word : Int64, literal integer = .int word ∧ word.toInt = integer.value
          else ∃ digits, literal integer = .wide digits) ∧
        (literal integer).toText = integer.shortened ∧
        IsDecimalOf (literal integer).toText integer.value) ∧
      ∀ left right : Integer,
        (literal left).toText = (literal right).toText ↔ left.value = right.value := by
  have shown (integer : Integer) : (ofInt integer.value).toText = integer.shortened := by
    rw [toText_ofInt, integer.isDecimalOf_shortened.eq_ofInt]
  refine ⟨fun integer => ofInt integer.value, fun integer => ⟨integer.readList_text, ?_,
    shown integer, ?_⟩, fun left right => ⟨fun same => ?_, fun same => ?_⟩⟩
  · split
    next fits => exact ofInt_of_fits fits
    next unfit => exact ⟨_, ofInt_of_not_fits unfit⟩
  · rw [shown]
    exact integer.isDecimalOf_shortened
  · rw [toText_ofInt, toText_ofInt] at same
    exact ofInt_injective same
  · exact congrArg (fun n => (ofInt n).toText) same

-- The least number of 64 bits with a zero in front, and the first one above 64 bits with a sign.
example : readList "-09223372036854775808, +9223372036854775808".toList =
    .ok [.int Int64.minValue, .wide "9223372036854775808".toList] := by
  rfl

end Stencil.Literal
