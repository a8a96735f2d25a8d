import Mathlib
import SpatialComputer.Document.Json

/-!
# Numerals read back

The text of a numeral, followed by anything that does not go on with a number, is read as this very numeral: its digits start with a zero only if they are a single one, the digits after the point are as many as there are places, and the exponent keeps its sign.
-/

namespace SpatialComputer.Json

open Binary64

/-! ### Digits -/

/-- Whether no digit comes first. -/
def EndsDigits (rest : List Char) : Prop := ∀ c ∈ rest.head?, c.isDigit = false

theorem spanDigits_append {digits rest : List Char} (hdigits : ∀ c ∈ digits, c.isDigit = true)
    (hrest : EndsDigits rest) : spanDigits (digits ++ rest) = (digits, rest) := by
  have hnone : rest.takeWhile Char.isDigit = [] ∧ rest.dropWhile Char.isDigit = rest := by
    cases rest with
    | nil => exact ⟨rfl, rfl⟩
    | cons c rest => simp [hrest c rfl]
  rw [spanDigits, List.takeWhile_append_of_pos hdigits, List.dropWhile_append_of_pos hdigits,
    hnone.1, hnone.2, List.append_nil]

theorem digitsValue_eq (digits : List Char) : digitsValue digits = Nat.ofDigitChars 10 digits 0 :=
  Nat.ofDigitChars_eq_foldl.symm

@[simp] theorem digitsValue_toDigits (n : Nat) : digitsValue (Nat.toDigits 10 n) = n := by
  rw [digitsValue_eq, Nat.ofDigitChars_ten_toDigits]

theorem digitsValue_append (digits more : List Char) :
    digitsValue (digits ++ more) = digitsValue digits * 10 ^ more.length + digitsValue more := by
  simp only [digitsValue_eq]
  rw [Nat.ofDigitChars_append, Nat.ofDigitChars_eq_ofDigitChars_zero, mul_comm]

theorem isDigit_of_mem_toDigits {n : Nat} {c : Char} (hc : c ∈ Nat.toDigits 10 n) :
    c.isDigit = true :=
  Nat.isDigit_of_mem_toDigits (by norm_num) le_rfl hc

theorem head?_toDigits {n : Nat} (hn : n ≠ 0) : (Nat.toDigits 10 n).head? ≠ some '0' := by
  induction n using Nat.strong_induction_on with
  | h n ih =>
    by_cases hsmall : n < 10
    · rw [Nat.toDigits_of_lt_base hsmall, List.head?_cons, ne_eq, Option.some_inj,
        Nat.digitChar_eq_zero]
      exact hn
    · rw [Nat.toDigits_of_base_le (by norm_num) (by omega),
        List.head?_append_of_ne_nil _ Nat.toDigits_ne_nil]
      exact ih (n / 10) (by omega) (by omega)

theorem toDigits_wellFormed (n : Nat) :
    !(Nat.toDigits 10 n).isEmpty && ((Nat.toDigits 10 n).length == 1 ||
      (Nat.toDigits 10 n).head? != some '0') := by
  by_cases hn : n = 0
  · rw [hn, Nat.toDigits_zero]
    rfl
  · simp [head?_toDigits hn]

theorem isDigit_of_mem_padded {width n : Nat} {c : Char} (hc : c ∈ Numeral.padded width n) :
    c.isDigit = true := by
  rcases List.mem_append.mp hc with hc | hc
  · rw [(List.mem_replicate.mp hc).2]
    rfl
  · exact isDigit_of_mem_toDigits hc

@[simp] theorem digitsValue_padded (width n : Nat) : digitsValue (Numeral.padded width n) = n := by
  have hzeros : ∀ k, digitsValue (List.replicate k '0') = 0 := by
    intro k
    rw [digitsValue_eq, Nat.ofDigitChars_replicate_zero, mul_zero]
  rw [Numeral.padded, digitsValue_append, hzeros, zero_mul, zero_add, digitsValue_toDigits]

theorem length_padded {width n : Nat} (hn : n < 10 ^ width) (hwidth : width ≠ 0) :
    (Numeral.padded width n).length = width := by
  have hle := (Nat.length_toDigits_le_iff (by norm_num) (Nat.pos_of_ne_zero hwidth)).mpr hn
  rw [Numeral.padded, List.length_append, List.length_replicate]
  omega

/-! ### The parts of a number -/

/-- Whether what comes first cannot belong to a number. -/
def EndsNumber (rest : List Char) : Prop :=
  ∀ c ∈ rest.head?, c.isDigit = false ∧ c ≠ '.' ∧ c ≠ 'e' ∧ c ≠ 'E'

theorem EndsNumber.digits {rest : List Char} (h : EndsNumber rest) : EndsDigits rest :=
  fun c hc => (h c hc).1

theorem readExponentDigits_toDigits (negative : Bool) (n : Nat) {rest : List Char}
    (hrest : EndsDigits rest) :
    readExponentDigits negative (Nat.toDigits 10 n ++ rest) =
      some (some (if negative then -(n : Int) else n), rest) := by
  rw [readExponentDigits, spanDigits_append (fun _ => isDigit_of_mem_toDigits) hrest]
  simp [Nat.toDigits_ne_nil]

theorem readExponent_of_endsNumber {rest : List Char} (hrest : EndsNumber rest) :
    readExponent rest = some (none, rest) := by
  cases rest with
  | nil => rfl
  | cons c rest =>
    obtain ⟨-, -, hlower, hupper⟩ := hrest c rfl
    simp [readExponent, hlower, hupper]

private theorem exists_toDigits (n : Nat) :
    ∃ c cs, Nat.toDigits 10 n = c :: cs ∧ c.isDigit = true := by
  obtain ⟨c, cs, h⟩ := List.exists_cons_of_ne_nil (Nat.toDigits_ne_nil (b := 10) (n := n))
  exact ⟨c, cs, h, isDigit_of_mem_toDigits (h ▸ List.mem_cons_self)⟩

private theorem ne_of_isDigit {c : Char} (hc : c.isDigit = true) {c' : Char}
    (hc' : c'.isDigit = false) : c ≠ c' := by
  rintro rfl
  rw [hc] at hc'
  cases hc'

theorem readExponent_exponentText (plusSign : Bool) (e : Int) {rest : List Char}
    (hrest : EndsDigits rest) :
    readExponent (Numeral.exponentText plusSign e ++ rest) = some (some e, rest) := by
  have hread : ∀ negative, readExponentDigits negative (Nat.toDigits 10 e.natAbs ++ rest) =
      some (some (if negative then -(e.natAbs : Int) else e.natAbs), rest) :=
    fun negative => readExponentDigits_toDigits negative e.natAbs hrest
  by_cases hneg : e < 0
  · have hread := hread true
    rw [if_pos rfl, show -(e.natAbs : Int) = e by omega] at hread
    simpa [Numeral.exponentText, readExponent, hneg] using hread
  · have hread := hread false
    rw [if_neg Bool.false_ne_true, show (e.natAbs : Int) = e by omega] at hread
    cases plusSign with
    | true => simpa [Numeral.exponentText, readExponent, hneg] using hread
    | false =>
      obtain ⟨c, cs, hdigits, hc⟩ := exists_toDigits e.natAbs
      rw [hdigits] at hread
      simpa [Numeral.exponentText, readExponent, hneg, hdigits,
        ne_of_isDigit hc (by decide : '-'.isDigit = false),
        ne_of_isDigit hc (by decide : '+'.isDigit = false)] using hread

/-- The text of an exponent, if one is written. -/
def exponentPart (plusSign : Bool) : Option Int → List Char
  | none => []
  | some e => Numeral.exponentText plusSign e

/-- The point and the digits behind it, if there are any. -/
def fractionPart (places coefficient : Nat) : List Char :=
  if places = 0 then [] else '.' :: Numeral.padded places (coefficient % 10 ^ places)

theorem numeral_text_eq (plusSign : Bool) (n : Numeral) :
    n.text plusSign = (if n.negative then ['-'] else []) ++
      (Nat.toDigits 10 (n.coefficient / 10 ^ n.places) ++
        (fractionPart n.places n.coefficient ++ exponentPart plusSign n.exponent)) := by
  obtain ⟨negative, coefficient, places, exponent⟩ := n
  cases exponent <;> simp [Numeral.text, fractionPart, exponentPart]

theorem readExponent_exponentPart (plusSign : Bool) (exponent : Option Int) {rest : List Char}
    (hrest : EndsNumber rest) :
    readExponent (exponentPart plusSign exponent ++ rest) = some (exponent, rest) ∧
      ∀ c ∈ (exponentPart plusSign exponent ++ rest).head?, c.isDigit = false ∧ c ≠ '.' := by
  cases exponent with
  | none => exact ⟨readExponent_of_endsNumber hrest, fun c hc => ⟨(hrest c hc).1, (hrest c hc).2.1⟩⟩
  | some e =>
    refine ⟨readExponent_exponentText plusSign e hrest.digits, ?_⟩
    rintro _ ⟨⟩
    decide

/-- The digits that are read behind the point make up the coefficient with those before it. -/
theorem readFraction_fractionPart (places coefficient : Nat) {rest : List Char}
    (hrest : ∀ c ∈ rest.head?, c.isDigit = false ∧ c ≠ '.') :
    EndsDigits (fractionPart places coefficient ++ rest) ∧ ∃ digits,
      readFraction (fractionPart places coefficient ++ rest) = some (digits, rest) ∧
        digits.length = places ∧
        coefficient / 10 ^ places * 10 ^ places + digitsValue digits = coefficient := by
  unfold fractionPart
  by_cases hplaces : places = 0
  · rw [if_pos hplaces]
    have hread : readFraction rest = some ([], rest) := by
      cases rest with
      | nil => rfl
      | cons c rest => simp [readFraction, (hrest c rfl).2]
    exact ⟨fun c hc => (hrest c hc).1, [], hread, hplaces.symm, by simp [hplaces, digitsValue]⟩
  · rw [if_neg hplaces]
    set padding := Numeral.padded places (coefficient % 10 ^ places) with hpadding
    have hdigit : ∀ c ∈ padding, c.isDigit = true := fun _ => isDigit_of_mem_padded
    have hlength : padding.length = places := length_padded (Nat.mod_lt _ (by positivity)) hplaces
    have hne : padding ≠ [] := List.ne_nil_of_length_pos (by omega)
    have hread : readFraction ('.' :: padding ++ rest) = some (padding, rest) := by
      show readFraction ('.' :: (padding ++ rest)) = _
      rw [readFraction, spanDigits_append hdigit fun c hc => (hrest c hc).1]
      simp [hne]
    refine ⟨?_, padding, hread, hlength, ?_⟩
    · rintro _ ⟨⟩
      decide
    · rw [hpadding, digitsValue_padded]
      exact Nat.div_add_mod' coefficient (10 ^ places)

/-! ### Numerals -/

/-- The text of a numeral is read as this numeral, up to where it ends. -/
theorem readNumber_text (plusSign : Bool) (n : Numeral) {rest : List Char}
    (hrest : EndsNumber rest) : readNumber (n.text plusSign ++ rest) = some (n, rest) := by
  obtain ⟨hreadExponent, hfollow⟩ := readExponent_exponentPart plusSign n.exponent hrest
  obtain ⟨hends, digits, hreadFraction, hlength, hvalue⟩ :=
    readFraction_fractionPart n.places n.coefficient hfollow
  have hwhole := toDigits_wellFormed (n.coefficient / 10 ^ n.places)
  have hunsigned : readUnsigned n.negative (Nat.toDigits 10 (n.coefficient / 10 ^ n.places) ++
      (fractionPart n.places n.coefficient ++ (exponentPart plusSign n.exponent ++ rest))) =
      some (n, rest) := by
    rw [readUnsigned, spanDigits_append (fun _ => isDigit_of_mem_toDigits) hends]
    simp [hwhole, hreadFraction, hreadExponent, digitsValue_append, guard, hlength, hvalue]
  rw [numeral_text_eq]
  cases hnegative : n.negative with
  | true => simpa [readNumber, hnegative] using hunsigned
  | false =>
    obtain ⟨c, cs, hdigits, hc⟩ := exists_toDigits (n.coefficient / 10 ^ n.places)
    rw [hdigits, hnegative] at hunsigned
    rw [hdigits]
    simpa [readNumber, ne_of_isDigit hc (by decide : '-'.isDigit = false)] using hunsigned

/-! ### What numerals are written with -/

theorem exists_numeral_text (plusSign : Bool) (n : Numeral) :
    ∃ c cs, n.text plusSign = c :: cs ∧ (c = '-' ∨ c.isDigit = true) := by
  rw [numeral_text_eq]
  cases n.negative with
  | true => exact ⟨_, _, rfl, .inl rfl⟩
  | false =>
    obtain ⟨c, cs, hdigits, hc⟩ := exists_toDigits (n.coefficient / 10 ^ n.places)
    rw [hdigits]
    exact ⟨c, _, rfl, .inr hc⟩

/-- The characters of a numeral. -/
def isNumeralChar (c : Char) : Bool := c.isDigit || c ∈ ['-', '+', '.', 'e']

theorem isNumeralChar_of_isDigit {c : Char} (hc : c.isDigit = true) : isNumeralChar c = true := by
  rw [isNumeralChar, hc, Bool.true_or]

theorem isNumeralChar_of_mem_exponentText {plusSign : Bool} {e : Int} {c : Char}
    (hc : c ∈ Numeral.exponentText plusSign e) : isNumeralChar c = true := by
  rcases List.mem_append.mp hc with hc | hc
  · rcases List.mem_cons.mp hc with rfl | hc
    · decide
    · split_ifs at hc <;> simp at hc <;> rw [hc] <;> decide
  · exact isNumeralChar_of_isDigit (isDigit_of_mem_toDigits hc)

theorem isNumeralChar_of_mem_text {plusSign : Bool} {n : Numeral} {c : Char}
    (hc : c ∈ n.text plusSign) : isNumeralChar c = true := by
  rw [numeral_text_eq] at hc
  rcases List.mem_append.mp hc with hsign | hc
  · split at hsign <;> simp at hsign
    rw [hsign]
    decide
  rcases List.mem_append.mp hc with hdigit | hc
  · exact isNumeralChar_of_isDigit (isDigit_of_mem_toDigits hdigit)
  rcases List.mem_append.mp hc with hfraction | hexponent
  · rw [fractionPart] at hfraction
    split at hfraction
    · cases hfraction
    · rcases List.mem_cons.mp hfraction with rfl | hdigit
      · decide
      · exact isNumeralChar_of_isDigit (isDigit_of_mem_padded hdigit)
  · cases hwritten : n.exponent with
    | none =>
      rw [hwritten] at hexponent
      cases hexponent
    | some e =>
      rw [hwritten] at hexponent
      exact isNumeralChar_of_mem_exponentText hexponent

end SpatialComputer.Json
