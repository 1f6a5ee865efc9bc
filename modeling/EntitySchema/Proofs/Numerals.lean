/-
# `EntitySchema.Proofs.Numerals` — decimal numerals

A number is written with decimal digits only, at least one, and it can be read back from them; so
two numbers with the same digits are the same.  For a positive number this is the only way to be
written with digits of which the first is no zero (`isNumeral_iff`): digits that are written after
a numeral are those of a larger number, and a digit that is no zero is a numeral by itself.
-/

namespace EntitySchema.Text

variable {n n' : Nat} {digits : String}

theorem isDigit_of_mem_toString {c : Char} (h : c ∈ (toString n).toList) : c.isDigit = true := by
  rw [Nat.toString_eq_ofList_toDigits, String.toList_ofList] at h
  exact Nat.isDigit_of_mem_toDigits (by decide) (by decide) h

theorem toList_toString_ne_nil : (toString n).toList ≠ [] := by
  rw [Nat.toString_eq_ofList_toDigits, String.toList_ofList]
  exact Nat.toDigits_ne_nil

/-- A number is the value of its digits. -/
theorem ofDigitChars_toString : Nat.ofDigitChars 10 (toString n).toList 0 = n := by
  rw [Nat.toString_eq_ofList_toDigits, String.toList_ofList, Nat.ofDigitChars_ten_toDigits]

theorem eq_of_toString (h : (toString n).toList = (toString n').toList) : n = n' := by
  rw [← ofDigitChars_toString (n := n), h, ofDigitChars_toString]

/-! ## Numerals without leading zeros -/

/-- Digits that write a number, the first of which is no zero. -/
structure IsNumeral (digits : String) (n : Nat) : Prop where
  isDigit : ∀ c ∈ digits.toList, c.isDigit = true
  noLeadingZero : digits.toList.head? ≠ some '0'
  value : Nat.ofDigitChars 10 digits.toList 0 = n

/-- The value of a digit, and the digit of that value. -/
theorem digitChar_toNat {c : Char} (h : c.isDigit = true) :
    c.toNat - '0'.toNat < 10 ∧ (c.toNat - '0'.toNat).digitChar = c := by
  have hrange : 48 ≤ c.toNat ∧ c.toNat ≤ 57 := Char.isDigit_iff_toNat.mp h
  have hzero : '0'.toNat = 48 := rfl
  have hlt : c.toNat - '0'.toNat < 10 := by omega
  refine ⟨hlt, Char.toNat_inj.mp ?_⟩
  rw [Nat.toNat_digitChar_of_lt_ten hlt]
  omega

/-- Digits after the numeral of a number are the end of a longer numeral. -/
theorem toDigits_append {more : List Char} (hn : 0 < n) (hmore : ∀ c ∈ more, c.isDigit = true) :
    Nat.toDigits 10 n ++ more = Nat.toDigits 10 (Nat.ofDigitChars 10 more n) := by
  -- `n` is what has been read so far, and stays positive
  induction more generalizing n with
  | nil => rw [List.append_nil, Nat.ofDigitChars_nil]
  | cons c rest ih =>
      obtain ⟨hc, hrest⟩ := List.forall_mem_cons.mp hmore
      obtain ⟨hlt, hdigit⟩ := digitChar_toNat hc
      have hfirst :
          Nat.toDigits 10 n ++ [c] = Nat.toDigits 10 (10 * n + (c.toNat - '0'.toNat)) := by
        rw [← Nat.toDigits_append_toDigits (by decide) hn hlt, Nat.toDigits_of_lt_base hlt,
          hdigit]
      rw [Nat.ofDigitChars_cons, ← ih (by omega) hrest, ← hfirst, List.append_assoc,
        List.singleton_append]

/-- The numeral of a positive number does not begin with a zero. -/
theorem head?_toDigits_ne_zero (hn : 0 < n) : (Nat.toDigits 10 n).head? ≠ some '0' := by
  induction n using Nat.strongRecOn with
  | ind n ih =>
      by_cases hlt : n < 10
      · rw [Nat.toDigits_of_lt_base hlt, List.head?_cons]
        intro h
        exact absurd (Nat.digitChar_eq_zero.mp (Option.some.inj h)) (by omega)
      · obtain ⟨first, more, hfirst⟩ :=
          List.exists_cons_of_ne_nil (Nat.toDigits_ne_nil (n := n / 10) (b := 10))
        have hrest := ih (n / 10) (by omega) (by omega)
        rw [hfirst] at hrest
        rw [Nat.toDigits_of_base_le (by decide) (by omega), hfirst]
        exact hrest

/-- A positive number has one numeral, the one it is written with. -/
theorem isNumeral_iff (hn : 0 < n) : IsNumeral digits n ↔ digits = toString n := by
  constructor
  · intro h
    refine String.toList_inj.mp ?_
    rw [Nat.toString_eq_ofList_toDigits, String.toList_ofList]
    have hdigits := h.isDigit
    have hhead := h.noLeadingZero
    have hvalue := h.value
    cases htext : digits.toList with
    | nil =>
        rw [htext] at hvalue
        exact absurd hvalue (Nat.ne_of_lt hn)
    | cons c rest =>
        rw [htext] at hdigits hhead hvalue
        obtain ⟨hc, hrest⟩ := List.forall_mem_cons.mp hdigits
        obtain ⟨hlt, hdigit⟩ := digitChar_toNat hc
        -- the first digit is a numeral by itself, and the others come after it
        have hpos : 0 < c.toNat - '0'.toNat := by
          refine Nat.pos_of_ne_zero fun hzero => hhead ?_
          rw [← hdigit, hzero]
          rfl
        rw [Nat.ofDigitChars_cons, Nat.mul_zero, Nat.zero_add] at hvalue
        rw [← hvalue, ← toDigits_append hpos hrest, Nat.toDigits_of_lt_base hlt, hdigit,
          List.singleton_append]
  · rintro rfl
    refine ⟨fun c hc => isDigit_of_mem_toString hc, ?_, ofDigitChars_toString⟩
    rw [Nat.toString_eq_ofList_toDigits, String.toList_ofList]
    exact head?_toDigits_ne_zero hn

end EntitySchema.Text
