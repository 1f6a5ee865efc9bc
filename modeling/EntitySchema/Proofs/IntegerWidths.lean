/-
# `EntitySchema.Proofs.IntegerWidths` — the integer types that are suggested for

Besides the spellings in the table, the names that mean a scalar are those of the integer types of
whole bytes, up to 256 bits: a word for the kind of the type, signed or not, and its width.  Whether
such a type is an `Int` or a `BigInt` depends on its values: an `Int` has 32 bits and a sign, and
the type is one if all of its values are in that range (`suggest_eq_some_iff`).

The table has the widths one by one and does not speak of values.  `fitsInt_iff` has for each kind
the largest width that fits, and `mem_table_iff` says that the table has every width on the right
side of it.
-/
import EntitySchema.Proofs.Readings
import Mathlib.Algebra.Order.Ring.Int

namespace EntitySchema.Suggestion

open Text (IsNumeral isNumeral_iff)

variable {name word : String} {width : Nat} {reading : Reading} {pattern : Pattern}
  {entries : List Entry} {entry : Entry} {scalar : Scalar}

/-! ## Integer types -/

/-- The kinds of integer types. -/
inductive IntegerKind where
  | unsigned
  | signed

namespace IntegerKind

/-- The words for a kind. -/
def words : IntegerKind → List String
  | .unsigned => ["u", "uint"]
  | .signed => ["i", "int"]

/-- `kind.HasValue width v`: the integer type of a kind and a width in bits has the value `v`. -/
def HasValue (width : Nat) (v : Int) : IntegerKind → Prop
  | .unsigned => 0 ≤ v ∧ v < 2 ^ width
  | .signed => -2 ^ (width - 1) ≤ v ∧ v < 2 ^ (width - 1)

/-- Every value of an integer type is one of the signed type of 32 bits. -/
def FitsInt (kind : IntegerKind) (width : Nat) : Prop :=
  ∀ v, kind.HasValue width v → signed.HasValue 32 v

/-- The scalar that has all values of an integer type. -/
def Means (kind : IntegerKind) (width : Nat) (scalar : Scalar) : Prop :=
  kind.FitsInt width ∧ scalar = .int ∨ ¬ kind.FitsInt width ∧ scalar = .bigInt

/-- The bits of an integer type that do not tell the sign. -/
def magnitude (width : Nat) : IntegerKind → Nat
  | .unsigned => width
  | .signed => width - 1

variable {kind : IntegerKind} {v : Int}

theorem HasValue.bounds (h : kind.HasValue width v) :
    -2 ^ kind.magnitude width ≤ v ∧ v < 2 ^ kind.magnitude width := by
  cases kind with
  | unsigned =>
      have hpos : (0 : Int) < 2 ^ width := Int.pow_pos (by decide)
      exact ⟨le_trans (neg_nonpos.mpr hpos.le) h.1, h.2⟩
  | signed => exact h

theorem hasValue_of_nonneg (hlow : 0 ≤ v) (hhigh : v < 2 ^ kind.magnitude width) :
    kind.HasValue width v := by
  cases kind with
  | unsigned => exact ⟨hlow, hhigh⟩
  | signed => exact ⟨le_trans (neg_nonpos.mpr (Int.pow_nonneg (by decide))) hlow, hhigh⟩

/-- An integer type fits if it has no more bits for the magnitude than an `Int`; with one more, it
has the first number beyond the range. -/
theorem fitsInt_iff : kind.FitsInt width ↔ kind.magnitude width ≤ 31 := by
  constructor
  · intro h
    by_contra hle
    -- `2 ^ 31` is a value of the type, and the first number that is none of an `Int`
    have hpow : (2 : Int) ^ 31 < 2 ^ kind.magnitude width :=
      pow_lt_pow_right₀ (by decide) (Nat.lt_of_not_le hle)
    have hvalue := h _ (hasValue_of_nonneg (by decide) hpow)
    exact lt_irrefl _ hvalue.2
  · intro hle v hv
    have hpow : (2 : Int) ^ kind.magnitude width ≤ 2 ^ 31 := pow_le_pow_right₀ (by decide) hle
    exact ⟨le_trans (neg_le_neg hpow) hv.bounds.1, lt_of_lt_of_le hv.bounds.2 hpow⟩

theorem means_iff :
    kind.Means width scalar
      ↔ kind.magnitude width ≤ 31 ∧ scalar = .int
        ∨ 31 < kind.magnitude width ∧ scalar = .bigInt := by
  rw [Means, fitsInt_iff, Nat.not_le]

end IntegerKind

/-! ## The table by its readings -/

theorem mem_readings_word : ⟨name, none⟩ ∈ pattern.readings ↔ pattern = .spelling name := by
  cases pattern with
  | spelling s =>
      rw [mem_readings_spelling, Reading.mk.injEq, Pattern.spelling.injEq, and_iff_left rfl,
        eq_comm]
  | sized words widths =>
      refine iff_of_false ?_ (fun h => nomatch h)
      intro h
      obtain ⟨_, _, _, _, heq⟩ := mem_readings_sized.mp h
      cases heq

theorem mem_readings_width :
    ⟨word, some width⟩ ∈ pattern.readings
      ↔ ∃ words widths, pattern = .sized words widths ∧ word ∈ words ∧ width ∈ widths := by
  cases pattern with
  | spelling s =>
      constructor
      · intro h
        cases mem_readings_spelling.mp h
      · rintro ⟨_, _, h, _⟩
        cases h
  | sized words widths =>
      rw [mem_readings_sized]
      constructor
      · rintro ⟨_, hword, _, hwidth, heq⟩
        cases heq
        exact ⟨words, widths, rfl, hword, hwidth⟩
      · rintro ⟨_, _, heq, hword, hwidth⟩
        cases heq
        exact ⟨word, hword, width, hwidth, rfl⟩

theorem mem_wideWidths : width ∈ wideWidths ↔ 8 ∣ width ∧ 40 ≤ width ∧ width ≤ 256 := by
  have hwidths : wideWidths = (List.range' 5 28).map (8 * ·) := by decide
  rw [hwidths, List.mem_map]
  constructor
  · rintro ⟨k, hk, rfl⟩
    have hrange := List.mem_range'_1.mp hk
    exact ⟨Nat.dvd_mul_right 8 k, by omega, by omega⟩
  · rintro ⟨⟨k, rfl⟩, hlow, hhigh⟩
    exact ⟨k, List.mem_range'_1.mpr (by omega), rfl⟩

namespace IntegerKind

variable {kind : IntegerKind}

/-- The widths of a kind for which the table has `Int`. -/
def narrow : IntegerKind → List Nat
  | .unsigned => [8, 16, 24]
  | .signed => [8, 16, 24, 32]

/-- The widths of a kind for which the table has `BigInt`. -/
def wide : IntegerKind → List Nat
  | .unsigned => 32 :: wideWidths
  | .signed => wideWidths

theorem mem_narrow :
    width ∈ kind.narrow
      ↔ (8 ∣ width ∧ 0 < width ∧ width ≤ 256) ∧ kind.magnitude width ≤ 31 := by
  cases kind with
  | unsigned =>
      simp only [narrow, magnitude, List.mem_cons, List.not_mem_nil, or_false]
      omega
  | signed =>
      simp only [narrow, magnitude, List.mem_cons, List.not_mem_nil, or_false]
      omega

theorem mem_wide :
    width ∈ kind.wide
      ↔ (8 ∣ width ∧ 0 < width ∧ width ≤ 256) ∧ 31 < kind.magnitude width := by
  cases kind with
  | unsigned =>
      simp only [wide, magnitude, List.mem_cons, mem_wideWidths]
      omega
  | signed =>
      simp only [wide, magnitude, mem_wideWidths]
      omega

end IntegerKind

/-- What the table has for a word and a width. -/
theorem mem_table_iff_rows :
    (∃ entry ∈ table, ⟨word, some width⟩ ∈ entry.pattern.readings ∧ entry.scalar = scalar)
      ↔ ∃ kind : IntegerKind, word ∈ kind.words
        ∧ (width ∈ kind.narrow ∧ scalar = .int ∨ width ∈ kind.wide ∧ scalar = .bigInt) := by
  have hkinds {p : IntegerKind → Prop} : (∃ kind, p kind) ↔ p .unsigned ∨ p .signed := by
    constructor
    · rintro ⟨kind, h⟩
      cases kind with
      | unsigned => exact .inl h
      | signed => exact .inr h
    · rintro (h | h)
      · exact ⟨_, h⟩
      · exact ⟨_, h⟩
  simp only [hkinds, IntegerKind.words, IntegerKind.narrow, IntegerKind.wide, table,
    mem_readings_width, List.mem_cons, List.not_mem_nil, or_false, exists_eq_or_imp, exists_eq_left,
    Pattern.sized.injEq, reduceCtorEq, false_and, exists_false, false_or]
  grind

/-- The table has all whole bytes up to 256 bits, and for each of them the scalar that has its
values. -/
theorem mem_table_iff :
    (∃ entry ∈ table, ⟨word, some width⟩ ∈ entry.pattern.readings ∧ entry.scalar = scalar)
      ↔ ∃ kind : IntegerKind, word ∈ kind.words
        ∧ (8 ∣ width ∧ 0 < width ∧ width ≤ 256) ∧ kind.Means width scalar := by
  rw [mem_table_iff_rows]
  refine exists_congr fun kind => and_congr_right fun _ => ?_
  simp only [IntegerKind.mem_narrow, IntegerKind.mem_wide, IntegerKind.means_iff, and_or_left,
    and_assoc]

/-- **What the table suggests.**  A name without a line feed has the scalar of the entry that spells
it.  Any other has one if it is a word for a kind of integer type and the numeral of a width, of
whole bytes up to 256 bits: `Int` if all values of the type fit, and `BigInt` if not. -/
theorem suggest_eq_some_iff (name : String) (hline : '\n' ∉ name.toList) (scalar : Scalar) :
    suggest name = some scalar
      ↔ (∃ entry ∈ table, entry.pattern = .spelling name ∧ entry.scalar = scalar)
        ∨ ∃ (kind : IntegerKind) (word digits : String) (width : Nat),
          name = word ++ digits ∧ word ∈ kind.words ∧ IsNumeral digits width
            ∧ 8 ∣ width ∧ 0 < width ∧ width ≤ 256 ∧ kind.Means width scalar := by
  rw [suggest_eq_some_iff_reads]
  constructor
  · rintro ⟨⟨word, width⟩, hreads, hentry⟩
    cases width with
    | none =>
        cases hreads
        simp only [mem_readings_word] at hentry
        exact .inl hentry
    | some width =>
        obtain ⟨kind, hword, ⟨hbytes, hpos, hmax⟩, hmeans⟩ := mem_table_iff.mp hentry
        have hname : name = word ++ toString width := by
          refine (reads_sized_iff.mp hreads).resolve_right ?_
          rintro rfl
          exact hline (by simp)
        exact .inr ⟨kind, word, toString width, width, hname, hword,
          (isNumeral_iff hpos).mpr rfl, hbytes, hpos, hmax, hmeans⟩
  · rintro (⟨entry, hentry, hpattern, hscalar⟩ |
      ⟨kind, word, digits, width, rfl, hword, hdigits, hbytes, hpos, hmax, hmeans⟩)
    · exact ⟨⟨name, none⟩, .word, entry, hentry, mem_readings_word.mpr hpattern, hscalar⟩
    · obtain rfl := (isNumeral_iff hpos).mp hdigits
      exact ⟨⟨word, some width⟩, reads_sized_iff.mpr (.inl rfl),
        mem_table_iff.mpr ⟨kind, hword, ⟨hbytes, hpos, hmax⟩, hmeans⟩⟩

/-- The last type of each kind that fits or does not, and a width with a zero in front. -/
theorem suggest_eq_some_iff_borders :
    '\n' ∉ "int32".toList ∧ suggest "int32" = some .int
      ∧ '\n' ∉ "u32".toList ∧ suggest "u32" = some .bigInt
      ∧ '\n' ∉ "i032".toList ∧ ¬ IsNumeral "032" 32 ∧ suggest "i032" = none := by
  have hint : '\n' ∉ "int32".toList := by decide
  have huint : '\n' ∉ "u32".toList := by decide
  have hnumeral : IsNumeral "32" 32 := (isNumeral_iff (by decide)).mpr (by decide)
  refine ⟨hint, ?signed, huint, ?unsigned, by decide, fun h => absurd h.noLeadingZero (by decide),
    by decide +kernel⟩
  case signed =>
    refine (suggest_eq_some_iff "int32" hint .int).mpr (.inr ⟨.signed, "int", "32", 32, ?_⟩)
    exact ⟨by decide, by decide, hnumeral, by decide, by decide, by decide,
      IntegerKind.means_iff.mpr (.inl ⟨by decide, rfl⟩)⟩
  case unsigned =>
    refine (suggest_eq_some_iff "u32" huint .bigInt).mpr (.inr ⟨.unsigned, "u", "32", 32, ?_⟩)
    exact ⟨by decide, by decide, hnumeral, by decide, by decide, by decide,
      IntegerKind.means_iff.mpr (.inr ⟨by decide, rfl⟩)⟩

end EntitySchema.Suggestion
