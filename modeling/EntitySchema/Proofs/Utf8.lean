/-
# `EntitySchema.Proofs.Utf8` — bytes that are text

A character beyond ASCII is written by a first byte, which tells how many bytes follow and holds the
highest bits of its number, and by these tail bytes with six bits each.  While its bytes are read,
the reader is inside a pending character, which still `Awaits` certain numbers: those with the bits
read so far whose next tail byte lies in the range.  Which numbers a first byte leaves open is said
once for each length, in `Pending.Opens`; from there on a tail byte is like the other.

`decode_eq_ok_iff` puts it together: bytes are read as a text exactly if they are what the text is
written as, so no bytes are read as two texts, and bytes that write no text are refused.
-/
import EntitySchema.Text.Utf8
import Mathlib.Algebra.Group.Nat.Defs

namespace EntitySchema.Text.Utf8

/-! ## How a character is written -/

/-- The tail byte with the bits from `6 * k` on of a number. -/
def tailByte (k v : Nat) : UInt8 := UInt8.ofNat (v / 64 ^ k % 64 + 0x80)

/-- The last `k` bytes of what a number is written as. -/
def tailBytes : Nat → Nat → List UInt8
  | 0, _ => []
  | k + 1, v => tailByte k v :: tailBytes k v

/-- `Form k lead v`: a character of the number `v` is written by a first byte that adds its highest
bits to `lead`, and by `k` tail bytes. -/
inductive Form : Nat → Nat → Nat → Prop
  | two {v : Nat} : 0x80 ≤ v → v < 0x800 → Form 1 0xC0 v
  | three {v : Nat} : 0x800 ≤ v → v < 0x10000 → Form 2 0xE0 v
  | four {v : Nat} : 0x10000 ≤ v → v < 0x110000 → Form 3 0xF0 v

theorem toNat_tailByte (k v : Nat) : (tailByte k v).toNat = v / 64 ^ k % 64 + 0x80 := by
  have hlt : v / 64 ^ k % 64 < 64 := Nat.mod_lt _ (by decide)
  rw [tailByte, UInt8.toNat_ofNat_of_lt']
  simp only [UInt8.size]
  omega

theorem toNat_ofNat_of_isValidChar {v : Nat} (h : v.isValidChar) : (Char.ofNat v).toNat = v := by
  rw [Char.ofNat, dif_pos h]
  rfl

theorem encode_cons (c : Char) (text : List Char) :
    encode (c :: text) = String.utf8EncodeChar c ++ encode text := List.flatMap_cons

theorem encode_cons_of_lt {c : Char} (h : c.toNat < 0x80) (text : List Char) :
    encode (c :: text) = UInt8.ofNat c.toNat :: encode text := by
  have hle : c.val.toNat ≤ 127 := Nat.lt_succ_iff.mp h
  rw [encode_cons, String.utf8EncodeChar, if_pos hle]
  rfl

theorem utf8EncodeChar_of_form {k lead : Nat} {c : Char} (h : Form k lead c.toNat) :
    String.utf8EncodeChar c
      = UInt8.ofNat (lead + c.toNat / 64 ^ k) :: tailBytes k c.toNat := by
  have hv : c.val.toNat = c.toNat := rfl
  rw [String.utf8EncodeChar, hv]
  generalize c.toNat = v at h
  cases h with
  | two hlow hhigh =>
      have hbits : v / 64 % 32 + 192 = 0xC0 + v / 64 ^ 1 := by omega
      rw [if_neg (by omega), if_pos (by omega), hbits]
      simp [tailBytes, tailByte]
  | three hlow hhigh =>
      have hbits : v / 4096 % 16 + 224 = 0xE0 + v / 64 ^ 2 := by omega
      rw [if_neg (by omega), if_neg (by omega), if_pos (by omega), hbits]
      simp [tailBytes, tailByte]
  | four hlow hhigh =>
      have hbits : v / 262144 % 8 + 240 = 0xF0 + v / 64 ^ 3 := by omega
      rw [if_neg (by omega), if_neg (by omega), if_neg (by omega), hbits]
      simp [tailBytes, tailByte]

theorem encode_cons_of_form {k lead : Nat} {c : Char} (h : Form k lead c.toNat)
    (text : List Char) :
    encode (c :: text)
      = UInt8.ofNat (lead + c.toNat / 64 ^ k) :: (tailBytes k c.toNat ++ encode text) := by
  rw [encode_cons, utf8EncodeChar_of_form h, List.cons_append]

theorem lt_or_form (c : Char) : c.toNat < 0x80 ∨ ∃ k lead, Form k lead c.toNat := by
  have hvalid : c.toNat < 55296 ∨ 57343 < c.toNat ∧ c.toNat < 1114112 := c.valid
  rcases Nat.lt_or_ge c.toNat 0x80 with hone | hone
  · exact .inl hone
  · refine .inr ?_
    rcases Nat.lt_or_ge c.toNat 0x800 with htwo | htwo
    · exact ⟨_, _, .two hone htwo⟩
    · rcases Nat.lt_or_ge c.toNat 0x10000 with hthree | hthree
      · exact ⟨_, _, .three htwo hthree⟩
      · exact ⟨_, _, .four hthree (by omega)⟩

/-! ## Inside a character -/

/-- The bits of a number from a place on, as the higher ones and those of one tail byte. -/
theorem div_pow_mul_add_mod (k v : Nat) :
    v / 64 ^ (k + 1) * 64 + v / 64 ^ k % 64 = v / 64 ^ k := by
  rw [Nat.pow_succ, ← Nat.div_div_eq_div_mul, Nat.mul_comm, Nat.div_add_mod]

namespace Pending

variable {p : Pending} {b : UInt8} {k v : Nat}

/-- The range of the next byte of a pending character. -/
def Admits (p : Pending) (b : UInt8) : Prop := p.low.toNat ≤ b.toNat ∧ b.toNat ≤ p.high.toNat

theorem admits_iff : p.low ≤ b ∧ b ≤ p.high ↔ p.Admits b := by
  rw [UInt8.le_iff_toNat_le, UInt8.le_iff_toNat_le, Admits]

/-- The pending character owes a byte, and the range of the next one has only tail bytes in it. -/
structure IsProper (p : Pending) : Prop where
  owed : 0 < p.owed
  low : 0x80 ≤ p.low.toNat
  high : p.high.toNat < 0xC0

/-- The pending character can still become the one of the number `v`. -/
structure Awaits (p : Pending) (v : Nat) : Prop where
  code : v / 64 ^ p.owed = p.code
  next : p.Admits (tailByte (p.owed - 1) v)

/-- The pending character after one more byte that is not its last. -/
def after (p : Pending) (b : UInt8) : Pending :=
  ⟨p.first, p.start, p.size + 1, p.extended b, p.owed - 1, 0x80, 0xBF⟩

theorem extended_eq (p : Pending) (b : UInt8) :
    p.extended b = p.code * 64 + (b.toNat - 0x80) := rfl

theorem extended_tailByte (hcode : v / 64 ^ (k + 1) = p.code) :
    p.extended (tailByte k v) = v / 64 ^ k := by
  rw [extended_eq, toNat_tailByte, ← hcode, Nat.add_sub_cancel, div_pow_mul_add_mod]

/-- A byte in the range is the tail byte of the number it extends. -/
theorem IsProper.awaits_of_admits (h : p.IsProper) (hb : p.Admits b)
    (hv : v / 64 ^ (p.owed - 1) = p.extended b) :
    p.Awaits v ∧ tailByte (p.owed - 1) v = b := by
  obtain ⟨howed, hlow, hhigh⟩ := h
  obtain ⟨hle, hge⟩ := hb
  rw [extended_eq] at hv
  have htail : tailByte (p.owed - 1) v = b := by
    refine UInt8.toNat_inj.mp ?_
    rw [toNat_tailByte, hv]
    omega
  refine ⟨⟨?_, htail.symm ▸ ⟨hle, hge⟩⟩, htail⟩
  have hsucc : p.owed = p.owed - 1 + 1 := by omega
  rw [hsucc, Nat.pow_succ, ← Nat.div_div_eq_div_mul, hv]
  omega

theorem Awaits.after (h : p.Awaits v) (howed : p.owed = k + 2) :
    (p.after (tailByte (k + 1) v)).Awaits v where
  code := by
    show v / 64 ^ (p.owed - 1) = p.extended (tailByte (k + 1) v)
    rw [extended_tailByte (howed ▸ h.code), howed]
    rfl
  next := by
    have hlt : v / 64 ^ (p.owed - 1 - 1) % 64 < 64 := Nat.mod_lt _ (by decide)
    show 0x80 ≤ (tailByte (p.owed - 1 - 1) v).toNat ∧ (tailByte (p.owed - 1 - 1) v).toNat ≤ 0xBF
    rw [toNat_tailByte]
    omega

theorem IsProper.after (h : p.IsProper) (howed : p.owed ≠ 1) : (p.after b).IsProper where
  owed := by
    have := h.owed
    show 0 < p.owed - 1
    omega
  low := Nat.le_refl _
  high := Nat.lt_succ_self _

end Pending

/-! ## First bytes -/

namespace Pending

variable {i : Nat} {p : Pending} {b : UInt8} {v : Nat}

/-- The character of two bytes that a first byte begins. -/
def twoBytes (i : Nat) (b : UInt8) : Pending := ⟨b, i, 1, b.toNat - 0xC0, 1, 0x80, 0xBF⟩

/-- The character of three bytes that a first byte begins. -/
def threeBytes (i : Nat) (b : UInt8) : Pending :=
  ⟨b, i, 1, b.toNat - 0xE0, 2, if b = 0xE0 then 0xA0 else 0x80, if b = 0xED then 0x9F else 0xBF⟩

/-- The character of four bytes that a first byte begins. -/
def fourBytes (i : Nat) (b : UInt8) : Pending :=
  ⟨b, i, 1, b.toNat - 0xF0, 3, if b = 0xF0 then 0x90 else 0x80, if b = 0xF4 then 0x8F else 0xBF⟩

theorem open?_eq (i : Nat) (b : UInt8) :
    open? i b =
      if b.toNat < 0xC2 then none
      else if b.toNat < 0xE0 then some (twoBytes i b)
      else if b.toNat < 0xF0 then some (threeBytes i b)
      else if b.toNat < 0xF5 then some (fourBytes i b)
      else none := rfl

theorem isProper_twoBytes : (twoBytes i b).IsProper :=
  ⟨Nat.one_pos, Nat.le_refl _, Nat.lt_succ_self _⟩

theorem isProper_threeBytes : (threeBytes i b).IsProper where
  owed := Nat.two_pos
  low := by
    simp only [threeBytes]
    split <;> decide
  high := by
    simp only [threeBytes]
    split <;> decide

theorem isProper_fourBytes : (fourBytes i b).IsProper where
  owed := Nat.succ_pos _
  low := by
    simp only [fourBytes]
    split <;> decide
  high := by
    simp only [fourBytes]
    split <;> decide

/-- `p.Opens lead b`: the first byte `b` leaves open the numbers of one form that have their highest
bits in it, and of these only the ones that are characters. -/
structure Opens (p : Pending) (lead : Nat) (b : UInt8) : Prop where
  proper : p.IsProper
  awaits_iff (v : Nat) :
    p.Awaits v ↔ v.isValidChar ∧ Form p.owed lead v ∧ b.toNat = lead + v / 64 ^ p.owed

theorem opens_twoBytes (hlow : 0xC2 ≤ b.toNat) (hhigh : b.toNat < 0xE0) :
    (twoBytes i b).Opens 0xC0 b := by
  refine ⟨isProper_twoBytes, fun v => ⟨?_, ?_⟩⟩
  · rintro ⟨hcode, -⟩
    simp only [twoBytes] at hcode ⊢
    exact ⟨.inl (by omega), .two (by omega) (by omega), by omega⟩
  · rintro ⟨-, -, hbyte⟩
    simp only [twoBytes] at hbyte
    refine ⟨by simp only [twoBytes]; omega, ?_⟩
    simp only [twoBytes, Admits, toNat_tailByte, UInt8.reduceToNat]
    omega

/-- The range keeps out numbers below `U+0800` and the surrogates. -/
theorem opens_threeBytes (hlow : 0xE0 ≤ b.toNat) (hhigh : b.toNat < 0xF0) :
    (threeBytes i b).Opens 0xE0 b := by
  refine ⟨isProper_threeBytes, fun v => ⟨?_, ?_⟩⟩
  · rintro ⟨hcode, hnextLow, hnextHigh⟩
    simp only [threeBytes, toNat_tailByte, apply_ite UInt8.toNat, ← UInt8.toNat_inj,
      UInt8.reduceToNat] at hcode hnextLow hnextHigh ⊢
    have hleast : 0x800 ≤ v := by split at hnextLow <;> omega
    have hvalid : v < 0xD800 ∨ 0xDFFF < v ∧ v < 0x110000 := by split at hnextHigh <;> omega
    exact ⟨hvalid, .three hleast (by omega), by omega⟩
  · rintro ⟨hvalid, hform, hbyte⟩
    have hvalid : v < 0xD800 ∨ 0xDFFF < v ∧ v < 0x110000 := hvalid
    obtain _ | ⟨hleast, hmost⟩ := hform
    simp only [threeBytes] at hbyte
    refine ⟨by simp only [threeBytes]; omega, ?_⟩
    simp only [threeBytes, Admits, toNat_tailByte, apply_ite UInt8.toNat, ← UInt8.toNat_inj,
      UInt8.reduceToNat]
    constructor
    · split <;> omega
    · split <;> omega

/-- The range keeps out numbers below `U+10000` and above `U+10FFFF`. -/
theorem opens_fourBytes (hlow : 0xF0 ≤ b.toNat) (hhigh : b.toNat < 0xF5) :
    (fourBytes i b).Opens 0xF0 b := by
  refine ⟨isProper_fourBytes, fun v => ⟨?_, ?_⟩⟩
  · rintro ⟨hcode, hnextLow, hnextHigh⟩
    simp only [fourBytes, toNat_tailByte, apply_ite UInt8.toNat, ← UInt8.toNat_inj,
      UInt8.reduceToNat] at hcode hnextLow hnextHigh ⊢
    have hleast : 0x10000 ≤ v := by split at hnextLow <;> omega
    have hmost : v < 0x110000 := by split at hnextHigh <;> omega
    exact ⟨.inr ⟨by omega, hmost⟩, .four hleast hmost, by omega⟩
  · rintro ⟨-, hform, hbyte⟩
    obtain _ | _ | ⟨hleast, hmost⟩ := hform
    simp only [fourBytes] at hbyte
    refine ⟨by simp only [fourBytes]; omega, ?_⟩
    simp only [fourBytes, Admits, toNat_tailByte, apply_ite UInt8.toNat, ← UInt8.toNat_inj,
      UInt8.reduceToNat]
    constructor
    · split <;> omega
    · split <;> omega

/-- A byte that begins a character is not ASCII, and leaves open the numbers of one form. -/
theorem opens_of_open? (h : open? i b = some p) : ¬ b < 0x80 ∧ ∃ lead, p.Opens lead b := by
  rw [open?_eq] at h
  split at h
  next => cases h
  next hfirst =>
    refine ⟨fun hlt => hfirst (Nat.lt_trans (UInt8.lt_iff_toNat_lt.mp hlt) (by decide)), ?_⟩
    split at h
    next htwo =>
      cases h
      exact ⟨0xC0, opens_twoBytes (by omega) htwo⟩
    next htwo =>
      split at h
      next hthree =>
        cases h
        exact ⟨0xE0, opens_threeBytes (by omega) hthree⟩
      next hthree =>
        split at h
        next hfour =>
          cases h
          exact ⟨0xF0, opens_fourBytes (by omega) hfour⟩
        next => cases h

end Pending

/-- The first byte of a form holds the highest bits of the number. -/
theorem Form.toNat_first {k lead v : Nat} (h : Form k lead v) :
    (UInt8.ofNat (lead + v / 64 ^ k)).toNat = lead + v / 64 ^ k := by
  refine UInt8.toNat_ofNat_of_lt' ?_
  simp only [UInt8.size]
  cases h with
  | two hleast hmost => omega
  | three hleast hmost => omega
  | four hleast hmost => omega

/-- A first byte leaves open every character whose first byte it is. -/
theorem open?_of_form {k lead v : Nat} (i : Nat) (hform : Form k lead v) (hvalid : v.isValidChar) :
    ∃ p, Pending.open? i (UInt8.ofNat (lead + v / 64 ^ k)) = some p ∧ p.owed = k ∧ p.Awaits v := by
  have hfirst := hform.toNat_first
  generalize UInt8.ofNat (lead + v / 64 ^ k) = b at hfirst
  have hvalid' : v < 0xD800 ∨ 0xDFFF < v ∧ v < 0x110000 := hvalid
  rw [Pending.open?_eq]
  cases hform with
  | two hleast hmost =>
      rw [if_neg (by omega), if_pos (by omega)]
      have hopens := Pending.opens_twoBytes (i := i) (b := b) (by omega) (by omega)
      exact ⟨_, rfl, rfl, (hopens.awaits_iff v).mpr ⟨hvalid, .two hleast hmost, hfirst⟩⟩
  | three hleast hmost =>
      rw [if_neg (by omega), if_neg (by omega), if_pos (by omega)]
      have hopens := Pending.opens_threeBytes (i := i) (b := b) (by omega) (by omega)
      exact ⟨_, rfl, rfl, (hopens.awaits_iff v).mpr ⟨hvalid, .three hleast hmost, hfirst⟩⟩
  | four hleast hmost =>
      rw [if_neg (by omega), if_neg (by omega), if_neg (by omega), if_pos (by omega)]
      have hopens := Pending.opens_fourBytes (i := i) (b := b) (by omega) (by omega)
      exact ⟨_, rfl, rfl, (hopens.awaits_iff v).mpr ⟨hvalid, .four hleast hmost, hfirst⟩⟩

/-! ## Reading -/

/-- The bytes that are still owed are read as the number they complete. -/
theorem decodeFrom_tailBytes {p : Pending} {v i k : Nat} {rest : List UInt8} {text : List Char}
    (howed : p.owed = k + 1) (h : p.Awaits v) (hrest : ∀ j, decodeFrom j none rest = .ok text) :
    decodeFrom i (some p) (tailBytes (k + 1) v ++ rest) = .ok (Char.ofNat v :: text) := by
  induction k generalizing p i with
  | zero =>
      have hnext := Pending.admits_iff.mpr h.next
      have hextended := Pending.extended_tailByte (howed ▸ h.code)
      rw [howed] at hnext
      rw [tailBytes, List.cons_append, decodeFrom, if_pos hnext, if_pos howed, hextended,
        tailBytes, List.nil_append, hrest, Nat.pow_zero, Nat.div_one]
      rfl
  | succ k ih =>
      have hnext := Pending.admits_iff.mpr h.next
      have hextended := Pending.extended_tailByte (howed ▸ h.code)
      rw [howed, Nat.add_sub_cancel] at hnext
      rw [tailBytes, List.cons_append, decodeFrom, if_pos hnext, if_neg (by omega)]
      refine ih (p := p.after (tailByte (k + 1) v)) ?_ (h.after howed)
      show p.owed - 1 = k + 1
      omega

theorem decodeFrom_encode (i : Nat) (text : List Char) :
    decodeFrom i none (encode text) = .ok text := by
  induction text generalizing i with
  | nil => rfl
  | cons c rest ih =>
      rcases lt_or_form c with hone | ⟨k, lead, hform⟩
      · have htoNat : (UInt8.ofNat c.toNat).toNat = c.toNat :=
          UInt8.toNat_ofNat_of_lt' (Nat.lt_trans hone (by decide))
        have hlt : UInt8.ofNat c.toNat < 0x80 := by
          rw [UInt8.lt_iff_toNat_lt, htoNat]
          exact hone
        rw [encode_cons_of_lt hone, decodeFrom, if_pos hlt, htoNat, Char.ofNat_toNat]
        exact congrArg _ (ih (i + 1))
      · obtain ⟨p, hopen, rfl, hawaits⟩ := open?_of_form i hform c.valid
        obtain ⟨hnotAscii, lead, hopens⟩ := Pending.opens_of_open? hopen
        have howed : p.owed = p.owed - 1 + 1 := (Nat.sub_add_cancel hopens.proper.owed).symm
        rw [encode_cons_of_form hform, decodeFrom, if_neg hnotAscii, hopen, howed]
        have hread := decodeFrom_tailBytes howed hawaits ih (i := i + 1)
        rw [Char.ofNat_toNat] at hread
        exact hread

theorem exists_of_map_eq_ok {ε α β : Type} {f : α → β} {e : Except ε α} {b : β}
    (h : f <$> e = .ok b) : ∃ a, e = .ok a ∧ f a = b := by
  cases e with
  | error _ => cases h
  | ok a =>
      cases h
      exact ⟨a, rfl, rfl⟩

/-- A byte below `0x80` is what its character is written as. -/
theorem encode_ascii {b : UInt8} (h : b < 0x80) (text : List Char) :
    encode (Char.ofNat b.toNat :: text) = b :: encode text := by
  have htoNat : (Char.ofNat b.toNat).toNat = b.toNat :=
    toNat_ofNat_of_isValidChar (.inl (Nat.lt_trans b.toNat_lt (by decide)))
  have hone : (Char.ofNat b.toNat).toNat < 0x80 := by
    rw [htoNat]
    exact UInt8.lt_iff_toNat_lt.mp h
  rw [encode_cons_of_lt hone, htoNat, UInt8.ofNat_toNat]

/-- A first byte and the bytes that are owed after it are what the character is written as. -/
theorem Pending.Opens.encode_cons {p : Pending} {lead v : Nat} {b : UInt8} (h : p.Opens lead b)
    (hv : p.Awaits v) (text : List Char) :
    encode (Char.ofNat v :: text) = b :: (tailBytes p.owed v ++ encode text) := by
  obtain ⟨hvalid, hform, hbyte⟩ := (h.awaits_iff v).mp hv
  have htoNat : (Char.ofNat v).toNat = v := toNat_ofNat_of_isValidChar hvalid
  rw [encode_cons_of_form (htoNat.symm ▸ hform), htoNat, ← hbyte, UInt8.ofNat_toNat]

/-- The last byte that is owed completes a number. -/
theorem Pending.IsProper.tailBytes_last {p : Pending} {b : UInt8} (h : p.IsProper)
    (hb : p.Admits b) (howed : p.owed = 1) :
    p.Awaits (p.extended b) ∧ tailBytes p.owed (p.extended b) = [b] := by
  have hcode : p.extended b / 64 ^ (p.owed - 1) = p.extended b := by
    rw [howed]
    exact Nat.div_one _
  obtain ⟨hawaits, htail⟩ := h.awaits_of_admits hb hcode
  rw [howed] at htail
  refine ⟨hawaits, ?_⟩
  rw [howed, tailBytes, tailBytes, htail]

/-- Any other byte that is owed comes before those owed after it. -/
theorem Pending.IsProper.tailBytes_after {p : Pending} {b : UInt8} {v : Nat} (h : p.IsProper)
    (hb : p.Admits b) (hv : (p.after b).Awaits v) :
    p.Awaits v ∧ tailBytes p.owed v = b :: tailBytes (p.after b).owed v := by
  obtain ⟨hawaits, htail⟩ := h.awaits_of_admits hb hv.code
  have hsucc : p.owed = p.owed - 1 + 1 := (Nat.sub_add_cancel h.owed).symm
  refine ⟨hawaits, ?_⟩
  rw [hsucc, tailBytes, htail]
  rfl

/-- What has been read as text is what the text is written as; inside a pending character, first
come the bytes that this one owes. -/
theorem of_decodeFrom {i : Nat} {state : Option Pending} {bytes : List UInt8} {text : List Char}
    (h : decodeFrom i state bytes = .ok text) :
    match state with
    | none => bytes = encode text
    | some p => p.IsProper → ∃ v rest, p.Awaits v ∧ text = Char.ofNat v :: rest
        ∧ bytes = tailBytes p.owed v ++ encode rest := by
  induction bytes generalizing i state text with
  | nil =>
      cases state with
      | none =>
          cases h
          rfl
      | some p => cases h
  | cons b rest ih =>
      cases state with
      | none =>
          rw [decodeFrom] at h
          by_cases hlt : b < 0x80
          · rw [if_pos hlt] at h
            obtain ⟨more, hmore, rfl⟩ := exists_of_map_eq_ok h
            have hrest : rest = encode more := ih hmore
            exact hrest ▸ (encode_ascii hlt more).symm
          · rw [if_neg hlt] at h
            cases hopen : Pending.open? i b with
            | none =>
                rw [hopen] at h
                cases h
            | some p =>
                rw [hopen] at h
                obtain ⟨-, lead, hopens⟩ := Pending.opens_of_open? hopen
                obtain ⟨v, more, hv, rfl, rfl⟩ := ih h hopens.proper
                exact (hopens.encode_cons hv more).symm
      | some p =>
          intro hproper
          rw [decodeFrom] at h
          by_cases hrange : p.low ≤ b ∧ b ≤ p.high
          · rw [if_pos hrange] at h
            have hadmits := Pending.admits_iff.mp hrange
            by_cases howed : p.owed = 1
            · rw [if_pos howed] at h
              obtain ⟨more, hmore, rfl⟩ := exists_of_map_eq_ok h
              obtain ⟨hawaits, htail⟩ := hproper.tailBytes_last hadmits howed
              have hrest : rest = encode more := ih hmore
              refine ⟨_, more, hawaits, rfl, ?_⟩
              rw [htail, hrest, List.singleton_append]
            · rw [if_neg howed] at h
              obtain ⟨v, more, hv, rfl, rfl⟩ := ih h (hproper.after howed)
              obtain ⟨hawaits, htail⟩ := hproper.tailBytes_after hadmits hv
              refine ⟨v, more, hawaits, rfl, ?_⟩
              rw [htail, List.cons_append]
              rfl
          · rw [if_neg hrange] at h
            cases h

/-- **Bytes are read as a text exactly if they are what the text is written as.** -/
theorem decode_eq_ok_iff {bytes : List UInt8} {text : List Char} :
    decode bytes = .ok text ↔ bytes = encode text := by
  constructor
  · intro h
    exact of_decodeFrom h
  · rintro rfl
    exact decodeFrom_encode 0 text

end EntitySchema.Text.Utf8
