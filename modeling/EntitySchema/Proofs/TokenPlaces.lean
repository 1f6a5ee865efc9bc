/-
# `EntitySchema.Proofs.TokenPlaces` — where the tokens of a text stand

Every reader of a literal says how long the literal is, and this is never more than what is left of
the text.  So each token lies inside the text, it is not empty, and the next one begins where it
ends or later (`placed_ofText`).
-/
import EntitySchema.Document.Tokens
import EntitySchema.Proofs.Utf8

namespace EntitySchema

open Text.Utf8 (exists_of_map_eq_ok)

theorem exists_of_bind_eq_ok {ε α β : Type} {e : Except ε α} {f : α → Except ε β} {b : β}
    (h : e >>= f = .ok b) : ∃ a, e = .ok a ∧ f a = .ok b := by
  cases e with
  | error _ => cases h
  | ok a => exact ⟨a, rfl, h⟩

/-! ## The length of a literal -/

namespace Literal

variable {offset n size : Nat} {text rest : List Char} {lexeme : Lexeme}

theorem digits_le (h : digits offset text = .ok n) : n ≤ text.length := by
  have hprefix : (text.takeWhile Char.isDigit).length ≤ text.length :=
    (List.takeWhile_prefix _).length_le
  rw [digits] at h
  split at h
  next => cases h
  next k hk =>
    cases h
    omega

theorem wholePart_le (h : wholePart offset text = .ok n) : n ≤ text.length := by
  rw [wholePart.eq_def] at h
  split at h
  next rest =>
    split at h
    next => cases h
    next =>
      cases h
      exact Nat.le_add_left ..
  next => exact digits_le h

theorem fraction_le (h : fraction offset text = .ok n) : n ≤ text.length := by
  rw [fraction.eq_def] at h
  split at h
  next rest =>
    obtain ⟨k, hk, rfl⟩ := exists_of_map_eq_ok h
    have := digits_le hk
    rw [List.length_cons]
    omega
  next =>
    cases h
    exact Nat.zero_le _

theorem sign_le (allowed : List Char) (text : List Char) : sign allowed text ≤ text.length := by
  cases text with
  | nil => simp [sign]
  | cons c rest =>
      rw [sign, List.length_cons]
      split
      · exact Nat.le_add_left ..
      · exact Nat.zero_le _

theorem exponent_le (h : exponent offset text = .ok n) : n ≤ text.length := by
  rw [exponent.eq_def] at h
  split at h
  next c rest =>
    split at h
    next =>
      obtain ⟨k, hk, rfl⟩ := exists_of_map_eq_ok h
      have hdigits := digits_le hk
      have hsign := sign_le ['+', '-'] rest
      rw [List.length_drop] at hdigits
      rw [List.length_cons]
      omega
    next =>
      cases h
      exact Nat.zero_le _
  next =>
    cases h
    exact Nat.zero_le _

theorem number_le (h : number offset text = .ok (lexeme, size)) : size ≤ text.length := by
  rw [number] at h
  obtain ⟨whole, hwhole, h⟩ := exists_of_bind_eq_ok h
  obtain ⟨decimals, hdecimals, h⟩ := exists_of_bind_eq_ok h
  obtain ⟨power, hpower, h⟩ := exists_of_bind_eq_ok h
  have hsigned := sign_le ['-'] text
  have hwhole := wholePart_le hwhole
  have hdecimals := fraction_le hdecimals
  have hpower := exponent_le hpower
  simp only [List.length_drop] at hwhole hdecimals hpower
  have hsize : sign ['-'] text + whole + decimals + power ≤ text.length := by omega
  by_cases hnext :
      ((text.drop (sign ['-'] text + whole + decimals + power)).head?.any goesOnNumber) = true
  · rw [if_pos hnext] at h
    cases h
  · rw [if_neg hnext] at h
    cases h
    exact hsize

theorem fourDigits?_le {code : Nat} (h : fourDigits? text = some code) : 4 ≤ text.length := by
  rw [fourDigits?] at h
  split at h
  next => cases h
  next hlength =>
    rw [List.length_take] at hlength
    omega

theorem bracedDigits_le {read code : Nat} {meant : Char}
    (h : bracedDigits read code text = .ok (meant, n)) : n ≤ read + text.length := by
  induction text generalizing read code with
  | nil => cases h
  | cons c rest ih =>
      rw [bracedDigits] at h
      rw [List.length_cons]
      split at h
      next =>
        split at h
        next =>
          cases h
          omega
        next => cases h
      next =>
        split at h
        next =>
          have := ih h
          omega
        next => cases h

theorem bracedEscape_le {meant : Char} (h : bracedEscape rest = .ok (meant, n)) :
    n ≤ rest.length + 2 := by
  rw [bracedEscape] at h
  split at h
  next k hk =>
    cases h
    have := bracedDigits_le hk
    rw [List.length_take] at this
    omega
  next => cases h

theorem fixedEscape_le {meant : Char} (h : fixedEscape rest = .ok (meant, n)) :
    n ≤ rest.length + 1 := by
  rw [fixedEscape] at h
  split at h
  next => cases h
  next code hcode =>
    have hfirst := fourDigits?_le hcode
    split at h
    next =>
      cases h
      omega
    next more hscalar hrest =>
      split at h
      next low hlow =>
        split at h
        next =>
          obtain ⟨_, rfl⟩ := Prod.mk.inj (Except.ok.inj h)
          obtain ⟨hsecond, _⟩ := Option.filter_eq_some_iff.mp hlow
          have hsecond := fourDigits?_le hsecond
          have hlength := congrArg List.length hrest
          simp only [List.length_drop, List.length_cons] at hlength
          omega
        next => cases h
      next => cases h
    next => cases h

theorem escape_le {meant : Char} (h : escape rest = .ok (meant, n)) : n ≤ rest.length := by
  rw [escape.eq_def] at h
  split at h
  next => exact bracedEscape_le h
  next => exact fixedEscape_le h
  next =>
    split at h
    next =>
      cases h
      exact Nat.le_add_left ..
    next => cases h
  next => cases h

theorem quotedText_le {written : List Char} (h : quotedText offset text = .ok (written, size)) :
    size ≤ text.length := by
  induction offset, text using quotedText.induct generalizing written size with
  | case1 offset => simp [quotedText] at h
  | case2 offset rest =>
      rw [quotedText, if_pos rfl] at h
      cases h
      exact Nat.le_add_left ..
  | case3 offset rest cause hescape hquote =>
      rw [quotedText, if_neg hquote, if_pos rfl, hescape] at h
      cases h
  | case4 offset rest meant n hescape hquote ih =>
      rw [quotedText, if_neg hquote, if_pos rfl, hescape] at h
      obtain ⟨more, hmore, hsize⟩ := exists_of_map_eq_ok h
      cases hsize
      have hescape := escape_le hescape
      have hmore := ih hmore
      rw [List.length_drop] at hmore
      rw [List.length_cons]
      omega
  | case5 offset c rest hquote hbackslash hend =>
      rw [quotedText, if_neg hquote, if_neg hbackslash, if_pos hend] at h
      cases h
  | case6 offset c rest hquote hbackslash hend ih =>
      rw [quotedText, if_neg hquote, if_neg hbackslash, if_neg hend] at h
      obtain ⟨more, hmore, hsize⟩ := exists_of_map_eq_ok h
      cases hsize
      exact Nat.succ_le_succ (ih hmore)

theorem rawBlock?_le {raw : List Char} (h : rawBlock? text = some (raw, size)) :
    size ≤ text.length := by
  induction text using rawBlock?.induct generalizing raw size with
  | case1 rest =>
      cases h
      simp
  | case2 rest ih =>
      rw [rawBlock?] at h
      obtain ⟨more, hmore, hsize⟩ := Option.map_eq_some_iff.mp h
      cases hsize
      exact Nat.add_le_add_right (ih hmore) 4
  | case3 c rest hquotes hescaped ih =>
      rw [rawBlock?] at h
      · obtain ⟨more, hmore, hsize⟩ := Option.map_eq_some_iff.mp h
        cases hsize
        exact Nat.succ_le_succ (ih hmore)
      · exact hquotes
      · exact hescaped
  | case4 => cases h

end Literal

/-! ## The length of a token -/

namespace Tokens

variable {offset n : Nat} {c : Char} {rest : List Char} {lexeme : Lexeme}

theorem readString_le (h : readString offset rest = .ok (lexeme, n)) : n ≤ rest.length := by
  rw [readString.eq_def] at h
  split at h
  next rest =>
    split at h
    next raw size hraw =>
      cases h
      have := Literal.rawBlock?_le hraw
      simp only [List.length_cons]
      omega
    next => cases h
  next =>
    obtain ⟨read, hread, hsize⟩ := exists_of_map_eq_ok h
    cases hsize
    exact Literal.quotedText_le hread

/-- A token takes no more characters than there are. -/
theorem readLexeme_le (h : readLexeme offset c rest = .ok (lexeme, n)) : n ≤ rest.length := by
  rw [readLexeme] at h
  split at h
  next =>
    cases h
    exact Nat.zero_le _
  next =>
    split at h
    next => exact readString_le h
    next =>
      split at h
      next =>
        obtain ⟨read, hread, hsize⟩ := exists_of_map_eq_ok h
        cases hsize
        have := Literal.number_le hread
        rw [List.length_cons] at this
        omega
      next =>
        split at h
        next =>
          cases h
          exact (List.takeWhile_prefix _).length_le
        next =>
          split at h
          next hdots =>
            cases h
            have := congrArg List.length hdots.2
            rw [List.length_take] at this
            simp only [List.length_cons, List.length_nil] at this
            omega
          next => cases h

/-! ## The order of the tokens -/

/-- `tokens.Placed limit start`: the tokens come one after the other from `start` on, none of them
is empty, and all of them end at `limit` or before. -/
inductive Placed (limit : Nat) : Nat → Tokens → Prop
  | done {start offset : Nat} : start ≤ offset → offset ≤ limit → Placed limit start (.done offset)
  | fault {start : Nat} {error : SyntaxError} : Placed limit start (.fault error)
  | cons {start : Nat} {token : Token} {rest : Tokens} :
      start ≤ token.span.start → token.span.start < token.span.stop → token.span.stop ≤ limit →
      Placed limit token.span.stop rest → Placed limit start (.cons token rest)

theorem Placed.mono {limit start start' : Nat} {tokens : Tokens} (h : Placed limit start tokens)
    (hstart : start' ≤ start) : Placed limit start' tokens := by
  cases h with
  | done hoffset hlimit => exact .done (Nat.le_trans hstart hoffset) hlimit
  | fault => exact .fault
  | cons htoken hproper hlimit hrest =>
      exact .cons (Nat.le_trans hstart htoken) hproper hlimit hrest

theorem placed_ofTextFrom (offset : Nat) (text : List Char) :
    Placed (offset + text.length) offset (ofTextFrom offset text) := by
  induction offset, text using ofTextFrom.induct with
  | case1 offset =>
      rw [ofTextFrom]
      exact .done (Nat.le_refl _) (Nat.le_refl _)
  | case2 offset c rest hignored ih =>
      rw [ofTextFrom, if_pos hignored, List.length_cons, Nat.add_comm rest.length,
        ← Nat.add_assoc]
      exact ih.mono (Nat.le_add_right ..)
  | case3 offset rest n hignored ih =>
      rw [ofTextFrom, if_neg hignored, if_pos rfl]
      have hn : n ≤ rest.length := (List.takeWhile_prefix _).length_le
      have hlimit : offset + ('#' :: rest).length = offset + 1 + n + (rest.drop n).length := by
        rw [List.length_drop, List.length_cons]
        omega
      rw [hlimit]
      exact ih.mono (by omega)
  | case4 offset c rest hignored hcomment error herror =>
      rw [ofTextFrom, if_neg hignored, if_neg hcomment, herror]
      exact .fault
  | case5 offset c rest hignored hcomment lexeme n hlexeme ih =>
      rw [ofTextFrom, if_neg hignored, if_neg hcomment, hlexeme]
      have hn := readLexeme_le hlexeme
      have hlimit : offset + (c :: rest).length = offset + 1 + n + (rest.drop n).length := by
        rw [List.length_drop, List.length_cons]
        omega
      rw [hlimit]
      exact .cons (Nat.le_refl _) (by dsimp only; omega) (Nat.le_add_right ..) ih

/-- **The tokens of a text** lie inside it, one after the other. -/
theorem placed_ofText (text : List Char) : Placed text.length 0 (ofText text) := by
  have hplaced := placed_ofTextFrom 0 text
  rwa [Nat.zero_add] at hplaced

end Tokens

end EntitySchema
