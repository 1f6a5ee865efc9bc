/-
# `EntitySchema.Proofs.Readings` — what a name in the table of suggestions is read as

An entry of the table accepts one spelling, or some words with some widths after them: that much the
search for its expression comes to, as the expression takes up the whole name (`accepts_sized_iff`).
Both are lists of readings: a word, or a word and a width.  A name is read in one way only, as long as no
word has a digit in it: the word ends where the first digit is, and the digits after it are the
width.  So no two entries accept the same name if they have no reading in common, and that is a
matter of looking at their words and widths.

A search among entries of which only one can accept a name does not depend on their order
(`lookup_perm`); hence none of the entries has to stand before another (`suggest_perm`).
-/
import EntitySchema.Proofs.Numerals
import EntitySchema.Suggestion

namespace EntitySchema.Suggestion

open Text (isDigit_of_mem_toString toList_toString_ne_nil eq_of_toString)

/-- A way to read a name: as a word, or as a word and the width in bits after it. -/
structure Reading where
  word : String
  width : Option Nat
  deriving DecidableEq

/-- What may stand after the width in a name. -/
def IsEnding (ending : String) : Prop := ending = "" ∨ ending = "\n"

/-- `Reads name reading`: the name is written as the reading says. -/
inductive Reads : String → Reading → Prop
  | word {name : String} : Reads name ⟨name, none⟩
  | sized {word ending : String} {width : Nat} : IsEnding ending →
      Reads (word ++ toString width ++ ending) ⟨word, some width⟩

/-- The readings that a pattern is for. -/
def Pattern.readings : Pattern → List Reading
  | .spelling name => [⟨name, none⟩]
  | .sized words widths =>
      words.flatMap fun word => widths.map fun width => ⟨word, some width⟩

variable {name word : String} {width : Nat} {reading other : Reading} {pattern : Pattern}
  {entries : List Entry} {scalar : Scalar}

/-! ## Searching a name -/

section Search

variable {texts : List String} {parts : List Part} {first : Bool} {rest : List Char}

theorem isPrefixOf_and_iff {text : String} {test : List Char → Bool} :
    (text.toList.isPrefixOf rest && test (rest.drop text.length)) = true
      ↔ ∃ more, rest = text.toList ++ more ∧ test more = true := by
  rw [Bool.and_eq_true, List.isPrefixOf_iff_prefix]
  constructor
  · rintro ⟨⟨more, rfl⟩, htest⟩
    rw [← String.length_toList, List.drop_left] at htest
    exact ⟨more, rfl, htest⟩
  · rintro ⟨more, rfl, htest⟩
    rw [← String.length_toList, List.drop_left]
    exact ⟨List.prefix_append _ _, htest⟩

theorem matchesAt_oneOf :
    matchesAt (.oneOf texts :: parts) first rest = true
      ↔ ∃ text ∈ texts, ∃ more, rest = text.toList ++ more
        ∧ matchesAt parts (first && text.isEmpty) more = true := by
  rw [matchesAt, List.any_eq_true]
  exact exists_congr fun text => and_congr_right fun _ => isPrefixOf_and_iff

theorem matchesAt_stop :
    matchesAt [.stop] first rest = true ↔ rest = [] ∨ rest = ['\n'] := by
  rw [matchesAt, matchesAt, Bool.and_true, Bool.or_eq_true, List.isEmpty_iff, beq_iff_eq]

/-- After the beginning of a name its beginning is not found again. -/
theorem foundFrom_start_false : foundFrom (.start :: parts) false rest = false := by
  induction rest with
  | nil => rfl
  | cons c rest ih => rw [foundFrom, ih, Bool.or_false, matchesAt, Bool.false_and]

/-- What begins with the beginning of a name is found there or nowhere. -/
theorem foundFrom_start : foundFrom (.start :: parts) true rest = matchesAt parts true rest := by
  cases rest with
  | nil => rw [foundFrom, matchesAt, Bool.true_and]
  | cons c rest =>
      rw [foundFrom, foundFrom_start_false, Bool.or_false, matchesAt, Bool.true_and]

end Search

/-- A word with a width takes up the whole name, but for a line feed at its end. -/
theorem Pattern.accepts_sized_iff {words : List String} {widths : List Nat} :
    (Pattern.sized words widths).accepts name = true
      ↔ ∃ word ∈ words, ∃ width ∈ widths, ∃ ending,
        IsEnding ending ∧ name = word ++ toString width ++ ending := by
  rw [accepts, sizedParts, foundFrom_start]
  simp only [matchesAt_oneOf, matchesAt_stop]
  constructor
  · rintro ⟨word, hword, _, hname, _, hnumeral, ending, rfl, hending⟩
    obtain ⟨width, hwidth, rfl⟩ := List.mem_map.mp hnumeral
    refine ⟨word, hword, width, hwidth, String.ofList ending, ?_, String.toList_inj.mp ?_⟩
    · exact hending.imp (congrArg String.ofList) (congrArg String.ofList)
    · rw [hname, String.toList_append, String.toList_append, String.toList_ofList,
        List.append_assoc]
  · rintro ⟨word, hword, width, hwidth, ending, hending, rfl⟩
    refine ⟨word, hword, (toString width).toList ++ ending.toList, ?_, toString width,
      List.mem_map_of_mem hwidth, ending.toList, rfl, ?_⟩
    · rw [String.toList_append, String.toList_append, List.append_assoc]
    · exact hending.imp (congrArg String.toList) (congrArg String.toList)

/-! ## Patterns by their readings -/

theorem mem_readings_spelling :
    reading ∈ (Pattern.spelling name).readings ↔ reading = ⟨name, none⟩ :=
  List.mem_singleton

theorem mem_readings_sized {words : List String} {widths : List Nat} :
    reading ∈ (Pattern.sized words widths).readings
      ↔ ∃ word ∈ words, ∃ width ∈ widths, reading = ⟨word, some width⟩ := by
  simp only [Pattern.readings, List.mem_flatMap, List.mem_map, eq_comm]

theorem reads_sized_iff :
    Reads name ⟨word, some width⟩
      ↔ name = word ++ toString width ∨ name = word ++ toString width ++ "\n" := by
  constructor
  · intro h
    cases h with
    | sized hending =>
        rcases hending with rfl | rfl
        · exact .inl String.append_empty
        · exact .inr rfl
  · rintro (rfl | rfl)
    · have h : Reads (word ++ toString width ++ "") ⟨word, some width⟩ := .sized (.inl rfl)
      rwa [String.append_empty] at h
    · exact .sized (.inr rfl)

/-- A pattern accepts the names that are written as one of its readings. -/
theorem Pattern.accepts_iff :
    pattern.accepts name = true ↔ ∃ reading ∈ pattern.readings, Reads name reading := by
  cases pattern with
  | spelling s =>
      rw [Pattern.accepts, beq_iff_eq]
      constructor
      · rintro rfl
        exact ⟨_, mem_readings_spelling.mpr rfl, .word⟩
      · rintro ⟨reading, hmem, hreads⟩
        cases mem_readings_spelling.mp hmem
        cases hreads
        rfl
  | sized words widths =>
      rw [accepts_sized_iff]
      constructor
      · rintro ⟨word, hword, width, hwidth, ending, hending, rfl⟩
        exact ⟨_, mem_readings_sized.mpr ⟨word, hword, width, hwidth, rfl⟩, .sized hending⟩
      · rintro ⟨reading, hmem, hreads⟩
        obtain ⟨word, hword, width, hwidth, rfl⟩ := mem_readings_sized.mp hmem
        cases hreads with
        | sized hending => exact ⟨word, hword, width, hwidth, _, hending, rfl⟩

/-! ## One reading for a name -/

/-- A word has no digit in it. -/
def IsWord (word : String) : Prop := ∀ c ∈ word.toList, c.isDigit = false

instance : Decidable (IsWord word) :=
  decidable_of_iff (word.toList.all fun c => !c.isDigit) (by simp [IsWord])

/-- The characters of a name before its first digit. -/
def wordPart (name : String) : List Char := name.toList.takeWhile fun c => !c.isDigit

/-- The digits of a name from its first digit on. -/
def digitPart (name : String) : List Char :=
  (name.toList.dropWhile fun c => !c.isDigit).takeWhile Char.isDigit

/-- The digits that a reading has after its word. -/
def Reading.digits (reading : Reading) : List Char :=
  match reading.width with
  | none => []
  | some width => (toString width).toList

/-- A list is cut where a test fails for the first time. -/
theorem cut_append {body rest : List Char} {test : Char → Bool}
    (hbody : ∀ c ∈ body, test c = true) (hrest : ∀ c ∈ rest.head?, test c = false) :
    (body ++ rest).takeWhile test = body ∧ (body ++ rest).dropWhile test = rest := by
  rw [List.takeWhile_append_of_pos hbody, List.dropWhile_append_of_pos hbody]
  cases rest with
  | nil => exact ⟨List.append_nil body, rfl⟩
  | cons c more =>
      have hc : ¬ test c = true := Bool.eq_false_iff.mp (hrest c rfl)
      rw [List.takeWhile_cons_of_neg hc, List.dropWhile_cons_of_neg hc]
      exact ⟨List.append_nil body, rfl⟩

/-- A word is found again in front of something that begins with a digit, or of nothing. -/
theorem wordPart_append {rest : List Char} (hword : IsWord word)
    (hname : name.toList = word.toList ++ rest) (hrest : ∀ c ∈ rest.head?, c.isDigit = true) :
    wordPart name = word.toList ∧ digitPart name = rest.takeWhile Char.isDigit := by
  have hletters : ∀ c ∈ word.toList, (!c.isDigit) = true := fun c hc => by rw [hword c hc]; rfl
  have hdigit : ∀ c ∈ rest.head?, (!c.isDigit) = false := fun c hc => by rw [hrest c hc]; rfl
  obtain ⟨htake, hdrop⟩ := cut_append hletters hdigit
  constructor
  · rw [wordPart, hname, htake]
  · rw [digitPart, hname, hdrop]

/-- The digits of a width are found again in front of something that is no digit, or of nothing. -/
theorem takeWhile_toString_append {rest : List Char}
    (hrest : ∀ c ∈ rest.head?, c.isDigit = false) :
    ((toString width).toList ++ rest).takeWhile Char.isDigit = (toString width).toList :=
  (cut_append (fun _ hc => isDigit_of_mem_toString hc) hrest).1

theorem isDigit_of_mem_head?_toString_append {rest : List Char} :
    ∀ c ∈ ((toString width).toList ++ rest).head?, c.isDigit = true := by
  intro c hc
  obtain ⟨first, more, hdigits⟩ :=
    List.exists_cons_of_ne_nil (toList_toString_ne_nil (n := width))
  rw [hdigits] at hc
  cases hc
  exact isDigit_of_mem_toString (hdigits ▸ List.mem_cons_self)

/-- The word and the width can be read off a name. -/
theorem Reads.parts (h : Reads name reading) (hword : IsWord reading.word) :
    wordPart name = reading.word.toList ∧ digitPart name = reading.digits := by
  cases h with
  | word =>
      exact wordPart_append hword (List.append_nil _).symm fun c hc => nomatch hc
  | @sized word ending width hending =>
      have hname : (word ++ toString width ++ ending).toList
          = word.toList ++ ((toString width).toList ++ ending.toList) := by
        rw [String.toList_append, String.toList_append, List.append_assoc]
      have hend : ∀ c ∈ ending.toList.head?, c.isDigit = false := by
        rcases hending with rfl | rfl
        · exact fun c hc => nomatch hc
        · intro c hc
          cases hc
          rfl
      obtain ⟨hletters, hdigits⟩ :=
        wordPart_append hword hname isDigit_of_mem_head?_toString_append
      exact ⟨hletters, hdigits.trans (takeWhile_toString_append hend)⟩

/-- A name has one reading at most. -/
theorem Reads.unique (h : Reads name reading) (h' : Reads name other) (hword : IsWord reading.word)
    (hword' : IsWord other.word) : reading = other := by
  obtain ⟨hletters, hdigits⟩ := h.parts hword
  obtain ⟨hletters', hdigits'⟩ := h'.parts hword'
  obtain ⟨word, width⟩ := reading
  obtain ⟨word', width'⟩ := other
  obtain rfl : word = word' := String.toList_inj.mp (hletters.symm.trans hletters')
  replace hdigits : Reading.digits _ = Reading.digits _ := hdigits.symm.trans hdigits'
  cases width with
  | none =>
      cases width' with
      | none => rfl
      | some width' => exact absurd hdigits.symm toList_toString_ne_nil
  | some width =>
      cases width' with
      | none => exact absurd hdigits toList_toString_ne_nil
      | some width' => rw [eq_of_toString hdigits]

/-! ## One entry for a name -/

/-- The words of a pattern. -/
def Pattern.words : Pattern → List String
  | .spelling name => [name]
  | .sized words _ => words

theorem Pattern.word_mem_words (h : reading ∈ pattern.readings) : reading.word ∈ pattern.words := by
  cases pattern with
  | spelling s =>
      cases mem_readings_spelling.mp h
      exact List.mem_singleton_self s
  | sized words widths =>
      obtain ⟨word, hword, width, -, rfl⟩ := mem_readings_sized.mp h
      exact hword

/-- Two patterns have no reading in common: one has widths and the other has none, or they have
different words or different widths. -/
def Pattern.Apart : Pattern → Pattern → Prop
  | .spelling name, .spelling other => name ≠ other
  | .spelling _, .sized _ _ => True
  | .sized _ _, .spelling _ => True
  | .sized words widths, .sized words' widths' =>
      (∀ word ∈ words, word ∉ words') ∨ ∀ width ∈ widths, width ∉ widths'

instance : DecidableRel Pattern.Apart
  | .spelling name, .spelling other => inferInstanceAs (Decidable (name ≠ other))
  | .spelling _, .sized _ _ => inferInstanceAs (Decidable True)
  | .sized _ _, .spelling _ => inferInstanceAs (Decidable True)
  | .sized words widths, .sized words' widths' =>
      inferInstanceAs
        (Decidable ((∀ word ∈ words, word ∉ words') ∨ ∀ width ∈ widths, width ∉ widths'))

theorem Pattern.Apart.not_mem_readings {pattern' : Pattern} (h : pattern.Apart pattern')
    (hmem : reading ∈ pattern.readings) : reading ∉ pattern'.readings := by
  intro hmem'
  cases pattern with
  | spelling s =>
      cases mem_readings_spelling.mp hmem
      cases pattern' with
      | spelling s' =>
          cases mem_readings_spelling.mp hmem'
          exact h rfl
      | sized words' widths' =>
          obtain ⟨_, _, _, _, heq⟩ := mem_readings_sized.mp hmem'
          cases heq
  | sized words widths =>
      obtain ⟨word, hword, width, hwidth, rfl⟩ := mem_readings_sized.mp hmem
      cases pattern' with
      | spelling s' => cases mem_readings_spelling.mp hmem'
      | sized words' widths' =>
          obtain ⟨_, hword', _, hwidth', heq⟩ := mem_readings_sized.mp hmem'
          cases heq
          exact h.elim (fun hwords => hwords _ hword hword') fun hwidths =>
            hwidths _ hwidth hwidth'

/-- No word of the entries has a digit in it, and no two of them have a reading in common. -/
structure IsUnambiguous (entries : List Entry) : Prop where
  words : ∀ entry ∈ entries, ∀ word ∈ entry.pattern.words, IsWord word
  apart : entries.Pairwise fun first second => first.pattern.Apart second.pattern

theorem isUnambiguous_table : IsUnambiguous table := by
  constructor
  · decide
  · decide

/-- What cannot stand side by side in a list, but has to there, is there once at most. -/
theorem length_le_one_of_pairwise {α : Type} {R : α → α → Prop} {l : List α}
    (hpairwise : l.Pairwise R) (hnot : ∀ a ∈ l, ∀ b ∈ l, ¬ R a b) : l.length ≤ 1 := by
  match l with
  | [] => exact Nat.zero_le 1
  | [_] => exact Nat.le_refl 1
  | first :: second :: rest =>
      have hmem : second ∈ first :: second :: rest := List.mem_cons_of_mem _ List.mem_cons_self
      exact absurd (List.rel_of_pairwise_cons hpairwise List.mem_cons_self)
        (hnot first List.mem_cons_self second hmem)

namespace IsUnambiguous

variable (h : IsUnambiguous entries)
include h

/-- Of two entries only one accepts a name. -/
theorem pairwise_accepts (name : String) :
    entries.Pairwise fun first second =>
      ¬ (first.pattern.accepts name = true ∧ second.pattern.accepts name = true) := by
  refine h.apart.imp_of_mem fun {first second} hfirst hsecond hapart => ?_
  rintro ⟨haccepts, haccepts'⟩
  obtain ⟨reading, hmem, hreads⟩ := Pattern.accepts_iff.mp haccepts
  obtain ⟨other, hmem', hreads'⟩ := Pattern.accepts_iff.mp haccepts'
  -- both entries would have the one reading of the name
  have hsame : reading = other := hreads.unique hreads'
    (h.words _ hfirst _ (Pattern.word_mem_words hmem))
    (h.words _ hsecond _ (Pattern.word_mem_words hmem'))
  exact hapart.not_mem_readings hmem (hsame ▸ hmem')

theorem countP_accepts_le_one (name : String) :
    entries.countP (fun entry => entry.pattern.accepts name) ≤ 1 := by
  rw [List.countP_eq_length_filter]
  refine length_le_one_of_pairwise ((h.pairwise_accepts name).filter _) ?_
  intro first hfirst second hsecond hnot
  exact hnot ⟨(List.mem_filter.mp hfirst).2, (List.mem_filter.mp hsecond).2⟩

end IsUnambiguous

/-! ## The order of the entries -/

theorem eq_of_perm_of_length_le_one {α : Type} {l l' : List α} (hperm : l.Perm l')
    (hlength : l'.length ≤ 1) : l = l' := by
  match l', hlength with
  | [], _ => exact hperm.eq_nil
  | [a], _ => exact List.perm_singleton.mp hperm

/-- A search for what is there once at most gives the same in every order. -/
theorem find?_perm {α : Type} {l l' : List α} {test : α → Bool} (hperm : l.Perm l')
    (hcount : l'.countP test ≤ 1) : l.find? test = l'.find? test := by
  rw [List.countP_eq_length_filter] at hcount
  rw [← List.head?_filter, ← List.head?_filter,
    eq_of_perm_of_length_le_one (hperm.filter test) hcount]

theorem lookup_perm {entries' : List Entry} (hperm : entries'.Perm entries)
    (hcount : entries.countP (fun entry => entry.pattern.accepts name) ≤ 1) :
    lookup entries' name = lookup entries name := by
  rw [lookup, lookup, find?_perm hperm hcount]

theorem lookup_cons_of_accepts {entry : Entry} (h : entry.pattern.accepts name = true) :
    lookup (entry :: entries) name = some entry.scalar := by
  simp [lookup, h]

/-- Whichever entry accepts a name, it may as well stand first. -/
theorem lookup_eq_some_iff (h : IsUnambiguous entries) :
    lookup entries name = some scalar
      ↔ ∃ entry ∈ entries, entry.pattern.accepts name = true ∧ entry.scalar = scalar := by
  constructor
  · intro hlookup
    obtain ⟨entry, hfind, hscalar⟩ := Option.map_eq_some_iff.mp hlookup
    have haccepts := List.find?_some hfind
    exact ⟨entry, List.mem_of_find?_eq_some hfind, haccepts, hscalar⟩
  · rintro ⟨entry, hmem, haccepts, rfl⟩
    obtain ⟨before, after, hentries⟩ := List.append_of_mem hmem
    have hperm : (entry :: (before ++ after)).Perm entries := hentries ▸ List.perm_middle.symm
    rw [← lookup_perm hperm (h.countP_accepts_le_one name), lookup_cons_of_accepts haccepts]

/-- A name has a suggestion if the table has what it is read as. -/
theorem suggest_eq_some_iff_reads :
    suggest name = some scalar
      ↔ ∃ reading, Reads name reading
        ∧ ∃ entry ∈ table, reading ∈ entry.pattern.readings ∧ entry.scalar = scalar := by
  rw [suggest, lookup_eq_some_iff isUnambiguous_table]
  constructor
  · rintro ⟨entry, hentry, haccepts, hscalar⟩
    obtain ⟨reading, hmem, hreads⟩ := Pattern.accepts_iff.mp haccepts
    exact ⟨reading, hreads, entry, hentry, hmem, hscalar⟩
  · rintro ⟨reading, hreads, entry, hentry, hmem, hscalar⟩
    exact ⟨entry, hentry, Pattern.accepts_iff.mpr ⟨reading, hmem, hreads⟩, hscalar⟩

/-- **The order of the table does not count.**  No name is accepted by two entries, whatever they
are, and so the table suggests the same in every order. -/
theorem suggest_perm :
    (∀ name, table.countP (fun entry => entry.pattern.accepts name) ≤ 1)
      ∧ ∀ entries, entries.Perm table → ∀ name, lookup entries name = suggest name := by
  have hcount := isUnambiguous_table.countP_accepts_le_one
  exact ⟨hcount, fun entries hperm name => lookup_perm hperm (hcount name)⟩

/-- From the end to the beginning, a name at the border of two entries, with a line feed. -/
theorem suggest_perm_reverse :
    table.reverse.Perm table ∧ lookup table.reverse "uint32\n" = some .bigInt := by
  have hperm : table.reverse.Perm table := List.reverse_perm table
  refine ⟨hperm, ?_⟩
  rw [suggest_perm.2 table.reverse hperm "uint32\n"]
  decide +kernel

end EntitySchema.Suggestion
