/-
# `EntitySchema.Proofs.WholeNames` — which names have a suggestion

A suggestion is meant for a whole name: one of the spellings that the table lists, which are made of
letters and digits.  The entries with one spelling keep to that.  Those for the integer types of some
widths are meant to, but they let through a line feed at the very end of the name: `u8` and a line
feed is taken for `u8`.  So the names with a suggestion are the listed ones, and besides them only
the listed integer types with a line feed after them (`suggest_isSome_iff_whole`).
-/
import EntitySchema.Proofs.Readings

namespace EntitySchema.Suggestion

variable {name type : String} {pattern : Pattern}

/-! ## The spellings in the table -/

/-- The names of the integer types of some words and widths. -/
def Pattern.sizedNames (words : List String) (widths : List Nat) : List String :=
  words.flatMap fun word => widths.map fun width => word ++ toString width

/-- The spellings that a pattern lists. -/
def Pattern.spellings : Pattern → List String
  | .spelling name => [name]
  | .sized words widths => sizedNames words widths

/-- A whole name: letters and digits, and one of the spellings that the table lists. -/
structure IsWhole (name : String) : Prop where
  isAlphanum : ∀ c ∈ name.toList, c.isAlphanum = true
  listed : ∃ entry ∈ table, name ∈ entry.pattern.spellings

/-- One of the integer types that the table lists, as a word and a width. -/
def IsListedType (type : String) : Prop :=
  ∃ entry ∈ table, ∃ words widths, entry.pattern = .sized words widths
    ∧ type ∈ Pattern.sizedNames words widths

theorem Pattern.mem_sizedNames {words : List String} {widths : List Nat} :
    type ∈ sizedNames words widths
      ↔ ∃ word ∈ words, ∃ width ∈ widths, type = word ++ toString width := by
  simp only [sizedNames, List.mem_flatMap, List.mem_map, eq_comm]

/-- A spelling is a word of its pattern, alone or with a number after it. -/
theorem Pattern.exists_of_mem_spellings (h : name ∈ pattern.spellings) :
    ∃ word ∈ pattern.words, name = word ∨ ∃ width : Nat, name = word ++ toString width := by
  cases pattern with
  | spelling s => exact ⟨s, List.mem_singleton_self s, .inl (List.mem_singleton.mp h)⟩
  | sized words widths =>
      obtain ⟨word, hword, width, -, hname⟩ := mem_sizedNames.mp h
      exact ⟨word, hword, .inr ⟨width, hname⟩⟩

theorem isAlpha_of_mem_words :
    ∀ entry ∈ table, ∀ word ∈ entry.pattern.words, ∀ c ∈ word.toList, c.isAlpha = true := by
  have hall : (table.all fun entry => entry.pattern.words.all fun word =>
      word.toList.all Char.isAlpha) = true := by decide
  simpa only [List.all_eq_true] using hall

theorem isAlphanum_of_mem_spellings {entry : Entry} (hentry : entry ∈ table)
    (h : name ∈ entry.pattern.spellings) : ∀ c ∈ name.toList, c.isAlphanum = true := by
  obtain ⟨word, hword, hname⟩ := Pattern.exists_of_mem_spellings h
  have hletters : ∀ c ∈ word.toList, c.isAlphanum = true := fun c hc => by
    rw [Char.isAlphanum, isAlpha_of_mem_words entry hentry word hword c hc, Bool.true_or]
  rcases hname with rfl | ⟨width, rfl⟩
  · exact hletters
  · intro c hc
    rw [String.toList_append] at hc
    rcases List.mem_append.mp hc with hc | hc
    · exact hletters c hc
    · rw [Char.isAlphanum, Text.isDigit_of_mem_toString hc, Bool.or_true]

/-- What is listed is made of letters and digits. -/
theorem isWhole_iff : IsWhole name ↔ ∃ entry ∈ table, name ∈ entry.pattern.spellings := by
  constructor
  · exact IsWhole.listed
  · rintro ⟨entry, hentry, hmem⟩
    exact ⟨isAlphanum_of_mem_spellings hentry hmem, entry, hentry, hmem⟩

theorem IsWhole.not_lineFeed (h : IsWhole name) : '\n' ∉ name.toList := by
  intro hmem
  exact absurd (h.isAlphanum '\n' hmem) (by decide)

/-! ## The names that are accepted -/

/-- A pattern for integer types lets a line feed through. -/
theorem Pattern.accepts_iff_spellings :
    pattern.accepts name = true
      ↔ name ∈ pattern.spellings
        ∨ ∃ words widths, pattern = .sized words widths
          ∧ ∃ type ∈ sizedNames words widths, name = type ++ "\n" := by
  cases pattern with
  | spelling s =>
      rw [accepts, beq_iff_eq, spellings, List.mem_singleton, eq_comm]
      refine (or_iff_left ?_).symm
      rintro ⟨_, _, h, _⟩
      cases h
  | sized words widths =>
      rw [accepts_sized_iff, spellings]
      constructor
      · rintro ⟨word, hword, width, hwidth, _, rfl | rfl, rfl⟩
        · rw [String.append_empty]
          exact .inl (mem_sizedNames.mpr ⟨word, hword, width, hwidth, rfl⟩)
        · exact .inr ⟨words, widths, rfl, _, mem_sizedNames.mpr ⟨word, hword, width, hwidth, rfl⟩,
            rfl⟩
      · rintro (hname | ⟨_, _, h, type, htype, rfl⟩)
        · obtain ⟨word, hword, width, hwidth, rfl⟩ := mem_sizedNames.mp hname
          exact ⟨word, hword, width, hwidth, "", .inl rfl, String.append_empty.symm⟩
        · cases h
          obtain ⟨word, hword, width, hwidth, rfl⟩ := mem_sizedNames.mp htype
          exact ⟨word, hword, width, hwidth, "\n", .inr rfl, rfl⟩

theorem suggest_isSome_iff_accepts :
    (suggest name).isSome = true ↔ ∃ entry ∈ table, entry.pattern.accepts name = true := by
  rw [suggest, lookup, Option.isSome_map, List.find?_isSome]

theorem suggest_isSome_iff :
    (suggest name).isSome = true
      ↔ IsWhole name ∨ ∃ type, IsListedType type ∧ name = type ++ "\n" := by
  rw [suggest_isSome_iff_accepts, isWhole_iff]
  constructor
  · rintro ⟨entry, hentry, haccepts⟩
    rcases Pattern.accepts_iff_spellings.mp haccepts with
      hmem | ⟨words, widths, hpattern, type, htype, hname⟩
    · exact .inl ⟨entry, hentry, hmem⟩
    · exact .inr ⟨type, ⟨entry, hentry, words, widths, hpattern, htype⟩, hname⟩
  · rintro (⟨entry, hentry, hmem⟩ |
      ⟨type, ⟨entry, hentry, words, widths, hpattern, htype⟩, hname⟩)
    · exact ⟨entry, hentry, Pattern.accepts_iff_spellings.mpr (.inl hmem)⟩
    · exact ⟨entry, hentry, Pattern.accepts_iff_spellings.mpr
        (.inr ⟨words, widths, hpattern, type, htype, hname⟩)⟩

/-- **What has a suggestion.**  The names with a suggestion are whole, but for the listed integer
types with a line feed at the end, all of which have one.  So a suggestion is for a whole name
exactly if the name is none of these; it is enough that the name does not end with a line feed. -/
theorem suggest_isSome_iff_whole (name : String) :
    ((suggest name).isSome = true
        ↔ IsWhole name ∨ ∃ type, IsListedType type ∧ name = type ++ "\n")
      ∧ (((suggest name).isSome = true → IsWhole name)
        ↔ ¬ ∃ type, IsListedType type ∧ name = type ++ "\n")
      ∧ (name.toList.getLast? ≠ some '\n' → (suggest name).isSome = true → IsWhole name) := by
  have hends : (∃ type, IsListedType type ∧ name = type ++ "\n") →
      name.toList.getLast? = some '\n' := by
    rintro ⟨type, -, rfl⟩
    rw [String.toList_append]
    exact List.getLast?_concat
  have hwhole : ((suggest name).isSome = true → IsWhole name)
      ↔ ¬ ∃ type, IsListedType type ∧ name = type ++ "\n" := by
    rw [suggest_isSome_iff]
    constructor
    · intro h hline
      have hlast := List.mem_of_getLast? (hends hline)
      exact (h (.inr hline)).not_lineFeed hlast
    · intro hnone h
      exact h.resolve_right hnone
  exact ⟨suggest_isSome_iff, hwhole, fun hlast => hwhole.mpr fun hline => hlast (hends hline)⟩

/-- The widest type that is listed, as it stands. -/
theorem suggest_isSome_iff_whole_widest :
    "uint256".toList.getLast? ≠ some '\n' ∧ (suggest "uint256").isSome = true
      ∧ IsWhole "uint256" := by
  have hlast : "uint256".toList.getLast? ≠ some '\n' := by decide
  have hsuggest : (suggest "uint256").isSome = true := by decide +kernel
  exact ⟨hlast, hsuggest, (suggest_isSome_iff_whole "uint256").2.2 hlast hsuggest⟩

/-- The name `u8` and a line feed has a suggestion, and is not whole. -/
theorem not_forall_isWhole :
    ¬ ∀ name : String, (suggest name).isSome = true → IsWhole name := by
  intro h
  have hwhole : IsWhole "u8\n" := h "u8\n" (by decide +kernel)
  exact hwhole.not_lineFeed (by decide)

end EntitySchema.Suggestion
