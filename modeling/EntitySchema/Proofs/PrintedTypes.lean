/-
# `EntitySchema.Proofs.PrintedTypes` — what a printed type says

The last character of a printed type tells its outermost wrapper: a list ends with its bracket, a
non-null type with its mark, and a type that is not wrapped with a character of its name, which is
neither of them.  What is left without the wrapper is printed in the same way, so from the printed
type the expression can be read back, all but its positions.  And the name inside all wrappers is
what stands there without brackets and marks.

For this the name has to be made of name characters.  Where the marks stand does not count, so it
holds for the types of the grammar (`IsGrammatical.hasProperName`) and for those with a mark right
inside another as well.
-/
import EntitySchema.Proofs.Bare
import EntitySchema.Proofs.Relocation

namespace EntitySchema

/-- A character that a wrapper is printed with. -/
def isWrapping (c : Char) : Bool := c == '[' || c == ']' || c == '!'

/-- A printed type without brackets and marks. -/
def dropWrapping (text : String) : String :=
  String.ofList (text.toList.filter fun c => !isWrapping c)

namespace TypeExpr

variable {s t : TypeExpr}

/-- The name inside all wrappers is made of name characters. -/
def HasProperName (t : TypeExpr) : Prop := ∀ c ∈ t.baseName.toList, isNamePart c = true

/-- The expression as it is read without positions. -/
def withoutSpans (t : TypeExpr) : TypeExpr := t.mapSpans fun _ => none

theorem IsGrammatical.hasProperName (h : t.IsGrammatical) : t.HasProperName := by
  induction t with
  | named type => exact h.2
  | list span element ih => exact ih h
  | nonNull span inner ih => exact ih h.2

theorem isWrapping_of_isNamePart {c : Char} (h : isNamePart c = true) : isWrapping c = false := by
  refine Bool.eq_false_iff.mpr fun hwrapping => ?_
  simp only [isWrapping, Bool.or_eq_true, beq_iff_eq] at hwrapping
  rcases hwrapping with (rfl | rfl) | rfl
  · exact absurd h (by decide)
  · exact absurd h (by decide)
  · exact absurd h (by decide)

/-! ## Reading a printed type back -/

/-- The character that the outermost wrapper ends with. -/
def closing : TypeExpr → Option Char
  | .named _ => none
  | .list _ _ => some ']'
  | .nonNull _ _ => some '!'

/-- A wrapper ends with what is no name character, and a name does not. -/
theorem closing_eq (h : t.HasProperName) :
    t.closing = t.renderChars.getLast?.filter fun c => !isNamePart c := by
  cases t with
  | named type =>
      refine (Option.filter_eq_none_iff.mpr fun c hc => ?_).symm
      have hname : isNamePart c = true := h c (List.mem_of_getLast? hc)
      simp [hname]
  | list span element =>
      rw [renderChars, List.getLast?_concat]
      rfl
  | nonNull span inner =>
      rw [renderChars, List.getLast?_concat]
      rfl

theorem closing_congr (hs : s.HasProperName) (ht : t.HasProperName)
    (h : s.renderChars = t.renderChars) : s.closing = t.closing := by
  rw [closing_eq hs, closing_eq ht, h]

theorem withoutSpans_eq_of_renderChars (hs : s.HasProperName) (ht : t.HasProperName)
    (h : s.renderChars = t.renderChars) : s.withoutSpans = t.withoutSpans := by
  have hclosing := closing_congr hs ht h
  -- both have the same outermost wrapper, and without it they are still printed alike
  induction s generalizing t with
  | named type =>
      cases t with
      | named other =>
          have htext : type.name.text = other.name.text := String.toList_inj.mp h
          show TypeExpr.named ⟨none, ⟨none, type.name.text⟩⟩ = .named ⟨none, ⟨none, other.name.text⟩⟩
          rw [htext]
      | list span element => cases hclosing
      | nonNull span inner => cases hclosing
  | list span element ih =>
      cases t with
      | named other => cases hclosing
      | list span' element' =>
          have hs' : element.HasProperName := hs
          have ht' : element'.HasProperName := ht
          have helement : element.renderChars = element'.renderChars :=
            List.append_cancel_right (List.cons.inj h).2
          have hsame : element.withoutSpans = element'.withoutSpans :=
            ih hs' ht' helement (closing_congr hs' ht' helement)
          exact congrArg (TypeExpr.list none) hsame
      | nonNull span' inner' => cases hclosing
  | nonNull span inner ih =>
      cases t with
      | named other => cases hclosing
      | list span' element' => cases hclosing
      | nonNull span' inner' =>
          have hs' : inner.HasProperName := hs
          have ht' : inner'.HasProperName := ht
          have hinner : inner.renderChars = inner'.renderChars := List.append_cancel_right h
          have hsame : inner.withoutSpans = inner'.withoutSpans :=
            ih hs' ht' hinner (closing_congr hs' ht' hinner)
          exact congrArg (TypeExpr.nonNull none) hsame

/-! ## The name in a printed type -/

theorem filter_renderChars (h : t.HasProperName) :
    t.renderChars.filter (fun c => !isWrapping c) = t.baseName.toList := by
  induction t with
  | named type =>
      refine List.filter_eq_self.mpr fun c hc => ?_
      rw [isWrapping_of_isNamePart (h c hc)]
      rfl
  | list span element ih =>
      rw [renderChars, List.cons_append, List.filter_cons_of_neg (by decide), List.filter_append,
        ih h]
      exact List.append_nil _
  | nonNull span inner ih =>
      rw [renderChars, List.filter_append, ih h]
      exact List.append_nil _

/-- **What a printed type says.**  Types are printed alike exactly if they are the same but for their
positions, and without brackets and marks there is left the name inside all wrappers. -/
theorem render_faithful (hs : s.HasProperName) (ht : t.HasProperName) :
    (s.render = t.render ↔ s.withoutSpans = t.withoutSpans)
      ∧ dropWrapping t.render = t.baseName := by
  constructor
  · constructor
    · intro h
      exact withoutSpans_eq_of_renderChars hs ht (String.ofList_inj.mp h)
    · intro h
      have hprinted : s.withoutSpans.render = t.withoutSpans.render := congrArg render h
      rwa [withoutSpans, withoutSpans, render_mapSpans, render_mapSpans] at hprinted
  · rw [dropWrapping, render, String.toList_ofList, filter_renderChars ht, String.ofList_toList]

end TypeExpr

/-! ## A type of the grammar -/

section Printed

open Bare

/-- A list whose rows are lists of pools. -/
def printedRows : TypeExpr := required (listOf (listOf (required (named "Pool_2"))))

/-- The same type, read from a text. -/
def printedRowsRead : TypeExpr :=
  .nonNull (some ⟨4, 15⟩) (.list (some ⟨4, 14⟩) (.list (some ⟨5, 13⟩)
    (.nonNull (some ⟨6, 12⟩) (.named ⟨some ⟨6, 11⟩, some ⟨6, 11⟩, "Pool_2"⟩))))

end Printed

theorem render_faithful_rows :
    printedRowsRead.IsGrammatical ∧ printedRows.IsGrammatical
      ∧ printedRowsRead.withoutSpans = printedRows.withoutSpans
      ∧ dropWrapping "[[Pool_2!]]!" = "Pool_2" := by
  have hread : printedRowsRead.IsGrammatical := ⟨rfl, rfl, by decide, List.all_eq_true.mp rfl⟩
  have hrows : printedRows.IsGrammatical := ⟨rfl, rfl, by decide, List.all_eq_true.mp rfl⟩
  have hfaithful := TypeExpr.render_faithful hread.hasProperName hrows.hasProperName
  have hprinted : printedRows.render = "[[Pool_2!]]!" := by decide
  exact ⟨hread, hrows, hfaithful.1.mp (by decide), hprinted ▸ hfaithful.2⟩

end EntitySchema
