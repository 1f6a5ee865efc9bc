/-
# `EntitySchema.Proofs.TypeExpr` — the shape of a type expression

What the rules ask of a type is said here without the functions that look at it: which name stands
inside all wrappers, whether there is a non-null mark outside, and what the elements are of a list
that at most one such mark surrounds.  Each relation comes with the function that decides it.
-/
import EntitySchema.Rule.Entity

namespace EntitySchema.TypeExpr

/-- `t.HasBase name`: inside all wrappers of `t` stands the type `name`. -/
inductive HasBase (name : String) : TypeExpr → Prop
  | named {type : NamedType} : type.name.text = name → HasBase name (.named type)
  | list {span : Option Span} {element : TypeExpr} :
      HasBase name element → HasBase name (.list span element)
  | nonNull {span : Option Span} {inner : TypeExpr} :
      HasBase name inner → HasBase name (.nonNull span inner)

theorem hasBase_iff {t : TypeExpr} {name : String} : t.HasBase name ↔ t.baseName = name := by
  induction t with
  | named type =>
      constructor
      · intro h
        cases h with | named h => exact h
      · exact HasBase.named
  | list span element ih =>
      constructor
      · intro h
        cases h with | list h => exact ih.mp h
      · intro h
        exact .list (ih.mpr h)
  | nonNull span inner ih =>
      constructor
      · intro h
        cases h with | nonNull h => exact ih.mp h
      · intro h
        exact .nonNull (ih.mpr h)

/-- Only one name stands inside all wrappers. -/
theorem HasBase.unique {t : TypeExpr} {name other : String} (h : t.HasBase name)
    (h' : t.HasBase other) : name = other :=
  (hasBase_iff.mp h).symm.trans (hasBase_iff.mp h')

theorem hasBase_baseName (t : TypeExpr) : t.HasBase t.baseName := hasBase_iff.mpr rfl

/-- A type with a non-null mark outside. -/
inductive Marked : TypeExpr → Prop
  | nonNull {span : Option Span} {inner : TypeExpr} : Marked (.nonNull span inner)

theorem isNonNull_iff {t : TypeExpr} : t.isNonNull = true ↔ t.Marked := by
  cases t with
  | named type =>
      constructor
      · intro h
        cases h
      · intro h
        cases h
  | list span element =>
      constructor
      · intro h
        cases h
      · intro h
        cases h
  | nonNull span inner => exact ⟨fun _ => .nonNull, fun _ => rfl⟩

/-- `t.ListsOf element`: `t` is a list of `element`, as it stands or in one non-null mark. -/
inductive ListsOf : TypeExpr → TypeExpr → Prop
  | bare {span : Option Span} {element : TypeExpr} : ListsOf (.list span element) element
  | marked {mark span : Option Span} {element : TypeExpr} :
      ListsOf (.nonNull mark (.list span element)) element

theorem listsOf_iff {t element : TypeExpr} :
    t.ListsOf element ↔ ∃ span, t.dropNonNull = .list span element := by
  constructor
  · intro h
    cases h with
    | bare => exact ⟨_, rfl⟩
    | marked => exact ⟨_, rfl⟩
  · rintro ⟨span, h⟩
    cases t with
    | named type => cases h
    | list span' element' =>
        cases h
        exact .bare
    | nonNull mark inner =>
        cases h
        exact .marked

/-- The rule on lists: no list that at most one mark surrounds has elements without a mark. -/
theorem nullableElement?_eq_none_iff {t : TypeExpr} :
    t.nullableElement? = none ↔ ∀ element, t.ListsOf element → element.Marked := by
  rw [nullableElement?]
  cases hd : t.dropNonNull with
  | list span element =>
      constructor
      · intro h element' hlists
        obtain ⟨span', hd'⟩ := listsOf_iff.mp hlists
        cases hd.symm.trans hd'
        cases hm : element.isNonNull with
        | true => exact isNonNull_iff.mp hm
        | false => simp [hm] at h
      · intro h
        exact if_pos (isNonNull_iff.mpr (h element (listsOf_iff.mpr ⟨span, hd⟩)))
  | named type =>
      refine ⟨fun _ element hlists => ?_, fun _ => rfl⟩
      obtain ⟨span', hd'⟩ := listsOf_iff.mp hlists
      cases hd.symm.trans hd'
  | nonNull span inner =>
      refine ⟨fun _ element hlists => ?_, fun _ => rfl⟩
      obtain ⟨span', hd'⟩ := listsOf_iff.mp hlists
      cases hd.symm.trans hd'

/-- What the rule on lists reports: the elements of such a list that have no mark. -/
theorem nullableElement?_eq_some_iff {t element : TypeExpr} :
    t.nullableElement? = some element ↔ t.ListsOf element ∧ ¬ element.Marked := by
  rw [nullableElement?, listsOf_iff, ← isNonNull_iff]
  cases hd : t.dropNonNull with
  | list span element' =>
      constructor
      · intro h
        simp only at h
        split at h
        next => cases h
        next hmark =>
          cases h
          exact ⟨⟨span, rfl⟩, hmark⟩
      · rintro ⟨⟨span', h⟩, hmark⟩
        cases h
        exact if_neg hmark
  | named type => exact ⟨fun h => (nomatch h), fun h => (nomatch h.1)⟩
  | nonNull span inner => exact ⟨fun h => (nomatch h), fun h => (nomatch h.1)⟩

/-- The type of an identifier: the scalar `ID` in exactly one non-null mark. -/
inductive IsId : TypeExpr → Prop
  | mk {mark : Option Span} {type : NamedType} :
      type.name.text = "ID" → IsId (.nonNull mark (.named type))

theorem isIdentifier_iff {t : TypeExpr} : t.isIdentifier = true ↔ t.IsId := by
  constructor
  · intro h
    match t, h with
    | .nonNull _ (.named type), h => exact .mk (beq_iff_eq.mp h)
  · intro h
    cases h with | mk h => exact beq_iff_eq.mpr h

end EntitySchema.TypeExpr
