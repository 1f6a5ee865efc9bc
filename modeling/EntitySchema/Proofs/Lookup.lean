/-
# `EntitySchema.Proofs.Lookup` — what it means to be found by name

Names may repeat, and the first part with a name is the one that counts.  `First p l a` says so
without a search: `a` is a member of `l` with the property `p`, and no member before it has it.
There is at most one first; so a search for a name, which gives the first part or none, is settled
by the two lemmas on `find?`.  What follows reads each search of the library as a statement about
names.
-/
import EntitySchema.Symbols

namespace EntitySchema

/-- `First p l a`: the first member of `l` with the property `p` is `a`. -/
inductive First {α : Type} (p : α → Prop) : List α → α → Prop
  | here {a : α} {rest : List α} : p a → First p (a :: rest) a
  | later {a b : α} {rest : List α} : ¬ p b → First p rest a → First p (b :: rest) a

namespace First

variable {α : Type} {p : α → Prop} {l : List α} {a b : α}

theorem mem (h : First p l a) : a ∈ l := by
  induction h with
  | here _ => exact List.mem_cons_self
  | later _ _ ih => exact List.mem_cons_of_mem _ ih

theorem holds (h : First p l a) : p a := by
  induction h with
  | here hp => exact hp
  | later _ _ ih => exact ih

theorem unique (ha : First p l a) (hb : First p l b) : a = b := by
  induction ha with
  | here hp =>
      cases hb with
      | here _ => rfl
      | later hn _ => exact absurd hp hn
  | later hn _ ih =>
      cases hb with
      | here hp => exact absurd hp hn
      | later _ hb => exact ih hb

end First

variable {α : Type} {p : α → Prop} {test : α → Bool} {l : List α} {a : α}

/-! ## Searches -/

/-- A search gives the first member that passes the test. -/
theorem find?_eq_some_iff_first (htest : ∀ x, test x = true ↔ p x) :
    l.find? test = some a ↔ First p l a := by
  induction l with
  | nil =>
      constructor
      · intro h
        cases h
      · intro h
        cases h
  | cons b rest ih =>
      by_cases hb : p b
      · rw [List.find?_cons_of_pos ((htest b).mpr hb)]
        constructor
        · intro h
          cases h
          exact .here hb
        · intro h
          exact congrArg some (First.unique (.here hb) h)
      · rw [List.find?_cons_of_neg (fun h => hb ((htest b).mp h)), ih]
        constructor
        · exact First.later hb
        · intro h
          cases h with
          | here hp => exact absurd hp hb
          | later _ h => exact h

/-- A search fails if no member passes the test. -/
theorem find?_eq_none_iff_forall (htest : ∀ x, test x = true ↔ p x) :
    l.find? test = none ↔ ∀ x ∈ l, ¬ p x := by
  rw [List.find?_eq_none]
  exact forall₂_congr fun x _ => not_congr (htest x)

/-- A search that cannot tell a member from its other form finds the same member. -/
theorem find?_map_of_forall {f : α → α} (h : ∀ a, test (f a) = test a) :
    (l.map f).find? test = (l.find? test).map f := by
  have hcomp : test ∘ f = test := funext h
  rw [List.find?_map, hcomp]

theorem filter_map_of_forall {f : α → α} (h : ∀ a, test (f a) = test a) :
    (l.map f).filter test = (l.filter test).map f := by
  have hcomp : test ∘ f = test := funext h
  rw [List.filter_map, hcomp]

/-! ## Parts by name -/

theorem Field.find?_eq_some_iff {fields : List Field} {name : String} {field : Field} :
    Field.find? fields name = some field ↔ First (·.name.text = name) fields field :=
  find?_eq_some_iff_first fun _ => beq_iff_eq

theorem Field.find?_eq_none_iff {fields : List Field} {name : String} :
    Field.find? fields name = none ↔ ∀ field ∈ fields, field.name.text ≠ name :=
  find?_eq_none_iff_forall fun _ => beq_iff_eq

theorem Argument.find?_eq_some_iff {arguments : List Argument} {name : String}
    {argument : Argument} :
    Argument.find? arguments name = some argument
      ↔ First (·.name.text = name) arguments argument :=
  find?_eq_some_iff_first fun _ => beq_iff_eq

theorem Argument.find?_eq_none_iff {arguments : List Argument} {name : String} :
    Argument.find? arguments name = none ↔ ∀ argument ∈ arguments, argument.name.text ≠ name :=
  find?_eq_none_iff_forall fun _ => beq_iff_eq

theorem Argument.name_of_find? {arguments : List Argument} {name : String} {argument : Argument}
    (h : Argument.find? arguments name = some argument) : argument.name.text = name :=
  First.holds (p := fun argument : Argument => argument.name.text = name)
    (Argument.find?_eq_some_iff.mp h)

theorem ObjectField.find?_eq_some_iff {fields : List ObjectField} {name : String}
    {field : ObjectField} :
    ObjectField.find? fields name = some field ↔ First (·.name.text = name) fields field :=
  find?_eq_some_iff_first fun _ => beq_iff_eq

theorem ObjectField.name_of_find? {fields : List ObjectField} {name : String} {field : ObjectField}
    (h : ObjectField.find? fields name = some field) : field.name.text = name :=
  First.holds (p := fun field : ObjectField => field.name.text = name)
    (ObjectField.find?_eq_some_iff.mp h)

theorem Directive.has_iff {directives : List Directive} {name : String} :
    Directive.has directives name = true
      ↔ ∃ directive ∈ directives, directive.name.text = name := by
  simp only [Directive.has, Directive.find?, List.find?_isSome, beq_iff_eq]

end EntitySchema
