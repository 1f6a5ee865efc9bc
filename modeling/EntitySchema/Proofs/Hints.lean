/-
# `EntitySchema.Proofs.Hints` — following a report

Two reports about a field say what its type should be.  The one on a list whose elements may be null
prints the type as it is and as it must be; the one on an unknown type may name a scalar that is
meant.  Both can be followed without a look at anything else (`checkField_hints`): with the type
that the first one prints, the field has the same findings but this one, and with the scalar that
the second one names in place of the innermost type, its type is known in every schema.

The text of the first report is put together around the elements of the list.  That it shows two
types of the grammar, and which ones, is said by `render_eq_listType` and `render_markElements`.
-/
import EntitySchema.Proofs.NestedLists
import EntitySchema.Proofs.Renaming
import EntitySchema.Proofs.UnknownTarget

namespace EntitySchema

/-! ## The type with the mark -/

namespace TypeExpr

/-- The type with the elements of its outermost list in a non-null mark; a type without lists stays
as it is. -/
def markElements (mark : Option Span) : TypeExpr → TypeExpr
  | .named type => .named type
  | .list span element => .list span (.nonNull mark element)
  | .nonNull outer inner => .nonNull outer (inner.markElements mark)

/-- No non-null mark stands right inside another. -/
def NoDoubleMark : TypeExpr → Prop
  | .named _ => True
  | .list _ element => element.NoDoubleMark
  | .nonNull _ inner => inner.isNonNull = false ∧ inner.NoDoubleMark

variable {t element : TypeExpr} {mark : Option Span}

/-- Apart from the marks, the grammar only asks for names made of name characters. -/
theorem isGrammatical_iff_noDoubleMark :
    t.IsGrammatical
      ↔ t.NoDoubleMark ∧ t.baseName ≠ "" ∧ ∀ c ∈ t.baseName.toList, isNamePart c = true := by
  induction t with
  | named type => exact (and_iff_right trivial).symm
  | list span element ih => exact ih
  | nonNull outer inner ih =>
      constructor
      · rintro ⟨hinner, hgrammatical⟩
        obtain ⟨hmarks, hname⟩ := ih.mp hgrammatical
        exact ⟨⟨hinner, hmarks⟩, hname⟩
      · rintro ⟨⟨hinner, hmarks⟩, hname⟩
        exact ⟨hinner, ih.mpr ⟨hmarks, hname⟩⟩

@[simp] theorem baseName_markElements : (t.markElements mark).baseName = t.baseName := by
  induction t with
  | named type => rfl
  | list span element ih => rfl
  | nonNull outer inner ih => exact ih

@[simp] theorem isNonNull_markElements : (t.markElements mark).isNonNull = t.isNonNull := by
  cases t with
  | named type => rfl
  | list span element => rfl
  | nonNull outer inner => rfl

theorem ListsOf.markElements (h : t.ListsOf element) :
    (t.markElements mark).ListsOf (.nonNull mark element) := by
  cases h with
  | bare => exact .bare
  | marked => exact .marked

/-- Whatever the type was, the list that the rule looks at has marked elements now. -/
theorem marked_of_listsOf_markElements (h : (t.markElements mark).ListsOf element) :
    element.Marked := by
  match t, h with
  | .list _ _, .bare => exact .nonNull
  | .nonNull _ (.list _ _), .marked => exact .nonNull

/-- The new mark stands right inside a list, and the elements have none of their own. -/
theorem NoDoubleMark.markElements (h : t.NoDoubleMark) (hlists : t.ListsOf element)
    (hunmarked : ¬ element.Marked) : (t.markElements mark).NoDoubleMark := by
  have helement : element.isNonNull = false :=
    Bool.eq_false_iff.mpr fun hmarked => hunmarked (isNonNull_iff.mp hmarked)
  cases hlists with
  | bare => exact ⟨helement, h⟩
  | marked => exact ⟨rfl, helement, h.2⟩

/-! ## How the types are written -/

theorem render_eq_listType (h : t.ListsOf element) :
    t.render = Issue.listType element.render t.isNonNull := by
  refine String.toList_inj.mp ?_
  cases h with
  | bare => simp [render, renderChars, Issue.listType, isNonNull]
  | marked => simp [render, renderChars, Issue.listType, isNonNull]

theorem render_nonNull : (TypeExpr.nonNull mark t).render = t.render ++ "!" := by
  refine String.toList_inj.mp ?_
  simp [render, renderChars]

theorem render_markElements (h : t.ListsOf element) :
    (t.markElements mark).render = Issue.listType (element.render ++ "!") t.isNonNull := by
  rw [render_eq_listType h.markElements, render_nonNull, isNonNull_markElements]

end TypeExpr

variable {definitions : List Definition} {known : List String} {owner : Declaration} {field : Field}
  {type element : TypeExpr} {finding : Finding}

/-- The field with another type. -/
def Field.withType (field : Field) (type : TypeExpr) : Field := { field with type }

/-! ## The other checks -/

/-- A back-reference is followed from the innermost name, whatever is around it. -/
theorem checkBackReferences_withType (hbase : type.baseName = field.type.baseName) :
    checkBackReferences definitions owner (field.withType type)
      = checkBackReferences definitions owner field := by
  have hissue (directive : Directive) :
      backReferenceIssue? definitions owner.name.text (field.withType type) directive
        = backReferenceIssue? definitions owner.name.text field directive := by
    simp only [backReferenceIssue?, Field.withType, hbase]
  have hcheck : checkBackReference definitions owner (field.withType type)
      = checkBackReference definitions owner field :=
    funext fun directive => by rw [checkBackReference, checkBackReference, hissue]
  rw [checkBackReferences, checkBackReferences, hcheck]
  rfl

theorem checkKnown_withType (hbase : type.baseName = field.type.baseName) :
    checkKnown known owner (field.withType type) = checkKnown known owner field := by
  simp only [checkKnown, Field.withType, hbase]

/-- The findings about a field of two types with the same name inside differ in those on lists. -/
theorem checkField_withType (hbase : type.baseName = field.type.baseName)
    (hsilent : checkElements owner (field.withType type) = []) :
    checkField definitions known owner field
      = checkElements owner field
        ++ checkField definitions known owner (field.withType type) := by
  rw [checkField, checkField, hsilent, checkKnown_withType hbase,
    checkBackReferences_withType hbase, List.nil_append, List.append_assoc, List.append_assoc,
    List.append_assoc]
  rfl

/-! ## A list of marked elements -/

theorem checkElements_markElements {mark : Option Span} :
    checkElements owner (field.withType (field.type.markElements mark)) = [] :=
  checkElements_eq_nil_iff.mpr fun _ hlists => TypeExpr.marked_of_listsOf_markElements hlists

/-- What is reported about a list: its type as it is, and as it must be. -/
def elementsText (field is must : String) : String :=
  "Field '" ++ field ++ "':\nField has type " ++ is ++ " but\nmust have type " ++ must
    ++ "\n\nReason: Lists with null elements are not supported."

theorem message_nullableElements (mark : Option Span) (h : field.type.ListsOf element) :
    (Issue.nullableElements field.name.text element.render field.type.isNonNull).message
      = elementsText field.name.text field.type.render (field.type.markElements mark).render := by
  have hcut : "':\nField has type " = "':" ++ "\nField has type " := by decide
  rw [TypeExpr.render_markElements h, TypeExpr.render_eq_listType h, elementsText, hcut]
  show Issue.ofField _ _ = _
  simp only [Issue.ofField, String.append_assoc]

theorem checkElements_eq_singleton (h : finding ∈ checkElements owner field) :
    checkElements owner field = [finding] := by
  rw [checkElements] at h ⊢
  cases helement : field.type.nullableElement? with
  | none =>
      rw [helement] at h
      cases h
  | some element =>
      rw [helement] at h
      cases List.mem_singleton.mp h
      rfl

/-- What `finding` says of the type of a field is right, and `must` is the type to put there. -/
structure ElementsHint (definitions : List Definition) (owner : Declaration) (field : Field)
    (finding : Finding) (must : TypeExpr) : Prop where
  message : finding.message = elementsText field.name.text field.type.render must.render
  noDoubleMark : must.NoDoubleMark
  isGrammatical : field.type.IsGrammatical → must.IsGrammatical
  baseName : must.baseName = field.type.baseName
  others : checkField definitions (knownNames definitions) owner field
    = finding :: checkField definitions (knownNames definitions) owner (field.withType must)
  silent : ∀ other ∈ checkField definitions (knownNames definitions) owner (field.withType must),
    other.issue.topic ≠ .elements

theorem elementsHint_markElements (mark : Option Span) (hmarks : field.type.NoDoubleMark)
    (h : finding ∈ checkElements owner field) :
    ElementsHint definitions owner field finding (field.type.markElements mark) := by
  obtain ⟨element, ⟨hlists, hunmarked⟩, hfinding⟩ := mem_checkElements_iff.mp h
  have hmust : (field.type.markElements mark).NoDoubleMark :=
    hmarks.markElements hlists hunmarked
  refine ⟨?message, hmust, ?grammatical, TypeExpr.baseName_markElements, ?others, ?silent⟩
  case message =>
    rw [hfinding]
    exact message_nullableElements mark hlists
  case grammatical =>
    intro hgrammatical
    rw [TypeExpr.isGrammatical_iff_noDoubleMark] at hgrammatical ⊢
    rw [TypeExpr.baseName_markElements]
    exact ⟨hmust, hgrammatical.2⟩
  case others =>
    rw [checkField_withType TypeExpr.baseName_markElements checkElements_markElements,
      checkElements_eq_singleton h]
    rfl
  case silent =>
    intro other hother htopic
    have hmem := (mem_checkElements_iff_topic definitions (knownNames definitions)).mpr
      ⟨hother, htopic⟩
    rw [checkElements_markElements] at hmem
    cases hmem

/-! ## A scalar in place of an unknown type -/

/-- What is reported about an unknown type, with a scalar that may be meant. -/
def unknownText (field type scalar : String) : String :=
  "Field '" ++ field ++ "': Unknown type '" ++ type ++ "'. Did you mean '" ++ scalar ++ "'?"

/-- Only built-in scalars are ever hinted at. -/
theorem exists_scalar_of_hint {name scalar : String}
    (h : Issue.hint name = " Did you mean '" ++ scalar ++ "'?") :
    ∃ s : Scalar, s.name = scalar := by
  rw [Issue.hint] at h
  cases hsuggest : Suggestion.suggest name with
  | none =>
      rw [hsuggest] at h
      simp at h
  | some s =>
      rw [hsuggest] at h
      refine ⟨s, ?_⟩
      simpa [String.append_left_inj, String.append_right_inj] using h

theorem hint_of_message_unknownType {label name scalar : String}
    (h : (Issue.unknownType label name).message = unknownText label name scalar) :
    Issue.hint name = " Did you mean '" ++ scalar ++ "'?" := by
  have hname : "': Unknown type '" = "':" ++ " Unknown type '" := by decide
  have hscalar : "'. Did you mean '" = "'." ++ " Did you mean '" := by decide
  rw [unknownText, hname, hscalar] at h
  replace h : Issue.ofField _ _ = _ := h
  simpa only [Issue.ofField, String.append_assoc, String.append_right_inj] using h

theorem FieldFault.eq_unknownType {origin : String} {span : Option Span} {issue : Issue}
    (h : FieldFault definitions origin field span issue) (htopic : issue.topic = .type) :
    issue = .unknownType field.name.text field.type.baseName := by
  cases h with
  | elements _ _ => cases htopic
  | unknown _ => rfl
  | arguments _ => cases htopic
  | backReference _ _ hissue =>
      have hfirst := backReferenceIssue?_eq_iff.mp hissue
      exact absurd htopic (hfirst.topic_ne (by decide) (by decide))

/-- A built-in scalar is known in every schema, inside whatever wrappers. -/
theorem topic_ne_type_of_scalar {s : Scalar} (hbase : field.type.baseName = s.name)
    (h : finding ∈ checkField definitions (knownNames definitions) owner field) :
    finding.issue.topic ≠ .type := by
  intro htopic
  obtain ⟨_, _, hfault, rfl⟩ := mem_checkField_iff.mp h
  exact hfault.not_isKnown htopic (.inl ⟨s, hbase.symm⟩)

/-- **Following what is printed.**  If a list is reported, then the report prints the type of the
field and the one with its elements marked; this is of the grammar too, with the same name inside,
and with it the field has the other findings and no more.  If an unknown type is reported with a
scalar that may be meant, then with this scalar inside the same wrappers the type is known in every
schema. -/
theorem checkField_hints (definitions : List Definition) (owner : Declaration) (field : Field)
    (hmarks : field.type.NoDoubleMark) :
    (∀ finding ∈ checkField definitions (knownNames definitions) owner field,
        finding.issue.topic = .elements →
        ∀ mark, ElementsHint definitions owner field finding (field.type.markElements mark))
      ∧ ∀ finding ∈ checkField definitions (knownNames definitions) owner field,
          finding.issue.topic = .type →
          ∀ scalar, finding.message = unknownText field.name.text field.type.baseName scalar →
          ∀ definitions' owner',
            ∀ other ∈ checkField definitions' (knownNames definitions') owner'
              (field.withType (field.type.rename fun _ => scalar)),
            other.issue.topic ≠ .type := by
  refine ⟨?elements, ?unknown⟩
  case elements =>
    intro finding hmem htopic mark
    exact elementsHint_markElements mark hmarks
      ((mem_checkElements_iff_topic definitions (knownNames definitions)).mpr ⟨hmem, htopic⟩)
  case unknown =>
    intro finding hmem htopic scalar hmessage definitions' owner' other hother
    obtain ⟨_, issue, hfault, rfl⟩ := mem_checkField_iff.mp hmem
    obtain rfl := hfault.eq_unknownType htopic
    obtain ⟨s, rfl⟩ := exists_scalar_of_hint (hint_of_message_unknownType hmessage)
    exact topic_ne_type_of_scalar TypeExpr.baseName_rename hother

/-! ## A field with both -/

section Schema

open Bare

/-- A list, with elements that may be null, of a type that other languages have. -/
def sizes : Field := Bare.field "sizes" (required (listOf (named "uint16"))) []

def chart : TypeDefinition := entity "Chart" [sizes]

end Schema

/-- Both hints are printed, and each of them is followed without the other. -/
theorem checkField_hints_sizes :
    (checkField [.type chart] (knownNames [.type chart]) chart.declaration sizes).map
        Finding.message
      = [ elementsText "sizes" "[uint16]!" "[uint16!]!", unknownText "sizes" "uint16" "Int" ]
      ∧ (checkField [.type chart] (knownNames [.type chart]) chart.declaration
          (sizes.withType (sizes.type.markElements none))).map Finding.message
        = [unknownText "sizes" "uint16" "Int"]
      ∧ ∀ other ∈ checkField [] (knownNames []) chart.declaration
          (sizes.withType (sizes.type.rename fun _ => "Int")),
        other.issue.topic ≠ .type := by
  obtain ⟨first, second, hfound, hfirst, hsecond, hmessages⟩ :
      ∃ first second,
        checkField [.type chart] (knownNames [.type chart]) chart.declaration sizes
            = [first, second]
          ∧ first.issue.topic = .elements ∧ second.issue.topic = .type
          ∧ [first, second].map Finding.message
            = [ elementsText "sizes" "[uint16]!" "[uint16!]!",
                unknownText "sizes" "uint16" "Int" ] :=
    ⟨_, _, rfl, rfl, rfl, by decide +kernel⟩
  have hmarks : sizes.type.NoDoubleMark := ⟨rfl, trivial⟩
  obtain ⟨helements, hunknown⟩ := checkField_hints [.type chart] chart.declaration sizes hmarks
  have hhint := helements first (hfound ▸ List.mem_cons_self) hfirst none
  obtain ⟨_, hrest⟩ := List.cons.inj (hfound.symm.trans hhint.others)
  obtain ⟨_, hlast⟩ := List.cons.inj hmessages
  refine ⟨hfound ▸ hmessages, hrest ▸ hlast, fun other hother => ?_⟩
  exact hunknown second (hfound ▸ List.mem_cons_of_mem _ List.mem_cons_self) hsecond "Int"
    (List.cons.inj hlast).1 [] chart.declaration other hother

end EntitySchema
