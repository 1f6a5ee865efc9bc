/-
# `EntitySchema.Proofs.ParsedLayout` — how a tree that has been read lies in its text

For each parser there is a lemma which says what it reads, proved along its definition by the rules
of `EntitySchema.Proofs.ParserRules`.  So the definitions of a schema lie in its text one after the
other, and each is nested in its span (`inTextOrder_of_parse_eq_ok`).  Nothing is said of operations
and fragments, as a schema has none.
-/
import EntitySchema.Document.Parser
import EntitySchema.Proofs.Blocks
import EntitySchema.Proofs.Loading
import EntitySchema.Proofs.ParserRules

namespace EntitySchema

namespace Parser

variable {limit : Nat}

/-! ## Types and values -/

theorem namedType_reads : namedType.ReadsNode limit NamedType.layout :=
  readsNode_offset fun _ => name_reads.bind fun _ => leads_close (fun _ => rfl) (by simp)

theorem typeExprWithin_reads : ∀ n, (typeExprWithin n).ReadsNode limit TypeExpr.layout
  | 0 => fun _ _ _ => leads_unexpected
  | n + 1 => by
      refine readsNode_offset fun start => ?_
      refine (leads_accept .bracketOpen).bind fun opens => ?_
      -- only after a type is it known whether it stands inside another one, which begins with it
      have hbang : ∀ type : TypeExpr, Leads (Cursor.HasRead limit start [type.layout] true)
          (do if ← accept .bang then return .nonNull (← spanFrom start) type else return type)
          fun type => Cursor.HasRead limit start [type.layout] true := by
        refine fun type => (leads_accept .bang).bind fun bang => ?_
        cases bang with
        | true => exact leads_close (fun _ => rfl) (by simp)
        | false => exact leads_return (by simp) (by simp)
      cases opens with
      | true =>
          refine (typeExprWithin_reads n).bind fun element => (expect_reads _).skip ?_
          have hlist : Leads (Cursor.HasRead limit start [element.layout] true)
              (spanFrom start >>= fun span => pure (TypeExpr.list span element))
              fun type => Cursor.HasRead limit start [type.layout] true :=
            leads_close (fun _ => rfl) (by simp)
          -- what comes after the list is written out behind it, not joined to it
          have hjoined := hlist.bind hbang
          simp only [bind_assoc, pure_bind] at hjoined
          exact hjoined
      | false =>
          refine namedType_reads.bind fun type => ?_
          exact hbang (.named type)

theorem typeExpr_reads : typeExpr.ReadsNode limit TypeExpr.layout :=
  fun _ _ _ => looks_bound.bind fun n => typeExprWithin_reads n _ _ _

theorem variableName_reads (constant : Bool) :
    (variableName constant).ReadsNode limit Name.layout := by
  intro start parts began
  refine (expect_reads .dollar).bind fun dollar => ?_
  cases constant with
  | true =>
      refine leads_current fun token => ?_
      dsimp only
      split
      next => exact leads_fail
      next => exact leads_fail
  | false => exact (name_reads _ _ _).weaken (by simp) (by simp)

theorem objectField_reads {value : Parser Value} (hvalue : value.ReadsNode limit Value.layout) :
    (objectField value).ReadsNode limit ObjectField.layout :=
  readsNode_offset fun _ => name_reads.bind fun _ => (expect_reads .colon).skip
    (hvalue.bind fun _ => leads_close (fun _ => rfl) (by simp))

theorem namedValue_layout (span : Option Span) (text : String) :
    (namedValue span text).layout = .node span [] := by
  rw [namedValue]
  split
  next => rfl
  next =>
    split
    next => rfl
    next =>
      split
      next => rfl
      next => rfl

theorem valueWithin_reads (constant : Bool) : ∀ n,
    (valueWithin constant n).ReadsNode limit Value.layout
  | 0 => fun _ _ _ => leads_unexpected
  | n + 1 => by
      refine readsNode_current fun token => ?_
      dsimp only
      have ih := valueWithin_reads constant n
      have hstring : Leads (Cursor.HasRead limit token.span.start [] false)
          (do return Value.string (← stringLiteral))
          fun value => Cursor.HasRead limit token.span.start [value.layout] true :=
        stringLiteral_reads.bind fun _ => leads_return (by simp [Value.layout]) (by simp)
      split
      -- what has an end of its own: lists, objects and variables
      next =>
        refine .forget ((any_reads ih).bind fun items => ?_)
        exact leads_close (fun _ => rfl) (by simp [Value.layouts_eq_map])
      next =>
        refine .forget ((any_reads (objectField_reads ih)).bind fun fields => ?_)
        exact leads_close (fun _ => rfl) (by simp [ObjectField.layouts_eq_map])
      next =>
        refine .forget ((variableName_reads constant).bind fun name => ?_)
        exact leads_close (fun _ => rfl) (by simp)
      -- what is one token
      next digits h => exact leads_leaf (h ▸ Lexeme.noConfusion) rfl
      next digits h => exact leads_leaf (h ▸ Lexeme.noConfusion) rfl
      next text h => exact leads_leaf (h ▸ Lexeme.noConfusion) (namedValue_layout ..)
      next => exact hstring.forget
      next => exact hstring.forget
      -- what begins no value
      next => exact leads_unexpected
      next => exact leads_unexpected

theorem value_reads (constant : Bool) : (value constant).ReadsNode limit Value.layout :=
  fun _ _ _ => looks_bound.bind fun n => valueWithin_reads constant n _ _ _

/-! ## Directives and descriptions -/

theorem argument_reads (constant : Bool) :
    (argument constant).ReadsNode limit Argument.layout :=
  readsNode_offset fun _ => name_reads.bind fun _ => (expect_reads .colon).skip
    ((value_reads constant).bind fun _ => leads_close (fun _ => rfl) (by simp))

theorem directive_reads (constant : Bool) :
    (directive constant).ReadsNode limit Directive.layout := by
  refine readsNode_offset fun _ => (expect_reads .at).skip (name_reads.bind fun _ => ?_)
  refine (optionalMany_reads (argument_reads constant)).bind fun _ => ?_
  exact leads_close (fun _ => rfl) (by simp)

theorem directivesWithin_reads (constant : Bool) : ∀ n,
    (directivesWithin constant n).Reads limit (fun directives => directives.map (·.layout)) false
  | 0 => fun _ _ _ => leads_unexpected
  | n + 1 => by
      refine fun start parts began => (looks_sees .at).bind fun sees => ?_
      cases sees with
      | true =>
          refine (directive_reads constant).bind fun first => ?_
          refine (directivesWithin_reads constant n).bind fun more => ?_
          exact leads_return (by simp) (by simp)
      | false => exact leads_return (by simp) (by simp)

theorem directives_reads (constant : Bool) :
    (directives constant).Reads limit (fun directives => directives.map (·.layout)) false :=
  fun _ _ _ => looks_bound.bind fun n => directivesWithin_reads constant n _ _ _

theorem description_reads :
    description.Reads limit (fun description => description.toList.map (·.layout)) false := by
  refine fun start parts began => looks_seesDescription.bind fun sees => ?_
  cases sees with
  | true => exact stringLiteral_reads.bind fun _ => leads_return (by simp) (by simp)
  | false => exact leads_return (by simp) (by simp)

/-! ## Parts of types -/

theorem inputValue_reads : inputValue.ReadsNode limit InputValue.layout := by
  refine readsNode_offset fun start => description_reads.bind fun description => ?_
  refine name_reads.bind fun name => (expect_reads .colon).skip ?_
  refine typeExpr_reads.bind fun type => (leads_accept .equals).bind fun given => ?_
  have hrest : ∀ default : Option Value,
      Leads (Cursor.HasRead limit start (description.toList.map (·.layout)
          ++ [name.layout, type.layout] ++ default.toList.map (·.layout)) true)
        (do
          let directives ← directives true
          return { span := ← spanFrom start, description, name, type, default, directives } :
          Parser InputValue)
        fun input => Cursor.HasRead limit start [input.layout] true := fun default =>
    (directives_reads true).bind fun directives => leads_close (fun _ => rfl) (by simp)
  cases given with
  | true =>
      exact Leads.bind (.map ((value_reads true _ _ _).weaken (by simp) (by simp))) hrest
  | false => exact Leads.bind (leads_return (by simp) (by simp)) hrest

theorem inputArguments_reads :
    inputArguments.Reads limit (fun arguments => arguments.map (·.layout)) false :=
  optionalMany_reads inputValue_reads

theorem field_reads : field.ReadsNode limit Field.layout := by
  refine readsNode_offset fun start => description_reads.bind fun description => ?_
  refine name_reads.bind fun name => inputArguments_reads.bind fun arguments => ?_
  refine (expect_reads .colon).skip (typeExpr_reads.bind fun type => ?_)
  refine (directives_reads true).bind fun directives => ?_
  exact leads_close (fun _ => rfl) (by simp)

theorem enumValue_reads : enumValue.ReadsNode limit EnumValue.layout := by
  refine readsNode_offset fun start => description_reads.bind fun description => ?_
  refine leads_current fun token => ?_
  dsimp only
  split
  next => exact .stop leads_fail
  next =>
    refine .forget (name_reads.bind fun name => (directives_reads true).bind fun _ => ?_)
    exact leads_close (fun _ => rfl) (by simp)

theorem interfaces_reads :
    interfaces.Reads limit (fun interfaces => interfaces.map (·.layout)) false := by
  refine fun start parts began => (leads_acceptKeyword "implements").bind fun some => ?_
  cases some with
  | true => exact (separated_reads namedType_reads _ _ _).weaken (by simp) (by simp)
  | false => exact leads_return (by simp) (by simp)

theorem fields_reads : fields.Reads limit (fun fields => fields.map (·.layout)) false :=
  optionalMany_reads field_reads

theorem members_reads : members.Reads limit (fun members => members.map (·.layout)) false := by
  refine fun start parts began => (leads_accept .equals).bind fun some => ?_
  cases some with
  | true => exact (separated_reads namedType_reads _ _ _).weaken (by simp) (by simp)
  | false => exact leads_return (by simp) (by simp)

/-! ## Types -/

theorem typeBody_reads {keyword : String} {body : Parser (List Directive × TypeBody)}
    (h : typeBody? keyword = some body) :
    body.Reads limit (fun read => read.1.map (·.layout) ++ read.2.layouts) false := by
  intro start parts began
  unfold typeBody? at h
  split at h <;> cases h
  case h_1 =>
    exact (directives_reads true).bind fun _ => leads_return (by simp [TypeBody.layouts]) (by simp)
  case h_2 | h_3 =>
    refine interfaces_reads.bind fun _ => (directives_reads true).bind fun _ => ?_
    refine fields_reads.bind fun _ => leads_return (fun part hpart => ?_) (by simp)
    simp only [TypeBody.layouts, List.mem_append] at hpart ⊢
    tauto
  case h_4 =>
    refine (directives_reads true).bind fun _ => members_reads.bind fun _ => ?_
    exact leads_return (by simp [TypeBody.layouts]) (by simp)
  case h_5 =>
    refine (directives_reads true).bind fun _ => ?_
    refine (optionalMany_reads enumValue_reads).bind fun _ => ?_
    exact leads_return (by simp [TypeBody.layouts]) (by simp)
  case h_6 =>
    refine (directives_reads true).bind fun _ => ?_
    refine (optionalMany_reads inputValue_reads).bind fun _ => ?_
    exact leads_return (by simp [TypeBody.layouts]) (by simp)

section TypeDefinitions

variable {keyword : String} {body : Parser (List Directive × TypeBody)}

theorem typeDefinition_reads (h : typeBody? keyword = some body) :
    (typeDefinition keyword body).ReadsNode limit TypeDefinition.layout := by
  refine readsNode_offset fun start => description_reads.bind fun description => ?_
  refine (expectKeyword_reads keyword).bind fun _ => name_reads.bind fun name => ?_
  refine (typeBody_reads h).bind fun ⟨directives, body⟩ => ?_
  exact leads_close (fun _ => rfl) (by simp)

theorem typeExtension_reads (h : typeBody? keyword = some body) :
    (typeExtension keyword body).ReadsNode limit TypeDefinition.layout := by
  refine readsNode_offset fun start => (expectKeyword_reads "extend").bind fun _ => ?_
  refine (expectKeyword_reads keyword).bind fun _ => name_reads.bind fun name => ?_
  refine (typeBody_reads h).bind fun ⟨directives, body⟩ => ?_
  dsimp only
  split
  next => exact .stop leads_unexpected
  next => exact leads_close (fun _ => rfl) (by simp)

end TypeDefinitions

/-! ## Schemas and directives -/

theorem operationKind_reads : operationKind.Reads limit (fun _ => []) true := by
  intro start parts began
  refine leads_current fun token => .forget (name_reads.bind fun word => ?_)
  split
  next => exact leads_return (by simp) (by simp)
  next => exact leads_fail

theorem rootType_reads : rootType.ReadsNode limit RootType.layout :=
  readsNode_offset fun _ => operationKind_reads.bind fun _ => (expect_reads .colon).skip
    (namedType_reads.bind fun _ => leads_close (fun _ => rfl) (by simp))

theorem schemaDefinition_reads :
    schemaDefinition.ReadsNode limit SchemaDefinition.layout := by
  refine readsNode_offset fun start => description_reads.bind fun description => ?_
  refine (expectKeyword_reads "schema").bind fun _ => (directives_reads true).bind fun _ => ?_
  exact (many_reads rootType_reads).bind fun _ => leads_close (fun _ => rfl) (by simp)

theorem schemaExtension_reads :
    schemaExtension.ReadsNode limit SchemaDefinition.layout := by
  refine readsNode_offset fun start => (expectKeyword_reads "extend").bind fun _ => ?_
  refine (expectKeyword_reads "schema").bind fun _ => (directives_reads true).bind fun _ => ?_
  refine (optionalMany_reads rootType_reads).bind fun _ => ?_
  dsimp only
  split
  next => exact .stop leads_unexpected
  next => exact leads_close (fun _ => rfl) (by simp)

theorem directiveLocation_reads : directiveLocation.ReadsNode limit Name.layout := by
  intro start parts began
  refine leads_current fun token => .forget (name_reads.bind fun name => ?_)
  dsimp only
  split
  next => exact leads_return (by simp) (by simp)
  next => exact leads_fail

theorem directiveDefinition_reads :
    directiveDefinition.ReadsNode limit DirectiveDefinition.layout := by
  refine readsNode_offset fun start => description_reads.bind fun description => ?_
  refine (expectKeyword_reads "directive").bind fun _ => (expect_reads .at).skip ?_
  refine name_reads.bind fun name => inputArguments_reads.bind fun arguments => ?_
  refine (directives_reads true).bind fun directives => ?_
  refine (leads_acceptKeyword "repeatable").bind fun repeatable => ?_
  refine (expectKeyword_reads "on").bind fun _ => ?_
  refine (separated_reads directiveLocation_reads).bind fun locations => ?_
  exact leads_close (fun _ => rfl) (by simp)

/-! ## Definitions -/

theorem definition_reads {keyword : String} {definition : Parser Definition}
    (h : definition? keyword = some definition) :
    definition.ReadsNode limit Definition.layout := by
  intro start parts began
  rw [definition?] at h
  split at h
  next body hbody =>
    cases h
    exact .map (typeDefinition_reads hbody _ _ _)
  next =>
    split at h
    next =>
      cases h
      exact .map (schemaDefinition_reads _ _ _)
    next =>
      split at h
      next =>
        cases h
        exact .map (directiveDefinition_reads _ _ _)
      next => cases h

theorem extension_reads : extension.ReadsNode limit Definition.layout := by
  refine fun start parts began => looks_lookahead.bind fun token => ?_
  split
  next keyword _ =>
    split
    next body hbody => exact .map (typeExtension_reads hbody _ _ _)
    next =>
      split
      next => exact .map (schemaExtension_reads _ _ _)
      next => exact leads_fail
  next => exact leads_fail

/-- A definition among the items is a node; nothing is said of the others. -/
def ReadsDefinition (limit : Nat) (p : Parser Item) : Prop :=
  ∀ start parts began, Leads (Cursor.HasRead limit start parts began) p fun item cursor =>
    ∀ definition, item = .definition definition →
      cursor.HasRead limit start (parts ++ [definition.layout]) true

theorem readsDefinition_definition {p : Parser Definition}
    (hp : p.ReadsNode limit Definition.layout) :
    ReadsDefinition limit (.definition <$> p) := by
  intro start parts began
  refine .map ((hp start parts began).imp ?_)
  rintro _ cursor h definition hitem
  cases hitem
  rwa [Bool.or_true] at h

theorem readsDefinition_executable {p : Parser Executable} :
    ReadsDefinition limit (.executable <$> p) := by
  intro start parts began
  rw [map_eq_pure_bind]
  have hp : Leads (Cursor.HasRead limit start parts began) p fun _ _ => True :=
    fun _ _ _ _ _ => trivial
  exact hp.bind fun _ => leads_pure fun _ _ _ hitem => (nomatch hitem)

theorem keywordItem_reads (described : Bool) (first keyword : Token) (word : String) :
    ReadsDefinition limit (keywordItem described first keyword word) := by
  rw [keywordItem]
  split
  next definition hdefinition => exact readsDefinition_definition (definition_reads hdefinition)
  next => exact readsDefinition_executable
  next =>
    split
    next => exact fun _ _ _ => leads_fail
    next =>
      split
      next => exact readsDefinition_definition extension_reads
      next => exact fun _ _ _ => leads_fail

theorem item_reads : ReadsDefinition limit item := by
  refine fun start parts began => leads_current fun first => .forget ?_
  dsimp only
  split
  next => exact readsDefinition_executable _ _ _
  next =>
    refine looks_lookahead.ite_bind (looks_pure first) fun keyword => ?_
    split
    next => exact keywordItem_reads _ _ _ _ _ _ _
    next => exact leads_fail
    next => exact leads_fail

end Parser

/-! ## Documents -/

section Documents

variable {limit : Nat} {cursor cursor' : Cursor} {definition : Definition}
  {definitions : List Definition}

theorem Definition.span_of_nested {outer : Span} (h : definition.layout.Nested outer) :
    ∃ span ∈ definition.span, span.Within outer ∧ definition.layout.Nested span := by
  have hlayout : ∃ parts, definition.layout = .node definition.span parts := by
    cases definition <;> exact ⟨_, rfl⟩
  obtain ⟨parts, hlayout⟩ := hlayout
  rw [hlayout] at h ⊢
  generalize definition.span = place at h ⊢
  cases h with
  | node hproper hwithin hparts =>
      exact ⟨_, rfl, hwithin, .node hproper ⟨Nat.le_refl _, Nat.le_refl _⟩ hparts⟩

/-- The definitions lie in the text one after the other, from an offset on. -/
structure LieFrom (limit start : Nat) (definitions : List Definition) : Prop where
  nested : ∀ definition ∈ definitions, definition.layout.Nested ⟨start, limit⟩
  ordered : definitions.Pairwise fun earlier later =>
    ∀ span ∈ earlier.span, ∀ span' ∈ later.span, span.stop ≤ span'.start

theorem lieFrom_nil (start : Nat) : LieFrom limit start [] :=
  ⟨fun _ hnone => (nomatch hnone), .nil⟩

/-- A definition that has been read comes before all that is read after it. -/
theorem LieFrom.cons (hplaced : cursor.Placed limit)
    (hitem : Parser.item.run cursor = .ok (.definition definition, cursor'))
    (hrest : cursor'.Placed limit → LieFrom limit cursor'.current.span.start definitions) :
    LieFrom limit cursor.current.span.start (definition :: definitions) := by
  have hread := Parser.item_reads _ _ _ _ _ _ hplaced.hasRead_nil hitem definition rfl
  have hfirst := hread.nested definition.layout List.mem_cons_self
  have hrest := hrest hread.placed
  have hstop : cursor'.lastStop ≤ cursor'.current.span.start := hread.placed.lastStop_le
  refine ⟨List.forall_mem_cons.mpr ⟨?first, ?more⟩, List.pairwise_cons.mpr ⟨?order, hrest.ordered⟩⟩
  case first =>
    have hlimit : cursor'.lastStop ≤ limit :=
      Nat.le_trans hstop (Nat.le_trans hread.placed.start_le hread.placed.stop_le)
    exact hfirst.mono ⟨Nat.le_refl _, hlimit⟩
  case more =>
    exact fun later hlater =>
      (hrest.nested later hlater).mono ⟨hread.start_le, Nat.le_refl _⟩
  case order =>
    intro later hlater span hspan span' hspan'
    obtain ⟨_, hspan₁, hwithin, _⟩ := Definition.span_of_nested hfirst
    obtain ⟨_, hspan₂, hwithin', _⟩ := Definition.span_of_nested (hrest.nested later hlater)
    cases Option.mem_unique hspan hspan₁
    cases Option.mem_unique hspan' hspan₂
    calc span.stop
      _ ≤ cursor'.lastStop := hwithin.stop_le
      _ ≤ cursor'.current.span.start := hstop
      _ ≤ span'.start := hwithin'.start_le

theorem lieFrom_of_itemsWithin {n : Nat} (hplaced : cursor.Placed limit)
    (hrun : (Parser.itemsWithin n).run cursor = .ok (definitions.map .definition, cursor')) :
    LieFrom limit cursor.current.span.start definitions := by
  induction n generalizing cursor cursor' definitions with
  | zero => cases hrun
  | succ n ih =>
      rw [Parser.itemsWithin] at hrun
      obtain ⟨token, _, hcurrent, hrun⟩ := Parser.exists_of_run_bind hrun
      cases hcurrent
      split at hrun
      next =>
        obtain ⟨hnil, -⟩ := Prod.mk.inj (Except.ok.inj hrun)
        rw [List.map_eq_nil_iff.mp hnil.symm]
        exact lieFrom_nil _
      next =>
        obtain ⟨first, middle, hitem, hrun⟩ := Parser.exists_of_run_bind hrun
        obtain ⟨more, last, hmore, hrun⟩ := Parser.exists_of_run_bind hrun
        obtain ⟨hitems, -⟩ := Prod.mk.inj (Except.ok.inj hrun)
        obtain ⟨definition, rest, rfl, rfl, rfl⟩ := List.map_eq_cons_iff.mp hitems.symm
        exact .cons hplaced hitem fun hmiddle => ih hmiddle hmore

theorem inTextOrder_of_parse_eq_ok {text : List Char}
    (h : Schema.parse text = .ok definitions) :
    InTextOrder definitions
      ∧ ∀ definition ∈ definitions, definition.layout.Nested ⟨0, text.length⟩ := by
  obtain ⟨document, hdocument, hitems⟩ := parse_eq_ok_iff.mp h
  rw [Document.parse] at hdocument
  obtain ⟨cursor, hcursor, hdocument⟩ := exists_of_bind_eq_ok hdocument
  obtain ⟨⟨_, cursor'⟩, hrun, hdocument⟩ := exists_of_bind_eq_ok hdocument
  cases hdocument
  have hplaced := Cursor.placed_ofTokens (Tokens.placed_ofText text) hcursor
  obtain ⟨first, middle, hitem, hrun⟩ := Parser.exists_of_run_bind hrun
  obtain ⟨n, _, hbound, hrun⟩ := Parser.exists_of_run_bind hrun
  cases hbound
  obtain ⟨more, _, hmore, hrun⟩ := Parser.exists_of_run_bind hrun
  obtain ⟨hdocument, -⟩ := Prod.mk.inj (Except.ok.inj hrun)
  cases hdocument
  obtain ⟨definition, rest, rfl, rfl, rfl⟩ := List.map_eq_cons_iff.mp hitems.symm
  have hlie : LieFrom text.length cursor.current.span.start (definition :: rest) :=
    .cons hplaced hitem fun hmiddle => lieFrom_of_itemsWithin hmiddle hmore
  refine ⟨⟨fun later hlater => ?_, hlie.ordered⟩, fun later hlater => ?_⟩
  · obtain ⟨span, hspan, -, hnested⟩ := Definition.span_of_nested (hlie.nested later hlater)
    exact ⟨span, hspan, hnested⟩
  · exact (hlie.nested later hlater).mono ⟨Nat.zero_le _, Nat.le_refl _⟩

/-- What is found in a definition has a place in the text, which is not empty. -/
theorem place_of_parse_eq_ok {text : List Char} {finding : Finding}
    (h : Schema.parse text = .ok definitions) (hmem : definition ∈ definitions)
    (hfound : finding ∈ checkDefinition definitions definition) :
    finding.location.start < finding.location.stop ∧ finding.location.stop ≤ text.length := by
  obtain ⟨-, hnested⟩ := inTextOrder_of_parse_eq_ok h
  obtain ⟨-, hproper, hwithin⟩ := checkDefinition_place (hnested definition hmem) hfound
  exact ⟨hproper, hwithin.stop_le⟩

end Documents

end EntitySchema
