/-
# `EntitySchema.Proofs.ParserRules` — what a run of a parser reads

A parser takes its tokens one after the other and gives each node the span of the tokens it took for
it.  What it has read since an offset is kept in one invariant, `Cursor.HasRead`, and a parser is
described by what it adds to that: the layouts of what it reads (`Parser.Reads`).  There is a rule
for each step that parsers are made of, so that a proof about a parser repeats its definition.
-/
import EntitySchema.Document.Parser.Value
import EntitySchema.Proofs.Layout
import EntitySchema.Proofs.TokenPlaces

namespace EntitySchema

theorem Layout.Nested.mono {layout : Layout} {inner outer : Span} (h : layout.Nested inner)
    (hwithin : inner.Within outer) : layout.Nested outer := by
  cases h with
  | node hproper hinner hparts => exact .node hproper (hinner.trans hwithin) hparts

namespace Cursor

variable {limit start : Nat} {parts : List Layout} {began : Bool} {cursor cursor' : Cursor}

/-- The tokens from the current one on come one after the other, and none has been read before. -/
structure Placed (limit : Nat) (cursor : Cursor) : Prop where
  lastStop_le : cursor.lastStop ≤ cursor.current.span.start
  start_le : cursor.current.span.start ≤ cursor.current.span.stop
  stop_le : cursor.current.span.stop ≤ limit
  proper : cursor.current.lexeme ≠ .endOfText →
    cursor.current.span.start < cursor.current.span.stop
  rest : cursor.rest.Placed limit cursor.current.span.stop

theorem placed_done {offset lastStop : Nat} (hstart : lastStop ≤ offset) (hlimit : offset ≤ limit) :
    Placed limit ⟨.atEnd offset, .done offset, lastStop⟩ :=
  ⟨hstart, Nat.le_refl _, hlimit, fun h => absurd rfl h, .done (Nat.le_refl _) hlimit⟩

theorem placed_ofTokens {tokens : Tokens} (h : tokens.Placed limit 0)
    (hcursor : ofTokens tokens = .ok cursor) : cursor.Placed limit := by
  cases h with
  | done _ hlimit =>
      cases hcursor
      exact placed_done (Nat.zero_le _) hlimit
  | fault => cases hcursor
  | cons _ hproper hlimit hrest =>
      cases hcursor
      exact ⟨Nat.zero_le _, Nat.le_of_lt hproper, hlimit, fun _ => hproper, hrest⟩

theorem Placed.advance (h : cursor.Placed limit) (hadvance : cursor.advance = .ok cursor') :
    cursor'.Placed limit ∧ cursor'.lastStop = cursor.current.span.stop := by
  have hrest := h.rest
  rw [Cursor.advance] at hadvance
  generalize cursor.rest = tokens at hrest hadvance
  cases hrest with
  | done hstart hlimit =>
      cases hadvance
      exact ⟨placed_done hstart hlimit, rfl⟩
  | fault => cases hadvance
  | cons hstart hproper hlimit hrest =>
      cases hadvance
      exact ⟨⟨hstart, Nat.le_of_lt hproper, hlimit, fun _ => hproper, hrest⟩, rfl⟩

/-! ## What has been read -/

/-- What has been read from an offset on: the layouts `parts`, which lie between this offset and the
cursor, and a token at least if `began`. -/
structure HasRead (limit start : Nat) (parts : List Layout) (began : Bool) (cursor : Cursor) :
    Prop where
  placed : cursor.Placed limit
  start_le : start ≤ cursor.current.span.start
  start_lt : began = true → start < cursor.lastStop
  nested : ∀ part ∈ parts, part.Nested ⟨start, cursor.lastStop⟩

/-- Nothing has been read where a node begins. -/
theorem Placed.hasRead_nil (h : cursor.Placed limit) :
    cursor.HasRead limit cursor.current.span.start [] false :=
  ⟨h, Nat.le_refl _, fun hb => (nomatch hb), fun _ hpart => (nomatch hpart)⟩

theorem HasRead.weaken {parts' : List Layout} {began' : Bool}
    (h : cursor.HasRead limit start parts began) (hparts : parts' ⊆ parts)
    (hbegan : began' = true → began = true) : cursor.HasRead limit start parts' began' :=
  ⟨h.placed, h.start_le, fun hb => h.start_lt (hbegan hb),
    fun part hpart => h.nested part (hparts hpart)⟩

/-- What is read from a cursor on is added to what has been read before. -/
theorem HasRead.append {parts' : List Layout} (h : cursor.HasRead limit start parts began)
    (hread : cursor'.HasRead limit cursor.current.span.start parts' true) :
    cursor'.HasRead limit start (parts ++ parts') true := by
  have hmoved : cursor.current.span.start < cursor'.lastStop := hread.start_lt rfl
  have hstart : start < cursor'.lastStop := Nat.lt_of_le_of_lt h.start_le hmoved
  refine ⟨hread.placed, Nat.le_trans (Nat.le_of_lt hstart) hread.placed.lastStop_le,
    fun _ => hstart, fun part hpart => ?_⟩
  rcases List.mem_append.mp hpart with hbefore | hafter
  · have hstop : cursor.lastStop ≤ cursor'.lastStop :=
      Nat.le_trans h.placed.lastStop_le (Nat.le_of_lt hmoved)
    exact (h.nested part hbefore).mono ⟨Nat.le_refl _, hstop⟩
  · exact (hread.nested part hafter).mono ⟨h.start_le, Nat.le_refl _⟩

/-- A token that is read is a part of its own. -/
theorem HasRead.advance (h : cursor.HasRead limit start parts began)
    (hlexeme : cursor.current.lexeme ≠ .endOfText) (hadvance : cursor.advance = .ok cursor') :
    cursor'.HasRead limit start (parts ++ [.node (some cursor.current.span) []]) true := by
  obtain ⟨hplaced, hstop⟩ := h.placed.advance hadvance
  have hproper := h.placed.proper hlexeme
  refine h.append ⟨hplaced, ?_, fun _ => ?_, fun part hpart => ?_⟩
  · exact Nat.le_trans (Nat.le_of_lt hproper) (hstop ▸ hplaced.lastStop_le)
  · rwa [hstop]
  · cases List.mem_singleton.mp hpart
    rw [hstop]
    exact .node hproper ⟨Nat.le_refl _, Nat.le_refl _⟩ fun _ hnone => (nomatch hnone)

/-- A node ends with the token read last, and its parts are what has been read since it began. -/
theorem HasRead.close {parts' : List Layout} (h : cursor.HasRead limit start parts true)
    (hparts : parts' ⊆ parts) :
    cursor.HasRead limit start [.node (some ⟨start, cursor.lastStop⟩) parts'] true := by
  refine ⟨h.placed, h.start_le, h.start_lt, fun part hpart => ?_⟩
  cases List.mem_singleton.mp hpart
  exact .node (h.start_lt rfl) ⟨Nat.le_refl _, Nat.le_refl _⟩ fun part hpart =>
    h.nested part (hparts hpart)

end Cursor

namespace Parser

variable {α β : Type} {limit start : Nat} {parts : List Layout} {began takes : Bool}
  {pre : Cursor → Prop}

/-- From a cursor with `pre`, a run of `p` leads to a result and a cursor with `post`. -/
def Leads (pre : Cursor → Prop) (p : Parser α) (post : α → Cursor → Prop) : Prop :=
  ∀ cursor a cursor', pre cursor → p.run cursor = .ok (a, cursor') → post a cursor'

/-- A run of `p` adds some layouts to what has been read, and it takes a token if `takes` says
so. -/
def Reads (limit : Nat) (p : Parser α) (layouts : α → List Layout) (takes : Bool) : Prop :=
  ∀ start parts began, Leads (Cursor.HasRead limit start parts began) p fun a =>
    Cursor.HasRead limit start (parts ++ layouts a) (began || takes)

/-- A run of `p` adds the layout of what it reads. -/
abbrev ReadsNode (limit : Nat) (p : Parser α) (layout : α → Layout) : Prop :=
  Reads limit p (fun a => [layout a]) true

/-! ## Rules -/

section Rules

variable {p : Parser α} {q : α → Parser β} {layouts : α → List Layout}
  {post : β → Cursor → Prop}

theorem exists_of_run_bind {cursor cursor' : Cursor} {b : β}
    (h : (p >>= q).run cursor = .ok (b, cursor')) :
    ∃ a middle, p.run cursor = .ok (a, middle) ∧ (q a).run middle = .ok (b, cursor') := by
  rw [StateT.run_bind] at h
  obtain ⟨⟨a, middle⟩, hfirst, hrest⟩ := exists_of_bind_eq_ok h
  exact ⟨a, middle, hfirst, hrest⟩

theorem Leads.bind {mid : α → Cursor → Prop} (hp : Leads pre p mid)
    (hq : ∀ a, Leads (mid a) (q a) post) : Leads pre (p >>= q) post := by
  intro cursor b cursor' h hrun
  obtain ⟨a, middle, hfirst, hrest⟩ := exists_of_run_bind hrun
  exact hq a middle b cursor' (hp cursor a middle h hfirst) hrest

theorem leads_pure {b : β} (h : ∀ cursor, pre cursor → post b cursor) :
    Leads pre (pure b) post := by
  intro cursor a cursor' hcursor hrun
  cases hrun
  exact h cursor hcursor

theorem leads_fail {offset : Nat} {cause : SyntaxError.Cause} :
    Leads pre (fail offset cause) post :=
  fun _ _ _ _ hrun => (nomatch hrun)

theorem leads_unexpected : Leads pre unexpected post :=
  fun _ _ _ _ hrun => (nomatch hrun)

/-- Nothing is read after a fault. -/
theorem Leads.stop (hp : Leads pre p fun _ _ => False) : Leads pre (p >>= q) post :=
  hp.bind fun _ _ _ _ h _ => h.elim

/-- A parser that looks at the current token knows it where it goes on. -/
theorem leads_current {q : Token → Parser β}
    (hq : ∀ token, Leads (fun cursor => pre cursor ∧ cursor.current = token) (q token) post) :
    Leads pre (current >>= q) post :=
  fun cursor b cursor' h hrun => hq cursor.current cursor b cursor' ⟨h, rfl⟩ hrun

/-- A parser need not know the current token. -/
theorem Leads.forget {token : Token} {p : Parser β} (h : Leads pre p post) :
    Leads (fun cursor => pre cursor ∧ cursor.current = token) p post :=
  fun cursor b cursor' hcursor hrun => h cursor b cursor' hcursor.1 hrun

theorem Reads.bind (hp : p.Reads limit layouts takes)
    (hq : ∀ a, Leads (Cursor.HasRead limit start (parts ++ layouts a) (began || takes)) (q a)
      post) :
    Leads (Cursor.HasRead limit start parts began) (p >>= q) post :=
  Leads.bind (hp start parts began) hq

theorem Leads.imp {post' : β → Cursor → Prop} {p : Parser β} (h : Leads pre p post)
    (hpost : ∀ b cursor, post b cursor → post' b cursor) : Leads pre p post' :=
  fun cursor b cursor' hcursor hrun => hpost b cursor' (h cursor b cursor' hcursor hrun)

theorem Leads.discard {post : Cursor → Prop} (hp : Leads pre p fun _ => post) :
    Leads pre (discard p) fun _ => post := by
  have hdiscard : Functor.discard p = p >>= fun _ => pure () :=
    (congrFun (congrFun map_const _) p).trans (map_eq_pure_bind ..)
  rw [hdiscard]
  exact hp.bind fun _ => leads_pure fun _ h => h

theorem Leads.map {f : α → β} (hp : Leads pre p fun a => post (f a)) :
    Leads pre (f <$> p) post := by
  rw [map_eq_pure_bind]
  exact hp.bind fun _ => leads_pure fun _ h => h

theorem Leads.weaken {p : Parser β} {parts₁ parts₂ : β → List Layout} {began₁ began₂ : Bool}
    (h : Leads pre p fun b => Cursor.HasRead limit start (parts₁ b) began₁)
    (hparts : ∀ b, parts₂ b ⊆ parts₁ b) (hbegan : began₂ = true → began₁ = true) :
    Leads pre p fun b => Cursor.HasRead limit start (parts₂ b) began₂ :=
  h.imp fun b _ hread => hread.weaken (hparts b) hbegan

theorem leads_return {b : β} {parts' : β → List Layout} {began' : Bool}
    (hparts : parts' b ⊆ parts) (hbegan : began' = true → began = true) :
    Leads (Cursor.HasRead limit start parts began) (pure b)
      fun b => Cursor.HasRead limit start (parts' b) began' :=
  leads_pure fun _ h => h.weaken hparts hbegan

/-- What is read and thrown away is no part of a node. -/
theorem Reads.skip {q : Unit → Parser β} (hp : p.Reads limit layouts takes)
    (hq : Leads (Cursor.HasRead limit start parts (began || takes)) (q ()) post) :
    Leads (Cursor.HasRead limit start parts began) (discard p >>= q) post :=
  Leads.bind (.discard ((hp start parts began).weaken
    (fun _ => List.subset_append_left ..) id)) fun _ => hq

/-- A parser that only looks leaves the cursor where it is. -/
def Looks (p : Parser α) : Prop :=
  ∀ cursor a cursor', p.run cursor = .ok (a, cursor') → cursor' = cursor

theorem Looks.bind (hp : p.Looks) (hq : ∀ a, Leads pre (q a) post) :
    Leads pre (p >>= q) post := by
  have hlook : Leads pre p fun _ => pre := fun cursor a cursor' h hrun => by
    rw [hp cursor a cursor' hrun]
    exact h
  exact hlook.bind hq

theorem Looks.ite_bind {p' : Parser α} {condition : Prop} [Decidable condition] (hp : p.Looks)
    (hp' : p'.Looks) (hq : ∀ a, Leads pre (q a) post) :
    Leads pre (if condition then p >>= q else p' >>= q) post := by
  split
  next => exact hp.bind hq
  next => exact hp'.bind hq

end Rules

theorem looks_pure (a : α) : (pure a : Parser α).Looks := by
  intro cursor b cursor' hrun
  cases hrun
  rfl

theorem looks_sees (p : Punctuator) : (sees p).Looks := by
  intro cursor b cursor' hrun
  cases hrun
  rfl

theorem looks_bound : bound.Looks := by
  intro cursor n cursor' hrun
  cases hrun
  rfl

theorem looks_seesDescription : seesDescription.Looks := by
  intro cursor b cursor' hrun
  cases hrun
  rfl

theorem looks_lookahead : lookahead.Looks := by
  intro cursor token cursor' hrun
  have hlookahead : lookahead.run cursor = cursor.next.map fun token => (token, cursor) := by
    cases hnext : cursor.next <;> simp [lookahead, hnext] <;> rfl
  obtain ⟨_, _, hcursor⟩ := Text.Utf8.exists_of_map_eq_ok (hlookahead.symm.trans hrun)
  cases hcursor
  rfl

/-! ## Tokens -/

section Tokens

variable {token : Token}

theorem leads_advance (hlexeme : token.lexeme ≠ .endOfText) :
    Leads (fun cursor => cursor.HasRead limit start parts began ∧ cursor.current = token) advance
      fun _ => Cursor.HasRead limit start (parts ++ [.node (some token.span) []]) true := by
  rintro cursor taken cursor' ⟨h, rfl⟩ hrun
  have hadvance :
      advance.run cursor = cursor.advance.map fun next => (cursor.current, next) := by
    cases hnext : cursor.advance <;> simp [advance, hnext] <;> rfl
  obtain ⟨next, hnext, hcursor⟩ := Text.Utf8.exists_of_map_eq_ok (hadvance.symm.trans hrun)
  cases hcursor
  exact h.advance hlexeme hnext

/-- Taking the current token if it is wanted. -/
theorem leads_take {wanted : Prop} [Decidable wanted]
    (hwanted : wanted → token.lexeme ≠ .endOfText) :
    Leads (fun cursor => cursor.HasRead limit start parts began ∧ cursor.current = token)
      (if wanted then (do discard advance; return true) else return false)
      fun taken => Cursor.HasRead limit start parts (began || taken) := by
  split
  next h =>
    refine Leads.bind (leads_advance (hwanted h)).discard fun _ => leads_pure fun cursor h => ?_
    exact h.weaken (List.subset_append_left ..) fun _ => rfl
  next =>
    exact leads_pure fun cursor h => h.1.weaken (List.Subset.refl _) fun hb => by simpa using hb

theorem leads_accept (p : Punctuator) :
    Leads (Cursor.HasRead limit start parts began) (accept p)
      fun taken => Cursor.HasRead limit start parts (began || taken) :=
  leads_current fun token => leads_take fun h => by
    have hlexeme : token.lexeme = .punctuator p := of_decide_eq_true h
    rw [hlexeme]
    exact Lexeme.noConfusion

theorem leads_acceptKeyword (word : String) :
    Leads (Cursor.HasRead limit start parts began) (acceptKeyword word)
      fun taken => Cursor.HasRead limit start parts (began || taken) :=
  leads_current fun token => leads_take fun h => by
    rw [h]
    exact Lexeme.noConfusion

theorem expect_reads (p : Punctuator) : (expect p).Reads limit (fun _ => []) true := by
  refine fun start parts began => leads_current fun token => ?_
  dsimp only
  split
  next h =>
    exact (leads_advance (h ▸ Lexeme.noConfusion)).weaken (by simp) (by simp)
  next => exact leads_fail

theorem expectKeyword_reads (word : String) :
    (expectKeyword word).Reads limit (fun _ => []) true := by
  refine fun start parts began => leads_current fun token => ?_
  dsimp only
  split
  next h =>
    exact .discard ((leads_advance (h ▸ Lexeme.noConfusion)).weaken (by simp) (by simp))
  next => exact leads_fail

/-- A token that is read and kept is a node. -/
theorem leads_leaf {layout : α → Layout} {a : α} (hlexeme : token.lexeme ≠ .endOfText)
    (hlayout : layout a = .node (some token.span) []) :
    Leads (fun cursor => cursor.HasRead limit start parts began ∧ cursor.current = token)
      (do discard advance; return a)
      fun a => Cursor.HasRead limit start (parts ++ [layout a]) true :=
  (leads_advance hlexeme).discard.bind fun _ => leads_pure fun _ h => hlayout ▸ h

theorem name_reads : name.ReadsNode limit Name.layout := by
  refine fun start parts began => leads_current fun token => ?_
  rw [Bool.or_true]
  dsimp only
  split
  next text h => exact leads_leaf (h ▸ Lexeme.noConfusion) rfl
  next => exact leads_fail

theorem stringLiteral_reads : stringLiteral.ReadsNode limit StringLiteral.layout := by
  refine fun start parts began => leads_current fun token => ?_
  rw [Bool.or_true]
  dsimp only
  split
  next text h => exact leads_leaf (h ▸ Lexeme.noConfusion) rfl
  next text h => exact leads_leaf (h ▸ Lexeme.noConfusion) rfl
  next => exact leads_unexpected

end Tokens

/-! ## Nodes -/

/-- What is read from a token on is a node, if it is one with nothing read before. -/
theorem readsNode_current {p : Token → Parser α} {layout : α → Layout}
    (hp : ∀ token, Leads
      (fun cursor => cursor.HasRead limit token.span.start [] false ∧ cursor.current = token)
      (p token) fun a => Cursor.HasRead limit token.span.start [layout a] true) :
    (current >>= p).ReadsNode limit layout := by
  intro start parts began cursor a cursor' h hrun
  have hread := hp cursor.current cursor a cursor' ⟨h.placed.hasRead_nil, rfl⟩ hrun
  rw [Bool.or_true]
  exact h.append hread

theorem readsNode_offset {p : Nat → Parser α} {layout : α → Layout}
    (hp : ∀ start, Leads (Cursor.HasRead limit start [] false) (p start)
      fun a => Cursor.HasRead limit start [layout a] true) :
    (offset >>= p).ReadsNode limit layout :=
  readsNode_current fun token => (hp token.span.start).forget

/-- A node ends with the token read last. -/
theorem leads_close {make : Option Span → α} {layout : α → Layout}
    {parts' : Option Span → List Layout}
    (hlayout : ∀ span, layout (make span) = .node span (parts' span))
    (hparts : ∀ span, parts' span ⊆ parts) :
    Leads (Cursor.HasRead limit start parts true) (spanFrom start >>= fun span => pure (make span))
      fun a => Cursor.HasRead limit start [layout a] true := by
  intro cursor a cursor' h hrun
  cases hrun
  rw [hlayout]
  exact h.close (hparts _)

/-! ## Sequences -/

section Sequences

variable {item : Parser α} {layout : α → Layout} {opening close separator : Punctuator}

theorem untilClose_reads (hitem : item.ReadsNode limit layout) : ∀ n,
    (untilClose close item n).Reads limit (fun items => items.map layout) true
  | 0 => fun _ _ _ => leads_unexpected
  | n + 1 => by
      refine fun start parts began => (leads_accept close).bind fun closed => ?_
      cases closed with
      | true => exact leads_return (by simp) (by simp)
      | false =>
          refine hitem.bind fun first => ?_
          refine (untilClose_reads hitem n).bind fun more => ?_
          exact leads_return (by simp) (by simp)

theorem any_reads (hitem : item.ReadsNode limit layout) :
    (any opening close item).Reads limit (fun items => items.map layout) true := by
  refine fun start parts began => (expect_reads opening).skip ?_
  refine looks_bound.bind fun n => ?_
  exact (untilClose_reads hitem n _ _ _).weaken (by simp) (by simp)

theorem many_reads (hitem : item.ReadsNode limit layout) :
    (many opening close item).Reads limit (fun items => items.map layout) true := by
  refine fun start parts began => (expect_reads opening).skip ?_
  refine hitem.bind fun first => looks_bound.bind fun n => ?_
  refine (untilClose_reads hitem n).bind fun more => ?_
  exact leads_return (by simp) (by simp)

theorem optionalMany_reads (hitem : item.ReadsNode limit layout) :
    (optionalMany opening close item).Reads limit (fun items => items.map layout) false := by
  refine fun start parts began => (looks_sees opening).bind fun opens => ?_
  cases opens with
  | true => exact (many_reads hitem _ _ _).weaken (by simp) (by simp)
  | false => exact leads_return (by simp) (by simp)

theorem afterSeparators_reads (hitem : item.ReadsNode limit layout) : ∀ n,
    (afterSeparators separator item n).Reads limit (fun items => items.map layout) false
  | 0 => fun _ _ _ => leads_unexpected
  | n + 1 => by
      refine fun start parts began => (leads_accept separator).bind fun separated => ?_
      cases separated with
      | true =>
          refine hitem.bind fun first => ?_
          refine (afterSeparators_reads hitem n).bind fun more => ?_
          exact leads_return (by simp) (by simp)
      | false => exact leads_return (by simp) (by simp)

theorem separated_reads (hitem : item.ReadsNode limit layout) :
    (separated separator item).Reads limit (fun items => items.map layout) true := by
  intro start parts began
  have haccept : Leads (Cursor.HasRead limit start parts began) (accept separator)
      fun _ => Cursor.HasRead limit start parts began :=
    (leads_accept separator).imp fun taken cursor h =>
      h.weaken (List.Subset.refl _) fun hb => by simp [hb]
  refine haccept.discard.bind fun _ => hitem.bind fun first => looks_bound.bind fun n => ?_
  refine (afterSeparators_reads hitem n).bind fun more => ?_
  exact leads_return (by simp) (by simp)

end Sequences

end Parser

end EntitySchema
