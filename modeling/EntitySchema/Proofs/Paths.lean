/-
# `EntitySchema.Proofs.Paths` — reading and resolving paths

A path is read from a text piece by piece, so two texts with a slash between them are read as the
pieces of the first and those of the second (`piecesOf_append`), and a path is read back from the
text that writes it (`join_toString`).

Resolving a path walks along its pieces from the root.  What it gives has no piece that leads up,
and such a path is walked along as it is; so resolving it again changes nothing.  A walk can be
stopped anywhere and taken up from where it has led (`resolve_append`): of the beginning of a path
only where it leads counts.

The pieces of a torn string are walked along as code points, with the same result: a path without
pieces that lead up, if none of the code points is one that no path may hold (`ofStr_eq_error_iff`).
-/
import EntitySchema.Files.Path

namespace EntitySchema

/-! ## Texts cut at a separator -/

namespace Text

section Pieces

variable {α : Type} [DecidableEq α] {separator : α} {text piece : List α}

theorem cutAt_ne_nil (text : List α) : cutAt separator text ≠ [] := by
  cases text with
  | nil => exact List.cons_ne_nil _ _
  | cons c rest =>
      rw [cutAt]
      split
      · exact List.cons_ne_nil _ _
      · split
        · exact List.cons_ne_nil _ _
        · exact List.cons_ne_nil _ _

theorem cutAt_cons_self : cutAt separator (separator :: text) = [] :: cutAt separator text := by
  rw [cutAt, if_pos rfl]

/-- Another character goes to the first piece of what follows it. -/
theorem cutAt_cons_of_ne {c : α} {more : List (List α)} (hne : c ≠ separator)
    (hrest : cutAt separator text = piece :: more) :
    cutAt separator (c :: text) = (c :: piece) :: more := by
  rw [cutAt, if_neg hne, hrest]

theorem cutAt_append (left right : List α) :
    cutAt separator (left ++ separator :: right)
      = cutAt separator left ++ cutAt separator right := by
  induction left with
  | nil => exact cutAt_cons_self
  | cons c rest ih =>
      rw [List.cons_append]
      by_cases hc : c = separator
      · rw [hc, cutAt_cons_self, cutAt_cons_self, ih, List.cons_append]
      · obtain ⟨piece, more, hrest⟩ : ∃ piece more, cutAt separator rest = piece :: more :=
          List.exists_cons_of_ne_nil (cutAt_ne_nil rest)
        rw [hrest, List.cons_append] at ih
        rw [cutAt_cons_of_ne hc ih, cutAt_cons_of_ne hc hrest, List.cons_append]

theorem cutAt_of_not_mem (h : separator ∉ text) : cutAt separator text = [text] := by
  induction text with
  | nil => rfl
  | cons c rest ih =>
      rw [List.mem_cons, not_or] at h
      exact cutAt_cons_of_ne (Ne.symm h.1) (ih h.2)

/-- A piece has no separator, and no character that the text does not have. -/
theorem of_mem_cutAt (h : piece ∈ cutAt separator text) :
    separator ∉ piece ∧ piece ⊆ text := by
  induction text generalizing piece with
  | nil =>
      cases List.mem_singleton.mp h
      exact ⟨List.not_mem_nil, List.Subset.refl _⟩
  | cons c rest ih =>
      have hlater {later : List α} (hmem : later ∈ cutAt separator rest) :
          separator ∉ later ∧ later ⊆ c :: rest :=
        ⟨(ih hmem).1, List.Subset.trans (ih hmem).2 (List.subset_cons_self _ _)⟩
      by_cases hc : c = separator
      · rw [hc, cutAt_cons_self] at h
        rcases List.mem_cons.mp h with rfl | hmem
        · exact ⟨List.not_mem_nil, List.nil_subset _⟩
        · exact hlater hmem
      · obtain ⟨first, more, hrest⟩ : ∃ first more, cutAt separator rest = first :: more :=
          List.exists_cons_of_ne_nil (cutAt_ne_nil rest)
        rw [cutAt_cons_of_ne hc hrest] at h
        rcases List.mem_cons.mp h with rfl | hmem
        · have hfirst := ih (hrest ▸ List.mem_cons_self)
          exact ⟨List.not_mem_cons_of_ne_of_not_mem (Ne.symm hc) hfirst.1,
            List.cons_subset_cons _ hfirst.2⟩
        · exact hlater (hrest ▸ List.mem_cons_of_mem _ hmem)

/-- Whatever is not the separator is in some piece. -/
theorem exists_mem_cutAt {c : α} (hne : c ≠ separator) (h : c ∈ text) :
    ∃ piece ∈ cutAt separator text, c ∈ piece := by
  induction text with
  | nil => cases h
  | cons d rest ih =>
      by_cases hd : d = separator
      · subst hd
        obtain ⟨piece, hpiece, hmem⟩ := ih ((List.mem_cons.mp h).resolve_left hne)
        rw [cutAt_cons_self]
        exact ⟨piece, List.mem_cons_of_mem _ hpiece, hmem⟩
      · obtain ⟨first, more, hrest⟩ : ∃ first more, cutAt separator rest = first :: more :=
          List.exists_cons_of_ne_nil (cutAt_ne_nil rest)
        rw [cutAt_cons_of_ne hd hrest]
        rcases List.mem_cons.mp h with rfl | hmem
        · exact ⟨_, List.mem_cons_self, List.mem_cons_self⟩
        · obtain ⟨piece, hpiece, hmem⟩ := ih hmem
          rw [hrest] at hpiece
          rcases List.mem_cons.mp hpiece with rfl | hmore
          · exact ⟨_, List.mem_cons_self, List.mem_cons_of_mem _ hmem⟩
          · exact ⟨piece, List.mem_cons_of_mem _ hmore, hmem⟩

end Pieces

/-! ## Code points that are shown -/

theorem shown_map_toNat (text : String) : shown (text.toList.map Char.toNat) = text := by
  rw [shown, List.flatMap_map]
  simp only [scalar?_toNat, List.flatMap_singleton', String.ofList_toList]

theorem mem_hexDigits {c : Char} {width n : Nat} (h : c ∈ hexDigits width n) :
    c ∈ "0123456789abcdef".toList := by
  have hdigit : ∀ m < 16, Nat.digitChar m ∈ "0123456789abcdef".toList := by decide
  have hdigits (n : Nat) : ∀ c ∈ Nat.toDigits 16 n, c ∈ "0123456789abcdef".toList := by
    induction n using Nat.strongRecOn with
    | ind n ih =>
        intro c hc
        by_cases hn : n < 16
        · rw [Nat.toDigits_of_lt_base hn, List.mem_singleton] at hc
          rw [hc]
          exact hdigit n hn
        · rw [Nat.toDigits_of_base_le (by decide) (Nat.le_of_not_lt hn)] at hc
          rcases List.mem_append.mp hc with hmem | hmem
          · exact ih (n / 16) (by omega) c hmem
          · rw [List.mem_singleton.mp hmem]
            exact hdigit _ (Nat.mod_lt _ (by decide))
  rw [hexDigits, List.leftpad] at h
  rcases List.mem_append.mp h with hmem | hmem
  · rw [List.eq_of_mem_replicate hmem]
    decide
  · exact hdigits n c hmem

/-- A character that is shown is there, unless it may be part of a number. -/
theorem toNat_mem_of_mem_shown {c : Char} {codes : List Nat} (h : c ∈ (shown codes).toList)
    (hplain : c ∉ "\\u0123456789abcdef".toList) : c.toNat ∈ codes := by
  rw [shown, String.toList_ofList, List.mem_flatMap] at h
  obtain ⟨n, hn, hc⟩ := h
  cases hscalar : scalar? n with
  | some d =>
      rw [hscalar, List.mem_singleton] at hc
      rw [hc, scalar?_eq_some hscalar]
      exact hn
  | none =>
      rw [hscalar] at hc
      refine absurd ?_ hplain
      rcases List.mem_cons.mp hc with rfl | hc
      · decide
      · rcases List.mem_cons.mp hc with rfl | hc
        · decide
        · exact List.mem_append_right ['\\', 'u'] (mem_hexDigits hc)

/-- What shows a code point that is no character begins with a backslash. -/
theorem backslash_mem_shown {codes : List Nat} {n : Nat} (hn : n ∈ codes)
    (hscalar : scalar? n = none) : '\\' ∈ (shown codes).toList := by
  rw [shown, String.toList_ofList, List.mem_flatMap]
  refine ⟨n, hn, ?_⟩
  rw [hscalar]
  exact List.mem_cons_self

end Text

namespace Path

variable {path directory : Path} {text left right piece : String} {pieces rest : List String}

/-! ## Pieces -/

/-- A piece as it is read from a text: it means something, and neither a slash nor the character
that no path may hold is in it. -/
structure IsPiece (piece : String) : Prop where
  counts : Path.counts piece = true
  noSlash : '/' ∉ piece.toList
  noNul : hasNul piece = false

/-- A path that is made of such pieces. -/
def IsProper (path : Path) : Prop := ∀ piece ∈ path.pieces, IsPiece piece

theorem hasNul_eq_false_iff : hasNul text = false ↔ '\x00' ∉ text.toList := by
  rw [hasNul, ← Bool.not_eq_true, List.contains_iff_mem]

theorem hasNul_append : hasNul (left ++ right) = (hasNul left || hasNul right) := by
  rw [hasNul, String.toList_append, List.contains_append]
  rfl

theorem piecesOf_append (left right : String) :
    piecesOf (left ++ "/" ++ right) = piecesOf left ++ piecesOf right := by
  have htext : (left ++ "/" ++ right).toList = left.toList ++ '/' :: right.toList := by
    rw [String.toList_append, String.toList_append, List.append_assoc]
    rfl
  rw [piecesOf, htext, Text.cutAt_append, List.map_append, List.filter_append]
  rfl

theorem piecesOf_of_isPiece (h : IsPiece piece) : piecesOf piece = [piece] := by
  rw [piecesOf, Text.cutAt_of_not_mem h.noSlash, List.map_singleton, String.ofList_toList,
    List.filter_cons_of_pos h.counts, List.filter_nil]

theorem piecesOf_intercalate (h : ∀ piece ∈ pieces, IsPiece piece) :
    piecesOf ("/".intercalate pieces) = pieces := by
  induction pieces with
  | nil => rfl
  | cons first more ih =>
      obtain ⟨hfirst, hmore⟩ := List.forall_mem_cons.mp h
      cases more with
      | nil => exact piecesOf_of_isPiece hfirst
      | cons second others =>
          rw [String.intercalate_cons_cons, piecesOf_append, piecesOf_of_isPiece hfirst, ih hmore]
          rfl

theorem isPiece_of_mem_piecesOf (hnul : hasNul text = false) (h : piece ∈ piecesOf text) :
    IsPiece piece := by
  obtain ⟨hmem, hcounts⟩ := List.mem_filter.mp h
  obtain ⟨characters, hcharacters, rfl⟩ := List.mem_map.mp hmem
  obtain ⟨hslash, hsubset⟩ := Text.of_mem_cutAt hcharacters
  refine ⟨hcounts, ?_, hasNul_eq_false_iff.mpr ?_⟩
  · rwa [String.toList_ofList]
  · rw [String.toList_ofList]
    exact fun hmem => hasNul_eq_false_iff.mp hnul (hsubset hmem)

/-! ## Joining -/

/-- What is written after a text does not change how it begins. -/
theorem head?_toList_append (h : left ≠ "") :
    (left ++ right).toList.head? = left.toList.head? := by
  have hne : left.toList ≠ [] := fun hnil => h (String.toList_eq_nil_iff.mp hnil)
  obtain ⟨c, rest, htext⟩ := List.exists_cons_of_ne_nil hne
  rw [String.toList_append, htext]
  rfl

theorem isAbsolute_append (h : left ≠ "") : isAbsolute (left ++ right) = isAbsolute left := by
  rw [isAbsolute, isAbsolute, head?_toList_append h]

theorem ne_empty_of_isAbsolute (h : isAbsolute text = true) : text ≠ "" := by
  rintro rfl
  cases h

theorem join_of_isAbsolute (h : isAbsolute text = true) :
    directory.join text = ⟨piecesOf text⟩ := by
  rw [join, if_pos h, List.nil_append]

theorem join_of_not_isAbsolute (h : isAbsolute text = false) :
    directory.join text = ⟨directory.pieces ++ piecesOf text⟩ := by
  rw [join, h]
  rfl

/-- The second of two texts is read from where the first one leads. -/
theorem join_append (h : left ≠ "") :
    directory.join (left ++ "/" ++ right)
      = ⟨(directory.join left).pieces ++ piecesOf right⟩ := by
  rw [join, String.append_assoc, isAbsolute_append h, ← String.append_assoc, piecesOf_append,
    ← List.append_assoc]
  rfl

theorem isAbsolute_toString : isAbsolute path.toString = true := by
  rw [toString, isAbsolute, String.toList_append]
  rfl

/-- A path is read back from the text that writes it, wherever this is done. -/
theorem join_toString (h : path.IsProper) : directory.join path.toString = path := by
  have hpieces : piecesOf path.toString = path.pieces := by
    have hempty := piecesOf_append "" ("/".intercalate path.pieces)
    rw [String.empty_append, piecesOf_intercalate h] at hempty
    exact hempty
  rw [join_of_isAbsolute isAbsolute_toString, hpieces]

theorem IsProper.join (h : directory.IsProper) (hnul : hasNul text = false) :
    (directory.join text).IsProper := by
  have htext : ∀ piece ∈ piecesOf text, IsPiece piece :=
    fun piece hpiece => isPiece_of_mem_piecesOf hnul hpiece
  intro piece hpiece
  cases habsolute : isAbsolute text with
  | true =>
      rw [join_of_isAbsolute habsolute] at hpiece
      exact htext piece hpiece
  | false =>
      rw [join_of_not_isAbsolute habsolute] at hpiece
      rcases List.mem_append.mp hpiece with hdirectory | hmem
      · exact h piece hdirectory
      · exact htext piece hmem

theorem IsProper.parent (h : path.IsProper) : path.parent.IsProper :=
  fun piece hpiece => h piece ((List.dropLast_sublist _).subset hpiece)

theorem IsProper.hasNul_toString (h : path.IsProper) : hasNul path.toString = false := by
  have hintercalate (pieces : List String) (h : ∀ piece ∈ pieces, IsPiece piece) :
      hasNul ("/".intercalate pieces) = false := by
    induction pieces with
    | nil => rfl
    | cons first more ih =>
        obtain ⟨hfirst, hmore⟩ := List.forall_mem_cons.mp h
        cases more with
        | nil => exact hfirst.noNul
        | cons second others =>
            rw [String.intercalate_cons_cons, hasNul_append, hasNul_append, hfirst.noNul, ih hmore]
            rfl
  rw [toString, hasNul_append, hintercalate path.pieces h]
  rfl

/-! ## Resolving -/

/-- What a step leaves has been there before, or is the piece of the step. -/
theorem mem_step (h : text ∈ step pieces piece) :
    text ∈ pieces ∨ text = piece ∧ piece ≠ ".." := by
  rw [step] at h
  split at h
  next => exact .inl ((List.dropLast_sublist _).subset h)
  next hpiece =>
    rcases List.mem_append.mp h with hmem | hmem
    · exact .inl hmem
    · exact .inr ⟨List.mem_singleton.mp hmem, hpiece⟩

theorem mem_walk (h : text ∈ rest.foldl step pieces) :
    text ∈ pieces ∨ text ∈ rest ∧ text ≠ ".." := by
  induction rest generalizing pieces with
  | nil => exact .inl h
  | cons head more ih =>
      rcases ih h with hstep | ⟨hmem, hne⟩
      · rcases mem_step hstep with hmem | ⟨rfl, hne⟩
        · exact .inl hmem
        · exact .inr ⟨List.mem_cons_self, hne⟩
      · exact .inr ⟨List.mem_cons_of_mem _ hmem, hne⟩

theorem walk_of_not_mem (h : ".." ∉ rest) : rest.foldl step pieces = pieces ++ rest := by
  induction rest generalizing pieces with
  | nil => rw [List.foldl_nil, List.append_nil]
  | cons head more ih =>
      rw [List.mem_cons, not_or] at h
      rw [List.foldl_cons, step, if_neg (Ne.symm h.1), ih h.2, List.append_assoc,
        List.singleton_append]

/-- A resolved path has the pieces of the path, but none that leads up. -/
theorem mem_resolve (h : piece ∈ path.resolve.pieces) : piece ∈ path.pieces ∧ piece ≠ ".." :=
  (mem_walk h).resolve_left List.not_mem_nil

theorem resolve_of_not_mem (h : ".." ∉ path.pieces) : path.resolve = path := by
  rw [resolve, walk_of_not_mem h, List.nil_append]

theorem resolve_resolve (path : Path) : path.resolve.resolve = path.resolve :=
  resolve_of_not_mem fun h => (mem_resolve h).2 rfl

theorem resolve_append (path : Path) (rest : List String) :
    (Path.mk (path.pieces ++ rest)).resolve = (Path.mk (path.resolve.pieces ++ rest)).resolve := by
  have hresolved : path.resolve.pieces.foldl step [] = path.resolve.pieces :=
    congrArg Path.pieces (resolve_resolve path)
  rw [resolve, resolve, List.foldl_append, List.foldl_append, hresolved]
  rfl

theorem IsProper.resolve (h : path.IsProper) : path.resolve.IsProper :=
  fun piece hpiece => h piece (mem_resolve hpiece).1

theorem resolve_child (h : piece ≠ "..") :
    (path.child piece).resolve = path.resolve.child piece := by
  rw [resolve, child, List.foldl_append, List.foldl_cons, List.foldl_nil, step, if_neg h]
  rfl

theorem parent_child : (path.child piece).parent = path := by
  rw [parent, child, List.dropLast_concat]

/-! ## Torn strings -/

/-- A code point that no path may hold. -/
inductive IsForbidden : Nat → Prop
  | null : IsForbidden 0
  | loose {code : Nat} : isLoose code = true → IsForbidden code

/-- A piece in which all code points may stand in a path. -/
def IsClean (piece : List Nat) : Prop := ∀ code ∈ piece, ¬ IsForbidden code

/-- A string that cannot be a path. -/
inductive Unusable : Text.Str → Prop
  | text {text : String} : '\x00' ∈ text.toList → Unusable (.text text)
  | torn {codes : List Nat} {code : Nat} : code ∈ codes → IsForbidden code → Unusable (.torn codes)

variable {codes : List Nat} {stack stack' walk : List (List Nat)} {part : List Nat}
  {string : Text.Str}

theorem scalar?_of_isLoose {code : Nat} (h : isLoose code = true) : Text.scalar? code = none := by
  have hsurrogate : Text.isSurrogate code = true := (Bool.and_eq_true_iff.mp h).1
  have hrange : 0xD800 ≤ code ∧ code ≤ 0xDFFF := by
    simp only [Text.isSurrogate, Text.isHighSurrogate, Text.isLowSurrogate, Bool.or_eq_true,
      Bool.and_eq_true, decide_eq_true_eq] at hsurrogate
    omega
  rw [Text.scalar?, if_neg]
  rintro (hvalid | hvalid) <;> omega

/-- A code point that no path may hold is seen in the piece that shows it. -/
theorem mem_shown_of_isForbidden {code : Nat} (hmem : code ∈ part) (h : IsForbidden code) :
    '\x00' ∈ (Text.shown part).toList ∨ '\\' ∈ (Text.shown part).toList := by
  cases h with
  | null =>
      refine .inl ?_
      rw [Text.shown, String.toList_ofList, List.mem_flatMap]
      exact ⟨0, hmem, List.mem_singleton.mpr rfl⟩
  | loose hloose => exact .inr (Text.backslash_mem_shown hmem (scalar?_of_isLoose hloose))

theorem isClean_of_shown_mem (h : Text.shown part ∈ ["", ".", ".."]) : IsClean part := by
  intro code hmem hforbidden
  have hplain : ∀ text ∈ ["", ".", ".."], '\x00' ∉ text.toList ∧ '\\' ∉ text.toList := by decide
  obtain ⟨hnull, hbackslash⟩ := hplain _ h
  exact (mem_shown_of_isForbidden hmem hforbidden).elim hnull hbackslash

theorem faultOf?_eq_none_iff {length : Nat} : faultOf? length part = none ↔ IsClean part := by
  rw [faultOf?]
  cases hfind : part.findIdx? isLoose with
  | some offset =>
      refine iff_of_false (fun h => nomatch h) fun hclean => ?_
      have hnone : part.findIdx? isLoose = none := List.findIdx?_eq_none_iff.mpr fun code hmem =>
        Bool.eq_false_iff.mpr fun hloose => hclean code hmem (.loose hloose)
      cases hfind.symm.trans hnone
  | none =>
      have hloose := List.findIdx?_eq_none_iff.mp hfind
      show (if part.contains 0 then some PathFault.null else none) = none ↔ _
      rw [ite_eq_right_iff, List.contains_iff_mem]
      constructor
      · intro hnull code hmem hforbidden
        cases hforbidden with
        | null => cases hnull hmem
        | loose h => exact absurd (hloose code hmem) (Bool.ne_false_iff.mpr h)
      · exact fun hclean hmem => absurd .null (hclean 0 hmem)

theorem stepCodes_eq_ok_iff :
    stepCodes stack part = .ok stack'
      ↔ Text.shown part = ".." ∧ stack' = stack.dropLast
        ∨ Text.shown part ≠ ".." ∧ IsClean part ∧ stack' = stack ++ [part] := by
  rw [stepCodes]
  by_cases hup : Text.shown part = ".."
  · rw [if_pos hup]
    constructor
    · intro h
      exact .inl ⟨hup, (Except.ok.inj h).symm⟩
    · rintro (⟨-, rfl⟩ | ⟨hne, -⟩)
      · rfl
      · exact absurd hup hne
  · rw [if_neg hup]
    cases hfault : faultOf? (stack.foldl (· + ·.length + 1) 0) part with
    | some fault =>
        refine iff_of_false (fun h => nomatch h) ?_
        rintro (⟨h, -⟩ | ⟨-, hclean, -⟩)
        · exact hup h
        · cases hfault.symm.trans (faultOf?_eq_none_iff.mpr hclean)
    | none =>
        constructor
        · intro h
          exact .inr ⟨hup, faultOf?_eq_none_iff.mp hfault, (Except.ok.inj h).symm⟩
        · rintro (⟨h, -⟩ | ⟨-, -, rfl⟩)
          · exact absurd h hup
          · rfl

/-- One step of a walk, and the rest of it. -/
theorem walkCodes_cons_eq_ok_iff :
    (part :: walk).foldlM stepCodes stack = .ok stack'
      ↔ ∃ next, stepCodes stack part = .ok next ∧ walk.foldlM stepCodes next = .ok stack' := by
  rw [List.foldlM_cons]
  cases stepCodes stack part with
  | error fault => exact iff_of_false (fun h => nomatch h) fun ⟨_, h, _⟩ => nomatch h
  | ok next =>
      constructor
      · exact fun h => ⟨next, rfl, h⟩
      · rintro ⟨_, h, hwalk⟩
        cases h
        exact hwalk

/-- A walk comes to its end if all of its pieces are clean. -/
theorem exists_walkCodes_eq_ok_iff :
    (∃ stack', walk.foldlM stepCodes stack = .ok stack') ↔ ∀ part ∈ walk, IsClean part := by
  induction walk generalizing stack with
  | nil => exact iff_of_true ⟨stack, rfl⟩ fun _ h => nomatch h
  | cons part walk ih =>
      rw [List.forall_mem_cons]
      simp only [walkCodes_cons_eq_ok_iff, stepCodes_eq_ok_iff]
      constructor
      · rintro ⟨stack', next, hstep, hwalk⟩
        refine ⟨?_, ih.mp ⟨stack', hwalk⟩⟩
        rcases hstep with ⟨hup, -⟩ | ⟨-, hclean, -⟩
        · exact isClean_of_shown_mem (by simp [hup])
        · exact hclean
      · rintro ⟨hclean, hmore⟩
        by_cases hup : Text.shown part = ".."
        · obtain ⟨stack', hwalk⟩ := ih.mpr hmore
          exact ⟨stack', _, .inl ⟨hup, rfl⟩, hwalk⟩
        · obtain ⟨stack', hwalk⟩ := ih.mpr hmore
          exact ⟨stack', _, .inr ⟨hup, hclean, rfl⟩, hwalk⟩

/-- What a walk leaves has been there before, or is a clean piece of it that does not lead up. -/
theorem mem_walkCodes (h : walk.foldlM stepCodes stack = .ok stack') (hmem : part ∈ stack') :
    part ∈ stack ∨ part ∈ walk ∧ IsClean part ∧ Text.shown part ≠ ".." := by
  induction walk generalizing stack with
  | nil =>
      cases h
      exact .inl hmem
  | cons first more ih =>
      obtain ⟨next, hstep, hmore⟩ := walkCodes_cons_eq_ok_iff.mp h
      rcases ih hmore with hnext | ⟨hpart, hclean⟩
      · rcases stepCodes_eq_ok_iff.mp hstep with ⟨-, rfl⟩ | ⟨hne, hclean, rfl⟩
        · exact .inl ((List.dropLast_sublist _).subset hnext)
        · rcases List.mem_append.mp hnext with hbefore | hlast
          · exact .inl hbefore
          · cases List.mem_singleton.mp hlast
            exact .inr ⟨List.mem_cons_self, hclean, hne⟩
      · exact .inr ⟨List.mem_cons_of_mem _ hpart, hclean⟩

/-- A clean piece without a slash is shown as a piece of a path. -/
theorem IsClean.isPiece_shown (h : IsClean part) (hcounts : counts (Text.shown part) = true)
    (hslash : '/'.toNat ∉ part) : IsPiece (Text.shown part) where
  counts := hcounts
  noSlash := fun hmem => hslash (Text.toNat_mem_of_mem_shown hmem (by decide))
  noNul := hasNul_eq_false_iff.mpr fun hmem =>
    h 0 (Text.toNat_mem_of_mem_shown hmem (by decide)) .null

theorem isPiece_shown_of_mem_start (h : directory.IsProper)
    (hmem : part ∈ startOfCodes directory codes) : IsPiece (Text.shown part) := by
  rw [startOfCodes] at hmem
  split at hmem
  · cases hmem
  · obtain ⟨piece, hpiece, rfl⟩ := List.mem_map.mp hmem
    rw [Text.shown_map_toNat]
    exact h piece hpiece

theorem isClean_of_mem_start (h : directory.IsProper)
    (hmem : part ∈ startOfCodes directory codes) : IsClean part := by
  have hpiece := isPiece_shown_of_mem_start h hmem
  rw [startOfCodes] at hmem
  split at hmem
  · cases hmem
  · obtain ⟨piece, hpiece', rfl⟩ := List.mem_map.mp hmem
    intro code hcode hforbidden
    obtain ⟨c, hc, rfl⟩ := List.mem_map.mp hcode
    generalize hn : c.toNat = n at hforbidden
    cases hforbidden with
    | null =>
        have hnull : c = '\x00' := Char.toNat_inj.mp hn
        exact hasNul_eq_false_iff.mp (h piece hpiece').noNul (hnull ▸ hc)
    | loose hloose =>
        rw [← hn] at hloose
        cases (Text.scalar?_toNat c).symm.trans (scalar?_of_isLoose hloose)

/-- A walk along a torn string leaves a path in which nothing leads up. -/
theorem ofCodes_eq_ok (h : directory.IsProper) (hpath : ofCodes directory codes = .ok path) :
    path.IsProper ∧ path.resolve = path := by
  rw [ofCodes] at hpath
  cases hwalk : (startOfCodes directory codes ++ piecesOfCodes codes).foldlM stepCodes [] with
  | error fault =>
      rw [hwalk] at hpath
      cases hpath
  | ok stack =>
      rw [hwalk] at hpath
      cases hpath
      have hpieces : ∀ piece ∈ stack.map Text.shown, IsPiece piece ∧ piece ≠ ".." := by
        intro piece hpiece
        obtain ⟨part, hpart, rfl⟩ := List.mem_map.mp hpiece
        obtain ⟨hmem, hclean, hup⟩ :=
          (mem_walkCodes hwalk hpart).resolve_left List.not_mem_nil
        refine ⟨?_, hup⟩
        rcases List.mem_append.mp hmem with hstart | hrest
        · exact isPiece_shown_of_mem_start h hstart
        · obtain ⟨hcut, hcounts⟩ := List.mem_filter.mp hrest
          exact hclean.isPiece_shown hcounts (Text.of_mem_cutAt hcut).1
      exact ⟨fun piece hpiece => (hpieces piece hpiece).1,
        resolve_of_not_mem fun hmem => (hpieces _ hmem).2 rfl⟩

/-- Whatever means nothing as a piece is clean. -/
theorem isClean_of_not_counts (h : ¬ counts (Text.shown part) = true) : IsClean part := by
  refine isClean_of_shown_mem ?_
  by_cases hempty : Text.shown part = ""
  · simp [hempty]
  · by_cases hdot : Text.shown part = "."
    · simp [hdot]
    · simp [counts, hempty, hdot] at h

/-- All pieces of a torn string are clean if all code points in it may stand in a path. -/
theorem forall_isClean_iff (h : directory.IsProper) :
    (∀ part ∈ startOfCodes directory codes ++ piecesOfCodes codes, IsClean part)
      ↔ ∀ code ∈ codes, ¬ IsForbidden code := by
  constructor
  · intro hall code hmem hforbidden
    have hne : code ≠ '/'.toNat := by
      rintro rfl
      cases hforbidden with
      | loose hloose => cases hloose
    obtain ⟨part, hpart, hcode⟩ := Text.exists_mem_cutAt hne hmem
    by_cases hcounts : counts (Text.shown part) = true
    · have hpiece : part ∈ piecesOfCodes codes := List.mem_filter.mpr ⟨hpart, hcounts⟩
      exact hall part (List.mem_append_right _ hpiece) code hcode hforbidden
    · exact isClean_of_not_counts hcounts code hcode hforbidden
  · intro hall part hpart
    rcases List.mem_append.mp hpart with hstart | hrest
    · exact isClean_of_mem_start h hstart
    · have hsubset := (Text.of_mem_cutAt (List.mem_filter.mp hrest).1).2
      exact fun code hcode => hall code (hsubset hcode)

theorem ofCodes_eq_error_iff (h : directory.IsProper) :
    (∃ fault, ofCodes directory codes = .error fault) ↔ ∃ code ∈ codes, IsForbidden code := by
  have hwalks : (∃ stack, (startOfCodes directory codes ++ piecesOfCodes codes).foldlM
      stepCodes [] = .ok stack) ↔ ∀ code ∈ codes, ¬ IsForbidden code :=
    exists_walkCodes_eq_ok_iff.trans (forall_isClean_iff h)
  rw [ofCodes]
  cases hwalk : (startOfCodes directory codes ++ piecesOfCodes codes).foldlM stepCodes [] with
  | error fault =>
      refine iff_of_true ⟨fault, rfl⟩ (Classical.byContradiction fun hnone => ?_)
      obtain ⟨stack, hstack⟩ :=
        hwalks.mpr fun code hmem hforbidden => hnone ⟨code, hmem, hforbidden⟩
      cases hwalk.symm.trans hstack
  | ok stack =>
      refine iff_of_false (fun ⟨_, h⟩ => nomatch h) ?_
      rintro ⟨code, hmem, hforbidden⟩
      exact hwalks.mp ⟨stack, hwalk⟩ code hmem hforbidden

theorem ofStr_text (text : String) :
    directory.ofStr (.text text)
      = if hasNul text then .error .null else .ok (directory.join text).resolve := by
  rw [ofStr, join?]
  cases hasNul text with
  | true => rfl
  | false => rfl

theorem ofStr_eq_ok (h : directory.IsProper) (hpath : directory.ofStr string = .ok path) :
    path.IsProper ∧ path.resolve = path := by
  cases string with
  | torn codes => exact ofCodes_eq_ok h hpath
  | text text =>
      rw [ofStr_text] at hpath
      cases hnul : hasNul text with
      | true =>
          rw [hnul] at hpath
          cases hpath
      | false =>
          rw [hnul] at hpath
          cases hpath
          exact ⟨(h.join hnul).resolve, resolve_resolve _⟩

/-- **A string cannot be a path exactly if something in it may not stand in one**, wherever that is. -/
theorem ofStr_eq_error_iff (h : directory.IsProper) :
    (∃ fault, directory.ofStr string = .error fault) ↔ Unusable string := by
  cases string with
  | torn codes =>
      refine (ofCodes_eq_error_iff h).trans ⟨fun ⟨_, hmem, hcode⟩ => .torn hmem hcode, ?_⟩
      intro hunusable
      cases hunusable with
      | torn hmem hcode => exact ⟨_, hmem, hcode⟩
  | text text =>
      rw [ofStr_text]
      cases hnul : hasNul text with
      | true =>
          have hmem : '\x00' ∈ text.toList := by rwa [hasNul, List.contains_iff_mem] at hnul
          exact iff_of_true ⟨.null, rfl⟩ (.text hmem)
      | false =>
          refine iff_of_false (fun ⟨_, h⟩ => nomatch h) fun hunusable => ?_
          cases hunusable with
          | text hmem => exact hasNul_eq_false_iff.mp hnul hmem

end Path

end EntitySchema
