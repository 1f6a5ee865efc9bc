/-
# `EntitySchema.Proofs.Positions` — the line and the column of a finding

The text of a schema has no carriage returns, as its line ends are folded when it is read.  In such
a text the lines are what line feeds separate, whatever else is in it.  So the position of an offset
is given by the part of the text in front of it: the line counts the line feeds there, and the
column is counted from the last of them.  Since this part grows with the offset, positions are in
the order of the offsets.
-/
import EntitySchema.Proofs.Checking
import EntitySchema.Proofs.Numerals
import EntitySchema.Proofs.ParsedLayout
import EntitySchema.Report

namespace EntitySchema

namespace Text

variable {i offset offset' : Nat} {text front line : List Char} {position position' : Position}

/-! ## Line ends -/

theorem not_mem_foldLineEnds (text : List Char) : '\r' ∉ foldLineEnds text := by
  induction text using foldLineEnds.induct with
  | case1 => exact List.not_mem_nil
  | case2 rest ih =>
      rw [foldLineEnds]
      exact List.not_mem_cons_of_ne_of_not_mem (by decide) ih
  | case3 c rest hpair ih =>
      rw [foldLineEnds]
      · refine List.not_mem_cons_of_ne_of_not_mem ?_ ih
        split
        next => decide
        next h => exact fun heq => h heq.symm
      · exact hpair

theorem breaks_cons {c : Char} (h : c ≠ '\r') :
    breaks i (c :: text) = (if c = '\n' then [⟨i, i + 1⟩] else []) ++ breaks (i + 1) text := by
  rw [breaks.eq_3 i c text fun _ hc _ => h hc]
  by_cases hc : c = '\n'
  · rw [if_pos hc, hc]
    rfl
  · have hend : isLineEnd c = false := by simp [isLineEnd, hc, h]
    rw [if_neg hc, hend]
    rfl

theorem breaks_append (h : '\r' ∉ front) :
    breaks i (front ++ text) = breaks i front ++ breaks (i + front.length) text := by
  induction front generalizing i with
  | nil => rfl
  | cons c front ih =>
      obtain ⟨hc, hfront⟩ := List.ne_and_not_mem_of_not_mem_cons h
      rw [List.cons_append, breaks_cons (Ne.symm hc), breaks_cons (Ne.symm hc), ih hfront,
        List.append_assoc, List.length_cons, Nat.add_assoc, Nat.add_comm 1]

/-- In a text without carriage returns, the line ends are the line feeds. -/
theorem length_breaks (h : '\r' ∉ text) : (breaks i text).length = text.count '\n' := by
  induction text generalizing i with
  | nil => rfl
  | cons c text ih =>
      obtain ⟨hc, htext⟩ := List.ne_and_not_mem_of_not_mem_cons h
      rw [breaks_cons (Ne.symm hc), List.length_append, ih htext, List.count_cons, Nat.add_comm]
      by_cases hfeed : c = '\n' <;> simp [hfeed]

theorem mem_breaks {span : Span} (h : '\r' ∉ text) (hspan : span ∈ breaks i text) :
    i ≤ span.start ∧ span.start < i + text.length := by
  induction text generalizing i with
  | nil => cases hspan
  | cons c text ih =>
      obtain ⟨hc, htext⟩ := List.ne_and_not_mem_of_not_mem_cons h
      rw [breaks_cons (Ne.symm hc)] at hspan
      rw [List.length_cons]
      rcases List.mem_append.mp hspan with hhere | hlater
      · split at hhere
        next =>
          cases List.mem_singleton.mp hhere
          dsimp only
          omega
        next => cases hhere
      · have := ih htext hlater
        omega

/-- The line ends before an offset are those of the text in front of it. -/
theorem takeWhile_breaks (h : '\r' ∉ text) (hoffset : offset ≤ text.length) :
    (breaks 0 text).takeWhile (·.start < offset) = breaks 0 (text.take offset) := by
  have hfront : '\r' ∉ text.take offset := fun hmem => h (List.mem_of_mem_take hmem)
  have hrest : '\r' ∉ text.drop offset := fun hmem => h (List.mem_of_mem_drop hmem)
  have hlength : (text.take offset).length = offset := List.length_take_of_le hoffset
  have hbefore : ∀ span ∈ breaks 0 (text.take offset), decide (span.start < offset) = true := by
    intro span hspan
    have := (mem_breaks hfront hspan).2
    exact decide_eq_true (by omega)
  have hafter : (breaks offset (text.drop offset)).takeWhile (·.start < offset) = [] := by
    cases hbreaks : breaks offset (text.drop offset) with
    | nil => rfl
    | cons span _ =>
        have := (mem_breaks hrest (hbreaks ▸ List.mem_cons_self)).1
        exact List.takeWhile_cons_of_neg (by simpa using this)
  calc (breaks 0 text).takeWhile (·.start < offset)
    _ = (breaks 0 (text.take offset ++ text.drop offset)).takeWhile (·.start < offset) := by
        rw [List.take_append_drop]
    _ = (breaks 0 (text.take offset) ++ breaks offset (text.drop offset)).takeWhile
          (·.start < offset) := by
        rw [breaks_append hfront, hlength, Nat.zero_add]
    _ = breaks 0 (text.take offset) := by
        rw [List.takeWhile_append_of_pos hbefore, hafter, List.append_nil]

/-! ## The last line -/

/-- A text consists of whole lines, one for each line feed, and of a last line, which has none. -/
structure LastLine (text front line : List Char) : Prop where
  eq : text = front ++ line
  ends : front = [] ∨ ∃ lines, front = lines ++ ['\n']
  unended : '\n' ∉ line

theorem exists_lastLine (text : List Char) : ∃ front line, LastLine text front line := by
  by_cases h : '\n' ∈ text
  · obtain ⟨line, lines, hreverse, hline⟩ :=
      List.eq_append_cons_of_mem (List.mem_reverse.mpr h)
    have htext : text = (lines.reverse ++ ['\n']) ++ line.reverse := by
      rw [← List.reverse_reverse text, hreverse]
      simp
    exact ⟨_, _, htext, .inr ⟨_, rfl⟩, fun hmem => hline (List.mem_reverse.mp hmem)⟩
  · exact ⟨[], text, rfl, .inl rfl, h⟩

theorem LastLine.append {more : List Char} (h : LastLine text front line) (hmore : '\n' ∉ more) :
    LastLine (text ++ more) front (line ++ more) :=
  ⟨by rw [h.eq, List.append_assoc], h.ends, fun hmem =>
    (List.mem_append.mp hmem).elim h.unended hmore⟩

/-- What stands in front of the last line cannot go on in it. -/
theorem LastLine.between_eq_nil {front' line' between : List Char} (h : LastLine text front line)
    (h' : LastLine text front' line') (hfront : front' = front ++ between)
    (hline : line = between ++ line') : between = [] := by
  rcases List.eq_nil_or_concat between with hnil | ⟨rest, c, hbetween⟩
  · exact hnil
  · have hends : front' = (front ++ rest) ++ [c] := by
      rw [hfront, hbetween, List.concat_eq_append, List.append_assoc]
    rcases h'.ends with hempty | ⟨lines, hlines⟩
    · simp [hends] at hempty
    · obtain ⟨-, hc⟩ := List.append_inj' (hends.symm.trans hlines) rfl
      have hmem : c ∈ line := by simp [hline, hbetween]
      exact absurd (List.singleton_inj.mp hc ▸ hmem) h.unended

theorem LastLine.unique {front' line' : List Char} (h : LastLine text front line)
    (h' : LastLine text front' line') : line = line' := by
  rcases List.append_eq_append_iff.mp (h.eq.symm.trans h'.eq) with
    ⟨between, hfront, hline⟩ | ⟨between, hfront, hline⟩
  · rw [hline, h.between_eq_nil h' hfront hline, List.nil_append]
  · rw [hline, h'.between_eq_nil h hfront hline, List.nil_append]

/-! ## Positions -/

/-- The line counts the line feeds in front of the offset, and the column the characters between the
last of them, or the beginning of the text, and the offset. -/
structure Position.IsAt (text : List Char) (offset : Nat) (position : Position) : Prop where
  within : offset ≤ text.length
  line : position.line = 1 + (text.take offset).count '\n'
  column : ∃ front line, LastLine (text.take offset) front line
    ∧ position.column = 1 + line.length

/-- One position comes before another, in the order of reading. -/
def Position.Before (position position' : Position) : Prop :=
  position.line < position'.line
    ∨ position.line = position'.line ∧ position.column < position'.column

/-- The line ends of a text end where its last line begins. -/
theorem getLast?_breaks (h : '\r' ∉ text) (hlast : LastLine text front line) :
    ((breaks 0 text).getLast?.map (·.stop)).getD 0 = front.length := by
  have hline : breaks front.length line = [] := by
    refine List.eq_nil_of_length_eq_zero ?_
    have hreturn : '\r' ∉ line := fun hmem => h (hlast.eq ▸ List.mem_append_right _ hmem)
    rw [length_breaks hreturn]
    exact List.count_eq_zero.mpr hlast.unended
  have hfront : '\r' ∉ front := fun hmem => h (hlast.eq ▸ List.mem_append_left _ hmem)
  rw [hlast.eq, breaks_append hfront, Nat.zero_add, hline, List.append_nil]
  rcases hlast.ends with rfl | ⟨lines, rfl⟩
  · rfl
  · have hlines : '\r' ∉ lines := fun hmem => hfront (List.mem_append_left _ hmem)
    rw [breaks_append hlines, breaks_cons (by decide), if_pos rfl, breaks, List.append_nil,
      List.getLast?_concat, List.length_append]
    simp

/-- **The position of an offset** of a text without carriage returns. -/
theorem isAt_ofOffset (h : '\r' ∉ text) (hoffset : offset ≤ text.length) :
    (Position.ofOffset text offset).IsAt text offset := by
  have hfront : '\r' ∉ text.take offset := fun hmem => h (List.mem_of_mem_take hmem)
  obtain ⟨front, line, hlast⟩ := exists_lastLine (text.take offset)
  have hlength : front.length + line.length = offset := by
    rw [← List.length_append, ← hlast.eq, List.length_take_of_le hoffset]
  refine ⟨hoffset, ?line, front, line, hlast, ?column⟩
  case line =>
    show List.length _ + 1 = _
    rw [takeWhile_breaks h hoffset, length_breaks hfront, Nat.add_comm]
  case column =>
    show offset + 1 - Option.getD _ _ = _
    rw [takeWhile_breaks h hoffset, getLast?_breaks hfront hlast]
    omega

theorem Position.IsAt.unique (h : position.IsAt text offset) (h' : position'.IsAt text offset) :
    position = position' := by
  obtain ⟨front, line, hlast, hcolumn⟩ := h.column
  obtain ⟨front', line', hlast', hcolumn'⟩ := h'.column
  cases hlast.unique hlast'
  cases position
  cases position'
  rw [Position.mk.injEq]
  exact ⟨h.line.trans h'.line.symm, hcolumn.trans hcolumn'.symm⟩

/-- Positions are in the order of the offsets. -/
theorem Position.IsAt.before (h : position.IsAt text offset) (h' : position'.IsAt text offset')
    (hlt : offset < offset') : position.Before position' := by
  obtain ⟨more, hmore⟩ : text.take offset <+: text.take offset' :=
    List.take_prefix_take_left (Nat.le_of_lt hlt)
  obtain ⟨front, line, hlast, hcolumn⟩ := h.column
  obtain ⟨front', line', hlast', hcolumn'⟩ := h'.column
  have hline := h.line
  have hline' := h'.line
  rw [← hmore, List.count_append] at hline'
  by_cases hfeed : '\n' ∈ more
  · have := List.count_pos_iff.mpr hfeed
    exact .inl (by omega)
  · have hcount := List.count_eq_zero.mpr hfeed
    rw [← hmore] at hlast'
    have hextended := hlast'.unique (hlast.append hfeed)
    have hlengths := congrArg List.length hmore
    have hwithin := h.within
    have hwithin' := h'.within
    rw [hextended, List.length_append] at hcolumn'
    rw [List.length_append, List.length_take, List.length_take] at hlengths
    exact .inr ⟨by omega, by omega⟩

theorem Position.Before.asymm (h : position.Before position') : ¬ position'.Before position := by
  rintro (hlt | ⟨heq, hlt⟩)
  · rcases h with h | ⟨h, _⟩ <;> omega
  · rcases h with h | ⟨_, h⟩ <;> omega

theorem Position.IsAt.before_iff (h : position.IsAt text offset)
    (h' : position'.IsAt text offset') : position.Before position' ↔ offset < offset' := by
  refine ⟨fun hbefore => Nat.lt_of_not_le fun hle => ?_, h.before h'⟩
  rcases Nat.lt_or_eq_of_le hle with hlt | rfl
  · exact hbefore.asymm (h'.before h hlt)
  · cases h.unique h'
    exact hbefore.asymm hbefore

theorem Position.IsAt.eq_iff (h : position.IsAt text offset)
    (h' : position'.IsAt text offset') : position = position' ↔ offset = offset' := by
  constructor
  · rintro rfl
    rcases Nat.lt_trichotomy offset offset' with hlt | heq | hlt
    · have hbefore := h.before h' hlt
      exact absurd hbefore hbefore.asymm
    · exact heq
    · have hbefore := h'.before h hlt
      exact absurd hbefore hbefore.asymm
  · rintro rfl
    exact h.unique h'

/-! ## Positions as they are shown -/

theorem comma_not_mem_repr (n : Nat) : ',' ∉ (toString n).toList :=
  fun hmem => absurd (isDigit_of_mem_toString hmem) (by decide)

/-- Lines and columns can be told apart, and be read back. -/
theorem Position.shown_injective
    (h : toString position.line ++ ", column " ++ toString position.column
      = toString position'.line ++ ", column " ++ toString position'.column) :
    position = position' := by
  have hlists := congrArg String.toList h
  have hcolumn : ", column ".toList = ',' :: " column ".toList := by decide
  simp only [String.toList_append, hcolumn, List.append_assoc, List.cons_append] at hlists
  have hafter : ',' ∉ " column ".toList ++ (toString position.column).toList := by
    rw [List.mem_append, not_or]
    exact ⟨by decide, comma_not_mem_repr _⟩
  obtain ⟨hline, -, hrest⟩ :=
    (List.append_cons_inj_of_notMem (comma_not_mem_repr _) hafter).mp hlists
  have hcolumns := List.append_cancel_left hrest
  cases position
  cases position'
  rw [Position.mk.injEq]
  exact ⟨eq_of_toString hline, eq_of_toString hcolumns⟩

end Text

/-! ## Findings -/

open Text (Position)

variable {finding finding' : Finding} {text : List Char} {position position' : Position}
  {definitions : List Definition}

/-- The line that shows a finding names this position. -/
def Finding.ShownAt (finding : Finding) (text : List Char) (position : Position) : Prop :=
  ∀ colored, finding.show colored text
    = Color.red.paint colored "Error:" ++ " " ++ finding.entity
      ++ " (line " ++ toString position.line ++ ", column " ++ toString position.column ++ "): "
      ++ finding.message

theorem Finding.shownAt_ofOffset (h : finding.location ≠ Span.placeholder) :
    finding.ShownAt text (Position.ofOffset text finding.location.start) := by
  intro colored
  rw [Finding.show, Finding.place, if_neg h]
  have hclose : "): " = ")" ++ ": " := by decide
  simp only [hclose, String.append_assoc]

theorem Finding.ShownAt.unique (h : finding.ShownAt text position)
    (h' : finding.ShownAt text position') : position = position' := by
  have heq := (h false).symm.trans (h' false)
  simp only [String.append_assoc, String.append_right_inj] at heq
  simp only [← String.append_assoc, String.append_left_inj] at heq
  exact Text.Position.shown_injective heq

theorem location_of_mem_checkNames (h : finding ∈ checkNames definitions) :
    finding.location = Span.placeholder := by
  rw [checkNames_eq_map] at h
  obtain ⟨name, -, rfl⟩ := List.mem_map.mp h
  rfl

/-- What is found outside the placeholder is inside the text. -/
theorem start_le_of_mem_validate (hparse : Schema.parse text = .ok definitions)
    (hfound : finding ∈ validate definitions) (hplaced : finding.location ≠ Span.placeholder) :
    finding.location.start ≤ text.length := by
  rw [validate, List.mem_append, List.mem_flatMap] at hfound
  rcases hfound with ⟨definition, hmem, hfound⟩ | hnames
  · obtain ⟨hproper, hstop⟩ := place_of_parse_eq_ok hparse hmem hfound
    exact Nat.le_trans (Nat.le_of_lt hproper) hstop
  · exact absurd (location_of_mem_checkNames hnames) hplaced

theorem exists_stderr_lineOutcome (colored : Bool) (path : Path) (text : List Char)
    (findings : List Finding) :
    ∃ after, (Command.lineOutcome colored path text findings).stderr
      = String.join (findings.map fun finding => finding.show colored text ++ "\n") ++ after := by
  cases findings with
  | nil => exact ⟨"", rfl⟩
  | cons finding rest => exact ⟨_, rfl⟩

/-- A check in lines writes the line of each finding, in order. -/
theorem exists_stderr_checkLocated {tree : FileTree} {path : Path} (hholds : tree.Holds path text)
    (hparse : Schema.parse text = .ok definitions) (setting : Command.Setting) (argument : String)
    (verbose : Bool) (log : List Command.LogEntry) :
    ∃ before after,
      (Command.checkLocated tree.files setting ⟨argument, false, verbose⟩ ⟨path, log⟩).stderr
        = before ++ String.join ((validate definitions).map fun finding =>
            finding.show setting.colored text ++ "\n") ++ after := by
  have hvalidate : Schema.validateFile tree.files path = .ok (validate definitions) :=
    validateFile_eq_ok_iff.mpr ⟨text, definitions, hholds, hparse, rfl⟩
  obtain ⟨text', entries, hload, houtcome⟩ :=
    Command.checkLocated_of_validateFile_eq_ok setting ⟨argument, false, verbose⟩ ⟨path, log⟩
      hvalidate
  cases hholds.unique (load_eq_ok_iff.mp hload)
  obtain ⟨after, hlines⟩ :=
    exists_stderr_lineOutcome setting.colored path text (validate definitions)
  refine ⟨Command.logLines verbose entries, after, ?_⟩
  rw [houtcome]
  show _ ++ (Command.lineOutcome setting.colored path text (validate definitions)).stderr = _
  rw [hlines, String.append_assoc]

/-- **The position that is shown is the true one.**  The check of a file that holds a schema writes a
line for each finding, and the line of one that is not at the placeholder has the position of its
offset.  So two of these lines have the same position only if the offsets are the same, and otherwise
their positions are in the order of the offsets. -/
theorem findings_shownAt {tree : FileTree} {path : Path} (hholds : tree.Holds path text)
    (hparse : Schema.parse text = .ok definitions) :
    (∀ setting argument verbose log, ∃ before after,
        (Command.checkLocated tree.files setting ⟨argument, false, verbose⟩ ⟨path, log⟩).stderr
          = before ++ String.join ((validate definitions).map fun finding =>
              finding.show setting.colored text ++ "\n") ++ after)
      ∧ (∀ finding ∈ validate definitions, finding.location ≠ Span.placeholder →
          ∃ position : Position, finding.ShownAt text position
            ∧ position.IsAt text finding.location.start)
      ∧ ∀ finding ∈ validate definitions, ∀ finding' ∈ validate definitions,
          finding.location ≠ Span.placeholder → finding'.location ≠ Span.placeholder →
          ∀ position position', finding.ShownAt text position → finding'.ShownAt text position' →
            (position = position' ↔ finding.location.start = finding'.location.start)
              ∧ (position.Before position'
                ↔ finding.location.start < finding'.location.start) := by
  obtain ⟨written, -, hfold⟩ := id hholds
  have hreturn : '\r' ∉ text := hfold ▸ Text.not_mem_foldLineEnds written
  have hisAt : ∀ finding ∈ validate definitions, finding.location ≠ Span.placeholder →
      (Position.ofOffset text finding.location.start).IsAt text finding.location.start :=
    fun finding hfound hplaced =>
      Text.isAt_ofOffset hreturn (start_le_of_mem_validate hparse hfound hplaced)
  refine ⟨fun setting argument verbose log =>
    exists_stderr_checkLocated hholds hparse setting argument verbose log, ?shown, ?order⟩
  case shown =>
    intro finding hfound hplaced
    exact ⟨_, Finding.shownAt_ofOffset hplaced, hisAt finding hfound hplaced⟩
  case order =>
    intro finding hfound finding' hfound' hplaced hplaced' position position' hshown hshown'
    cases hshown.unique (Finding.shownAt_ofOffset hplaced)
    cases hshown'.unique (Finding.shownAt_ofOffset hplaced')
    have hat := hisAt finding hfound hplaced
    have hat' := hisAt finding' hfound' hplaced'
    exact ⟨hat.eq_iff hat', hat.before_iff hat'⟩

/-- A file with a byte order mark, line ends of three kinds, and a separator that is none. -/
def foreignLines : FileTree :=
  .directory
    [("schema.graphql", .file (Text.Utf8.encode (
      "\ufeff# \u2028\r\n\rtype Pool \x7b\n  id: ID!\r\n\x7d type Row @entity \x7b id: ID \x7d").toList))]

/-- The text that this file holds. -/
def foldedLines : List Char :=
  "\ufeff# \u2028\n\ntype Pool \x7b\n  id: ID!\n\x7d type Row @entity \x7b id: ID \x7d".toList

theorem findings_shownAt_foreignLines :
    ∃ definitions finding finding',
      foreignLines.Holds ⟨["schema.graphql"]⟩ foldedLines
        ∧ Schema.parse foldedLines = .ok definitions
        ∧ validate definitions = [finding, finding']
        ∧ finding.location.start = 6
        ∧ finding.ShownAt foldedLines ⟨3, 1⟩
        ∧ finding'.location.start = 49
        ∧ finding'.ShownAt foldedLines ⟨5, 22⟩ := by
  have hholds : foreignLines.Holds ⟨["schema.graphql"]⟩ foldedLines :=
    ⟨_, rfl, by decide +kernel⟩
  have hfirst : (⟨3, 1⟩ : Position).IsAt foldedLines 6 :=
    ⟨by decide +kernel, by decide +kernel, _, [],
      ⟨(List.append_nil _).symm, .inr ⟨foldedLines.take 5, by decide +kernel⟩, by decide⟩, rfl⟩
  have hsecond : (⟨5, 22⟩ : Position).IsAt foldedLines 49 :=
    ⟨by decide +kernel, by decide +kernel, foldedLines.take 28,
      "\x7d type Row @entity \x7b ".toList,
      ⟨by decide +kernel, .inr ⟨foldedLines.take 27, by decide +kernel⟩, by decide⟩, rfl⟩
  have hplaces : (Schema.parse foldedLines).toOption.map
      (fun definitions => (validate definitions).map (·.location)) = some [⟨6, 29⟩, ⟨49, 55⟩] := by
    decide +kernel
  cases hparse : Schema.parse foldedLines with
  | error error =>
      rw [hparse] at hplaces
      cases hplaces
  | ok definitions =>
      rw [hparse] at hplaces
      obtain ⟨finding, rest, hfindings, hlocation, hrest⟩ :=
        List.map_eq_cons_iff.mp (Option.some.inj hplaces)
      obtain ⟨finding', last, rfl, hlocation', hlast⟩ := List.map_eq_cons_iff.mp hrest
      cases List.map_eq_nil_iff.mp hlast
      obtain ⟨-, hshown, -⟩ := findings_shownAt hholds hparse
      obtain ⟨position, hposition, hat⟩ := hshown finding (by simp [hfindings])
        (by rw [hlocation]; decide)
      obtain ⟨position', hposition', hat'⟩ := hshown finding' (by simp [hfindings])
        (by rw [hlocation']; decide)
      rw [hlocation] at hat
      rw [hlocation'] at hat'
      cases hat.unique hfirst
      cases hat'.unique hsecond
      exact ⟨definitions, finding, finding', hholds, rfl, hfindings, by rw [hlocation],
        hposition, by rw [hlocation'], hposition'⟩

end EntitySchema
