/-
# `EntitySchema.Proofs.PlainLines` — findings shown without a position

The line of a finding has no position if the finding is at the placeholder, a span like any other
and at an offset where something may well be found.  But the placeholder is empty, and what is found
in a definition that has been read is at a node of it, whose span is not.  So it is only the
findings about names that are shown without.
-/
import EntitySchema.Proofs.Positions

namespace EntitySchema

variable {finding : Finding} {text : List Char} {colored : Bool} {definitions : List Definition}

/-- The line of a finding without a position. -/
def Finding.plainLine (finding : Finding) (colored : Bool) : String :=
  Color.red.paint colored "Error:" ++ " " ++ finding.entity ++ ": " ++ finding.message

theorem Finding.place_eq_empty_iff :
    finding.place text = "" ↔ finding.location = Span.placeholder := by
  rw [Finding.place]
  split
  next h => exact iff_of_true rfl h
  next h =>
    refine iff_of_false (fun hempty => ?_) h
    have hlength := congrArg String.length hempty
    simp only [String.length_append] at hlength
    exact absurd hlength (by simp)

theorem Finding.show_eq_plainLine_iff :
    finding.show colored text = finding.plainLine colored
      ↔ finding.location = Span.placeholder := by
  have hcancel {before place : String} : before ++ place = before ↔ place = "" :=
    ⟨fun h => (String.append_right_inj before).mp (h.trans String.append_empty.symm),
      fun h => by rw [h, String.append_empty]⟩
  rw [← Finding.place_eq_empty_iff, Finding.show, Finding.plainLine, String.append_left_inj,
    String.append_left_inj]
  exact hcancel

theorem location_ne_placeholder (hparse : Schema.parse text = .ok definitions)
    (h : finding ∈ definitions.flatMap (checkDefinition definitions)) :
    finding.location ≠ Span.placeholder := by
  obtain ⟨definition, hmem, hfound⟩ := List.mem_flatMap.mp h
  exact Span.ne_placeholder (place_of_parse_eq_ok hparse hmem hfound).1

/-- What is found is at the placeholder exactly if it is about names. -/
theorem location_eq_placeholder_iff (hparse : Schema.parse text = .ok definitions)
    (h : finding ∈ validate definitions) :
    finding.location = Span.placeholder ↔ finding ∈ checkNames definitions := by
  refine ⟨fun hplace => ?_, location_of_mem_checkNames⟩
  rcases List.mem_append.mp h with hblock | hnames
  · exact absurd hplace (location_ne_placeholder hparse hblock)
  · exact hnames

/-- **Only collisions are shown without a position.**  Among the lines of what is found in a schema,
those without a position are those of the findings about names, each as often as it is found; and
every other line has a position. -/
theorem plainLines_iff_collisions (hparse : Schema.parse text = .ok definitions) (colored : Bool) :
    (validate definitions).filter
        (fun finding => decide (finding.show colored text = finding.plainLine colored))
      = checkNames definitions
      ∧ ∀ finding ∈ validate definitions,
        (finding.show colored text = finding.plainLine colored
            ↔ finding ∈ checkNames definitions)
          ∧ (finding ∉ checkNames definitions → ∃ position, finding.ShownAt text position) := by
  refine ⟨?lines, fun finding hfound => ⟨?plain, fun hnot => ?placed⟩⟩
  case lines =>
    have hblocks : (definitions.flatMap (checkDefinition definitions)).filter
        (fun finding => decide (finding.show colored text = finding.plainLine colored)) = [] := by
      refine List.filter_eq_nil_iff.mpr fun finding hfound hplain => ?_
      exact location_ne_placeholder hparse hfound
        (Finding.show_eq_plainLine_iff.mp (of_decide_eq_true hplain))
    have hnames : (checkNames definitions).filter
        (fun finding => decide (finding.show colored text = finding.plainLine colored))
          = checkNames definitions :=
      List.filter_eq_self.mpr fun finding hfound =>
        decide_eq_true (Finding.show_eq_plainLine_iff.mpr (location_of_mem_checkNames hfound))
    rw [validate, List.filter_append, hblocks, hnames, List.nil_append]
  case plain => rw [Finding.show_eq_plainLine_iff, location_eq_placeholder_iff hparse hfound]
  case placed =>
    have hplace := mt (location_eq_placeholder_iff hparse hfound).mp hnot
    exact ⟨_, Finding.shownAt_ofOffset hplace⟩

/-- A collision, and a type with something to find at the offset of the placeholder. -/
def doubleName : List Char := " type A enum A \x7b B \x7d".toList

theorem plainLines_iff_collisions_doubleName :
    ∃ definitions, Schema.parse doubleName = .ok definitions
      ∧ (validate definitions).map (·.location) = [⟨1, 7⟩, ⟨1, 7⟩, ⟨1, 1⟩]
      ∧ ((validate definitions).filter
          fun finding => decide (finding.show false doubleName = finding.plainLine false)).map
            (·.plainLine false)
        = ["Error: A: Type 'A' is defined more than once"] := by
  have hfound : (Schema.parse doubleName).toOption.map
        (fun definitions => ((validate definitions).map (·.location),
          (checkNames definitions).map (·.plainLine false)))
      = some ([⟨1, 7⟩, ⟨1, 7⟩, ⟨1, 1⟩], ["Error: A: Type 'A' is defined more than once"]) := by
    decide +kernel
  cases hparse : Schema.parse doubleName with
  | error error =>
      rw [hparse] at hfound
      cases hfound
  | ok definitions =>
      rw [hparse] at hfound
      obtain ⟨hlocations, hcollisions⟩ := Prod.mk.inj (Option.some.inj hfound)
      obtain ⟨hlines, -⟩ := plainLines_iff_collisions hparse false
      exact ⟨definitions, rfl, hlocations, by rw [hlines]; exact hcollisions⟩

end EntitySchema
