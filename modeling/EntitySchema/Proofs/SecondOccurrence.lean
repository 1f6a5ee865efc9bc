/-
# `EntitySchema.Proofs.SecondOccurrence` — when the scan reports a name

The scan for names that come up again reports a name where it comes up for the second time, and so
it reports the names in the order of these places.  What carries the proof is what the two lists of
the scan stand for (`Recalls`): of the names read so far, those that came up, and those that came up
twice.  A name is reported exactly when it is in the first list and not yet in the second, that is,
when it came up once before.

A name has one second place at most.  So there is only one list of findings that reports every
repeated name once, in the order of the second places, and this is the list that the scan gives
(`checkCollisions_eq_iff_reportsRepetitions`).
-/
import EntitySchema.Proofs.Repetition
import Mathlib.Data.List.Nodup

namespace EntitySchema

/-- `SecondAt names name place`: in `names`, the name comes up at `place`, and once before it. -/
def SecondAt (names : List String) (name : String) (place : Nat) : Prop :=
  names[place]? = some name ∧ (names.take place).count name = 1

/-- The name `earlier` comes up for the second time before `later` does. -/
def RepeatsBefore (names : List String) (earlier later : String) : Prop :=
  ∃ place place', SecondAt names earlier place ∧ SecondAt names later place' ∧ place < place'

/-- What a report on the repetitions of names has to be. -/
structure ReportsRepetitions (names : List String) (findings : List Finding) : Prop where
  /-- Every finding is about a name, and belongs to no single place. -/
  form : ∀ finding ∈ findings,
    finding = ⟨Span.placeholder, finding.entity, .duplicateName finding.entity⟩
  /-- The names that occur at least twice are reported, and no others. -/
  repeated : ∀ name, name ∈ findings.map (·.entity) ↔ 2 ≤ names.count name
  /-- However often a name occurs, it is reported once. -/
  once : (findings.map (·.entity)).Nodup
  /-- The names are reported in the order of their second places. -/
  order : (findings.map (·.entity)).Pairwise (RepeatsBefore names)

variable {names before rest seen reported : List String} {name head : String} {place place' : Nat}

/-! ## Second places -/

/-- Behind the second place of a name, the name has come up twice. -/
theorem SecondAt.two_le_count (h : SecondAt names name place) (hlt : place < place') :
    2 ≤ (names.take place').count name := by
  have htwice : (names.take (place + 1)).count name = 2 := by
    rw [List.take_add_one, h.1, List.count_append, h.2, Option.toList_some, List.count_singleton,
      if_pos (beq_self_eq_true name)]
  rw [← htwice]
  exact (List.take_sublist_take_left hlt).count_le name

theorem SecondAt.unique (h : SecondAt names name place) (h' : SecondAt names name place') :
    place = place' := by
  rcases Nat.lt_trichotomy place place' with hlt | heq | hgt
  · have htwice := h.two_le_count hlt
    rw [h'.2] at htwice
    omega
  · exact heq
  · have htwice := h'.two_le_count hgt
    rw [h.2] at htwice
    omega

theorem RepeatsBefore.asymm {earlier later : String} (h : RepeatsBefore names earlier later) :
    ¬ RepeatsBefore names later earlier := by
  rintro ⟨place₂', place₁', hlater', hearlier', hlt'⟩
  obtain ⟨place₁, place₂, hearlier, hlater, hlt⟩ := h
  cases hearlier.unique hearlier'
  cases hlater.unique hlater'
  omega

/-- The order of second places leaves one way to list some names. -/
theorem eq_of_pairwise_repeatsBefore {left right : List String}
    (hleft : left.Pairwise (RepeatsBefore names)) (hright : right.Pairwise (RepeatsBefore names))
    (honce : left.Nodup) (honce' : right.Nodup) (hmem : ∀ name, name ∈ left ↔ name ∈ right) :
    left = right := by
  have hperm : left.Perm right := (List.perm_ext_iff_of_nodup honce honce').mpr hmem
  refine List.Perm.eq_of_pairwise ?_ hleft hright hperm
  intro earlier later _ _ hbefore hafter
  exact absurd hafter hbefore.asymm

/-! ## The invariant of the scan

A name that is read changes how often it has come up, and so it matters to one bound only: the one
that it reaches. -/

theorem count_snoc (before : List String) (head name : String) :
    (before ++ [head]).count name = before.count name + if head = name then 1 else 0 := by
  rw [List.count_append, List.count_singleton]
  simp only [beq_iff_eq]

theorem le_count_snoc_of_ne {bound : Nat} (h : before.count head + 1 ≠ bound) :
    bound ≤ (before ++ [head]).count name ↔ bound ≤ before.count name := by
  rw [count_snoc]
  split
  next heq =>
    subst heq
    omega
  next => rfl

theorem le_count_snoc_of_eq {bound : Nat} (h : before.count head + 1 = bound) :
    bound ≤ (before ++ [head]).count name ↔ name = head ∨ bound ≤ before.count name := by
  rw [count_snoc]
  split
  next heq =>
    subst heq
    exact ⟨fun _ => .inl rfl, fun _ => Nat.le_of_eq h.symm⟩
  next hne => exact (or_iff_right (Ne.symm hne)).symm

/-- The lists of the scan after it has read `before`: the names that came up, and those that came
up twice. -/
structure Recalls (seen reported before : List String) : Prop where
  seen : ∀ name, name ∈ seen ↔ 1 ≤ before.count name
  reported : ∀ name, name ∈ reported ↔ 2 ≤ before.count name

namespace Recalls

theorem nil : Recalls [] [] [] :=
  ⟨fun _ => by simp, fun _ => by simp⟩

theorem count_eq_zero (h : Recalls seen reported before) (hseen : head ∉ seen) :
    before.count head = 0 := by
  have hnone : ¬ 1 ≤ before.count head := mt (h.seen head).mpr hseen
  omega

theorem count_eq_one (h : Recalls seen reported before) (hseen : head ∈ seen)
    (hreported : head ∉ reported) : before.count head = 1 := by
  have hsome : 1 ≤ before.count head := (h.seen head).mp hseen
  have hnotTwice : ¬ 2 ≤ before.count head := mt (h.reported head).mpr hreported
  omega

theorem snoc_new (h : Recalls seen reported before) (hseen : head ∉ seen) :
    Recalls (head :: seen) reported (before ++ [head]) := by
  have hcount : before.count head = 0 := h.count_eq_zero hseen
  refine ⟨fun name => ?_, fun name => ?_⟩
  · rw [List.mem_cons, h.seen, le_count_snoc_of_eq (by omega)]
  · rw [h.reported, le_count_snoc_of_ne (by omega)]

theorem snoc_second (h : Recalls seen reported before) (hseen : head ∈ seen)
    (hreported : head ∉ reported) : Recalls seen (head :: reported) (before ++ [head]) := by
  have hcount : before.count head = 1 := h.count_eq_one hseen hreported
  refine ⟨fun name => ?_, fun name => ?_⟩
  · rw [h.seen, le_count_snoc_of_ne (by omega)]
  · rw [List.mem_cons, h.reported, le_count_snoc_of_eq (by omega)]

theorem snoc_reported (h : Recalls seen reported before) (hreported : head ∈ reported) :
    Recalls seen reported (before ++ [head]) := by
  have hcount : 2 ≤ before.count head := (h.reported head).mp hreported
  refine ⟨fun name => ?_, fun name => ?_⟩
  · rw [h.seen, le_count_snoc_of_ne (by omega)]
  · rw [h.reported, le_count_snoc_of_ne (by omega)]

/-- What is reported in this step is at its second place. -/
theorem secondAt (h : Recalls seen reported before) (hseen : head ∈ seen)
    (hreported : head ∉ reported) : SecondAt (before ++ head :: rest) head before.length := by
  refine ⟨?_, ?_⟩
  · rw [List.getElem?_append_right (Nat.le_refl _), Nat.sub_self, List.getElem?_cons_zero]
  · rw [List.take_left]
    exact h.count_eq_one hseen hreported

/-- What is reported from some point on has its second place there. -/
theorem exists_secondAt (h : Recalls seen reported before)
    (hmem : name ∈ repeatedFrom seen reported rest) :
    ∃ place, before.length ≤ place ∧ SecondAt (before ++ rest) name place := by
  induction rest generalizing seen reported before with
  | nil => cases hmem
  | cons head rest ih =>
      have hlater {seen reported : List String} (hnext : Recalls seen reported (before ++ [head]))
          (hmem : name ∈ repeatedFrom seen reported rest) :
          ∃ place, before.length ≤ place ∧ SecondAt (before ++ head :: rest) name place := by
        obtain ⟨place, hle, hsecond⟩ := ih hnext hmem
        rw [List.length_append, List.length_singleton] at hle
        rw [List.append_assoc, List.singleton_append] at hsecond
        exact ⟨place, by omega, hsecond⟩
      by_cases hseen : head ∈ seen
      · by_cases hreported : head ∈ reported
        · rw [repeatedFrom_cons_of_reported hseen hreported] at hmem
          exact hlater (h.snoc_reported hreported) hmem
        · rw [repeatedFrom_cons_of_mem hseen hreported] at hmem
          rcases List.mem_cons.mp hmem with rfl | hmem
          · exact ⟨before.length, Nat.le_refl _, h.secondAt hseen hreported⟩
          · exact hlater (h.snoc_second hseen hreported) hmem
      · rw [repeatedFrom_cons_of_not_mem hseen] at hmem
        exact hlater (h.snoc_new hseen) hmem

/-- What is reported is reported in the order of the second places. -/
theorem pairwise_repeatedFrom (h : Recalls seen reported before) :
    (repeatedFrom seen reported rest).Pairwise (RepeatsBefore (before ++ rest)) := by
  induction rest generalizing seen reported before with
  | nil => exact .nil
  | cons head rest ih =>
      have happend : before ++ [head] ++ rest = before ++ head :: rest := by
        rw [List.append_assoc, List.singleton_append]
      by_cases hseen : head ∈ seen
      · by_cases hreported : head ∈ reported
        · rw [repeatedFrom_cons_of_reported hseen hreported, ← happend]
          exact ih (h.snoc_reported hreported)
        · have hnext : Recalls seen (head :: reported) (before ++ [head]) :=
            h.snoc_second hseen hreported
          rw [repeatedFrom_cons_of_mem hseen hreported, List.pairwise_cons]
          refine ⟨fun later hlater => ?_, happend ▸ ih hnext⟩
          obtain ⟨place', hle, hsecond⟩ := hnext.exists_secondAt hlater
          rw [List.length_append, List.length_singleton] at hle
          exact ⟨before.length, place', h.secondAt hseen hreported, happend ▸ hsecond, hle⟩
      · rw [repeatedFrom_cons_of_not_mem hseen, ← happend]
        exact ih (h.snoc_new hseen)

end Recalls

/-! ## The report -/

theorem pairwise_repeatedNames : (repeatedNames names).Pairwise (RepeatsBefore names) :=
  Recalls.nil.pairwise_repeatedFrom

theorem entity_collision (names : List String) :
    (names.map collision).map (·.entity) = names := by
  rw [List.map_map]
  exact List.map_id' names

theorem reportsRepetitions_collisions :
    ReportsRepetitions names ((repeatedNames names).map collision) where
  form := by
    intro finding hmem
    obtain ⟨name, _, rfl⟩ := List.mem_map.mp hmem
    rfl
  repeated name := by
    rw [entity_collision, mem_repeatedNames, List.duplicate_iff_two_le_count]
  once := by
    rw [entity_collision]
    exact nodup_repeatedFrom
  order := by
    rw [entity_collision]
    exact pairwise_repeatedNames

/-- There is one report only. -/
theorem ReportsRepetitions.unique {findings findings' : List Finding}
    (h : ReportsRepetitions names findings) (h' : ReportsRepetitions names findings') :
    findings = findings' := by
  have hmap {findings : List Finding} (h : ReportsRepetitions names findings) :
      (findings.map (·.entity)).map collision = findings := by
    rw [List.map_map]
    refine (List.map_congr_left fun finding hmem => ?_).trans (List.map_id' findings)
    exact (h.form finding hmem).symm
  have hentities : findings.map (·.entity) = findings'.map (·.entity) := by
    refine eq_of_pairwise_repeatsBefore h.order h'.order h.once h'.once fun name => ?_
    rw [h.repeated, h'.repeated]
  rw [← hmap h, hentities, hmap h']

/-- **What the rule on names reports.**  The names that occur at least twice among the local and the
imported names, each once and at the placeholder, in the order of their second places: there is one
such list, and it is the list reported.  So nothing counts but the two lists of names put together,
and nothing is reported exactly if these repeat no name. -/
theorem checkCollisions_eq_iff_reportsRepetitions (localTypes importedTypes : List String) :
    (∀ findings, checkCollisions localTypes importedTypes = findings
        ↔ ReportsRepetitions (localTypes ++ importedTypes) findings)
      ∧ (∀ localTypes' importedTypes' : List String,
          localTypes' ++ importedTypes' = localTypes ++ importedTypes →
            checkCollisions localTypes' importedTypes' = checkCollisions localTypes importedTypes)
      ∧ (checkCollisions localTypes importedTypes = [] ↔ (localTypes ++ importedTypes).Nodup) := by
  refine ⟨fun findings => ⟨?_, ?_⟩, ?_, ?_⟩
  · rintro rfl
    exact reportsRepetitions_collisions
  · intro h
    exact reportsRepetitions_collisions.unique h
  · intro localTypes' importedTypes' happend
    rw [checkCollisions, checkCollisions, happend]
  · rw [checkCollisions, List.map_eq_nil_iff, repeatedNames_eq_nil_iff]

/-- The names come in the order of their second places, not of their first. -/
example : repeatedNames ["Swap", "Pool", "Pool", "Swap", "Pool"] = ["Pool", "Swap"] := by decide

end EntitySchema
