/-
# `EntitySchema.Proofs.Repetition` — which names the scan reports

The scan for names that come up again goes from left to right and keeps two lists, of the names it
has seen and of those it has reported.  Started with any two lists, it reports the names that are
not yet reported and that either come up after having been seen or occur twice in what is left
(`mem_repeatedFrom`), and it reports none of them twice (`nodup_repeatedFrom`).  Started with
nothing, it reports the names that occur at least twice.  So a name that comes up once changes
nothing, another order of the names gives another order of what is reported and no more, and other
names, distinct ones for distinct ones, give the other names of what is reported.
-/
import EntitySchema.Validation
import Mathlib.Data.List.Duplicate

namespace EntitySchema

variable {names rest seen reported : List String} {name head : String}

/-! ## One step of the scan -/

theorem repeatedFrom_cons_of_not_mem (hseen : head ∉ seen) :
    repeatedFrom seen reported (head :: rest) = repeatedFrom (head :: seen) reported rest :=
  if_neg fun h => hseen (List.contains_iff_mem.mp h)

theorem repeatedFrom_cons_of_mem (hseen : head ∈ seen) (hreported : head ∉ reported) :
    repeatedFrom seen reported (head :: rest)
      = head :: repeatedFrom seen (head :: reported) rest := by
  rw [repeatedFrom, if_pos (List.contains_iff_mem.mpr hseen),
    if_neg fun h => hreported (List.contains_iff_mem.mp h)]

theorem repeatedFrom_cons_of_reported (hseen : head ∈ seen) (hreported : head ∈ reported) :
    repeatedFrom seen reported (head :: rest) = repeatedFrom seen reported rest := by
  rw [repeatedFrom, if_pos (List.contains_iff_mem.mpr hseen),
    if_pos (List.contains_iff_mem.mpr hreported)]

/-! ## Which names -/

theorem mem_repeatedFrom :
    name ∈ repeatedFrom seen reported names
      ↔ name ∉ reported ∧ (name ∈ seen ∧ name ∈ names ∨ List.Duplicate name names) := by
  induction names generalizing seen reported with
  | nil => simp [repeatedFrom, List.not_duplicate_nil]
  | cons head rest ih =>
      have htwice : List.Duplicate name rest → name ∈ rest := List.Duplicate.mem
      rw [List.duplicate_cons_iff, List.mem_cons]
      by_cases hseen : head ∈ seen
      · by_cases hreported : head ∈ reported
        · rw [repeatedFrom_cons_of_reported hseen hreported, ih]
          grind
        · rw [repeatedFrom_cons_of_mem hseen hreported, List.mem_cons, ih, List.mem_cons]
          grind
      · rw [repeatedFrom_cons_of_not_mem hseen, ih, List.mem_cons]
        grind

theorem mem_repeatedNames : name ∈ repeatedNames names ↔ List.Duplicate name names := by
  rw [repeatedNames, mem_repeatedFrom]
  simp only [List.not_mem_nil, not_false_eq_true, true_and, false_and, false_or]

/-- What is reported from some point on has not been reported before. -/
theorem nodup_repeatedFrom : (repeatedFrom seen reported names).Nodup := by
  induction names generalizing seen reported with
  | nil => exact List.nodup_nil
  | cons head rest ih =>
      by_cases hseen : head ∈ seen
      · by_cases hreported : head ∈ reported
        · rw [repeatedFrom_cons_of_reported hseen hreported]
          exact ih
        · rw [repeatedFrom_cons_of_mem hseen hreported]
          refine List.nodup_cons.mpr ⟨fun h => ?_, ih⟩
          exact (mem_repeatedFrom.mp h).1 List.mem_cons_self
      · rw [repeatedFrom_cons_of_not_mem hseen]
        exact ih

/-- Nothing is reported exactly if no name occurs twice. -/
theorem repeatedNames_eq_nil_iff : repeatedNames names = [] ↔ names.Nodup := by
  rw [List.eq_nil_iff_forall_not_mem, List.nodup_iff_forall_not_duplicate]
  exact forall_congr' fun _ => not_congr mem_repeatedNames

/-! ## Names that come up once -/

/-- Of the names seen, only those still to come count. -/
theorem repeatedFrom_congr {seen' : List String}
    (h : ∀ name ∈ names, name ∈ seen ↔ name ∈ seen') :
    repeatedFrom seen reported names = repeatedFrom seen' reported names := by
  induction names generalizing seen seen' reported with
  | nil => rfl
  | cons head rest ih =>
      have hhead := h head List.mem_cons_self
      have hrest : ∀ name ∈ rest, name ∈ seen ↔ name ∈ seen' :=
        fun name hname => h name (List.mem_cons_of_mem _ hname)
      by_cases hseen : head ∈ seen
      · have hseen' := hhead.mp hseen
        by_cases hreported : head ∈ reported
        · rw [repeatedFrom_cons_of_reported hseen hreported,
            repeatedFrom_cons_of_reported hseen' hreported, ih hrest]
        · rw [repeatedFrom_cons_of_mem hseen hreported, repeatedFrom_cons_of_mem hseen' hreported,
            ih hrest]
      · rw [repeatedFrom_cons_of_not_mem hseen, repeatedFrom_cons_of_not_mem (mt hhead.mpr hseen)]
        refine ih fun name hname => ?_
        rw [List.mem_cons, List.mem_cons, hrest name hname]

theorem repeatedFrom_insert {before after : List String} (hseen : name ∉ seen)
    (hbefore : name ∉ before) (hafter : name ∉ after) :
    repeatedFrom seen reported (before ++ name :: after)
      = repeatedFrom seen reported (before ++ after) := by
  induction before generalizing seen reported with
  | nil =>
      rw [List.nil_append, List.nil_append, repeatedFrom_cons_of_not_mem hseen]
      refine repeatedFrom_congr fun other hother => ?_
      exact List.mem_cons.trans (or_iff_right fun h => hafter (h ▸ hother))
  | cons head rest ih =>
      have hne : name ≠ head := List.ne_of_not_mem_cons hbefore
      have hrest : name ∉ rest := List.not_mem_of_not_mem_cons hbefore
      rw [List.cons_append, List.cons_append]
      by_cases hhead : head ∈ seen
      · by_cases hreported : head ∈ reported
        · rw [repeatedFrom_cons_of_reported hhead hreported,
            repeatedFrom_cons_of_reported hhead hreported, ih hseen hrest]
        · rw [repeatedFrom_cons_of_mem hhead hreported, repeatedFrom_cons_of_mem hhead hreported,
            ih hseen hrest]
      · rw [repeatedFrom_cons_of_not_mem hhead, repeatedFrom_cons_of_not_mem hhead]
        exact ih (List.not_mem_cons_of_ne_of_not_mem hne hseen) hrest

/-- A name that occurs nowhere else can be put anywhere. -/
theorem repeatedNames_insert {before after : List String} (hbefore : name ∉ before)
    (hafter : name ∉ after) :
    repeatedNames (before ++ name :: after) = repeatedNames (before ++ after) :=
  repeatedFrom_insert List.not_mem_nil hbefore hafter

/-! ## Another order and other names -/

/-- Whether a name is reported depends on how often it occurs, and not on where. -/
theorem repeatedNames_perm {permuted : List String} (h : permuted.Perm names) :
    (repeatedNames permuted).Perm (repeatedNames names) := by
  refine (List.perm_ext_iff_of_nodup nodup_repeatedFrom nodup_repeatedFrom).mpr fun name => ?_
  rw [← repeatedNames, ← repeatedNames, mem_repeatedNames, mem_repeatedNames,
    List.duplicate_iff_two_le_count, List.duplicate_iff_two_le_count, h.count_eq]

theorem repeatedFrom_map {r : String → String} (hr : Function.Injective r)
    (seen reported : List String) :
    repeatedFrom (seen.map r) (reported.map r) (names.map r)
      = (repeatedFrom seen reported names).map r := by
  have hmem {l : List String} {name : String} : r name ∈ l.map r ↔ name ∈ l :=
    List.mem_map_of_injective hr
  induction names generalizing seen reported with
  | nil => rfl
  | cons head rest ih =>
      rw [List.map_cons]
      by_cases hseen : head ∈ seen
      · by_cases hreported : head ∈ reported
        · rw [repeatedFrom_cons_of_reported hseen hreported,
            repeatedFrom_cons_of_reported (hmem.mpr hseen) (hmem.mpr hreported), ih]
        · rw [repeatedFrom_cons_of_mem hseen hreported,
            repeatedFrom_cons_of_mem (hmem.mpr hseen) (mt hmem.mp hreported), ← List.map_cons, ih,
            List.map_cons]
      · rw [repeatedFrom_cons_of_not_mem hseen, repeatedFrom_cons_of_not_mem (mt hmem.mp hseen),
          ← List.map_cons, ih]

/-- The scan compares names, and does nothing else with them. -/
theorem repeatedNames_map {r : String → String} (hr : Function.Injective r) :
    repeatedNames (names.map r) = (repeatedNames names).map r :=
  repeatedFrom_map hr [] []

end EntitySchema
