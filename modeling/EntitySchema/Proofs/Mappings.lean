/-
# `EntitySchema.Proofs.Mappings` — what a mapping says under a name

A mapping is asked for the value of a string as a key, and of several entries with this key the last
one counts.  `Says` and `Silent` state this without a search.

Who asks a mapping for a few names only cannot tell it from many others.  `Varies` has every step
that leads from a mapping to such another one: an entry more whose key is none of the names, be it a
string or not; two entries with different keys in the other order; and at a name another value that
comes to the same for whoever asks.  No step changes what is found (`Varies.map_find?`), hence no
number of steps does.
-/
import EntitySchema.Proofs.Lookup
import EntitySchema.Yaml.Value

namespace EntitySchema.Yaml

/-- The key of an entry is a string. -/
def HasKey (name : String) (entry : Value × Value) : Prop := entry.1 = .string name

/-- `Says entries name value`: the last of the entries with the key `name` has the value `value`. -/
def Says (entries : List (Value × Value)) (name : String) (value : Value) : Prop :=
  First (HasKey name) entries.reverse (.string name, value)

/-- No entry has this key. -/
def Silent (entries : List (Value × Value)) (name : String) : Prop :=
  ∀ entry ∈ entries, ¬ HasKey name entry

variable {entries other before after : List (Value × Value)} {entry first second : Value × Value}
  {name : String} {value : Value}

theorem isString_iff : value.isString name = true ↔ value = .string name := by
  cases value with
  | string text => rw [Value.isString, beq_iff_eq, Value.string.injEq]
  | null => exact ⟨fun h => (nomatch h), fun h => (nomatch h)⟩
  | mapping entries => exact ⟨fun h => (nomatch h), fun h => (nomatch h)⟩
  | other => exact ⟨fun h => (nomatch h), fun h => (nomatch h)⟩

theorem find?_eq_some_iff : Value.find? entries name = some value ↔ Says entries name value := by
  rw [Value.find?, Option.map_eq_some_iff]
  constructor
  · rintro ⟨⟨key, _⟩, hfind, rfl⟩
    have hfirst : First (HasKey name) entries.reverse (key, _) :=
      (find?_eq_some_iff_first fun _ => isString_iff).mp hfind
    obtain rfl : key = .string name := hfirst.holds
    exact hfirst
  · intro h
    exact ⟨_, (find?_eq_some_iff_first fun _ => isString_iff).mpr h, rfl⟩

theorem find?_eq_none_iff : Value.find? entries name = none ↔ Silent entries name := by
  rw [Value.find?, Option.map_eq_none_iff, find?_eq_none_iff_forall (p := HasKey name)
    fun _ => isString_iff]
  simp only [Silent, List.mem_reverse]

theorem silent_or_says (entries : List (Value × Value)) (name : String) :
    Silent entries name ∨ ∃ value, Says entries name value := by
  cases hfind : Value.find? entries name with
  | none => exact .inl (find?_eq_none_iff.mp hfind)
  | some value => exact .inr ⟨value, find?_eq_some_iff.mp hfind⟩

/-! ## Mappings part by part -/

theorem find?_append :
    Value.find? (before ++ after) name = (Value.find? after name).or (Value.find? before name) := by
  rw [Value.find?, List.reverse_append, List.find?_append, Option.map_or]
  rfl

/-- What one entry says under a name. -/
def said (name : String) (entry : Value × Value) : Option Value :=
  if entry.1.isString name then some entry.2 else none

theorem said_of_hasKey (h : HasKey name entry) : said name entry = some entry.2 :=
  if_pos (isString_iff.mpr h)

theorem said_of_not_hasKey (h : ¬ HasKey name entry) : said name entry = none :=
  if_neg fun htest => h (isString_iff.mp htest)

theorem find?_cons :
    Value.find? (entry :: after) name = (Value.find? after name).or (said name entry) := by
  have hsingle : Value.find? [entry] name = said name entry := by
    rw [Value.find?, said, List.reverse_singleton, List.find?_singleton]
    split
    · rfl
    · rfl
  rw [← hsingle, ← find?_append, List.singleton_append]

theorem find?_cons_cons :
    Value.find? (first :: second :: after) name
      = (Value.find? after name).or ((said name second).or (said name first)) := by
  rw [find?_cons, find?_cons, Option.or_assoc]

/-- Of two entries with different keys one at most says something. -/
theorem said_or_comm (h : ∀ name, HasKey name first → ¬ HasKey name second) :
    (said name second).or (said name first) = (said name first).or (said name second) := by
  by_cases hfirst : HasKey name first
  · rw [said_of_not_hasKey (h name hfirst), Option.or_none, Option.none_or]
  · rw [said_of_not_hasKey hfirst, Option.or_none, Option.none_or]

/-! ## Mappings that are the same for some names -/

/-- `Varies counts alike entries other`: the two mappings differ in entries whose keys do not count,
in the order of different keys, and in values that are alike. -/
inductive Varies (counts : String → Prop) (alike : String → Value → Value → Prop) :
    List (Value × Value) → List (Value × Value) → Prop
  | refl {entries : List (Value × Value)} : Varies counts alike entries entries
  | symm {entries other : List (Value × Value)} :
      Varies counts alike entries other → Varies counts alike other entries
  | trans {entries other third : List (Value × Value)} :
      Varies counts alike entries other → Varies counts alike other third →
      Varies counts alike entries third
  | more (before after : List (Value × Value)) {entry : Value × Value} :
      (∀ name, counts name → ¬ HasKey name entry) →
      Varies counts alike (before ++ after) (before ++ entry :: after)
  | swap (before after : List (Value × Value)) {first second : Value × Value} :
      (∀ name, HasKey name first → ¬ HasKey name second) →
      Varies counts alike (before ++ first :: second :: after) (before ++ second :: first :: after)
  | value (before after : List (Value × Value)) {name : String} {value value' : Value} :
      alike name value value' →
      Varies counts alike (before ++ (.string name, value) :: after)
        (before ++ (.string name, value') :: after)

namespace Varies

variable {counts : String → Prop} {alike : String → Value → Value → Prop} {α : Type} {f : Value → α}

/-- What is made of the value of a name that counts is the same, if it is the same for values that
are alike. -/
theorem map_find? (h : Varies counts alike entries other) (hname : counts name)
    (halike : ∀ value value', alike name value value' → f value = f value') :
    (Value.find? entries name).map f = (Value.find? other name).map f := by
  induction h with
  | refl => rfl
  | symm _ ih => exact ih.symm
  | trans _ _ ih ih' => exact ih.trans ih'
  | more before after hentry =>
      rw [find?_append, find?_append, find?_cons, said_of_not_hasKey (hentry name hname),
        Option.or_none]
  | swap before after hkeys =>
      rw [find?_append, find?_append, find?_cons_cons, find?_cons_cons, said_or_comm hkeys]
  | @value before after name' value value' hvalues =>
      have hsame : (said name (.string name', value)).map f
          = (said name (.string name', value')).map f := by
        by_cases hkey : name' = name
        · subst hkey
          rw [said_of_hasKey (show HasKey name' (.string name', value) from rfl),
            said_of_hasKey (show HasKey name' (.string name', value') from rfl)]
          exact congrArg some (halike _ _ hvalues)
        · -- what another name says is not looked at, be it the one value or the other
          have hno {v : Value} : ¬ HasKey name (.string name', v) :=
            fun h => hkey (Text.Str.text.inj (Value.string.inj h))
          rw [said_of_not_hasKey hno, said_of_not_hasKey hno]
      rw [find?_append, find?_append, find?_cons, find?_cons]
      simp only [Option.map_or, hsame]

theorem cons (h : Varies counts alike entries other) :
    Varies counts alike (entry :: entries) (entry :: other) := by
  induction h with
  | refl => exact .refl
  | symm _ ih => exact ih.symm
  | trans _ _ ih ih' => exact ih.trans ih'
  | more before after hadded => exact .more (entry :: before) after hadded
  | swap before after hkeys => exact .swap (entry :: before) after hkeys
  | value before after hvalues => exact .value (entry :: before) after hvalues

/-- The order of entries does not count, if no two of them have the same string as their key. -/
theorem of_perm (hperm : entries.Perm other)
    (hkeys : entries.Pairwise fun first second =>
      ∀ name, HasKey name first → ¬ HasKey name second) :
    Varies counts alike entries other := by
  induction hperm with
  | nil => exact .refl
  | cons _ _ ih => exact (ih hkeys.of_cons).cons
  | swap first second rest =>
      exact .swap [] rest (List.rel_of_pairwise_cons hkeys List.mem_cons_self)
  | trans hperm _ ih ih' =>
      -- whether keys differ does not depend on their order, so it holds of the list in between
      have hsymm {a b : Value × Value} (h : ∀ name, HasKey name a → ¬ HasKey name b) :
          ∀ name, HasKey name b → ¬ HasKey name a := fun name hb ha => h name ha hb
      exact (ih hkeys).trans (ih' ((hperm.pairwise_iff hsymm).mp hkeys))

end Varies

end EntitySchema.Yaml
