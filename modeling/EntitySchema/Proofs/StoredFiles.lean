/-
# `EntitySchema.Proofs.StoredFiles` — files with other bytes

Two trees are `Alike` if they have the same directories, and in the same places files whose bytes are
related in some way.  A path then leads to the same place in both of them, or ends with the same fault
(`Alike.follow`); it goes through directories only, also where it leads up.

`store` puts bytes at a path.  Whatever the bytes are, the trees it gives are alike, and a file that
was at the path has the new bytes (`at?_store`).
-/
import EntitySchema.Proofs.SchemaPath
import Mathlib.Data.List.Forall2

namespace EntitySchema.FileTree

variable {R : List UInt8 → List UInt8 → Prop} {tree tree' next : FileTree}
  {above above' : List FileTree} {entries entries' : List (String × FileTree)}
  {pieces rest : List String} {piece : String} {path : Path} {bytes bytes' old : List UInt8}

/-! ## Trees that are alike -/

mutual

/-- `Alike R tree tree'`: the same directories, and files whose bytes are related by `R`. -/
inductive Alike (R : List UInt8 → List UInt8 → Prop) : FileTree → FileTree → Prop
  | file {bytes bytes' : List UInt8} : R bytes bytes' → Alike R (.file bytes) (.file bytes')
  | directory {entries entries' : List (String × FileTree)} :
      EntriesAlike R entries entries' → Alike R (.directory entries) (.directory entries')
  | locked {isDirectory : Bool} : Alike R (.locked isDirectory) (.locked isDirectory)

/-- Entries with the same names, one by one, and what they name is alike. -/
inductive EntriesAlike (R : List UInt8 → List UInt8 → Prop) :
    List (String × FileTree) → List (String × FileTree) → Prop
  | nil : EntriesAlike R [] []
  | cons {name : String} {tree tree' : FileTree} {more more' : List (String × FileTree)} :
      Alike R tree tree' → EntriesAlike R more more' →
      EntriesAlike R ((name, tree) :: more) ((name, tree') :: more')

end

mutual

theorem Alike.refl (hR : ∀ bytes, R bytes bytes) : ∀ tree, Alike R tree tree
  | .file bytes => .file (hR bytes)
  | .directory entries => .directory (EntriesAlike.refl hR entries)
  | .locked _ => .locked

theorem EntriesAlike.refl (hR : ∀ bytes, R bytes bytes) : ∀ entries, EntriesAlike R entries entries
  | [] => .nil
  | (_, tree) :: more => .cons (Alike.refl hR tree) (EntriesAlike.refl hR more)

end

theorem EntriesAlike.lookup (h : EntriesAlike R entries entries') (piece : String) :
    entries.lookup piece = none ∧ entries'.lookup piece = none
      ∨ ∃ next next', entries.lookup piece = some next ∧ entries'.lookup piece = some next'
        ∧ Alike R next next' := by
  induction entries generalizing entries' with
  | nil =>
      cases h
      exact .inl ⟨rfl, rfl⟩
  | cons entry more ih =>
      cases h with
      | @cons name tree tree' _ more' htree hmore =>
          rw [List.lookup_cons, List.lookup_cons]
          cases piece == name with
          | true => exact .inr ⟨tree, tree', rfl, rfl, htree⟩
          | false => exact ih hmore

/-! ## Following a path -/

/-- What is found in trees that are alike: the same fault, or what is alike again. -/
inductive FoundAlike (R : List UInt8 → List UInt8 → Prop) :
    Except FileFault FileTree → Except FileFault FileTree → Prop
  | fault {fault : FileFault} : FoundAlike R (.error fault) (.error fault)
  | found {tree tree' : FileTree} : Alike R tree tree' → FoundAlike R (.ok tree) (.ok tree')

theorem EntriesAlike.find (h : EntriesAlike R entries entries') (piece : String) :
    FoundAlike R (find entries piece) (find entries' piece) := by
  rw [FileTree.find, FileTree.find]
  split
  · exact .fault
  · rcases h.lookup piece with ⟨hnone, hnone'⟩ | ⟨next, next', hsome, hsome', hnext⟩
    · rw [hnone, hnone']
      exact .fault
    · rw [hsome, hsome']
      exact .found hnext

theorem Alike.follow (h : Alike R tree tree') (habove : List.Forall₂ (Alike R) above above') :
    FoundAlike R (follow above tree pieces) (follow above' tree' pieces) := by
  induction pieces generalizing above above' tree tree' with
  | nil => exact .found h
  | cons piece rest ih =>
      cases h with
      | file => exact .fault
      | locked =>
          rw [follow_locked, follow_locked]
          exact .fault
      | @directory entries entries' hentries =>
          by_cases hup : piece = ".."
          · subst hup
            cases habove with
            | nil => exact ih (.directory hentries) .nil
            | cons hparent hmore => exact ih hparent hmore
          · rw [follow_entry hup, follow_entry hup]
            have hfound := hentries.find piece
            generalize FileTree.find entries piece = found at hfound
            generalize FileTree.find entries' piece = found' at hfound
            cases hfound with
            | fault => exact .fault
            | found hnext => exact ih hnext (.cons (.directory hentries) habove)

theorem Alike.at? (h : Alike R tree tree') (path : Path) :
    FoundAlike R (tree.at? path) (tree'.at? path) := by
  rw [FileTree.at?, FileTree.at?]
  split
  · exact .fault
  · exact h.follow .nil

theorem Alike.status (h : Alike R tree tree') (path : Path) :
    tree.status path = tree'.status path := by
  have hfound := h.at? path
  rw [FileTree.status, FileTree.status]
  generalize tree.at? path = found at hfound
  generalize tree'.at? path = found' at hfound
  cases hfound with
  | fault => rfl
  | found halike =>
      cases halike with
      | file => rfl
      | directory => rfl
      | locked => rfl

/-- What is read in trees that are alike: the same fault, or bytes that are related. -/
theorem Alike.read (h : Alike R tree tree') (path : Path) :
    (∃ fault, tree.read path = .error fault ∧ tree'.read path = .error fault)
      ∨ ∃ bytes bytes', tree.read path = .ok bytes ∧ tree'.read path = .ok bytes'
        ∧ R bytes bytes' := by
  have hfound := h.at? path
  rw [FileTree.read, FileTree.read]
  generalize tree.at? path = found at hfound
  generalize tree'.at? path = found' at hfound
  cases hfound with
  | fault => exact .inl ⟨_, rfl, rfl⟩
  | found halike =>
      cases halike with
      | file hbytes => exact .inr ⟨_, _, rfl, rfl, hbytes⟩
      | directory => exact .inl ⟨_, rfl, rfl⟩
      | locked => exact .inl ⟨_, rfl, rfl⟩

/-! ## Storing a file -/

/-- The tree with a file of the given bytes at a path. -/
def store (tree : FileTree) (path : Path) (bytes : List UInt8) : FileTree :=
  insert (.file bytes) path.resolve.pieces tree

theorem alike_fresh (h : R bytes bytes') :
    Alike R (fresh (.file bytes) pieces) (fresh (.file bytes') pieces) := by
  induction pieces with
  | nil => exact .file h
  | cons piece rest ih => exact .directory (.cons ih .nil)

mutual

theorem alike_insert (hR : ∀ bytes, R bytes bytes) (h : R bytes bytes') : ∀ pieces tree,
    Alike R (insert (.file bytes) pieces tree) (insert (.file bytes') pieces tree)
  | [], .file _ => .file h
  | [], .directory _ => .file h
  | [], .locked _ => .file h
  | _ :: _, .file kept => .file (hR kept)
  | _ :: _, .locked _ => .locked
  | piece :: rest, .directory entries =>
      .directory (entriesAlike_insertEntry hR h piece rest entries)

theorem entriesAlike_insertEntry (hR : ∀ bytes, R bytes bytes) (h : R bytes bytes') :
    ∀ piece rest entries,
      EntriesAlike R (insertEntry (.file bytes) piece rest entries)
        (insertEntry (.file bytes') piece rest entries)
  | _, _, [] => .cons (alike_fresh h) .nil
  | piece, rest, (name, tree) :: more => by
      rw [insertEntry, insertEntry]
      by_cases hname : name = piece
      · rw [if_pos hname, if_pos hname]
        exact .cons (alike_insert hR h rest tree) (EntriesAlike.refl hR more)
      · rw [if_neg hname, if_neg hname]
        exact .cons (Alike.refl hR tree) (entriesAlike_insertEntry hR h piece rest more)

end

theorem alike_store (hR : ∀ bytes, R bytes bytes) (h : R bytes bytes') (tree : FileTree)
    (path : Path) : Alike R (tree.store path bytes) (tree.store path bytes') :=
  alike_insert hR h _ tree

/-- Of the entries only the first one of the name is changed. -/
theorem exists_insertEntry_eq (h : entries.lookup piece = some next) :
    ∃ before after, before.lookup piece = none ∧ entries = before ++ (piece, next) :: after
      ∧ ∀ added rest,
        insertEntry added piece rest entries = before ++ (piece, insert added rest next) :: after := by
  induction entries with
  | nil => cases h
  | cons entry more ih =>
      obtain ⟨name, tree⟩ := entry
      by_cases hname : name = piece
      · subst hname
        rw [List.lookup_cons_self] at h
        cases h
        refine ⟨[], more, rfl, rfl, fun added rest => ?_⟩
        rw [insertEntry, if_pos rfl]
        rfl
      · have hne : (piece == name) = false := beq_eq_false_iff_ne.mpr (Ne.symm hname)
        rw [List.lookup_cons, hne] at h
        obtain ⟨before, after, hbefore, hmore, hinsert⟩ := ih h
        refine ⟨(name, tree) :: before, after, ?_, congrArg _ hmore, fun added rest => ?_⟩
        · rw [List.lookup_cons, hne]
          exact hbefore
        · rw [insertEntry, if_neg hname, hinsert]
          rfl

theorem insertEntry_self {added : FileTree} (h : entries.lookup piece = some next)
    (hnext : insert added rest next = next) : insertEntry added piece rest entries = entries := by
  obtain ⟨before, after, -, hentries, hinsert⟩ := exists_insertEntry_eq h
  rw [hinsert, hnext, ← hentries]

theorem find_eq_ok_iff :
    find entries piece = .ok next
      ↔ sizeOfName piece ≤ longestName ∧ entries.lookup piece = some next := by
  rw [find]
  by_cases hlong : longestName < sizeOfName piece
  · rw [if_pos hlong]
    exact iff_of_false (fun h => nomatch h) fun h => absurd hlong (Nat.not_lt.mpr h.1)
  · rw [if_neg hlong, and_iff_right (Nat.not_lt.mp hlong)]
    cases entries.lookup piece with
    | none => exact iff_of_false (fun h => nomatch h) fun h => nomatch h
    | some found => rw [Except.ok.injEq, Option.some.injEq]

theorem find_insertEntry {added : FileTree} (h : find entries piece = .ok next) :
    find (insertEntry added piece rest entries) piece = .ok (insert added rest next) := by
  obtain ⟨hsize, hlookup⟩ := find_eq_ok_iff.mp h
  obtain ⟨before, after, hbefore, -, hinsert⟩ := exists_insertEntry_eq hlookup
  refine find_eq_ok_iff.mpr ⟨hsize, ?_⟩
  rw [hinsert, List.lookup_append, hbefore, List.lookup_cons_self]
  rfl

/-- A file that pieces lead down to is below the entry that the first of them names. -/
theorem exists_find_of_follow (hpiece : piece ≠ "..")
    (h : follow above tree (piece :: rest) = .ok (.file old)) :
    ∃ entries next, tree = .directory entries ∧ find entries piece = .ok next
      ∧ follow (tree :: above) next rest = .ok (.file old) := by
  cases tree with
  | file => cases h
  | locked => cases follow_locked.symm.trans h
  | directory entries =>
      cases hfind : find entries piece with
      | error fault => cases (follow_fault hpiece hfind).symm.trans h
      | ok next => exact ⟨entries, next, rfl, hfind, (follow_down hpiece hfind).symm.trans h⟩

theorem follow_insert (hpieces : ".." ∉ pieces)
    (h : follow above tree pieces = .ok (.file old)) :
    follow above' (insert (.file bytes) pieces tree) pieces = .ok (.file bytes) := by
  induction pieces generalizing tree above above' with
  | nil =>
      cases h
      rfl
  | cons piece rest ih =>
      obtain ⟨hpiece, hrest⟩ := not_or.mp (mt List.mem_cons.mpr hpieces)
      obtain ⟨entries, next, rfl, hfind, hnext⟩ := exists_find_of_follow (Ne.symm hpiece) h
      rw [insert, follow_down (Ne.symm hpiece) (find_insertEntry hfind)]
      exact ih hrest hnext

/-- To store the bytes that a file has changes nothing. -/
theorem insert_self (hpieces : ".." ∉ pieces)
    (h : follow above tree pieces = .ok (.file bytes)) :
    insert (.file bytes) pieces tree = tree := by
  induction pieces generalizing tree above with
  | nil =>
      cases h
      rfl
  | cons piece rest ih =>
      obtain ⟨hpiece, hrest⟩ := not_or.mp (mt List.mem_cons.mpr hpieces)
      obtain ⟨entries, next, rfl, hfind, hnext⟩ := exists_find_of_follow (Ne.symm hpiece) h
      rw [insert, insertEntry_self (find_eq_ok_iff.mp hfind).2 (ih hrest hnext)]

/-- What is stored in the place of a file is found there, also on a path that leads up and down
again. -/
theorem at?_store (h : tree.at? path = .ok (.file old)) :
    (tree.store path bytes).at? path = .ok (.file bytes) := by
  have hup : ".." ∉ path.resolve.pieces := fun hmem => (Path.mem_resolve hmem).2 rfl
  obtain ⟨hsize, hold⟩ := at?_eq_ok_iff.mp (at?_resolve h)
  have hself : tree.store path old = tree := insert_self hup hold
  -- the directories are the same as before, so the path still leads to some file
  have halike : Alike (fun _ _ => True) tree (tree.store path bytes) := by
    have hstores : Alike (fun _ _ => True) (tree.store path old) (tree.store path bytes) :=
      alike_store (fun _ => trivial) trivial tree path
    rwa [hself] at hstores
  have hfound := halike.at? path
  rw [h] at hfound
  obtain ⟨new, hnew⟩ : ∃ new, (tree.store path bytes).at? path = .ok (.file new) := by
    generalize (tree.store path bytes).at? path = found at hfound
    cases hfound with
    | found hfile =>
        cases hfile
        exact ⟨_, rfl⟩
  -- and resolved it leads to the file with the new bytes
  have hbytes : (tree.store path bytes).at? path.resolve = .ok (.file bytes) :=
    at?_eq_ok_iff.mpr ⟨hsize, follow_insert hup hold⟩
  cases hbytes.symm.trans (at?_resolve hnew)
  exact hnew

end EntitySchema.FileTree
