import LivePreview.FileTree

/-!
# Stores without links

A directory in which there are files and directories only (`Store.Regular`) is the tree that one
sees who walks through it (`Store.expand_regular`), wherever it lies and whatever links lead there
(`Store.treeAt_regular`).
-/

namespace LivePreview.Store

/-! ## Regular stores -/

/-- A name that a file or directory can have, without backslashes. -/
structure IsName (name : String) : Prop where
  nonempty : name ≠ ""
  notHere : name ≠ "."
  notAbove : name ≠ ".."
  whole : '/' ∉ name.toList
  slashed : '\\' ∉ name.toList

instance (name : String) : Decidable (IsName name) :=
  decidable_of_iff
    (name ≠ "" ∧ name ≠ "." ∧ name ≠ ".." ∧ '/' ∉ name.toList ∧ '\\' ∉ name.toList)
    ⟨fun ⟨h, h', h'', w, s⟩ => ⟨h, h', h'', w, s⟩, fun ⟨h, h', h'', w, s⟩ => ⟨h, h', h'', w, s⟩⟩

mutual

/-- A file, or a directory of such stores under different names. -/
def Regular : Store → Prop
  | file _ => True
  | link _ => False
  | directory entries => (entries.map (·.1)).Nodup ∧ RegularEntries entries

def RegularEntries : List (String × Store) → Prop
  | [] => True
  | (name, s) :: es => IsName name ∧ s.Regular ∧ RegularEntries es

end

theorem regularEntries_iff {entries : List (String × Store)} :
    RegularEntries entries ↔ ∀ e ∈ entries, IsName e.1 ∧ e.2.Regular := by
  induction entries with
  | nil => simp [RegularEntries]
  | cons e es ih =>
    rw [RegularEntries, ih, List.forall_mem_cons, and_assoc]

mutual

/-- The store as a tree, with nothing where its links are. -/
def plain : Store → FileTree
  | file content => .file content
  | link _ => .nowhere (.broken .notFound)
  | directory entries => .directory (plainEntries entries)

def plainEntries : List (String × Store) → List (String × FileTree)
  | [] => []
  | (name, s) :: es => (name, s.plain) :: plainEntries es

end

theorem plainEntries_eq (entries : List (String × Store)) :
    plainEntries entries = entries.map fun e => (e.1, e.2.plain) := by
  induction entries with
  | nil => rfl
  | cons e es ih => rw [plainEntries, ih, List.map_cons]

/-! ## What lies under names -/

theorem at?_append (s : Store) (names names' : List String) :
    s.at? (names ++ names') = (s.at? names).bind (·.at? names') := by
  induction names generalizing s with
  | nil => rw [List.nil_append, at?, Option.bind_some]
  | cons name names ih =>
    cases s with
    | file => rfl
    | link => rfl
    | directory entries =>
      rw [List.cons_append, at?, at?, Option.bind_assoc]
      exact congrArg _ (funext ih)

/-- Under different names, every entry lies under its own. -/
theorem lookup_of_mem {entries : List (String × Store)} (h : (entries.map (·.1)).Nodup)
    {name : String} {s : Store} (mem : (name, s) ∈ entries) : entries.lookup name = some s := by
  induction entries with
  | nil => cases mem
  | cons e es ih =>
    rw [List.map_cons, List.nodup_cons] at h
    rcases List.mem_cons.1 mem with rfl | mem
    · exact List.lookup_cons_self
    · have other : (name == e.1) = false := by
        refine beq_false_of_ne fun same => h.1 ?_
        rw [← same]
        exact List.mem_map_of_mem mem
      rw [List.lookup_cons, other]
      exact ih h.2 mem

theorem count_le_of_mem {entries : List (String × Store)} {e : String × Store}
    (mem : e ∈ entries) : e.2.count ≤ count.countEntries entries := by
  induction entries with
  | nil => cases mem
  | cons d es ih =>
    rw [count.countEntries]
    rcases List.mem_cons.1 mem with rfl | mem
    · exact Nat.le_add_right _ _
    · exact Nat.le_trans (ih mem) (Nat.le_add_left _ _)

theorem mem_of_lookup {entries : List (String × Store)} {name : String} {s : Store}
    (h : entries.lookup name = some s) : (name, s) ∈ entries := by
  obtain ⟨l, l', eq, -⟩ := List.lookup_eq_some_iff.1 h
  rw [eq]
  exact List.mem_append_right _ List.mem_cons_self

theorem count_le_of_at? {s d : Store} {names : List String} (h : s.at? names = some d) :
    d.count ≤ s.count := by
  induction names generalizing s with
  | nil =>
    cases h
    exact Nat.le_refl _
  | cons name names ih =>
    cases s with
    | file => cases h
    | link => cases h
    | directory entries =>
      rw [at?, Option.bind_eq_some_iff] at h
      obtain ⟨child, found, h⟩ := h
      have inside : child.count ≤ count.countEntries entries := count_le_of_mem (mem_of_lookup found)
      have below := ih h
      rw [count]
      omega

/-- What a path is resolved to lies where it is said to lie. -/
theorem at?_of_resolve {root d : Store} {there : List String} (links : Nat)
    (here path : List String) (h : root.resolve links here path = .ok (there, d)) :
    root.at? there.reverse = some d := by
  unfold resolve at h
  split at h
  · cases h
  · next found =>
    cases h
    exact found
  · split at h
    · exact at?_of_resolve links here _ h
    split at h
    · split at h
      · cases h
      · exact at?_of_resolve links _ _ h
    split at h
    · cases h
    · split at h
      · cases h
      · exact at?_of_resolve _ here _ h
    · exact at?_of_resolve links _ _ h
  · cases h
termination_by (links, path.length)

/-! ## Walking -/

/-- A regular store is walked as it is. -/
theorem expand_regular {root : Store} {n : Nat} {d : Store} {here : List String}
    (found : root.at? here.reverse = some d) (regular : d.Regular) (enough : d.count ≤ n)
    (above : List (List String × List String)) (shown : List String) :
    root.expand n above here shown = d.plain := by
  induction n generalizing d here above shown with
  | zero => cases d <;> simp [count] at enough
  | succ n ih =>
    rw [expand, found]
    cases d with
    | file content => rfl
    | link target => exact regular.elim
    | directory entries =>
      obtain ⟨distinct, inside⟩ := regular
      rw [plain, plainEntries_eq]
      refine congrArg FileTree.directory (List.map_congr_left fun ⟨name, s⟩ mem => ?_)
      have below : root.at? (name :: here).reverse = some s := by
        rw [List.reverse_cons, at?_append, found, Option.bind_some, at?, lookup_of_mem distinct mem]
        rfl
      have small : s.count ≤ n := by
        have inside : s.count ≤ count.countEntries entries := count_le_of_mem mem
        rw [count] at enough
        omega
      have child := (regularEntries_iff.1 inside _ mem).2
      cases s with
      | link target => exact child.elim
      | file content => exact congrArg _ (ih below child small _ _)
      | directory entries' => exact congrArg _ (ih below child small _ _)

/-- The tree that a path leads to, if it leads to a regular store. -/
theorem treeAt_regular {root d : Store} {path : String} {there : List String}
    (h : root.resolve linkLimit [] (segments path) = .ok (there, d)) (regular : d.Regular) :
    root.treeAt path = .ok d.plain := by
  have found := at?_of_resolve _ _ _ h
  have enough : d.count ≤ (root.count + 1) * (root.count + 1) := by
    have inside := count_le_of_at? found
    have square : root.count + 1 ≤ (root.count + 1) * (root.count + 1) :=
      Nat.le_mul_of_pos_right _ (Nat.succ_pos _)
    omega
  rw [treeAt, h]
  exact congrArg Except.ok (expand_regular found regular enough [] [])

end LivePreview.Store
