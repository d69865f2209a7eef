/-!
# Tables

A table holds values under names, sorted by name. A name that is put again gets the new value.

`get?` is the view of a table; `get?_insert` says what inserting does to it.
-/

namespace LivePreview

namespace Table

variable {α : Type}

/-- Puts a value into sorted entries, in the place of one under the same name. -/
def insertEntry (k : String) (v : α) : List (String × α) → List (String × α)
  | [] => [(k, v)]
  | e :: es =>
    if k < e.1 then (k, v) :: e :: es
    else if k = e.1 then (k, v) :: es
    else e :: insertEntry k v es

/-- The names of entries increase. -/
abbrev Sorted (es : List (String × α)) : Prop := es.Pairwise (·.1 < ·.1)

theorem mem_insertEntry {k : String} {v : α} {e : String × α} :
    ∀ {es : List (String × α)}, e ∈ insertEntry k v es → e = (k, v) ∨ e ∈ es
  | [], h => .inl (by simpa [insertEntry] using h)
  | d :: es, h => by
    unfold insertEntry at h
    split at h
    · simpa using h
    · split at h
      · rcases List.mem_cons.1 h with h | h
        · exact .inl h
        · exact .inr (List.mem_cons_of_mem _ h)
      · rcases List.mem_cons.1 h with h | h
        · exact .inr (h ▸ List.mem_cons_self)
        · exact (mem_insertEntry h).imp_right (List.mem_cons_of_mem _)

theorem sorted_insertEntry (k : String) (v : α) :
    ∀ {es : List (String × α)}, Sorted es → Sorted (insertEntry k v es)
  | [], _ => List.pairwise_singleton ..
  | e :: es, h => by
    obtain ⟨he, hes⟩ := List.pairwise_cons.1 h
    unfold insertEntry
    split
    · rename_i hk
      refine List.pairwise_cons.2 ⟨fun d hd => ?_, h⟩
      rcases List.mem_cons.1 hd with rfl | hd
      · exact hk
      · exact String.lt_trans hk (he d hd)
    · split
      · rename_i hk
        exact List.pairwise_cons.2 ⟨fun d hd => hk ▸ he d hd, hes⟩
      · rename_i hlt hne
        refine List.pairwise_cons.2 ⟨fun d hd => ?_, sorted_insertEntry k v hes⟩
        rcases mem_insertEntry hd with rfl | hd
        · exact Std.lt_of_le_of_ne (String.not_lt.1 hlt) (Ne.symm hne)
        · exact he d hd

end Table

/-- Values under names. -/
structure Table (α : Type) where
  entries : List (String × α)
  sorted : Table.Sorted entries

namespace Table

variable {α β : Type}

theorem ext_entries : ∀ {s t : Table α}, s.entries = t.entries → s = t
  | ⟨_, _⟩, ⟨_, _⟩, rfl => rfl

instance [DecidableEq α] : DecidableEq (Table α) := fun s t =>
  decidable_of_iff (s.entries = t.entries) ⟨ext_entries, fun h => h ▸ rfl⟩

instance [Repr α] : Repr (Table α) := ⟨fun t => reprPrec t.entries⟩

def empty : Table α := ⟨[], .nil⟩

instance : Inhabited (Table α) := ⟨empty⟩

def size (t : Table α) : Nat := t.entries.length

def isEmpty (t : Table α) : Bool := t.entries.isEmpty

def keys (t : Table α) : List String := t.entries.map (·.1)

def values (t : Table α) : List α := t.entries.map (·.2)

def get? (t : Table α) (k : String) : Option α := t.entries.lookup k

def contains (t : Table α) (k : String) : Bool := (t.get? k).isSome

def insert (t : Table α) (k : String) (v : α) : Table α :=
  ⟨insertEntry k v t.entries, sorted_insertEntry k v t.sorted⟩

/-- Puts a value unless there is one. -/
def insertNew (t : Table α) (k : String) (v : α) : Table α :=
  if t.contains k then t else t.insert k v

/-- The table of a list of entries, of which a later one replaces an earlier one. -/
def ofList (es : List (String × α)) : Table α :=
  es.foldl (fun t e => t.insert e.1 e.2) empty

/-- Changes the values, or leaves them out. -/
def filterMap (f : String → α → Option β) (t : Table α) : Table β where
  entries := t.entries.filterMap fun e => (f e.1 e.2).map (e.1, ·)
  sorted := by
    refine List.Pairwise.filterMap _ (fun a b hab c hc d hd => ?_) t.sorted
    simp only [Option.map_eq_some_iff] at hc hd
    obtain ⟨_, _, rfl⟩ := hc
    obtain ⟨_, _, rfl⟩ := hd
    exact hab

def map (f : α → β) (t : Table α) : Table β := t.filterMap fun _ v => some (f v)

/-! ## The view -/

theorem lookup_insertEntry (k j : String) (v : α) :
    ∀ es : List (String × α),
      (insertEntry k v es).lookup j = if j = k then some v else es.lookup j
  | [] => by unfold insertEntry; grind
  | e :: es => by
    have := lookup_insertEntry k j v es
    unfold insertEntry
    grind

@[simp] theorem get?_empty (k : String) : (empty : Table α).get? k = none := rfl

theorem get?_insert (t : Table α) (k j : String) (v : α) :
    (t.insert k v).get? j = if j = k then some v else t.get? j :=
  lookup_insertEntry k j v t.entries

theorem get?_insertNew (t : Table α) (k j : String) (v : α) :
    (t.insertNew k v).get? j = if j = k then some ((t.get? k).getD v) else t.get? j := by
  unfold insertNew contains
  split
  · rename_i h
    obtain ⟨w, hw⟩ := Option.isSome_iff_exists.1 h
    split
    · subst_vars; simp [hw]
    · rfl
  · rename_i h
    rw [get?_insert]
    simp [Option.not_isSome_iff_eq_none.1 h]

theorem lookup_filterMap (f : String → α → Option β) (k : String) :
    ∀ {es : List (String × α)}, Sorted es →
      (es.filterMap fun e => (f e.1 e.2).map (e.1, ·)).lookup k = (es.lookup k).bind (f k)
  | [], _ => rfl
  | (j, v) :: es, h => by
    obtain ⟨hj, hes⟩ := List.pairwise_cons.1 h
    have ih := lookup_filterMap f k hes
    by_cases hk : k = j
    · subst hk
      have absent : es.lookup k = none := by
        rw [List.lookup_eq_none_iff]
        intro d hd
        simpa using Std.ne_of_lt (hj d hd)
      cases hf : f k v with
      | none => simp [hf, ih, absent]
      | some w => simp [hf]
    · have hb : (k == j) = false := by simpa using hk
      cases hf : f j v <;> simp [List.lookup_cons, hf, ih, hb]

theorem get?_filterMap (f : String → α → Option β) (t : Table α) (k : String) :
    (t.filterMap f).get? k = (t.get? k).bind (f k) := lookup_filterMap f k t.sorted

theorem get?_map (f : α → β) (t : Table α) (k : String) :
    (t.map f).get? k = (t.get? k).map f := by
  rw [map, get?_filterMap]
  cases t.get? k <;> rfl

theorem lookup_of_mem {k : String} {v : α} :
    ∀ {es : List (String × α)}, Sorted es → (k, v) ∈ es → es.lookup k = some v
  | (j, w) :: es, h, hm => by
    obtain ⟨hj, hes⟩ := List.pairwise_cons.1 h
    rcases List.mem_cons.1 hm with he | hm
    · cases he
      simp
    · have hk : (k == j) = false := by simpa using (Std.ne_of_lt (hj _ hm)).symm
      rw [List.lookup_cons, hk]
      exact lookup_of_mem hes hm

theorem get?_of_mem {t : Table α} {k : String} {v : α} (h : (k, v) ∈ t.entries) :
    t.get? k = some v := lookup_of_mem t.sorted h

theorem mem_of_get? {t : Table α} {k : String} {v : α} (h : t.get? k = some v) :
    (k, v) ∈ t.entries := by
  obtain ⟨l, l', he, -⟩ := List.lookup_eq_some_iff.1 h
  simp [he]

theorem mem_keys {t : Table α} {k : String} : k ∈ t.keys ↔ (t.get? k).isSome = true := by
  rw [keys, List.mem_map, Option.isSome_iff_exists]
  constructor
  · rintro ⟨⟨j, v⟩, he, rfl⟩
    exact ⟨v, get?_of_mem he⟩
  · rintro ⟨v, hv⟩
    exact ⟨(k, v), mem_of_get? hv, rfl⟩

/-- The values of a table each of which has its own name. -/
theorem mem_values {t : Table α} {name : α → String}
    (own : ∀ {k v}, t.get? k = some v → name v = k) {v : α} :
    v ∈ t.values ↔ t.get? (name v) = some v := by
  rw [values, List.mem_map]
  constructor
  · rintro ⟨⟨k, v⟩, he, rfl⟩
    have hv := get?_of_mem he
    rwa [own hv]
  · exact fun hv => ⟨_, mem_of_get? hv, rfl⟩

/-- A change that leaves no value out keeps the names. -/
theorem keys_filterMap {f : String → α → Option β} {t : Table α}
    (h : ∀ {k v}, t.get? k = some v → (f k v).isSome = true) : (t.filterMap f).keys = t.keys := by
  have step : ∀ es : List (String × α), (∀ e ∈ es, (f e.1 e.2).isSome = true) →
      (es.filterMap fun e => (f e.1 e.2).map (e.1, ·)).map (·.1) = es.map (·.1) := by
    intro es some
    induction es with
    | nil => rfl
    | cons e es ih =>
      obtain ⟨w, hw⟩ := Option.isSome_iff_exists.1 (some e List.mem_cons_self)
      simp [hw, ih fun d hd => some d (List.mem_cons_of_mem _ hd)]
  exact step t.entries fun e he => h (get?_of_mem he)

end Table

end LivePreview
