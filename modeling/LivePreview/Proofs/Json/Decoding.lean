import Mathlib.Data.List.Forall2
import Mathlib.Data.List.Perm.Basic
import LivePreview.Json.Decode
import LivePreview.Json.Reader

/-!
# Decoding values

A draft without faults stands for a value (`Draft.Stands`), wherever it was read. What is decoded
from such a draft follows from the value alone: texts, naturals, lists and tables of things that can
be decoded (`Stands.listOf`, `Stands.tableOf`), and records, whose members are taken one by one into
their fields (`Stands.record`). All decoders of a text read it to the same draft
(`decodeText_of_read`).
-/

namespace LivePreview.Json

/-- A list or table ends well. -/
def Ending.Good (e : Ending) : Prop := ∀ cause, e.check cause = .ok ()

theorem Ending.good_of_check {e : Ending} {cause : Gap → Cause} (h : e.check cause = .ok ()) :
    e.Good := by
  cases e with
  | cut gap place => cases h
  | closed stop => exact fun _ => rfl
  | value => exact fun _ => rfl
  | part => exact fun _ => rfl

theorem ok_bind {α β : Type} (a : α) (f : α → Except Fault β) : (do f (← .ok a)) = f a := rfl

theorem bind_eq_ok {α β : Type} {x : Except Fault α} {f : α → Except Fault β} {b : β} :
    (do f (← x)) = Except.ok b ↔ ∃ a, x = .ok a ∧ f a = .ok b := by
  cases x with
  | error e => exact ⟨nofun, nofun⟩
  | ok a => exact ⟨fun h => ⟨a, rfl, h⟩, fun ⟨_, rfl, h⟩ => h⟩

namespace Draft

mutual

/-- The draft has no faults and is one of the value. -/
def Stands : Draft → Json → Prop
  | scalar s _, j => s.toJson = j
  | list _ items e, .list js => e.Good ∧ StandItems items js
  | table _ members e, .table ms => e.Good ∧ StandMembers members ms
  | _, _ => False

def StandItems : List (Option Place × Draft) → List Json → Prop
  | [], [] => True
  | (_, d) :: ds, j :: js => d.Stands j ∧ StandItems ds js
  | _, _ => False

def StandMembers : List (Draft × Option Place × Draft) → List (String × Json) → Prop
  | [], [] => True
  | (k, _, d) :: ds, (name, j) :: ms => k.text = .ok name ∧ d.Stands j ∧ StandMembers ds ms
  | _, _ => False

end

mutual

theorem stands_of_value : ∀ {depth : Nat} {d : Draft} {j : Json}, d.value depth = .ok j → d.Stands j
  | _, scalar _ _, _, h => by
    cases h
    rfl
  | depth, list start items e, j, h => by
    rw [value] at h
    split at h
    · cases h
    · obtain ⟨js, values, h⟩ := bind_eq_ok.1 h
      obtain ⟨_, good, h⟩ := bind_eq_ok.1 h
      cases h
      exact ⟨Ending.good_of_check good, standItems_of_values values⟩
  | _, table _ _ _, _, h => by
    rw [value] at h
    split at h
    · cases h
    · obtain ⟨ms, values, h⟩ := bind_eq_ok.1 h
      obtain ⟨_, good, h⟩ := bind_eq_ok.1 h
      cases h
      exact ⟨Ending.good_of_check good, standMembers_of_values values⟩
  | _, unreadable _, _, h => by cases h
  | _, broken _ _, _, h => by cases h

theorem standItems_of_values : ∀ {depth : Nat} {items : List (Option Place × Draft)}
    {js : List Json}, itemValues depth items = .ok js → StandItems items js
  | _, [], _, h => by
    cases h
    trivial
  | _, (_, _) :: _, _, h => by
    obtain ⟨j, value, h⟩ := bind_eq_ok.1 h
    obtain ⟨js, values, h⟩ := bind_eq_ok.1 h
    cases h
    exact ⟨stands_of_value value, standItems_of_values values⟩

theorem standMembers_of_values : ∀ {depth : Nat} {members : List (Draft × Option Place × Draft)}
    {ms : List (String × Json)}, memberValues depth members = .ok ms → StandMembers members ms
  | _, [], _, h => by
    cases h
    trivial
  | _, (_, _, _) :: _, _, h => by
    obtain ⟨name, text, h⟩ := bind_eq_ok.1 h
    obtain ⟨j, value, h⟩ := bind_eq_ok.1 h
    obtain ⟨ms, values, h⟩ := bind_eq_ok.1 h
    cases h
    exact ⟨text, stands_of_value value, standMembers_of_values values⟩

end

mutual

theorem stands_ofJson {e : Ending} (good : e.Good) : ∀ j : Json, (ofJson e j).Stands j
  | .null | .bool _ | .integer _ | .double _ | .string _ => rfl
  | .list items => ⟨good, standItems_ofItems good items⟩
  | .table members => ⟨good, standMembers_ofMembers good members⟩

theorem standItems_ofItems {e : Ending} (good : e.Good) : ∀ js : List Json,
    StandItems (ofItems e js) js
  | [] => trivial
  | j :: js => ⟨stands_ofJson good j, standItems_ofItems good js⟩

theorem standMembers_ofMembers {e : Ending} (good : e.Good) : ∀ ms : List (String × Json),
    StandMembers (ofMembers e ms) ms
  | [] => trivial
  | (_, j) :: ms => ⟨rfl, stands_ofJson good j, standMembers_ofMembers good ms⟩

end

/-- The members of the draft of a table have the values of the table. -/
theorem exists_table_of_value {depth : Nat} {d : Draft} {ms : List (String × Json)}
    (h : d.value depth = .ok (.table ms)) :
    ∃ start members e, d = table start members e ∧ e.Good ∧
      memberValues (depth - 1) members = .ok ms := by
  cases d with
  | scalar s stop => cases s <;> cases h
  | unreadable fault => cases h
  | broken fault passing => cases h
  | list start items e =>
    rw [value] at h
    split at h
    · cases h
    · obtain ⟨js, -, h⟩ := bind_eq_ok.1 h
      obtain ⟨_, -, h⟩ := bind_eq_ok.1 h
      cases h
  | table start members e =>
    rw [value] at h
    split at h
    · cases h
    · obtain ⟨js, values, h⟩ := bind_eq_ok.1 h
      obtain ⟨_, good, h⟩ := bind_eq_ok.1 h
      cases h
      exact ⟨start, members, e, rfl, Ending.good_of_check good, values⟩

theorem memberValues_eq_nil {depth : Nat} {members : List (Draft × Option Place × Draft)}
    (h : memberValues depth members = .ok []) : members = [] := by
  cases members with
  | nil => rfl
  | cons member members =>
    obtain ⟨name, -, h⟩ := bind_eq_ok.1 h
    obtain ⟨j, -, h⟩ := bind_eq_ok.1 h
    obtain ⟨ms, -, h⟩ := bind_eq_ok.1 h
    cases h

theorem memberValues_eq_cons {depth : Nat} {members : List (Draft × Option Place × Draft)}
    {name : String} {j : Json} {ms : List (String × Json)}
    (h : memberValues depth members = .ok ((name, j) :: ms)) :
    ∃ k behind d rest, members = (k, behind, d) :: rest ∧ k.text = .ok name ∧
      d.value depth = .ok j ∧ memberValues depth rest = .ok ms := by
  cases members with
  | nil => cases h
  | cons member members =>
    obtain ⟨name, text, h⟩ := bind_eq_ok.1 h
    obtain ⟨j, value, h⟩ := bind_eq_ok.1 h
    obtain ⟨ms, values, h⟩ := bind_eq_ok.1 h
    cases h
    exact ⟨_, _, _, _, rfl, text, value, values⟩

/-- `split` puts the values of members aside, unless the member is called `field`. -/
def PutsAside {β : Type} (field : String)
    (split : List (String × Json) → List (Draft × Option Place × Draft) → β) : Prop :=
  ∀ others k behind d members name j, k.text = .ok name → name ≠ field →
    d.value (depthLimit - 1) = .ok j →
    split others ((k, behind, d) :: members) = split ((name, j) :: others) members

section PutsAside

variable {β : Type} {field : String}
  {split : List (String × Json) → List (Draft × Option Place × Draft) → β}

/-- The members before others are put aside, and what remains are the others. -/
theorem PutsAside.append (aside : PutsAside field split) {rest : List (String × Json)} :
    ∀ (others : List (String × Json)) {members : List (Draft × Option Place × Draft)}
      {before : List (String × Json)},
      memberValues (depthLimit - 1) members = .ok (before ++ rest) →
      (∀ m ∈ before, m.1 ≠ field) →
      ∃ members', memberValues (depthLimit - 1) members' = .ok rest ∧
        split others members = split (before.reverse ++ others) members'
  | _, members, [], h, _ => ⟨members, h, rfl⟩
  | others, _, (name, j) :: before, h, other => by
    obtain ⟨k, behind, d, members, rfl, text, value, values⟩ := memberValues_eq_cons h
    obtain ⟨here, later⟩ := List.forall_mem_cons.1 other
    obtain ⟨members', values', rest⟩ := aside.append ((name, j) :: others) values later
    refine ⟨members', values', ?_⟩
    rw [aside _ _ _ _ _ _ _ text here value, rest, List.reverse_cons, List.append_assoc,
      List.singleton_append]

theorem PutsAside.all (aside : PutsAside field split) (others : List (String × Json))
    {members : List (Draft × Option Place × Draft)} {ms : List (String × Json)}
    (values : memberValues (depthLimit - 1) members = .ok ms) (other : ∀ m ∈ ms, m.1 ≠ field) :
    split others members = split (ms.reverse ++ others) [] := by
  obtain ⟨members', values, run⟩ :=
    aside.append others (by rwa [List.append_nil]) other
  rwa [memberValues_eq_nil values] at run

end PutsAside

/-! ## Parts -/

theorem insertEntry_last {α : Type} {k : String} {a : α} :
    ∀ {es : List (String × α)}, (∀ e ∈ es, e.1 < k) → Table.insertEntry k a es = es ++ [(k, a)]
  | [], _ => rfl
  | e :: es, below => by
    have before : e.1 < k := below e List.mem_cons_self
    rw [Table.insertEntry, if_neg (String.lt_asymm before), if_neg (Std.ne_of_lt before).symm,
      insertEntry_last fun e mem => below e (List.mem_cons_of_mem _ mem), List.cons_append]

/-- Entries that come in the order of their names are put behind each other. -/
theorem foldl_insert_sorted {α : Type} :
    ∀ {es : List (String × α)} {t : Table α} (sorted : Table.Sorted (t.entries ++ es)),
      es.foldl (fun t e => t.insert e.1 e.2) t = ⟨t.entries ++ es, sorted⟩
  | [], _, _ => Table.ext_entries (List.append_nil _).symm
  | (k, a) :: es, t, sorted => by
    have last : (t.insert k a).entries = t.entries ++ [(k, a)] :=
      insertEntry_last fun e mem =>
        (List.pairwise_append.1 sorted).2.2 e mem (k, a) List.mem_cons_self
    have same : (t.insert k a).entries ++ es = t.entries ++ (k, a) :: es := by
      rw [last, List.append_assoc, List.singleton_append]
    have sorted' : Table.Sorted ((t.insert k a).entries ++ es) := same ▸ sorted
    rw [List.foldl_cons, foldl_insert_sorted sorted']
    exact Table.ext_entries same

/-- A table is the one of its entries. -/
theorem ofList_entries {α : Type} (t : Table α) : Table.ofList t.entries = t :=
  foldl_insert_sorted (t := .empty) t.sorted

/-- Members are put into a table in the order in which they come. -/
theorem readMembers_insert {α : Type} {read : Draft → Except Fault α} {f : α → Json}
    (reads : ∀ d a, d.Stands (f a) → read d = .ok a) :
    ∀ {es : List (String × α)} {members : List (Draft × Option Place × Draft)} (t : Table α),
      StandMembers members (es.map fun e => (e.1, f e.2)) →
      readMembers read t members = .ok (es.foldl (fun t e => t.insert e.1 e.2) t)
  | [], [], _, _ => rfl
  | (k, a) :: es, (key, behind, d) :: members, t, stand => by
    obtain ⟨text, here, later⟩ := stand
    rw [readMembers, text, ok_bind, reads _ _ here, ok_bind]
    exact readMembers_insert reads (t.insert k a) later

namespace Stands

variable {d : Draft}

theorem exists_scalar {s : Scalar} (h : d.Stands s.toJson) : ∃ stop, d = scalar s stop := by
  cases d with
  | scalar s' stop =>
    have same : s'.toJson = s.toJson := h
    cases s' <;> cases s <;> cases same <;> exact ⟨stop, rfl⟩
  | _ => cases s <;> exact absurd h id

theorem exists_list {js : List Json} (h : d.Stands (.list js)) :
    ∃ start items e, d = list start items e ∧ e.Good ∧ StandItems items js := by
  cases d with
  | scalar s stop => cases s <;> cases h
  | list start items e => exact ⟨start, items, e, rfl, h⟩
  | _ => exact absurd h id

theorem exists_table {ms : List (String × Json)} (h : d.Stands (.table ms)) :
    ∃ start members e, d = table start members e ∧ e.Good ∧ StandMembers members ms := by
  cases d with
  | scalar s stop => cases s <;> cases h
  | table start members e => exact ⟨start, members, e, rfl, h⟩
  | _ => exact absurd h id

theorem text {s : String} (h : d.Stands (.string s)) : d.text = .ok s := by
  obtain ⟨stop, rfl⟩ := exists_scalar (s := .string s) h
  rfl

theorem word {n : UInt64} (h : d.Stands (.integer n.toNat)) : d.word = .ok n := by
  obtain ⟨stop, rfl⟩ := exists_scalar (s := .integer n.toNat) h
  have natural : ¬ (n.toNat : Int) < 0 := by omega
  rw [Draft.word, if_neg natural, Int.toNat_natCast, UInt64.ofNat_toNat]

theorem optionText {s : Option String} (h : d.Stands (.ofOption .string s)) :
    d.option Draft.text = .ok s := by
  cases s with
  | none =>
    obtain ⟨stop, rfl⟩ := exists_scalar (s := .null) h
    rfl
  | some s =>
    obtain ⟨stop, rfl⟩ := exists_scalar (s := .string s) h
    rfl

/-- What each item is decoded to is decoded from a list of them. -/
theorem listOf {α : Type} {read : Draft → Except Fault α} {f : α → Json}
    (reads : ∀ d a, d.Stands (f a) → read d = .ok a) {as : List α}
    (h : d.Stands (.list (as.map f))) : d.listOf read = .ok as := by
  obtain ⟨start, items, e, rfl, good, stand⟩ := h.exists_list
  have run : readItems read items = .ok as := by
    clear h
    induction as generalizing items with
    | nil =>
      cases items with
      | nil => rfl
      | cons item items => exact absurd stand id
    | cons a as ih =>
      cases items with
      | nil => exact absurd stand id
      | cons item items =>
        obtain ⟨here, later⟩ := stand
        rw [readItems, reads _ _ here, ih items later]
        rfl
  rw [Draft.listOf, run]
  show (do e.check Gap.inList; pure as) = _
  rw [good]
  rfl

theorem texts {xs : List String} (h : d.Stands (.strings xs)) : d.listOf Draft.text = .ok xs :=
  listOf (fun _ _ h => h.text) h

/-- What each value is decoded to is decoded from members of them, of which a later one replaces an
earlier one. -/
theorem tableOf_ofList {α : Type} {read : Draft → Except Fault α} {f : α → Json}
    (reads : ∀ d a, d.Stands (f a) → read d = .ok a) {es : List (String × α)}
    (h : d.Stands (.table (es.map fun e => (e.1, f e.2)))) :
    d.tableOf read = .ok (Table.ofList es) := by
  obtain ⟨start, members, e, rfl, good, stand⟩ := h.exists_table
  rw [Draft.tableOf, readMembers_insert reads .empty stand]
  show (do e.check Gap.inTable; pure _) = _
  rw [good]
  rfl

/-- What each value is decoded to is decoded from a table of them. -/
theorem tableOf {α : Type} {read : Draft → Except Fault α} {f : α → Json}
    (reads : ∀ d a, d.Stands (f a) → read d = .ok a) {t : Table α}
    (h : d.Stands (.table (t.entries.map fun e => (e.1, f e.2)))) : d.tableOf read = .ok t := by
  rw [tableOf_ofList reads h, ofList_entries]

end Stands

end Draft

/-! ## Records -/

namespace Shape

variable {ρ : Type}

/-- One of the fields takes the member, and puts it into a record. -/
def Takes (fields : List (Field ρ)) (m : String × Json) (put : ρ → ρ) : Prop :=
  ∃ f, fields.find? (·.name == m.1) = some f ∧ ∀ d r, d.Stands m.2 → f.read d r = .ok (put r)

theorem readMembers_takes {fields : List (Field ρ)} :
    ∀ {members : List (Draft × Option Place × Draft)} {ms : List (String × Json)}
      {puts : List (ρ → ρ)} (r : ρ) (seen : List String),
      Draft.StandMembers members ms → List.Forall₂ (Takes fields) ms puts →
      (ms.map (·.1)).Nodup → (∀ m ∈ ms, m.1 ∉ seen) →
      readMembers fields r seen members
        = .ok (puts.foldl (fun r put => put r) r, (ms.map (·.1)).reverse ++ seen)
  | [], [], [], _, _, _, _, _, _ => rfl
  | (k, behind, d) :: members, (name, j) :: ms, put :: puts, r, seen, stand, takes, once,
    fresh => by
    obtain ⟨text, here, later⟩ := stand
    obtain ⟨⟨f, found, reads⟩, takes⟩ := List.forall₂_cons.1 takes
    obtain ⟨new, once⟩ := List.nodup_cons.1 once
    have unseen : seen.contains name = false := by
      simpa using fresh _ List.mem_cons_self
    have fresh' : ∀ m ∈ ms, m.1 ∉ name :: seen := by
      intro m mem
      have other : m.1 ≠ name := fun same => new (List.mem_map.2 ⟨m, mem, same⟩)
      simp [other, fresh m (List.mem_cons_of_mem _ mem)]
    have rest := readMembers_takes (put r) (name :: seen) later takes once fresh'
    rw [readMembers, text, ok_bind, found]
    simp only [unseen, reads d r here, Bool.false_eq_true, if_false]
    rw [ok_bind, rest, List.map_cons, List.reverse_cons, List.append_assoc, List.singleton_append,
      List.foldl_cons]

end Shape

/-- A table of members that the fields take, each of another name and none missing, is read as the
record with all of them. -/
theorem Draft.Stands.record {ρ : Type} {shape : Shape ρ} {d : Draft} {ms : List (String × Json)}
    {puts : List (ρ → ρ)} (h : d.Stands (.table ms))
    (takes : List.Forall₂ (Shape.Takes shape.fields) ms puts) (once : (ms.map (·.1)).Nodup)
    (full : ∀ f ∈ shape.fields, f.required = true → f.name ∈ ms.map (·.1)) :
    shape.read d = .ok (puts.foldl (fun r put => put r) shape.start) := by
  obtain ⟨start, members, e, rfl, good, stand⟩ := h.exists_table
  have run := Shape.readMembers_takes shape.start [] stand takes once (by simp)
  have complete : shape.fields.find? (fun f =>
      f.required && !((ms.map (·.1)).reverse ++ ([] : List String)).contains f.name) = none := by
    rw [List.find?_eq_none]
    intro f mem missing
    obtain ⟨required, absent⟩ := Bool.and_eq_true_iff.1 missing
    have given := full f mem required
    rw [List.append_nil, Bool.not_eq_true', List.contains_eq_mem, decide_eq_false_iff_not,
      List.mem_reverse] at absent
    exact absent given
  rw [Shape.read, run, ok_bind]
  show (do e.check Gap.inTable; _) = _
  rw [good, complete]
  rfl

/-- The members may come in any order if it does not matter in which order they are put. -/
theorem Draft.Stands.record_perm {ρ : Type} {shape : Shape ρ} {d : Draft}
    {ms ms' : List (String × Json)} {puts : List (ρ → ρ)} (h : d.Stands (.table ms))
    (order : ms.Perm ms') (takes : List.Forall₂ (Shape.Takes shape.fields) ms' puts)
    (commute : ∀ p ∈ puts, ∀ q ∈ puts, ∀ r, p (q r) = q (p r)) (once : (ms'.map (·.1)).Nodup)
    (full : ∀ f ∈ shape.fields, f.required = true → f.name ∈ ms'.map (·.1)) :
    shape.read d = .ok (puts.foldl (fun r put => put r) shape.start) := by
  have names := order.map (·.1)
  obtain ⟨puts', takes', order'⟩ := List.perm_comp_forall₂ order takes
  rw [h.record takes' (names.nodup_iff.2 once)
      fun f mem required => names.mem_iff.2 (full f mem required),
    order'.foldl_eq' (fun p hp q hq r => ?_)]
  exact (commute q (order'.mem_iff.1 hq) p (order'.mem_iff.1 hp) r)

/-! ## Texts -/

/-- Whatever is decoded from a text that stands for a value is decoded from one draft. -/
theorem decodeText_of_read {text : String} {j : Json} (h : read text = .ok j) :
    ∃ d, d.value Draft.depthLimit = .ok j ∧
      ∀ {α : Type} (decode : Draft → Except Fault α), decodeText decode text = decode d := by
  obtain ⟨d, rest, reading⟩ : ∃ d rest,
      readValue (2 * text.toList.length + 2) ⟨text.toList, {}⟩ = (d, rest) := ⟨_, _, rfl⟩
  simp only [read, decodeText, reading] at h ⊢
  obtain ⟨j', value, ends⟩ := bind_eq_ok.1 h
  refine ⟨d, ?_⟩
  split at ends
  · split at ends
    · rename_i finished
      cases ends
      simp only [finished, if_true]
      exact ⟨value, fun decode => bind_pure (decode d)⟩
    · cases ends
  · cases ends
    exact ⟨value, fun decode => bind_pure (decode d)⟩

end LivePreview.Json
