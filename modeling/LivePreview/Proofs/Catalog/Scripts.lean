import LivePreview.Catalog
import LivePreview.Proofs.Registry.Spellings
import Mathlib.Data.List.Basic
import Mathlib.Data.List.Induction

/-!
# The scripts of what is asked for

A name that is asked for again, or that the catalog does not hold, adds no script. Each fact about
`unique` here looks at what one more name at the end changes (`unique_concat`).

`scripts_in_order`: the scripts of two lists of names are those of the first and then those of what
the second names anew; unknown names do not matter; there is one script for each known name, in the
order of their first places, and its address is the one that was put into the catalog last.
-/

namespace LivePreview

namespace Path

variable {xs ys : List String} {x : String}

theorem unique_concat (xs : List String) (x : String) :
    unique (xs ++ [x]) = pushUnique (unique xs) x :=
  List.foldl_concat ..

theorem pushUnique_of_mem (h : x ∈ xs) : pushUnique xs x = xs :=
  if_pos (List.contains_iff_mem.2 h)

theorem pushUnique_of_not_mem (h : x ∉ xs) : pushUnique xs x = xs ++ [x] :=
  if_neg fun there => h (List.contains_iff_mem.1 there)

theorem pushUnique_append (h : x ∉ xs) : pushUnique (xs ++ ys) x = xs ++ pushUnique ys x := by
  by_cases there : x ∈ ys
  · rw [pushUnique_of_mem there, pushUnique_of_mem (List.mem_append_right _ there)]
  · rw [pushUnique_of_not_mem there, pushUnique_of_not_mem (by simp [h, there]), List.append_assoc]

/-- Behind `xs` only what is not among them is new. -/
theorem unique_append (xs ys : List String) :
    unique (xs ++ ys) = unique xs ++ unique (ys.removeAll xs) := by
  induction ys using List.reverseRecOn with
  | nil => simp [unique, List.removeAll]
  | append_singleton ys y ih =>
    rw [← List.append_assoc, unique_concat, ih]
    by_cases there : y ∈ xs
    · have same : (ys ++ [y]).removeAll xs = ys.removeAll xs := by simp [List.removeAll, there]
      rw [same, pushUnique_of_mem (List.mem_append_left _ (mem_unique.2 there))]
    · have more : (ys ++ [y]).removeAll xs = ys.removeAll xs ++ [y] := by
        simp [List.removeAll, there]
      rw [more, unique_concat, pushUnique_append fun h => there (mem_unique.1 h)]

theorem filter_pushUnique {p : String → Bool} (kept : p x = true) :
    (pushUnique xs x).filter p = pushUnique (xs.filter p) x := by
  by_cases there : x ∈ xs
  · rw [pushUnique_of_mem there, pushUnique_of_mem (List.mem_filter.2 ⟨there, kept⟩)]
  · have absent : x ∉ xs.filter p := fun h => there (List.mem_filter.1 h).1
    rw [pushUnique_of_not_mem there, pushUnique_of_not_mem absent, List.filter_append,
      List.filter_singleton, kept, cond_true]

theorem filter_pushUnique_of_false {p : String → Bool} (dropped : p x = false) :
    (pushUnique xs x).filter p = xs.filter p := by
  by_cases there : x ∈ xs
  · rw [pushUnique_of_mem there]
  · rw [pushUnique_of_not_mem there, List.filter_append, List.filter_singleton, dropped, cond_false,
      List.append_nil]

theorem unique_filter (p : String → Bool) (xs : List String) :
    unique (xs.filter p) = (unique xs).filter p := by
  induction xs using List.reverseRecOn with
  | nil => rfl
  | append_singleton xs x ih =>
    rw [unique_concat, List.filter_append, List.filter_singleton]
    cases h : p x with
    | true => rw [cond_true, unique_concat, ih, filter_pushUnique h]
    | false => rw [cond_false, List.append_nil, ih, filter_pushUnique_of_false h]

/-- Without repetitions the values are in the order of their first places. -/
theorem pairwise_idxOf_unique (xs : List String) :
    (unique xs).Pairwise fun x y => xs.idxOf x < xs.idxOf y := by
  -- A name added at the end moves no first place; one added in front would move all of them.
  induction xs using List.reverseRecOn with
  | nil => exact .nil
  | append_singleton xs x ih =>
    have place {y : String} (h : y ∈ unique xs) : (xs ++ [x]).idxOf y = xs.idxOf y :=
      List.idxOf_append_of_mem (mem_unique.1 h)
    have before : (unique xs).Pairwise fun y z => (xs ++ [x]).idxOf y < (xs ++ [x]).idxOf z :=
      ih.imp_of_mem fun hy hz h => by rwa [place hy, place hz]
    rw [unique_concat]
    by_cases there : x ∈ unique xs
    · rwa [pushUnique_of_mem there]
    · rw [pushUnique_of_not_mem there, List.pairwise_append]
      refine ⟨before, List.pairwise_singleton .., fun y hy z hz => ?_⟩
      rw [List.mem_singleton.1 hz, place hy,
        List.idxOf_append_of_notMem fun h => there (mem_unique.2 h)]
      exact Nat.lt_add_right _ (List.idxOf_lt_length_iff.2 (mem_unique.1 hy))

end Path

namespace Catalog

open LivePreview.Path

/-- What a catalog holds under a name after `extras` were added: the last of them with the name,
else what it held before. -/
def held? (base : Catalog) (extras : List Dependency) (name : String) : Option Dependency :=
  (extras.findRev? (·.name == name)).or (base.get? name)

theorem get?_extend (base : Catalog) (extras : List Dependency) (name : String) :
    (base.extend extras).get? name = base.held? extras name := by
  unfold held?
  rw [List.findRev?_eq_find?_reverse]
  induction extras using List.reverseRecOn with
  | nil => rfl
  | append_singleton extras d ih =>
    have step : (base.extend (extras ++ [d])).get? name =
        if name = d.name then some d else (base.extend extras).get? name := by
      rw [get?, extend, List.foldl_concat, Table.get?_insert]
      rfl
    rw [step, List.reverse_concat, List.find?_cons]
    by_cases same : name = d.name
    · rw [if_pos same, beq_iff_eq.2 same.symm, Option.some_or]
    · rw [if_neg same, beq_eq_false_iff_ne.2 (Ne.symm same), ih]

variable (c : Catalog)

theorem contains_eq (name : String) : c.contains name = (c.get? name).isSome := rfl

theorem mem_unknown {requested : List String} {name : String} :
    name ∈ c.unknown requested ↔ name ∈ requested ∧ c.contains name = false := by
  rw [unknown, List.mem_filter, Bool.not_eq_true']

theorem scriptUrls_append (a b : List String) :
    c.scriptUrls (a ++ b) = c.scriptUrls a ++ c.scriptUrls (b.removeAll a) := by
  rw [scriptUrls, unique_append, List.filterMap_append]
  rfl

/-- The scripts are those of the known names. -/
theorem map_scriptUrls (requested : List String) :
    (c.scriptUrls requested).map some =
      ((unique requested).filter c.contains).map fun name => (c.get? name).map (·.url) := by
  rw [scriptUrls]
  induction unique requested with
  | nil => rfl
  | cons name names ih =>
    cases found : c.get? name with
    | none =>
      have absent : c.contains name = false := by rw [contains_eq, found]; rfl
      rw [List.filterMap_cons, found, List.filter_cons, absent]
      exact ih
    | some d =>
      have present : c.contains name = true := by rw [contains_eq, found]; rfl
      rw [List.filterMap_cons, found, List.filter_cons, present, if_pos rfl, List.map_cons, found,
        Option.map_some, List.map_cons, ih]

/-- Names that the catalog does not hold do not matter. -/
theorem scriptUrls_congr {a b : List String} (same : a.filter c.contains = b.filter c.contains) :
    c.scriptUrls a = c.scriptUrls b := by
  have h := c.map_scriptUrls a
  rw [← unique_filter, same, unique_filter, ← map_scriptUrls] at h
  exact (List.map_inj_right fun _ _ => Option.some.inj).1 h

/-- The names that are asked for and known, in the order of the first time each is asked for. -/
structure Served (requested names : List String) : Prop where
  mem (name : String) : name ∈ names ↔ name ∈ requested ∧ name ∉ c.unknown requested
  order : names.Pairwise fun m n => requested.idxOf m < requested.idxOf n

theorem served_unique (requested : List String) :
    c.Served requested ((unique requested).filter c.contains) where
  mem name := by
    rw [List.mem_filter, mem_unique, mem_unknown]
    grind
  order := (pairwise_idxOf_unique requested).filter _

/-- Scripts are loaded once each, in the order in which they are asked for, whatever is asked for
again or not known. -/
theorem scripts_in_order (base : Catalog) (extras : List Dependency) (a b : List String) :
    let c := base.extend extras
    c.scriptUrls (a ++ b) = c.scriptUrls a ++ c.scriptUrls (b.removeAll a) ∧
      (a.filter c.contains = b.filter c.contains → c.scriptUrls a = c.scriptUrls b) ∧
      ∃ names, c.Served a names ∧
        (c.scriptUrls a).map some = names.map fun name => (base.held? extras name).map (·.url) := by
  intro c
  refine ⟨c.scriptUrls_append a b, c.scriptUrls_congr, _, c.served_unique a, ?_⟩
  simp only [← get?_extend]
  exact c.map_scriptUrls a

/-- An unknown name before and between known ones, one of which was given anew twice. -/
theorem scripts_in_order_replaced :
    let c := builtin.extend [⟨"zod", "one.js", none⟩, ⟨"zod", "two.js", some "z"⟩]
    ["zod", "left-pad", "axios"].filter c.contains =
        ["left-pad", "zod", "axios", "left-pad"].filter c.contains ∧
      c.scriptUrls ["zod", "left-pad", "axios"] =
        c.scriptUrls ["left-pad", "zod", "axios", "left-pad"] := by
  intro c
  have same : ["zod", "left-pad", "axios"].filter c.contains =
      ["left-pad", "zod", "axios", "left-pad"].filter c.contains := by decide +kernel
  exact ⟨same, (scripts_in_order builtin _ _ _).2.1 same⟩

end Catalog

end LivePreview
