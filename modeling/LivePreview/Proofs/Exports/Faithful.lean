import LivePreview.Proofs.Exports.Bindings

/-!
# Exports are recorded

What a module exports by declarations and lists is assigned on its `exports`, and what is assigned
is a value that the lowered code has (`Faithful`), exactly for modules that are `Clear`
(`lower_exports_iff`). Two kinds of exports are passed by, namespaces and names of values that are
names of types too; and names in lists are taken for values though nothing makes them any.
-/

namespace LivePreview.Module

open Script Text

/-- A namespace, filled or not. -/
def isNamespace : Stmt → Bool
  | .namespace _ _ _ _ => true
  | _ => false

/-- The values that a statement exports by a declaration, or by a list whose names are among
`values`. -/
def offered (values : List String) : Stmt → List Assignment
  | .exportDecl _ inner => inner.values.map .own
  | .exportNames _ false specifiers none _ =>
    (listed specifiers).filter fun a => values.contains a.name
  | _ => []

/-- Those of them that are passed by: namespaces, and values that have the name of a type. -/
def overlooked (types values : List String) : Stmt → List Assignment
  | .exportDecl _ inner =>
    if isNamespace inner then inner.values.map .own else []
  | .exportNames _ false specifiers none _ =>
    (listed specifiers).filter fun a => values.contains a.name && types.contains a.name
  | _ => []

/-- Names that a statement exports without making them values: those in a list, and those of
functions without a body. -/
def spoken (types : List String) : Stmt → List String
  | .exportNames _ false specifiers none _ =>
    ((listed specifiers).filter fun a => !types.contains a.name).map (·.name)
  | .exportDecl _ (.function f) => if f.hasBody then [] else (Stmt.function f).values
  | .exportDefault span inner =>
    if inner.made.isEmpty then (namedDefault? (.exportDefault span inner)).toList else []
  | _ => []

section
variable (statements : List Stmt)

/-- The names of the values that are declared or imported at the top of a source. -/
def topValues : List String :=
  ((statements.flatMap Stmt.declared).filter fun d => d.value && !d.ambient).map (·.name)

/-- The names at the top of a source that the assignments read. -/
def reads : List String :=
  stars statements ++ (defaults statements).getLast?.toList ++ (assignments statements).map (·.name)

/-- All exported values are recorded and assigned, and what is assigned is a value in the code. -/
structure Faithful (cs : List Char) (lowered : Lowered) : Prop where
  named : ∀ s ∈ statements, ∀ a ∈ offered (topValues statements) s,
    a.exported ∈ lowered.namedExports ∧ a ∈ assignments statements
  default : ∀ name ∈ defaults statements, lowered.defaultExport = some name
  bound : ∀ name ∈ reads statements, ∃ n s, (n, s) ∈ numbered 0 statements ∧ name ∈ makes n s ∧
    Stays cs (keptText cs statements) name s

/-- What is passed by is exported in another way too, default exports have one name, and what is
exported by name is made a value. -/
structure Clear : Prop where
  named : ∀ s ∈ statements, ∀ a ∈ overlooked (typeNames statements) (topValues statements) s,
    a ∈ assignments statements
  default : ∀ name ∈ defaults statements, (defaults statements).getLast? = some name
  bound : ∀ s ∈ statements, ∀ name ∈ spoken (typeNames statements) s, name ∈ made statements

end

instance (statements : List Stmt) : Decidable (Clear statements) :=
  decidable_of_iff (_ ∧ _ ∧ _) ⟨fun ⟨a, b, c⟩ => ⟨a, b, c⟩, fun ⟨a, b, c⟩ => ⟨a, b, c⟩⟩

/-- The code of a lowered module is its kept text with the assignments, and its exports are those
that are assigned. -/
structure Appends (cs : List Char) (statements : List Stmt) (lowered : Lowered) : Prop where
  code : lowered.code = String.ofList (keptText cs statements) ++ appended statements
  named : lowered.namedExports = (assignments statements).map (·.exported)
  default : lowered.defaultExport = (defaults statements).getLast?

theorem lower_appends {path source : String} {program : Program}
    (parsed : parse (.ofPath path true) source = .ok program) :
    ∃ lowered, lower .module path source = .ok lowered ∧
      Appends source.toList program.body.statements lowered := by
  have lowers := lower_of_parse .module parsed
  obtain ⟨program', parsed', code⟩ := lower_eq_weave lowers
  cases parsed.symm.trans parsed'
  have role : (Surroundings.of .module source.toList program.body.statements).role = .module := rfl
  have records := gather_records role {} program.body.statements
  refine ⟨_, lowers, ?_, ?_, ?_⟩
  · rw [code, codeWith, if_pos rfl, epilogue_gather]
    rfl
  · rw [Lowered.ofStatements, gather, records.exports, List.nil_append, List.map_map]
    rfl
  · rw [Lowered.ofStatements, gather, records.default, Option.or_none]
    rfl

/-! ## What is assigned -/

variable {statements : List Stmt}

theorem exists_numbered {s : Stmt} (h : s ∈ statements) (n : Nat) :
    ∃ m, (m, s) ∈ numbered n statements := by
  induction statements generalizing n with
  | nil => cases h
  | cons first rest ih =>
    rcases List.mem_cons.1 h with rfl | h
    · exact ⟨n, List.mem_cons_self⟩
    · obtain ⟨m, mem⟩ := ih h (n + (passesOn .module first).toNat)
      exact ⟨m, List.mem_cons_of_mem _ mem⟩

theorem mem_assignments {a : Assignment} : a ∈ assignments statements ↔
    ∃ n s, (n, s) ∈ numbered 0 statements ∧ a ∈ assigned (typeNames statements) n s := by
  simp [assignments]

theorem mem_made {name : String} : name ∈ made statements ↔
    ∃ n s, (n, s) ∈ numbered 0 statements ∧ name ∈ makes n s := by
  simp [made]

theorem values_eq_declaredNames {s : Stmt} (other : isNamespace s = false) :
    s.values = declaredNames s := by
  cases s
  case «namespace» => cases other
  case function f =>
    cases f
    rfl
  case «class» c =>
    cases c
    rfl
  all_goals rfl

/-- A declaration makes what it declares a value, unless it is a function without a body. -/
theorem made_of_declaredNames {s : Stmt} {name : String} (h : name ∈ declaredNames s) :
    name ∈ s.made ∨ ∃ f, s = .function f ∧ f.hasBody = false := by
  have values : name ∈ s.values := by
    cases s
    case «namespace» => cases h
    all_goals rwa [values_eq_declaredNames rfl]
  cases s
  case function f =>
    cases body : f.hasBody with
    | true => exact .inl (by rwa [Stmt.made, if_pos body])
    | false => exact .inr ⟨f, rfl, body⟩
  case importAlias | labeled => cases h
  all_goals exact .inl (List.mem_append_left _ values)

/-- What is passed by is offered. -/
theorem offered_of_overlooked {types values : List String} {s : Stmt} {a : Assignment}
    (h : a ∈ overlooked types values s) : a ∈ offered values s := by
  unfold overlooked at h
  split at h
  · split at h
    · exact h
    · cases h
  · obtain ⟨mem, both⟩ := List.mem_filter.1 h
    exact List.mem_filter.2 ⟨mem, (Bool.and_eq_true_iff.1 both).1⟩
  · cases h

/-- What is offered and not passed by is assigned. -/
theorem assigned_of_offered {types values : List String} {s : Stmt} {a : Assignment}
    (h : a ∈ offered values s) (n : Nat) :
    a ∈ overlooked types values s ∨ a ∈ assigned types n s := by
  unfold offered at h
  split at h
  · next span inner =>
    cases kind : isNamespace inner with
    | true => exact .inl (by rwa [overlooked, if_pos kind])
    | false =>
      rw [values_eq_declaredNames kind] at h
      exact .inr h
  · obtain ⟨mem, value⟩ := List.mem_filter.1 h
    cases type : types.contains a.name with
    | true => exact .inl (List.mem_filter.2 ⟨mem, Bool.and_eq_true_iff.2 ⟨value, type⟩⟩)
    | false => exact .inr (List.mem_filter.2 ⟨mem, by rw [type]; rfl⟩)
  · cases h

/-- What is assigned is made a value by the statement, or exported by name. -/
theorem makes_of_assigned {types : List String} {n : Nat} {s : Stmt} {a : Assignment}
    (h : a ∈ assigned types n s) : a.name ∈ makes n s ∨ a.name ∈ spoken types s := by
  unfold assigned at h
  split at h
  · next span inner =>
    obtain ⟨name, mem, rfl⟩ := List.mem_map.1 h
    rcases made_of_declaredNames mem with made | ⟨f, rfl, bodiless⟩
    · exact .inl made
    · rw [← values_eq_declaredNames rfl] at mem
      exact .inr (by rwa [spoken, bodiless])
  · exact .inr (List.mem_map_of_mem h)
  · obtain ⟨spec, mem, rfl⟩ := List.mem_map.1 h
    exact .inl List.mem_cons_self
  · cases List.mem_singleton.1 h
    exact .inl List.mem_cons_self
  · cases h

theorem makes_of_starred {n : Nat} {s : Stmt} {name : String} (h : name ∈ starred n s) :
    name ∈ makes n s := by
  unfold starred at h
  split at h
  · exact h
  · cases h

/-- The name of a default export is made a value by it, or exported by name. -/
theorem makes_of_namedDefault {types : List String} {s : Stmt} {name : String}
    (h : namedDefault? s = some name) (n : Nat) : name ∈ makes n s ∨ name ∈ spoken types s := by
  have default {span : Span} {inner : Stmt}
      (h : namedDefault? (.exportDefault span inner) = some name)
      (one : ∀ made ∈ inner.made, made = name) :
      name ∈ makes n (.exportDefault span inner) ∨
        name ∈ spoken types (.exportDefault span inner) := by
    cases empty : inner.made.isEmpty with
    | true => exact .inr (by simp [spoken, empty, h])
    | false =>
      obtain ⟨made, mem⟩ := List.isEmpty_eq_false_iff_exists_mem.1 empty
      exact .inl (one made mem ▸ mem)
  unfold namedDefault? at h
  split at h
  · exact default h fun made mem => Option.some.inj ((Function.name?_of_made mem).symm.trans h)
  · exact default h fun made mem => Option.some.inj ((Class.name?_of_made mem).symm.trans h)
  · cases h

theorem made_or_spoken {name : String} (h : name ∈ reads statements) :
    name ∈ made statements ∨ ∃ s ∈ statements, name ∈ spoken (typeNames statements) s := by
  rcases List.mem_append.1 h with h | h
  · rcases List.mem_append.1 h with h | h
    · obtain ⟨⟨n, s⟩, mem, star⟩ := List.mem_flatMap.1 h
      exact .inl (mem_made.2 ⟨n, s, mem, makes_of_starred star⟩)
    · have mem := List.mem_of_getLast? (Option.mem_toList.1 h)
      obtain ⟨s, mem, default⟩ := List.mem_filterMap.1 mem
      obtain ⟨n, numbered⟩ := exists_numbered mem 0
      rcases makes_of_namedDefault default n with here | here
      · exact .inl (mem_made.2 ⟨n, s, numbered, here⟩)
      · exact .inr ⟨s, mem, here⟩
  · obtain ⟨a, mem, rfl⟩ := List.mem_map.1 h
    obtain ⟨n, s, mem, here⟩ := mem_assignments.1 mem
    rcases makes_of_assigned here with here | here
    · exact .inl (mem_made.2 ⟨n, s, mem, here⟩)
    · exact .inr ⟨s, mem_of_mem_numbered mem, here⟩

/-- What is exported by name is read, if default exports have one name. -/
theorem reads_of_spoken
    (default : ∀ name ∈ defaults statements, (defaults statements).getLast? = some name) {s : Stmt}
    (mem : s ∈ statements) {name : String} (h : name ∈ spoken (typeNames statements) s) :
    name ∈ reads statements := by
  obtain ⟨n, numbered⟩ := exists_numbered mem 0
  have read {a : Assignment} (h : a ∈ assigned (typeNames statements) n s) :
      a.name ∈ reads statements :=
    List.mem_append_right _ (List.mem_map_of_mem (mem_assignments.2 ⟨n, s, numbered, h⟩))
  unfold spoken at h
  split at h
  · obtain ⟨a, mem, rfl⟩ := List.mem_map.1 h
    exact read mem
  · next span f =>
    split at h
    · cases h
    · rw [values_eq_declaredNames rfl] at h
      exact read (a := .own name) (List.mem_map_of_mem h)
  · next span inner =>
    split at h
    · have last := default name (List.mem_filterMap.2 ⟨_, mem, Option.mem_toList.1 h⟩)
      exact List.mem_append_left _ (List.mem_append_right _ (Option.mem_toList.2 last))
    · cases h
  · cases h

/-- A module's exports are recorded as it says, and read what its code has, if and only if it is
clear. -/
theorem lower_exports_iff {path source : String} {program : Program}
    (parsed : parse (.ofPath path true) source = .ok program) :
    ∃ lowered, lower .module path source = .ok lowered ∧
      Appends source.toList program.body.statements lowered ∧
      (Faithful program.body.statements source.toList lowered ↔ Clear program.body.statements) := by
  obtain ⟨lowered, lowers, appends⟩ := lower_appends parsed
  have laid := laid_of_parse (module_ofPath path) parsed
  refine ⟨lowered, lowers, appends, fun faithful => ?_, fun clear => ?_⟩
  · have default : ∀ name ∈ defaults program.body.statements,
        (defaults program.body.statements).getLast? = some name := fun name mem =>
      appends.default ▸ faithful.default name mem
    refine ⟨fun s mem a passed => (faithful.named s mem a (offered_of_overlooked passed)).2,
      default, fun s mem name said => ?_⟩
    obtain ⟨n, s, mem, makes, -⟩ := faithful.bound name (reads_of_spoken default mem said)
    exact mem_made.2 ⟨n, s, mem, makes⟩
  · refine ⟨fun s mem a offer => ?_, fun name mem => appends.default ▸ clear.default name mem,
      fun name read => ?_⟩
    · have assigned : a ∈ assignments program.body.statements := by
        obtain ⟨n, numbered⟩ := exists_numbered mem 0
        rcases assigned_of_offered offer n with passed | here
        · exact clear.named s mem a passed
        · exact mem_assignments.2 ⟨n, s, numbered, here⟩
      exact ⟨appends.named ▸ List.mem_map_of_mem assigned, assigned⟩
    · have made : name ∈ made program.body.statements := by
        rcases made_or_spoken read with made | ⟨s, mem, said⟩
        · exact made
        · exact clear.bound s mem name said
      obtain ⟨n, s, mem, makes⟩ := mem_made.1 made
      exact ⟨n, s, mem, makes, stays_of_makes laid mem makes⟩

/-- A source with imports, a pattern, a list, a whole module and a default export. -/
def shapes : String :=
  "import d, \x7b a as b \x7d from \"x\";\nexport const \x7b p, q: [r] \x7d = d;\n"
    ++ "export \x7b b as c \x7d;\nexport * from \"y\";\nexport default function f() \x7b\x7d"

theorem lower_exports_shapes :
    ∃ program lowered, parse (.ofPath "m.ts" true) shapes = .ok program ∧
      lower .module "m.ts" shapes = .ok lowered ∧
      lowered.namedExports = ["p", "r", "c"] ∧ lowered.defaultExport = some "f" ∧
      Faithful program.body.statements shapes.toList lowered := by
  obtain ⟨program, parsed, clear⟩ := exists_ok (x := parse (.ofPath "m.ts" true) shapes)
    (p := fun program => decide (Clear program.body.statements)) (by decide +kernel)
  obtain ⟨lowered, lowers, recorded⟩ := exists_ok (x := lower .module "m.ts" shapes)
    (p := fun l => l.namedExports == ["p", "r", "c"] && l.defaultExport == some "f")
    (by decide +kernel)
  obtain ⟨named, default⟩ := Bool.and_eq_true_iff.1 recorded
  obtain ⟨lowered', lowers', -, iff⟩ := lower_exports_iff parsed
  cases lowers.symm.trans lowers'
  exact ⟨program, lowered, parsed, lowers, eq_of_beq named, eq_of_beq default,
    iff.2 (of_decide_eq_true clear)⟩

/-- An exported namespace is a value, but is not recorded. -/
theorem lower_exports_no_namespace :
    ∃ program lowered,
      parse (.ofPath "m.ts" true) "export namespace N \x7b export const a = 1 \x7d" =
        .ok program ∧
      lower .module "m.ts" "export namespace N \x7b export const a = 1 \x7d" = .ok lowered ∧
      program.body.statements.flatMap (offered (topValues program.body.statements)) =
        [⟨"N", "N", none⟩] ∧
      lowered.namedExports = [] := by
  obtain ⟨program, parsed, offers⟩ := exists_ok
    (x := parse (.ofPath "m.ts" true) "export namespace N \x7b export const a = 1 \x7d")
    (p := fun program => program.body.statements.flatMap
      (offered (topValues program.body.statements)) == [⟨"N", "N", none⟩]) (by decide +kernel)
  obtain ⟨lowered, lowers, recorded⟩ := exists_ok
    (x := lower .module "m.ts" "export namespace N \x7b export const a = 1 \x7d")
    (p := fun l => l.namedExports == []) (by decide +kernel)
  exact ⟨program, lowered, parsed, lowers, eq_of_beq offers, eq_of_beq recorded⟩

end LivePreview.Module
