import LivePreview.Build.Answer
import LivePreview.Proofs.Json.Decoding
import LivePreview.Proofs.Json.ReadBack

/-!
# Builds as texts are builds

A configuration and a request are read back from the table that holds the members of both, in
whatever order they come (`readInput_eq`). So a build for callers who have only text comes to what
the build comes to (`answer_eq_build`): to the text of its output, or to the complaint about the
configuration or the entry.
-/

namespace LivePreview

open Json

/-! ## Records read back -/

theorem Dependency.shape_read {dep : Dependency} {d : Draft} (h : d.Stands dep.toJson) :
    shape.read d = .ok dep := by
  have takes : List.Forall₂ (Shape.Takes shape.fields)
      [("packageName", .string dep.name), ("cdnUrl", .string dep.url),
        ("globalName", .ofOption .string dep.global?)]
      [fun r => { r with name := dep.name }, fun r => { r with url := dep.url },
        fun r => { r with global? := dep.global? }] :=
    .cons ⟨_, rfl, fun _ _ h => bind_eq_ok.2 ⟨_, h.text, rfl⟩⟩ <|
    .cons ⟨_, rfl, fun _ _ h => bind_eq_ok.2 ⟨_, h.text, rfl⟩⟩ <|
    .cons ⟨_, rfl, fun _ _ h => bind_eq_ok.2 ⟨_, h.optionText, rfl⟩⟩ .nil
  exact h.record takes (by simp) (by simp [shape])

theorem Script.JsxSettings.shape_read {s : JsxSettings} {d : Draft} (h : d.Stands s.toJson) :
    shape.read d = .ok s := by
  have takes : List.Forall₂ (Shape.Takes shape.fields)
      [("pragma", .string s.pragma), ("pragmaFrag", .string s.pragmaFrag)]
      [fun r => { r with pragma := s.pragma }, fun r => { r with pragmaFrag := s.pragmaFrag }] :=
    .cons ⟨_, rfl, fun _ _ h => bind_eq_ok.2 ⟨_, h.text, rfl⟩⟩ <|
    .cons ⟨_, rfl, fun _ _ h => bind_eq_ok.2 ⟨_, h.text, rfl⟩⟩ .nil
  exact h.record takes (by simp) (by simp [shape])

theorem Config.shape_read {c : Config} {d : Draft} (h : d.Stands c.toJson) :
    shape.read d = .ok c := by
  have takes : List.Forall₂ (Shape.Takes shape.fields)
      [("debounceMs", .integer c.debounceMs.toNat),
        ("pollIntervalMs", .integer c.pollIntervalMs.toNat),
        ("entryPath", .string c.entryPath), ("bootstrapPattern", .string c.bootstrapPattern),
        ("reactUrl", .string c.reactUrl), ("reactDomUrl", .string c.reactDomUrl),
        ("jsx", c.jsx.toJson), ("extraDependencies", .list (c.extraDependencies.map (·.toJson)))]
      [fun r => { r with debounceMs := c.debounceMs },
        fun r => { r with pollIntervalMs := c.pollIntervalMs },
        fun r => { r with entryPath := c.entryPath },
        fun r => { r with bootstrapPattern := c.bootstrapPattern },
        fun r => { r with reactUrl := c.reactUrl },
        fun r => { r with reactDomUrl := c.reactDomUrl }, fun r => { r with jsx := c.jsx },
        fun r => { r with extraDependencies := c.extraDependencies }] :=
    .cons ⟨_, rfl, fun _ _ h => bind_eq_ok.2 ⟨_, h.word, rfl⟩⟩ <|
    .cons ⟨_, rfl, fun _ _ h => bind_eq_ok.2 ⟨_, h.word, rfl⟩⟩ <|
    .cons ⟨_, rfl, fun _ _ h => bind_eq_ok.2 ⟨_, h.text, rfl⟩⟩ <|
    .cons ⟨_, rfl, fun _ _ h => bind_eq_ok.2 ⟨_, h.text, rfl⟩⟩ <|
    .cons ⟨_, rfl, fun _ _ h => bind_eq_ok.2 ⟨_, h.text, rfl⟩⟩ <|
    .cons ⟨_, rfl, fun _ _ h => bind_eq_ok.2 ⟨_, h.text, rfl⟩⟩ <|
    .cons ⟨_, rfl, fun _ _ h => bind_eq_ok.2 ⟨_, Script.JsxSettings.shape_read h, rfl⟩⟩ <|
    .cons ⟨_, rfl, fun _ _ h =>
      bind_eq_ok.2 ⟨_, h.listOf fun _ _ => Dependency.shape_read, rfl⟩⟩ .nil
  exact h.record takes (by simp) (by simp [shape])

theorem Project.read_toJson {p : Project} {d : Draft} (h : d.Stands p.toJson) :
    Project.read d = .ok p :=
  bind_eq_ok.2 ⟨p.files, h.tableOf fun _ _ h => h.text, rfl⟩

namespace Request

/-- The members of a request as a table. -/
def members (r : Request) : List (String × Json) :=
  [("entrySource", .string r.entrySource), ("stylesheet", .ofOption .string r.stylesheet),
    ("files", r.files.toJson), ("dependencies", .strings r.dependencies)]

theorem toJson_eq (r : Request) : r.toJson = .table r.members := rfl

theorem shape_read {r : Request} {d : Draft} {ms : List (String × Json)} (h : d.Stands (.table ms))
    (order : ms.Perm r.members) : shape.read d = .ok r := by
  have takes : List.Forall₂ (Shape.Takes shape.fields) r.members
      [fun q => { q with entrySource := r.entrySource },
        fun q => { q with stylesheet := r.stylesheet }, fun q => { q with files := r.files },
        fun q => { q with dependencies := r.dependencies }] :=
    .cons ⟨_, rfl, fun _ _ h => bind_eq_ok.2 ⟨_, h.text, rfl⟩⟩ <|
    .cons ⟨_, rfl, fun _ _ h => bind_eq_ok.2 ⟨_, h.optionText, rfl⟩⟩ <|
    .cons ⟨_, rfl, fun _ _ h => bind_eq_ok.2 ⟨_, Project.read_toJson h, rfl⟩⟩ <|
    .cons ⟨_, rfl, fun _ _ h => bind_eq_ok.2 ⟨_, h.texts, rfl⟩⟩ .nil
  exact h.record_perm order takes (by simp) (by simp [members]) (by simp [shape])

end Request

/-! ## The configuration among the members -/

namespace Build

/-- The members that tell a build its configuration and its request. -/
def inputMembers (c : Config) (r : Request) : List (String × Json) :=
  ("config", c.toJson) :: r.members

theorem ne_config_of_mem {r : Request} : ∀ m ∈ r.members, m.1 ≠ "config" := by
  simp [Request.members]

theorem putsAside_splitMembers (config : Option Config) :
    Draft.PutsAside "config" (splitMembers config) := by
  intro others k behind d members name j text other value
  rw [splitMembers, text, ok_bind, if_neg other, value, ok_bind]

/-- The configuration is found wherever it stands, and the other members are kept as they are. -/
theorem splitMembers_config {c : Config} {before after : List (String × Json)}
    {members : List (Draft × Option Place × Draft)}
    (values : Draft.memberValues (Draft.depthLimit - 1) members
      = .ok (before ++ ("config", c.toJson) :: after))
    (earlier : ∀ m ∈ before, m.1 ≠ "config") (later : ∀ m ∈ after, m.1 ≠ "config") :
    splitMembers none [] members = .ok (some c, before ++ after) := by
  obtain ⟨rest, values, front⟩ := (putsAside_splitMembers none).append [] values earlier
  obtain ⟨k, behind, d, rest, rfl, text, value, values⟩ := Draft.memberValues_eq_cons values
  have config := Config.shape_read (Draft.stands_of_value value)
  have back := (putsAside_splitMembers (some c)).all before.reverse values later
  rw [front]
  simp only [splitMembers, text, config, back, ok_bind, if_true, List.append_nil,
    List.reverse_append, List.reverse_reverse]
  rfl

/-- What is read of the members, in whatever order they come. -/
theorem readInput_eq {c : Config} {r : Request} {ms : List (String × Json)}
    (order : ms.Perm (inputMembers c r)) {d : Draft}
    (h : d.value Draft.depthLimit = .ok (.table ms)) : readInput d = .ok (c, r) := by
  obtain ⟨before, after, rfl⟩ := List.append_of_mem (order.mem_iff.2 List.mem_cons_self)
  have rest : (before ++ after).Perm r.members :=
    (List.perm_cons _).1 (List.perm_middle.symm.trans order)
  have other : ∀ m ∈ before ++ after, m.1 ≠ "config" := fun m mem =>
    ne_config_of_mem m (rest.mem_iff.1 mem)
  obtain ⟨earlier, later⟩ := List.forall_mem_append.1 other
  obtain ⟨start, members, e, rfl, good, values⟩ := Draft.exists_table_of_value h
  have split := splitMembers_config values earlier later
  have request := Request.shape_read
    (Draft.stands_ofJson (e := .part) (fun _ => rfl) (.table (before ++ after))) rest
  rw [readInput, split, ok_bind]
  show (do e.check Gap.inTable; _) = _
  rw [good, request]
  rfl

/-! ## Texts -/

theorem readable_config (c : Config) : c.toJson.Readable (Draft.depthLimit - 1) := by
  have word (n : UInt64) : (Json.integer n.toNat).Readable (Draft.depthLimit - 2) :=
    ⟨n.toNat, Nat.le_of_lt_succ n.toNat_lt, rfl⟩
  have packages : (Json.list (c.extraDependencies.map (·.toJson))).Readable
      (Draft.depthLimit - 2) := by
    refine ⟨by decide, readableItems_iff.2 fun j mem => ?_⟩
    obtain ⟨dep, -, rfl⟩ := List.mem_map.1 mem
    refine ⟨by decide, trivial, trivial, ?_, trivial⟩
    cases dep.global? <;> trivial
  exact ⟨by decide, word _, word _, trivial, trivial, trivial, trivial,
    ⟨by decide, trivial, trivial, trivial⟩, packages, trivial⟩

theorem readable_members (r : Request) : ∀ m ∈ r.members, m.2.Readable (Draft.depthLimit - 1) := by
  have stylesheet : (Json.ofOption .string r.stylesheet).Readable (Draft.depthLimit - 1) := by
    cases r.stylesheet <;> trivial
  have files : r.files.toJson.Readable (Draft.depthLimit - 1) := by
    refine ⟨by decide, readableMembers_iff.2 fun m mem => ?_⟩
    obtain ⟨file, -, rfl⟩ := List.mem_map.1 mem
    trivial
  have dependencies : (Json.strings r.dependencies).Readable (Draft.depthLimit - 1) :=
    readable_strings (by decide) r.dependencies
  simp only [Request.members, List.forall_mem_cons]
  exact ⟨trivial, stylesheet, files, dependencies, nofun⟩

/-- The text of the members is read as them. -/
theorem read_input {c : Config} {r : Request} {ms : List (String × Json)}
    (order : ms.Perm (inputMembers c r)) :
    Json.read (Json.table ms).render = .ok (.table ms) := by
  refine read_render ⟨by decide, readableMembers_iff.2 fun m mem => ?_⟩
  rcases List.mem_cons.1 (order.mem_iff.1 mem) with rfl | mem
  · exact readable_config c
  · exact readable_members r m mem

theorem answer_eq {c : Config} {r : Request} {ms : List (String × Json)}
    (order : ms.Perm (inputMembers c r)) {text : String}
    (h : Json.read text = .ok (.table ms)) :
    answer text = (do
      let builder ← (Builder.ofConfig c).mapError ConfigError.message
      let output ← (builder.build r).mapError CompileError.userMessage
      return output.toJson.render) := by
  obtain ⟨d, value, decodes⟩ := decodeText_of_read h
  rw [answer, decodes, readInput_eq order value]
  rfl

/-- A build that is asked for in a text, in which the members of the request and the configuration
come in any order, fails as making the builder or building fails, or else gives the text of what was
built. -/
theorem answer_eq_build {c : Config} {r : Request} {rs ms : List (String × Json)}
    (parts : r.toJson = .table rs) (order : ms.Perm (("config", c.toJson) :: rs)) :
    Json.read (Json.table ms).render = .ok (.table ms) ∧
    ∀ text, Json.read text = .ok (.table ms) →
      (∀ e, Builder.ofConfig c = .error e → answer text = .error e.message) ∧
      (∀ b e, Builder.ofConfig c = .ok b → b.build r = .error e →
        answer text = .error e.userMessage) ∧
      (∀ b o, Builder.ofConfig c = .ok b → b.build r = .ok o →
        answer text = .ok o.toJson.render) := by
  cases parts
  refine ⟨read_input order, fun text reads => ?_⟩
  rw [answer_eq order reads]
  refine ⟨fun e config => ?_, fun b e config built => ?_, fun b o config built => ?_⟩
  · rw [config]
    rfl
  · rw [config]
    show (do let output ← (b.build r).mapError CompileError.userMessage; _) = _
    rw [built]
    rfl
  · rw [config]
    show (do let output ← (b.build r).mapError CompileError.userMessage; _) = _
    rw [built]
    rfl

/-- A request before its configuration is built like one behind it. -/
theorem answer_eq_build_reversed :
    let r : Request := { entrySource := "export default 1;" }
    let text := (Json.table (("config", Config.toJson {}) :: r.members).reverse).render
    ∃ b o, Builder.ofConfig {} = .ok b ∧ b.build r = .ok o ∧
      answer text = .ok o.toJson.render := by
  intro r text
  obtain ⟨b, config, standard⟩ := exists_ok (x := Builder.ofConfig {})
    (p := fun b => (b.build r).toOption.isSome) (by decide +kernel)
  obtain ⟨o, built⟩ := Option.isSome_iff_exists.1 standard
  have direct := answer_eq_build r.toJson_eq
    (List.reverse_perm (("config", Config.toJson {}) :: r.members))
  exact ⟨b, o, config, eq_ok built, (direct.2 text direct.1).2.2 b o config (eq_ok built)⟩

end Build

end LivePreview
