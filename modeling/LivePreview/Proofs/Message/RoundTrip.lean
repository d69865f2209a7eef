import LivePreview.Message
import LivePreview.Proofs.Json.Decoding
import LivePreview.Proofs.Json.ReadBack

/-!
# Messages survive their texts

A message that is rendered is read back as it was, so a text that is a message has the same message
as the text it is rendered to.
-/

namespace LivePreview.Message

open Json

/-! ## Kinds -/

theorem kind_read {d : Draft} {k : Kind} (h : d.Stands (.string k.name)) : Kind.read d = .ok k := by
  obtain ⟨stop, rfl⟩ := Draft.Stands.exists_scalar (s := .string k.name) h
  have found : Kind.all.find? (·.name == k.name) = some k := by cases k <;> decide +kernel
  rw [Kind.read, found]

theorem putsAside_splitMembers (kind : Option Kind) :
    Draft.PutsAside kindField (splitMembers kind) := by
  intro others k behind d members name j text other value
  rw [splitMembers, text, ok_bind, if_neg other, value, ok_bind]

/-- What is read of a table that begins with a kind is the rest, as a message of that kind. -/
theorem read_of_value {d : Draft} {k : Kind} {ms : List (String × Json)}
    (h : d.value Draft.depthLimit = .ok (.table ((kindField, .string k.name) :: ms)))
    (others : ∀ m ∈ ms, m.1 ≠ kindField) : read d = readBody (.ofJson .part (.table ms)) k := by
  obtain ⟨start, members, e, rfl, good, values⟩ := Draft.exists_table_of_value h
  obtain ⟨name, behind, d, members, rfl, text, value, values⟩ := Draft.memberValues_eq_cons values
  have kind := kind_read (Draft.stands_of_value value)
  have rest := (putsAside_splitMembers (some k)).all [] values others
  simp only [read, splitMembers, text, kind, rest, ok_bind, if_true, List.append_nil,
    List.reverse_reverse]
  show (do e.check Gap.inTable; _) = _
  rw [good]
  rfl

/-! ## Bodies -/

theorem codeShape_read (js css : String) (scripts : List String) :
    codeShape.read (.ofJson .part
      (.table [("js", .string js), ("css", .string css), ("scripts", .strings scripts)]))
      = .ok ⟨js, css, scripts⟩ := by
  have takes : List.Forall₂ (Shape.Takes codeShape.fields)
      [("js", .string js), ("css", .string css), ("scripts", .strings scripts)]
      [fun c => { c with js }, fun c => { c with css }, fun c => { c with scripts }] :=
    .cons ⟨_, rfl, fun _ _ h => bind_eq_ok.2 ⟨_, h.text, rfl⟩⟩
      (.cons ⟨_, rfl, fun _ _ h => bind_eq_ok.2 ⟨_, h.text, rfl⟩⟩
        (.cons ⟨_, rfl, fun _ _ h => bind_eq_ok.2 ⟨_, h.texts, rfl⟩⟩ .nil))
  exact Draft.Stands.record (Draft.stands_ofJson (fun _ => rfl) (.table _)) takes
    (by simp) (by simp [codeShape])

theorem failureShape_read (message stack : String) (build : Option String) :
    failureShape.read (.ofJson .part (.table ([("message", .string message),
      ("stack", .string stack)] ++ (build.map fun b => ("build", .string b)).toList)))
      = .ok ⟨message, stack, build⟩ := by
  have takes : List.Forall₂ (Shape.Takes failureShape.fields)
      [("message", .string message), ("stack", .string stack)]
      [fun f => { f with message }, fun f => { f with stack }] :=
    .cons ⟨_, rfl, fun _ _ h => bind_eq_ok.2 ⟨_, h.text, rfl⟩⟩
      (.cons ⟨_, rfl, fun _ _ h => bind_eq_ok.2 ⟨_, h.text, rfl⟩⟩ .nil)
  have stands ms := Draft.stands_ofJson (e := .part) (fun _ => rfl) (.table ms)
  cases build with
  | none => exact (stands _).record takes (by simp) (by simp [failureShape])
  | some b =>
    have build : Shape.Takes failureShape.fields ("build", .ofOption .string (some b))
        fun f => { f with build := some b } :=
      ⟨_, rfl, fun _ _ h => bind_eq_ok.2 ⟨_, h.optionText, rfl⟩⟩
    exact (stands _).record (List.rel_append takes (.cons build .nil)) (by simp)
      (by simp [failureShape])

/-! ## Messages -/

/-- The kind of a message. -/
def kind : Message → Kind
  | requestCode => .requestCode
  | codeUpdate .. => .codeUpdate
  | runtimeError .. => .runtimeError
  | rendered => .rendered

/-- What the table of a message holds besides the kind. -/
def body : Message → List (String × Json)
  | codeUpdate js css scripts =>
    [("js", .string js), ("css", .string css), ("scripts", .strings scripts)]
  | runtimeError message stack build =>
    [("message", .string message), ("stack", .string stack)]
      ++ (build.map fun b => ("build", .string b)).toList
  | requestCode | rendered => []

theorem toJson_eq (m : Message) :
    m.toJson = .table ((kindField, .string m.kind.name) :: m.body) := by
  cases m <;> rfl

theorem ne_kindField_of_mem_body {m : Message} : ∀ member ∈ m.body, member.1 ≠ kindField := by
  cases m with
  | runtimeError message stack build => cases build <;> simp [body, kindField]
  | _ => simp [body, kindField]

theorem readBody_body (m : Message) :
    readBody (.ofJson .part (.table m.body)) m.kind = .ok m := by
  cases m with
  | requestCode => rfl
  | codeUpdate js css scripts => exact bind_eq_ok.2 ⟨_, codeShape_read js css scripts, rfl⟩
  | runtimeError message stack build =>
    exact bind_eq_ok.2 ⟨_, failureShape_read message stack build, rfl⟩
  | rendered => rfl

theorem readable_toJson (m : Message) : m.toJson.Readable Draft.depthLimit := by
  have strings xs : (Json.strings xs).Readable (Draft.depthLimit - 1) :=
    readable_strings (by decide) xs
  rw [toJson_eq]
  refine ⟨by decide, trivial, ?_⟩
  cases m with
  | codeUpdate js css scripts => exact ⟨trivial, trivial, strings scripts, trivial⟩
  | runtimeError message stack build => cases build <;> exact ⟨trivial, trivial, by trivial⟩
  | _ => trivial

theorem ofText_render (m : Message) : ofText m.render = .ok m := by
  obtain ⟨d, value, decodes⟩ := decodeText_of_read (read_render (readable_toJson m))
  rw [toJson_eq] at value
  rw [ofText, render, decodes, read_of_value value ne_kindField_of_mem_body, readBody_body]

/-- A message is read back from its text; so is one that came from another text. -/
theorem round_trip : (∀ m : Message, ofText m.render = .ok m) ∧
    ∀ text m, ofText text = .ok m → ofText m.render = .ok m :=
  ⟨ofText_render, fun _ m _ => ofText_render m⟩

theorem round_trip_from_list :
    ∃ m, ofText "[\"PREVIEW_RENDERED\"]" = .ok m ∧ ofText m.render = .ok m := by
  obtain ⟨m, read, -⟩ := exists_ok (x := ofText "[\"PREVIEW_RENDERED\"]") (p := fun _ => true)
    (by decide +kernel)
  exact ⟨m, read, round_trip.2 _ m read⟩

end LivePreview.Message
