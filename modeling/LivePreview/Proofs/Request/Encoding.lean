import LivePreview.Build.Request

/-!
# What requests are told apart by

A request and its project are each written as a list of bytes, in which every text is followed by
a zero. Where no text has a null character of its own the texts can be read back
(`terminated_inj`), so the two lists of bytes determine the request (`Request.bytes_inj`) and two
requests with one fingerprint are equal, or have brought about a collision of the digest
(`Request.eq_or_collide`).
-/

namespace LivePreview

/-! ## Bytes of texts -/

namespace Hash

theorem utf8_eq_flatMap (s : String) : utf8 s = s.toList.flatMap String.utf8EncodeChar := by
  rw [utf8, ← String.utf8Encode_toList, List.utf8Encode, List.data_toByteArray]

theorem utf8_inj {s t : String} : utf8 s = utf8 t ↔ s = t := by
  rw [utf8, utf8, Array.toList_inj, ← ByteArray.ext_iff, String.toByteArray_inj]

/-- Only the null character has a zero among its bytes. -/
theorem zero_mem_utf8EncodeChar {c : Char} : 0 ∈ String.utf8EncodeChar c ↔ c = '\x00' := by
  have null : c = '\x00' ↔ c.val.toNat = 0 := by
    rw [← Char.toNat_inj]
    rfl
  have zero : ∀ n, 0 = UInt8.ofNat n ↔ n % 256 = 0 := by
    intro n
    rw [← UInt8.toNat_inj, UInt8.toNat_ofNat']
    exact eq_comm
  rw [null]
  simp only [String.utf8EncodeChar]
  -- one case for each number of bytes
  split
  · simp only [List.mem_singleton, zero]
    omega
  · split
    · simp only [List.mem_cons, List.not_mem_nil, or_false, zero]
      omega
    · split
      · simp only [List.mem_cons, List.not_mem_nil, or_false, zero]
        omega
      · simp only [List.mem_cons, List.not_mem_nil, or_false, zero]
        omega

theorem zero_mem_utf8 {s : String} : 0 ∈ utf8 s ↔ '\x00' ∈ s.toList := by
  simp [utf8_eq_flatMap, zero_mem_utf8EncodeChar]

/-- Two lists of bytes that differ and have one digest. -/
def Collision (a b : List UInt8) : Prop := a ≠ b ∧ sha256 a = sha256 b

theorem eq_or_collision {a b : List UInt8} (h : sha256 a = sha256 b) : a = b ∨ Collision a b := by
  by_cases same : a = b
  · exact .inl same
  · exact .inr ⟨same, h⟩

/-- A digest has no null character. -/
theorem null_not_mem_sha256 (bytes : List UInt8) : '\x00' ∉ (sha256 bytes).toList := by
  have digit : ∀ n < 16, Text.hexDigit n ≠ '\x00' := by decide
  simp only [sha256, Sha256.hex, String.toList_ofList, List.mem_flatMap, List.mem_cons,
    List.not_mem_nil, or_false, not_exists, not_and, not_or]
  intro b _
  have := b.toNat_lt
  exact ⟨(digit _ (by omega)).symm, (digit _ (by omega)).symm⟩

end Hash

/-! ## Texts behind each other -/

/-- What stands in front of the first zero, and what follows it. -/
theorem append_zero_inj {a b x y : List UInt8} (ha : 0 ∉ a) (hb : 0 ∉ b)
    (h : a ++ 0 :: x = b ++ 0 :: y) : a = b ∧ x = y := by
  induction a generalizing b with
  | nil =>
    cases b with
    | nil => exact ⟨rfl, List.tail_eq_of_cons_eq h⟩
    | cons c b =>
      cases h
      exact absurd List.mem_cons_self hb
  | cons c a ih =>
    cases b with
    | nil =>
      cases h
      exact absurd List.mem_cons_self ha
    | cons d b =>
      rw [List.cons_append, List.cons_append, List.cons.injEq] at h
      obtain ⟨rfl, rfl⟩ := ih (fun m => ha (List.mem_cons_of_mem _ m))
        (fun m => hb (List.mem_cons_of_mem _ m)) h.2
      exact ⟨by rw [h.1], rfl⟩

/-- Texts, each followed by a zero. -/
def terminated (ts : List String) : List UInt8 := ts.flatMap fun t => Hash.utf8 t ++ [0]

/-- No text has a null character. -/
def NullFree (ts : List String) : Prop := ∀ t ∈ ts, '\x00' ∉ t.toList

instance (ts : List String) : Decidable (NullFree ts) :=
  inferInstanceAs (Decidable (∀ t ∈ ts, '\x00' ∉ t.toList))

theorem NullFree.zero_not_mem {ts : List String} (h : NullFree ts) {t : String} (ht : t ∈ ts) :
    0 ∉ Hash.utf8 t := fun zero => h t ht (Hash.zero_mem_utf8.1 zero)

theorem NullFree.tail {t : String} {ts : List String} (h : NullFree (t :: ts)) : NullFree ts :=
  fun t ht => h t (List.mem_cons_of_mem _ ht)

/-- Texts without null characters are read back, up to a last piece without a zero. -/
theorem terminated_inj {ss ts : List String} {x y : List UInt8} (hs : NullFree ss)
    (ht : NullFree ts) (hx : 0 ∉ x) (hy : 0 ∉ y) (h : terminated ss ++ x = terminated ts ++ y) :
    ss = ts ∧ x = y := by
  induction ss generalizing ts with
  | nil =>
    cases ts with
    | nil => exact ⟨rfl, h⟩
    | cons t ts =>
      have : 0 ∈ x := by
        rw [show x = terminated (t :: ts) ++ y from h]
        simp [terminated]
      exact absurd this hx
  | cons s ss ih =>
    cases ts with
    | nil =>
      have : 0 ∈ y := by
        rw [show y = terminated (s :: ss) ++ x from h.symm]
        simp [terminated]
      exact absurd this hy
    | cons t ts =>
      have cut : Hash.utf8 s ++ 0 :: (terminated ss ++ x) =
          Hash.utf8 t ++ 0 :: (terminated ts ++ y) := by
        simpa [terminated] using h
      obtain ⟨same, rest⟩ := append_zero_inj (hs.zero_not_mem List.mem_cons_self)
        (ht.zero_not_mem List.mem_cons_self) cut
      obtain ⟨rfl, hxy⟩ := ih hs.tail ht.tail rest
      exact ⟨by rw [Hash.utf8_inj.1 same], hxy⟩

/-! ## Projects -/

namespace Project

/-- The paths and contents of a project. -/
def texts (p : Project) : List String := p.toList.flatMap fun f => [f.1, f.2]

theorem bytes_eq_terminated (p : Project) : p.bytes = terminated p.texts := by
  simp only [bytes, terminated, texts, List.flatMap_assoc]
  congr 1
  funext f
  simp

theorem texts_inj {p q : Project} (h : p.texts = q.texts) : p = q := by
  have pairs : ∀ {es fs : List (String × String)},
      (es.flatMap fun f => [f.1, f.2]) = fs.flatMap (fun f => [f.1, f.2]) → es = fs := by
    intro es
    induction es with
    | nil =>
      intro fs h
      cases fs with
      | nil => rfl
      | cons f fs => simp at h
    | cons e es ih =>
      intro fs h
      cases fs with
      | nil => simp at h
      | cons f fs =>
        simp only [List.flatMap_cons, List.cons_append, List.nil_append, List.cons.injEq] at h
        obtain ⟨h1, h2, h3⟩ := h
        rw [ih h3, Prod.ext h1 h2]
  obtain ⟨files⟩ := p
  obtain ⟨files'⟩ := q
  exact congrArg Project.mk (Table.ext_entries (pairs h))

theorem bytes_inj {p q : Project} (hp : NullFree p.texts) (hq : NullFree q.texts)
    (h : p.bytes = q.bytes) : p = q := by
  rw [bytes_eq_terminated, bytes_eq_terminated] at h
  refine texts_inj (terminated_inj hp hq (x := []) (y := []) (by simp) (by simp) ?_).1
  simpa using h

end Project

/-! ## Requests -/

namespace Request

/-- All texts that a request consists of. -/
def texts (r : Request) : List String :=
  r.entrySource :: r.stylesheet.toList ++ r.dependencies ++ r.files.texts

/-- The bytes of two requests, or those of their projects, differ and have one digest. -/
def Collide (a b : Request) : Prop :=
  Hash.Collision a.bytes b.bytes ∨ Hash.Collision a.files.bytes b.files.bytes

variable {a b : Request}

theorem nullFree_files (h : NullFree a.texts) : NullFree a.files.texts :=
  fun t ht => h t (by simp [texts, ht])

theorem nullFree_dependencies (h : NullFree a.texts) : NullFree a.dependencies :=
  fun t ht => h t (by simp [texts, ht])

theorem zero_not_mem_stylesheet (h : NullFree a.texts) {css : String}
    (hs : a.stylesheet = some css) : 0 ∉ Hash.utf8 css :=
  h.zero_not_mem (by simp [texts, hs])

/-- The bytes of a request determine all but its project, and that up to its digest. -/
theorem parts_of_bytes (ha : NullFree a.texts) (hb : NullFree b.texts) (h : a.bytes = b.bytes) :
    a.entrySource = b.entrySource ∧ a.stylesheet = b.stylesheet ∧
      a.dependencies = b.dependencies ∧ a.files.fingerprint = b.files.fingerprint := by
  simp only [bytes, List.append_assoc, List.cons_append] at h
  obtain ⟨entry, h⟩ := append_zero_inj (ha.zero_not_mem (by simp [texts]))
    (hb.zero_not_mem (by simp [texts])) h
  have sheets : a.stylesheet = b.stylesheet ∧
      terminated a.dependencies ++ Hash.utf8 a.files.fingerprint =
        terminated b.dependencies ++ Hash.utf8 b.files.fingerprint := by
    cases hsa : a.stylesheet with
    | none =>
      cases hsb : b.stylesheet with
      | none =>
        rw [hsa, hsb] at h
        exact ⟨rfl, by simpa [terminated] using h⟩
      | some css => simp [hsa, hsb] at h
    | some css =>
      cases hsb : b.stylesheet with
      | none => simp [hsa, hsb] at h
      | some css' =>
        simp only [hsa, hsb, List.cons_append, List.cons.injEq, true_and] at h
        obtain ⟨same, rest⟩ := append_zero_inj (zero_not_mem_stylesheet ha hsa)
          (zero_not_mem_stylesheet hb hsb) h
        exact ⟨by rw [Hash.utf8_inj.1 same], rest⟩
  have digest : ∀ p : Project, 0 ∉ Hash.utf8 p.fingerprint := fun p zero =>
    Hash.null_not_mem_sha256 _ (Hash.zero_mem_utf8.1 zero)
  obtain ⟨deps, files⟩ := terminated_inj (nullFree_dependencies ha) (nullFree_dependencies hb)
    (digest _) (digest _) sheets.2
  exact ⟨Hash.utf8_inj.1 entry, sheets.1, deps, Hash.utf8_inj.1 files⟩

/-- Together with those of the project, the bytes of a request determine it. -/
theorem bytes_inj (ha : NullFree a.texts) (hb : NullFree b.texts) :
    a.bytes = b.bytes ∧ a.files.bytes = b.files.bytes ↔ a = b := by
  constructor
  · rintro ⟨h, files⟩
    obtain ⟨entry, sheet, deps, -⟩ := parts_of_bytes ha hb h
    have files := Project.bytes_inj (nullFree_files ha) (nullFree_files hb) files
    cases a
    cases b
    simp only [Request.mk.injEq]
    exact ⟨entry, sheet, files, deps⟩
  · rintro rfl
    exact ⟨rfl, rfl⟩

/-- Two requests with one fingerprint are equal, but for a collision of the digest. -/
theorem eq_or_collide (ha : NullFree a.texts) (hb : NullFree b.texts)
    (h : a.fingerprint = b.fingerprint) : a = b ∨ Collide a b := by
  rcases Hash.eq_or_collision h with bytes | collision
  · obtain ⟨-, -, -, files⟩ := parts_of_bytes ha hb bytes
    rcases Hash.eq_or_collision files with files | collision
    · exact .inl ((bytes_inj ha hb).1 ⟨bytes, files⟩)
    · exact .inr (.inr collision)
  · exact .inr (.inl collision)

end Request

end LivePreview
