/-!
# Compile errors
-/

namespace LivePreview

/-- A file that could not be read or transformed, with what is wrong with it: at least one thing. -/
structure CompileError where
  file : String
  diagnostics : List String
  deriving DecidableEq, Repr, Inhabited

namespace CompileError

/-- The error with the given diagnostics; without any, an unknown failure. -/
def of (file : String) (diagnostics : List String) : CompileError :=
  ⟨file, if diagnostics.isEmpty then ["unknown compilation failure"] else diagnostics⟩

def message (e : CompileError) : String := e.file ++ ": " ++ "; ".intercalate e.diagnostics

/-- The message shown when the entry fails. -/
def userMessage (e : CompileError) : String := "Compilation Error: " ++ e.message

end CompileError

/-! ## Outcomes -/

theorem eq_ok {ε α : Type} {x : Except ε α} {a : α} (h : x.toOption = some a) : x = .ok a := by
  cases x with
  | error e => cases h
  | ok b => rw [Option.some.inj h]

theorem exists_ok {ε α : Type} {x : Except ε α} {p : α → Bool} (h : x.toOption.any p = true) :
    ∃ a, x = .ok a ∧ p a = true := by
  cases x with
  | error e => cases h
  | ok a => exact ⟨a, rfl, h⟩

end LivePreview
