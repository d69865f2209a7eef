import LivePreview.Path
import LivePreview.Script.Parser.Basic

/-!
# The kind of a source
-/

namespace LivePreview.Script

/-- What may be written in the file at `path`, as a module or as a plain script. -/
def SourceKind.ofPath (path : String) (module : Bool) : SourceKind :=
  match Path.classify path with
  | .script .ts => ⟨true, false, module⟩
  | .script .tsx => ⟨true, true, module⟩
  | _ => ⟨false, true, module⟩

end LivePreview.Script
