import LivePreview.CompileError
import LivePreview.Script.Kind
import LivePreview.Script.Plain
import LivePreview.Script.Printer

/-!
# Transpiling

Turning a source into a plain script that a browser runs: its types are erased and its elements
become calls.
-/

namespace LivePreview.Script

/-- The plain script for the source of the file at `path`. -/
def transpile (settings : JsxSettings) (path source : String) : Except CompileError String :=
  let kind := SourceKind.ofPath path false
  let plain := do (← parse kind source).plain kind.types settings
  match plain with
  | .ok program => .ok program.print
  | .error faults => .error (.of path (faults.map Diagnostic.message))

end LivePreview.Script
