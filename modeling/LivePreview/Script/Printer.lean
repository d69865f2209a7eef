import LivePreview.Script.Parser
import LivePreview.Script.Printer.Tree

/-!
# Printing sources
-/

namespace LivePreview.Script

/-- The comments that are printed: those that lead something, marks of calls and functions aside. -/
def Comment.isPrinted (c : Comment) : Bool :=
  c.leads.isSome && !c.hasMark "__PURE__" && !c.hasMark "__NO_SIDE_EFFECTS__"

namespace Printer

/-- A whole source. -/
def program (p : Program) : Printer Unit := do
  match p.hashbang with
  | some line => text ("#!" ++ line ++ "\n")
  | none => pure ()
  match p.body with
  | .mk span directives statements =>
    Body.linesPrint {} directives statements
    commentsAt span.stop

end Printer

/-- The text of a plain source. -/
def Program.print (p : Program) : String :=
  let blank : Page := ⟨[], 0, false, {}, .other, p.comments.filter Comment.isPrinted⟩
  let (_, page) := (Printer.program p).run blank
  String.ofList page.written.reverse

end LivePreview.Script
