import LivePreview.Build

/-!
# Builds as texts

A build for callers who have only text: the request and the configuration come as one table, in
which the configuration stands under a name of its own, and the output goes as text.
-/

namespace LivePreview.Build

open Json

/-- What the table is called in complaints. -/
def inputName : String := "struct NativeBuildInput"

/-- The configuration among the members of a table, and the values of the other members. -/
def splitMembers (config : Option Config) (others : List (String × Json)) :
    List (Draft × Option Place × Draft) → Except Fault (Option Config × List (String × Json))
  | [] => .ok (config, others.reverse)
  | (k, behind, d) :: ds => do
    let name ← k.text
    if name = "config" then
      if config.isSome then throw ⟨.twice name, behind⟩
      splitMembers (some (← Config.shape.read d)) others ds
    else
      splitMembers config ((name, ← d.value (Draft.depthLimit - 1)) :: others) ds

/-- Reads a configuration and a request from one table. What is wrong with the request is told at
the end of the table. -/
def readInput : Draft → Except Fault (Config × Request)
  | .table _ members e => do
    let (config, others) ← splitMembers none [] members
    e.check Gap.inTable
    let request ← (Request.shape.read (.ofJson .part (.table others))).mapError
      fun f => { f with place := f.place <|> e.stop? }
    return (config.getD {}, request)
  | d => .error (d.mismatch inputName)

/-- Builds what a text asks for, and gives the output as text. -/
def answer (text : String) : Except String String := do
  let (config, request) ← (decodeText readInput text).mapError Fault.message
  let builder ← (Builder.ofConfig config).mapError ConfigError.message
  let output ← (builder.build request).mapError CompileError.userMessage
  return output.toJson.render

end LivePreview.Build
