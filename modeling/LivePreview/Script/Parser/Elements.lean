import LivePreview.Script.Parser.Calls

/-!
# Elements

Elements and fragments. What follows a tag is read as text when the element has a parent or still
has children to come, and as script otherwise.
-/

namespace LivePreview.Script

open LivePreview.Script.Parser

namespace Grammar

variable (g : Grammar)

/-- Moves past the sign that ends a tag or hole; `child` says whether text comes next. -/
def closeJsx (child : Bool) (p : Punct) : Parser Unit :=
  expectWith (if child then advanceJsxChild else advance) p

/-- One part of a name, hyphens and all. -/
def jsxWord : Parser (Span × String) := do
  relex (fun _ l t => l.extendJsxName t) Lexer.rereads_extendJsxName
  let t ← token
  match t.kind with
  | .word name _ =>
    advanceName
    return (⟨t.start, t.stop⟩, name)
  | _ => unexpected

/-- A name that starts with a small letter, or has a hyphen, is that of an intrinsic element. -/
def isIntrinsicName (name : String) : Bool :=
  name.toList.head?.any Char.isLower || name.toList.contains '-'

/-- The name in a tag. -/
def elementName : Parser JsxName := do
  let (span, name) ← jsxWord
  if ← eat .colon then
    let (_, property) ← jsxWord
    return .qualified (← spanFrom span.start) name property
  if ← at? .dot then
    let properties ← loop ([] : List String) fun properties => do
      if ← eat .dot then
        let (_, property) ← jsxWord
        if property.toList.contains '-' then fail .jsxHyphen
        return (property :: properties, true)
      return (properties, false)
    return .member (← spanFrom span.start) name properties.reverse
  if name != "this" && isIntrinsicName name then return .intrinsic span name
  return .reference span name

/-- The words of a name, which decide whether two tags match. -/
def jsxNameParts : JsxName → List String
  | .intrinsic _ name => [name]
  | .reference _ name => [name]
  | .qualified _ ns name => [ns, ":", name]
  | .member _ object properties => object :: "." :: properties

/-- The name as it is written. -/
def jsxNameText : JsxName → String
  | .intrinsic _ name | .reference _ name => name
  | .qualified _ ns name => ns ++ ":" ++ name
  | .member _ object properties => ".".intercalate (object :: properties)

def attributeName : Parser JsxName := do
  let (span, name) ← jsxWord
  if ← eat .colon then
    let (_, property) ← jsxWord
    return .qualified (← spanFrom span.start) name property
  return .intrinsic span name

/-- An expression in a hole, where a comma has to be bracketed. -/
def holeExpression : Parser Expr := do
  let e ← within (fun c => { c with inElement := true }) (bracketed (expression g))
  if e matches .sequence _ _ then report .jsxComma
  return e

/-- An element or fragment as an expression, at its `<`. -/
def jsxHere : Parser (Span × Jsx) := do
  let start ← startPos
  advance
  let element ← g.jsx start false
  return (← spanFrom start, element)

def attributeValue : Parser JsxValue := do
  let t ← token
  match t.kind with
  | .string value =>
    advance
    return .string ⟨t.start, t.stop⟩ value.text
  | .punct .lbrace =>
    advance
    if ← eat .rbrace then
      report .jsxEmptyAttribute
      return .empty (← spanFrom t.start)
    let value ← holeExpression g
    expect .rbrace
    return .expr value
  | .punct .lt =>
    let (span, element) ← jsxHere g
    return .jsx span element
  | _ => unexpected

def jsxAttribute : Parser JsxAttribute := do
  let start ← startPos
  if ← at? .lbrace then
    advance
    expect .ellipsis
    let arg ← holeExpression g
    expect .rbrace
    return .spread (← spanFrom start) arg
  let name ← attributeName
  if ← at? .eq then
    advanceJsxValue
    let value ← attributeValue g
    return .mk (← spanFrom start) name (some value)
  return .mk (← spanFrom start) name none

/-- How a tag ends the children around it. -/
inductive ClosingTag where
  | fragment
  | element (name : JsxName)

/-- The children up to and with the closing tag. -/
def children (child : Bool) : Parser (List JsxChild × ClosingTag) := do
  let (items, closing) ← loop (([], none) : List JsxChild × Option ClosingTag) fun (items, _) => do
    let t ← token
    match t.kind with
    | .punct .lt =>
      advance
      if ← eat .slash then
        if ← at? .gt then
          closeJsx child .gt
          return ((items, some .fragment), false)
        let name ← elementName
        closeJsx child .gt
        return ((items, some (.element name)), false)
      let element ← g.jsx t.start true
      return ((.element element :: items, none), true)
    | .punct .lbrace =>
      advance
      if ← at? .rbrace then
        closeJsx true .rbrace
        return ((.empty (← spanFrom t.start) :: items, none), true)
      if ← eat .ellipsis then
        let arg ← holeExpression g
        closeJsx true .rbrace
        return ((.spread (← spanFrom t.start) arg :: items, none), true)
      let value ← holeExpression g
      closeJsx true .rbrace
      return ((.expr (← spanFrom t.start) value :: items, none), true)
    | .jsxText raw =>
      advanceJsxChild
      return ((.text ⟨t.start, t.stop⟩ raw :: items, none), true)
    | _ => unexpected
  match closing with
  | some tag => return (items.reverse, tag)
  | none => unexpected

/-- An element or fragment, after its `<`. -/
def anyJsx (start : Nat) (child : Bool) : Parser Jsx :=
  within (fun c => { c with inElement := true }) do
    if ← at? .gt then
      closeJsx true .gt
      let (items, closing) ← children g child
      match closing with
      | .fragment => pure ()
      | .element _ => report .closingFragment
      return .fragment (← spanFrom start) items
    let name ← elementName
    let types ← if ← types? then partsOf (typeArguments? g) else pure []
    let attributes ← manyUntil (do
      let t ← token
      return t.isEof || t.isPunct .lt || t.isPunct .gt || t.isPunct .slash) (jsxAttribute g)
    if ← eat .slash then
      closeJsx child .gt
      return .element (← spanFrom start) name types attributes []
    closeJsx true .gt
    let (items, closing) ← children g child
    let matching := match closing with
      | .fragment => false
      | .element other => jsxNameParts name == jsxNameParts other
    if !matching then report (.closingTag (jsxNameText name))
    return .element (← spanFrom start) name types attributes items

end Grammar

end LivePreview.Script
