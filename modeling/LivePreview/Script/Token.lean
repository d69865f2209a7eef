import LivePreview.Script.Tree

/-!
# Tokens

The words, signs and literals a script is read as, and the name each goes by in a diagnostic.
-/

namespace LivePreview.Script

/-- Signs of one or more characters. -/
inductive Punct where
  | lbrace | rbrace | lparen | rparen | lbrack | rbrack
  | dot | ellipsis | semicolon | comma | colon | question | questionDot | at | tilde | arrow
  | lt | gt | le | ge | eqEq | bangEq | eqEqEq | bangEqEq
  | plus | minus | star | slash | percent | starStar | plusPlus | minusMinus
  | shl | shr | ushr | amp | pipe | caret | bang | ampAmp | pipePipe | questionQuestion
  | eq | plusEq | minusEq | starEq | slashEq | percentEq | starStarEq
  | shlEq | shrEq | ushrEq | ampEq | pipeEq | caretEq
  | ampAmpEq | pipePipeEq | questionQuestionEq
  deriving DecidableEq, Repr, Inhabited

def Punct.text : Punct → String
  | .lbrace => "\x7b" | .rbrace => "\x7d" | .lparen => "(" | .rparen => ")"
  | .lbrack => "[" | .rbrack => "]"
  | .dot => "." | .ellipsis => "..." | .semicolon => ";" | .comma => "," | .colon => ":"
  | .question => "?" | .questionDot => "?." | .at => "@" | .tilde => "~" | .arrow => "=>"
  | .lt => "<" | .gt => ">" | .le => "<=" | .ge => ">="
  | .eqEq => "==" | .bangEq => "!=" | .eqEqEq => "===" | .bangEqEq => "!=="
  | .plus => "+" | .minus => "-" | .star => "*" | .slash => "/" | .percent => "%"
  | .starStar => "**" | .plusPlus => "++" | .minusMinus => "--"
  | .shl => "<<" | .shr => ">>" | .ushr => ">>>" | .amp => "&" | .pipe => "|" | .caret => "^"
  | .bang => "!" | .ampAmp => "&&" | .pipePipe => "||" | .questionQuestion => "??"
  | .eq => "=" | .plusEq => "+=" | .minusEq => "-=" | .starEq => "*=" | .slashEq => "/="
  | .percentEq => "%=" | .starStarEq => "**=" | .shlEq => "<<=" | .shrEq => ">>="
  | .ushrEq => ">>>=" | .ampEq => "&=" | .pipeEq => "|=" | .caretEq => "^="
  | .ampAmpEq => "&&=" | .pipePipeEq => "||=" | .questionQuestionEq => "??="

/-- The spellings of a number that diagnostics tell apart. -/
inductive NumberForm where
  | decimal | float | binary | octal | hex | exponential
  deriving DecidableEq, Repr, Inhabited

/-- One raw stretch of a template between its holes. -/
structure TemplateChunk where
  raw : String
  /-- The chunk starts the template. -/
  first : Bool
  /-- The chunk ends the template. -/
  last : Bool
  /-- All its escapes are legal. -/
  valid : Bool
  deriving DecidableEq, Repr, Inhabited

inductive TokenKind where
  | eof
  /-- Text that no token rule covers; the reader has already said why. -/
  | invalid
  /-- A word, with its spelling where that holds escapes. -/
  | word (name : String) (spelling : Option String)
  | hidden (name : String)
  | punct (sign : Punct)
  | string (value : StringValue)
  | number (form : NumberForm) (bits : UInt64)
  | bigint (value : Nat)
  | regex (pattern flags : String)
  | template (chunk : TemplateChunk)
  | jsxText (raw : String)
  deriving DecidableEq, Repr, Inhabited

structure Token where
  kind : TokenKind
  start : Nat
  stop : Nat
  /-- A line ends between the token before and this one. -/
  newLine : Bool
  deriving DecidableEq, Repr, Inhabited

/-- Words that no binding can have. -/
def reservedWords : List String :=
  ["break", "case", "catch", "class", "const", "continue", "debugger", "default", "delete", "do",
   "else", "enum", "export", "extends", "false", "finally", "for", "function", "if", "import",
   "in", "instanceof", "new", "null", "return", "super", "switch", "this", "throw", "true", "try",
   "typeof", "var", "void", "while", "with"]

/-- Words with a meaning of their own only in certain places. -/
def contextualWords : List String :=
  ["await", "async", "from", "get", "meta", "of", "set", "target", "accessor", "source", "defer",
   "abstract", "as", "asserts", "assert", "any", "boolean", "constructor", "declare", "infer",
   "intrinsic", "is", "keyof", "module", "namespace", "never", "out", "readonly", "require",
   "number", "object", "satisfies", "string", "symbol", "type", "undefined", "unique", "using",
   "unknown", "global", "bigint", "override", "implements", "interface", "let", "package",
   "private", "protected", "public", "static", "yield"]

def isReservedWord (name : String) : Bool := reservedWords.contains name

/-- Every word that is more than a plain identifier. -/
def isKeyword (name : String) : Bool := isReservedWord name || contextualWords.contains name

/-- The name by which a diagnostic calls a token. -/
def TokenKind.title : TokenKind → String
  | eof => "EOF"
  | invalid => "Unknown"
  | word name _ => if isKeyword name then name else "Identifier"
  | hidden _ => "#identifier"
  | punct sign => sign.text
  | string _ => "string"
  | number .decimal _ => "decimal"
  | number .float _ => "float"
  | number .binary _ => "binary"
  | number .octal _ => "octal"
  | number .hex _ => "hexadecimal"
  | number .exponential _ => "exponential"
  | bigint _ => "bigint"
  | regex _ _ => "/regexp/"
  | template ⟨_, true, true, _⟩ => "`text`"
  | template ⟨_, true, false, _⟩ => "`"
  | template ⟨_, false, true, _⟩ => "`"
  | template ⟨_, false, false, _⟩ => "$\x7bexpr\x7d"
  | jsxText _ => "jsx"

namespace Token

def isPunct (t : Token) (p : Punct) : Bool := t.kind == .punct p

/-- The word `name`, however it is spelled. -/
def isWord (t : Token) (name : String) : Bool :=
  match t.kind with
  | .word n _ => n == name
  | _ => false

def isEof (t : Token) : Bool := t.kind == .eof

/-- Any word at all: property names may be reserved. -/
def isName (t : Token) : Bool := t.kind matches .word _ _

/-- A word that may be bound. -/
def isBinding (t : Token) : Bool :=
  match t.kind with
  | .word n _ => !isReservedWord n
  | _ => false

def isString (t : Token) : Bool := t.kind matches .string _

def isNumber (t : Token) : Bool :=
  match t.kind with
  | .number _ _ | .bigint _ => true
  | _ => false

/-- A name, string or number, as which a property may be called without brackets. -/
def isPropertyName (t : Token) : Bool := t.isName || t.isString || t.isNumber

/-- A literal written as one token. -/
def isLiteral (t : Token) : Bool :=
  match t.kind with
  | .word n _ => n == "null" || n == "true" || n == "false"
  | .string _ | .number _ _ | .bigint _ | .regex _ _ => true
  | _ => false

/-- The first chunk of a template. -/
def startsTemplate (t : Token) : Bool :=
  match t.kind with
  | .template c => c.first
  | _ => false

end Token

end LivePreview.Script
