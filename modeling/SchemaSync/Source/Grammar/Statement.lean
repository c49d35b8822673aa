/-
The statements of source files: bindings, items, and expressions, which need a
semicolon behind them unless they end with a block or come last.
-/
import SchemaSync.Source.Grammar.Expression
namespace SchemaSync.Source.Grammar

/-! ## Bindings -/

/-- Whether a group in braces comes last of the tokens that were taken off between two places. -/
def endsInBraces (before after : List Token) : Bool :=
  atGroup .brace (before.drop (before.length - after.length - 1))

/-- The value of a binding, and what is done when it does not match. -/
def bindingValue (g : Grammar) : Reading Unit := do
  let before ← get
  discard (g.expression true)
  let after ← get
  if !endsInBraces before after && atWord "else" after then
    word "else"
    g.block

/-- A binding. -/
def bindingStatement (g : Grammar) : Reading Unit := do
  word "let"
  discard g.pattern
  if ← tryMark ":" then discard (g.type true)
  if ← tryMark "=" then g.bindingValue
  mark ";"

/-! ## Calls with an exclamation mark -/

/-- What a path and an exclamation mark in front of a statement begin. -/
inductive FreeCall where
  /-- A definition with a name of its own, which is an item. -/
  | definition
  /-- A statement with its tokens in braces. -/
  | braced
  deriving DecidableEq, Repr

/-- What kind of statement a path and an exclamation mark in front begin, if they do. -/
def freeCall? (tokens : List Token) : Option FreeCall :=
  match plainPath tokens with
  | some (_, behind) =>
    let behindMark := second behind
    let behindGroup := third behind
    if !atMark "!" behind then none
    else if atName behindMark || atWord "try" behindMark then some .definition
    else if atGroup .brace behindMark &&
        !((atMark "." behindGroup && !atMark ".." behindGroup) || atMark "?" behindGroup) then
      some .braced
    else none
  | none => none

/-- A path, an exclamation mark and free tokens in braces, as a statement. -/
def bracedStatement : Reading Unit := do
  discard plainPath
  discard freeGroup
  discard (tryMark ";")

/-! ## Statements -/

/-- Whether a word stands in front, and behind it one of these words. -/
def atWordBefore (word : String) (behind : List String) (tokens : List Token) : Bool :=
  atWord word tokens && behind.any fun other => atWord other (second tokens)

/-- Whether an item begins with `static` or `const` here, and no closure or block. -/
def atConstantItem (tokens : List Token) : Bool :=
  let behind := second tokens
  (atWord "static" tokens && (atWord "mut" behind || atName behind)) ||
    (atWord "const" tokens && !(atGroup .brace behind || atWord "static" behind ||
      (atWord "async" behind &&
        !(["unsafe", "extern", "fn"].any fun word => atWord word (third tokens))) ||
      atWord "move" behind || atMark "|" behind))

/-- Whether an item stands in front, by its first words. -/
def atItem (tokens : List Token) : Bool :=
  let behind := second tokens
  (["pub", "extern", "use", "fn", "mod", "type", "struct", "enum", "trait", "impl", "macro"].any
      fun word => atWord word tokens) ||
    (atWord "crate" tokens && !atMark "::" behind) || atConstantItem tokens ||
    (atWord "unsafe" tokens && !atGroup .brace behind) ||
    atWordBefore "async" ["unsafe", "extern", "fn"] tokens ||
    (atWord "union" tokens && atName behind) || atWordBefore "auto" ["trait"] tokens ||
    atWordBefore "default" ["unsafe", "impl"] tokens

/-- A statement; tells whether it needs something behind it to end it. -/
def statement (g : Grammar) : Reading Bool := do
  let attributes ← g.outerAttributes
  let tokens ← get
  let call := freeCall? tokens
  if call = some .braced then
    bracedStatement
    return false
  else if atWord "let" tokens then
    g.bindingStatement
    return false
  else if atItem tokens || call = some .definition then
    discard (g.item attributes)
    return false
  else
    let form ← g.leading
    let ended ← tryMark ";"
    return !ended && form ≠ .block && form ≠ .bracedCall

/-- The statements of a block, up to the end of the tokens. -/
def readStatements (g : Grammar) : Reading Unit :=
  repeatStep (fun _ => do
    discard <| allWhile (atMark ";") (mark ";")
    if ← look List.isEmpty then return (false, ())
    let open? ← g.statement
    let last ← look List.isEmpty
    guard (last || !open?)
    return (!last, ())) ()

end SchemaSync.Source.Grammar
