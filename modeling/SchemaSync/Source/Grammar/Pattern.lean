/-
The patterns of source files. A reader of a pattern tells whether it is a
range without one of its ends, which may not stand alone in a slice.
-/
import SchemaSync.Source.Grammar.Type
import SchemaSync.Text.Number
namespace SchemaSync.Source.Grammar

/-! ## Ranges -/

/-- The dots of a range; tells whether its end belongs to it. -/
def rangeDots : Reading Bool := do
  if ← tryMark "..=" then return true
  else
    guard !(atMark "..." (← get))
    mark ".."
    return false

/-- The dots of a range in a pattern, where three dots also say that the end belongs to it. -/
def patternDots : Reading Bool := do
  if ← tryMark "..=" then return true
  else if ← tryMark "..." then return true
  else
    mark ".."
    return false

/-- Whether a pattern ends here, so that a range in it has no end. -/
def atPatternEnd (tokens : List Token) : Bool :=
  tokens.isEmpty || atOneOf ["|", "=", ",", ";"] tokens ||
    (atMark ":" tokens && !atMark "::" tokens) || atWord "if" tokens

/-- An end of a range: a literal, a path, or a constant block. Tells whether it is there. -/
def rangeEnd (g : Grammar) : Reading Bool := do
  let tokens ← get
  if atPatternEnd tokens then return false
  else
    if atLiteral tokens then literal
    else if atPathWord tokens || atOneOf ["::", "<"] tokens then discard (g.anyPath true)
    else
      word "const"
      g.body
    return true

/-- What follows the beginning of a range; tells whether the end is missing. -/
def afterRangeStart (g : Grammar) : Reading Bool := do
  let closed ← patternDots
  let ended ← g.rangeEnd
  guard (ended || !closed)
  return !ended

/-- A range without a beginning, or the dots for all that is left over. -/
def leadingDots (g : Grammar) : Reading Bool := do
  let closed ← rangeDots
  let ended ← g.rangeEnd
  guard (ended || !closed)
  return ended

/-! ## Alternatives -/

/-- A pattern that may have alternatives, each read by `single`. -/
def alternatives (single : Reading Bool) : Reading Bool := do
  let leading ← tryMark "|"
  let first ← single
  let more ← allWhile (fun tokens => atMark "|" tokens && !atOneOf ["||", "|="] tokens) do
    mark "|"
    single
  return first && !leading && more.isEmpty

/-- A pattern inside another part that may have alternatives. -/
def anyPattern (g : Grammar) : Reading Bool :=
  alternatives g.pattern

/-! ## Patterns -/

/-- The number of an unnamed field. -/
def fieldNumber : Reading Unit
  | .literal (.integer digits suffix) :: rest =>
    if suffix = "" ∧ (Text.digits32? digits.toList).isSome then some ((), rest) else none
  | _ => none

/-- The name or number of a field; tells whether it is a name. -/
def member : Reading Bool := do
  if ← look atName then
    discard freeName
    return true
  else
    fieldNumber
    return false

/-- A field of a struct in a pattern. -/
def fieldPattern (g : Grammar) : Reading Unit := do
  let boxed ← tryWord "box"
  let borrowed ← tryWord "ref"
  let mutable ← tryWord "mut"
  if boxed || borrowed || mutable then discard freeName
  else
    let named ← member
    if !named || (← look (atMark ":")) then
      mark ":"
      discard g.anyPattern

/-- The fields of a struct in a pattern, perhaps with dots for those that are left over. -/
def fieldPatterns (g : Grammar) : Reading Unit :=
  repeatStep (fun _ => do
    if ← look List.isEmpty then return (false, ())
    discard g.outerAttributes
    if ← tryMark ".." then return (false, ())
    g.fieldPattern
    return (← tryMark ",", ())) ()

/-- A pattern that binds a name. -/
def bindingPattern (g : Grammar) : Reading Unit := do
  discard (tryWord "ref")
  discard (tryWord "mut")
  if !(← tryWord "self") then discard freeName
  if ← tryMark "@" then discard g.pattern

/-- A pattern that begins with a path. -/
def pathPattern (g : Grammar) : Reading Bool := do
  let path ← g.anyPath true
  let tokens ← get
  if atFreeGroup path tokens then
    discard freeGroup
    return false
  else if atGroup .brace tokens then
    inside .brace g.fieldPatterns
    return false
  else if atGroup .paren tokens then
    discard <| inside .paren (commaSeparated g.anyPattern)
    return false
  else if atMark ".." tokens then g.afterRangeStart
  else return false

/-- Whether a pattern that begins with a path stands in front. -/
def atPathPattern (tokens : List Token) : Bool :=
  let behind := second tokens
  (atName tokens && (atOneOf ["::", "!", ".."] behind || atGroup .brace behind ||
      atGroup .paren behind)) ||
    (atWord "self" tokens && atMark "::" behind) || atOneOf ["::", "<"] tokens ||
    ["Self", "super", "crate"].any fun word => atWord word tokens

/-- Whether a pattern that binds a name stands in front. -/
def atBindingPattern (tokens : List Token) : Bool :=
  atName tokens || ["ref", "mut", "self"].any fun word => atWord word tokens

/-- A pattern without alternatives. -/
def readPattern (g : Grammar) : Reading Bool := do
  let tokens ← get
  if atPathPattern tokens then g.pathPattern
  else if ← tryWord "_" then return false
  else if ← tryWord "box" then
    discard g.pattern
    return false
  else if atMark "-" tokens || atLiteral tokens || atWord "const" tokens then
    guard (← g.rangeEnd)
    if ← look (atMark "..") then g.afterRangeStart else return false
  else if atBindingPattern tokens then
    g.bindingPattern
    return false
  else if ← tryMark "&" then
    discard (tryWord "mut")
    discard g.pattern
    return false
  else if atGroup .paren tokens then
    discard <| inside .paren (commaSeparated g.anyPattern)
    return false
  else if atGroup .bracket tokens then
    discard <| inside .bracket <| commaSeparated do
      guard !(← g.anyPattern)
    return false
  else
    g.leadingDots

end SchemaSync.Source.Grammar
