/-
The types of source files.
-/
import SchemaSync.Source.Grammar.Parameter
namespace SchemaSync.Source.Grammar

/-! ## Types of functions -/

/-- Whether a mutable receiver of a method stands in front. -/
def atMutableSelf (tokens : List Token) : Bool :=
  atWord "mut" tokens && atWord "self" (second tokens)

/-- A parameter of a function type; only the first one may be the receiver of a method. -/
def functionTypeParameter (g : Grammar) (first : Bool) : Reading Unit := do
  let mutable ← if first && (← look atMutableSelf) then tryWord "mut" else pure false
  let tokens ← get
  let isSelf := first && atWord "self" tokens
  let isNamed := (atName tokens || atWord "_" tokens || isSelf) && atMark ":" (second tokens) &&
    !atMark "::" (second tokens)
  if isNamed then
    discard anyWord
    mark ":"
  if first && !isSelf && (← look atMutableSelf) then
    word "mut"
    word "self"
  else if mutable && !isNamed then word "self"
  else discard (g.type true)

/-- Whether the dots for further arguments come, with or without a name in front. -/
def atNamedDots (tokens : List Token) : Bool :=
  atMark "..." tokens || ((atName tokens || atWord "_" tokens) && atMark ":" (second tokens) &&
    atMark "..." (third tokens))

/-- The parameters of a function type. -/
def functionTypeParameters (g : Grammar) : Reading Unit :=
  discard <| repeatStep (fun first => do
    if ← look List.isEmpty then return (false, first)
    discard g.outerAttributes
    if ← look atNamedDots then
      if !(← tryMark "...") then
        discard anyWord
        mark ":"
        mark "..."
      discard (tryMark ",")
      return (false, first)
    else
      g.functionTypeParameter first
      return (← tryMark ",", false)) true

/-- The language that a function is called by, if it is said. -/
def callingLanguage : Reading Unit := do
  if ← tryWord "extern" then tryString

/-- A function type. -/
def functionType (g : Grammar) : Reading Unit := do
  discard (tryWord "unsafe")
  callingLanguage
  word "fn"
  inside .paren g.functionTypeParameters
  g.result false

/-! ## Types in parentheses -/

/-- Whether a type in parentheses may be followed by bounds, as the first one of them. -/
def leadsBounds : TypeExpr → Bool
  | .named _ .qualified _ => false
  | .named _ _ _ => true
  | .bareTrait => true
  | _ => false

/-- Bounds that plus signs add, one behind each; tells whether there are any. -/
def addedBounds (g : Grammar) : Reading Bool := do
  let found ← allWhile (atMark "+") do
    mark "+"
    g.readBound .object
  return !found.isEmpty

/-- What stands inside parentheses: one type, or none for a tuple. -/
def parenthesized (g : Grammar) : Reading (Option TypeExpr) := do
  let first ← g.type true
  if ← tryMark "," then
    discard <| commaSeparated (g.type true)
    return none
  else return some first

/-- A type in parentheses, a tuple, or bounds of which the first stands in parentheses. -/
def parenthesizedType (g : Grammar) (plus : Bool) (inner : List Token) : Reading TypeExpr := do
  if inner.isEmpty then
    inside .paren (pure ())
    return .other
  else if atLifetime inner then
    inside .paren (g.bounds .object true)
    return .other
  else if atMark "?" inner then
    inside .paren (g.traitBound .object)
    return if ← g.addedBounds then .other else .bareTrait
  else
    let first ← inside .paren g.parenthesized
    if plus && (first.map leadsBounds).getD false then discard g.addedBounds
    return .other

/-! ## Types -/

/-- A type in brackets: a slice, or an array with its length. -/
def bracketedType (g : Grammar) : Reading TypeExpr := do
  let element ← g.type true
  if ← tryMark ";" then
    discard (g.expression true)
    return .other
  else return .slice element

/-- A type that begins with a path; `bound` when parameters for it stand in front. -/
def pathType (g : Grammar) (plus bound : Bool) : Reading TypeExpr := do
  let path ← g.anyPath false
  let tokens ← get
  if path.form = .qualified then return path.type
  else if atFreeGroup path tokens then
    discard freeGroup
    return .other
  else if bound || (plus && atMark "+" tokens) then
    let more ← if plus then g.moreBounds .object else pure []
    return if more.isEmpty then .bareTrait else .other
  else return path.type

/-- A type. -/
def readType (g : Grammar) (plus : Bool) : Reading TypeExpr := do
  let bound ← g.binder
  let tokens ← get
  if ["fn", "unsafe", "extern"].any fun word => atWord word tokens then
    g.functionType
    return .other
  else if atPathWord tokens then g.pathType plus bound
  else
    guard !bound
    match tokens with
    | .group .paren inner :: _ => g.parenthesizedType plus inner
    | .group .bracket _ :: _ => inside .bracket g.bracketedType
    | _ =>
      if atOneOf ["::", "<"] tokens then g.pathType plus false
      else if ← tryWord "dyn" then
        discard (tryMark "*")
        g.bounds .object plus
        return .other
      else if ← tryWord "impl" then
        g.bounds .hiddenType plus
        return .other
      else if ← tryMark "*" then
        if !(← tryWord "const") then word "mut"
        discard (g.type false)
        return .other
      else if ← tryMark "&" then
        tryLifetime
        discard (tryWord "mut")
        return .reference (← g.type false)
      else if ← tryMark "!" then return .other
      else if ← tryWord "_" then return .other
      else
        need atLifetime
        g.bounds .object true
        return .other

end SchemaSync.Source.Grammar
