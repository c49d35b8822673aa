/-
Bounds and parameters of source files: `T: Trait + 'a` with all that may stand
in a bound, parameters in angle brackets, and the conditions behind `where`.
-/
import SchemaSync.Source.Grammar.Path
namespace SchemaSync.Source.Grammar

/-! ## Parameters -/

/-- A lifetime parameter with its bounds. -/
def lifetimeParameter : Reading Unit := do
  lifetime
  if ← tryMark ":" then
    discard <| separatedBy "+" (fun tokens => tokens.isEmpty || atOneOf [",", ">"] tokens) lifetime

/-- A type parameter with its bounds and its default. -/
def typeParameter (g : Grammar) : Reading Unit := do
  discard freeName
  if ← tryMark ":" then
    discard <| separatedBy "+" (fun tokens => tokens.isEmpty || atOneOf [",", ">", "="] tokens)
      (g.bound .parameter)
  if ← tryMark "=" then discard (g.type true)

/-- A constant parameter with its type and its default. -/
def constantParameter (g : Grammar) : Reading Unit := do
  word "const"
  discard freeName
  mark ":"
  discard (g.type true)
  if ← tryMark "=" then g.constantArgument

/-- A parameter in angle brackets; an underscore is one where `blank` holds. -/
def parameter (g : Grammar) (blank : Bool) : Reading Unit := do
  discard g.outerAttributes
  let tokens ← get
  if atLifetime tokens then lifetimeParameter
  else if atName tokens then g.typeParameter
  else if atWord "const" tokens then g.constantParameter
  else
    guard blank
    word "_"

/-- Parameters in angle brackets. -/
def angleParameters (g : Grammar) (blank : Bool) : Reading Unit := do
  mark "<"
  discard <| separatedBy "," (atMark ">") (g.parameter blank)
  mark ">"

/-- Whether parameters in angle brackets stand in front, and no path that begins with a type. -/
def atAngleParameters (tokens : List Token) : Bool :=
  let behind := second tokens
  let afterName := second behind
  atMark "<" tokens && (atOneOf [">", "#"] behind || atWord "const" behind ||
    ((atLifetime behind || atName behind) && (atOneOf [">", ",", "="] afterName ||
      (atMark ":" afterName && !atMark "::" afterName))))

/-- The parameters of an item, if it has any. -/
def parameters (g : Grammar) : Reading Unit := do
  if ← look (atMark "<") then g.angleParameters true

/-- The parameters that a type or bound is for, if there are any; tells whether there are. -/
def binder (g : Grammar) : Reading Bool := do
  if ← tryWord "for" then
    g.angleParameters false
    return true
  else return false

/-! ## Bounds -/

/-- A list of the parameters that a type captures. -/
def captures : Reading Unit := do
  word "use"
  mark "<"
  discard <| separatedBy "," (atMark ">") do
    let tokens ← get
    if atLifetime tokens then lifetime
    else
      guard (atName tokens || atWord "Self" tokens)
      discard anyWord
  mark ">"

/-- The type that a function gives back, if it is said; where `plus` holds, with bounds. -/
def result (g : Grammar) (plus : Bool) : Reading Unit := do
  if ← tryMark "->" then discard (g.type plus)

/-- The mark of a trait as constant, with or without a condition, if there is one. -/
def constantMark (rules : BoundRules) : Reading Unit := do
  let tokens ← get
  if atGroup .bracket tokens then
    guard rules.constants
    inside .bracket (word "const")
  else if atWord "const" tokens then
    guard rules.constants
    word "const"

/-- A trait with its marks in front and arguments in parentheses behind. -/
def traitBound (g : Grammar) (rules : BoundRules) : Reading Unit := do
  let bound ← g.binder
  constantMark rules
  if ← tryMark "?" then
    guard (!bound && !atWord "for" (← get))
  let path ← g.path false
  let tokens ← get
  if path.arguments.isEmpty &&
      (atGroup .paren tokens || (atMark "::" tokens && atGroup .paren (third tokens))) then
    discard (tryMark "::")
    discard <| inside .paren (commaSeparated (g.type true))
    g.result false

/-- A bound: a lifetime, captured parameters, or a trait. Tells whether it is a trait. -/
def readBound (g : Grammar) (rules : BoundRules) : Reading Bool := do
  let tokens ← get
  if atLifetime tokens then
    lifetime
    return false
  else if atWord "use" tokens then
    guard rules.captures
    captures
    return false
  else if atGroup .paren tokens then
    inside .paren (g.traitBound rules)
    return true
  else
    g.traitBound rules
    return true

/-- Whether a bound may begin here. -/
def atBound (rules : BoundRules) (tokens : List Token) : Bool :=
  atAnyWord tokens || atOneOf ["::", "?"] tokens || atLifetime tokens || atGroup .paren tokens ||
    (rules.constants && atGroup .bracket tokens)

/-- Bounds that plus signs add, if there are any. The last plus sign may stand alone. -/
def moreBounds (g : Grammar) (rules : BoundRules) : Reading (List Bool) :=
  repeatStep (fun found => do
    if ← tryMark "+" then
      if ← look (atBound rules) then return (true, found ++ [← g.readBound rules])
      else return (false, found ++ [false])
    else return (false, found)) []

/-- Bounds, of which one must be a trait; where `plus` does not hold, there is only one. -/
def bounds (g : Grammar) (rules : BoundRules) (plus : Bool) : Reading Unit := do
  let first ← g.readBound rules
  let more ← if plus then g.moreBounds rules else pure []
  guard ((first :: more).any id)

/-! ## Conditions -/

/-- Whether a list of conditions or of their bounds ends here. -/
def atConditionEnd (tokens : List Token) : Bool :=
  tokens.isEmpty || atGroup .brace tokens || atOneOf [",", ";", "="] tokens ||
    (atMark ":" tokens && !atMark "::" tokens)

/-- A condition on a lifetime or a type. -/
def condition (g : Grammar) : Reading Unit := do
  let tokens ← get
  if atLifetime tokens && atMark ":" (second tokens) then
    lifetime
    mark ":"
    discard <| separatedBy "+" atConditionEnd lifetime
  else
    discard g.binder
    discard (g.type true)
    mark ":"
    discard <| separatedBy "+" atConditionEnd (g.bound .parameter)

/-- The conditions on the parameters of an item, if there are any. -/
def conditions (g : Grammar) : Reading Unit := do
  if ← tryWord "where" then discard <| separatedBy "," atConditionEnd g.condition

end SchemaSync.Source.Grammar
