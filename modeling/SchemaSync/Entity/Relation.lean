/-
Relationships between entities, and what a clause says about one. The three
kinds of relationship share their options, but each takes only some of them.
-/
import SchemaSync.Entity.Clause
namespace SchemaSync.Entity

open Source

/-- How many entities a relationship joins on each side. -/
inductive RelationKind where
  | manyToOne
  | oneToMany
  | manyToMany
  deriving DecidableEq, Repr

namespace RelationKind

/-- The key that gives a relationship of a kind. -/
def key : RelationKind → String
  | manyToOne => "many_to_one"
  | oneToMany => "one_to_many"
  | manyToMany => "many_to_many"

/-- The kind of relationship that a key gives. -/
def ofKey? (key : String) : Option RelationKind :=
  [manyToOne, oneToMany, manyToMany].find? fun kind => kind.key == key

/-- The list of clauses of a relationship of a kind. -/
def clauseList : RelationKind → ClauseList
  | manyToOne => .manyToOne
  | oneToMany => .oneToMany
  | manyToMany => .manyToMany

end RelationKind

/-- An option of a relationship. -/
inductive RelationOption where
  /-- The entity on the other side. -/
  | target (entity : String)
  /-- The field on the other side of a relationship that is declared here. -/
  | inversedBy (field : String)
  /-- The field on the other side that declares the relationship. -/
  | mappedBy (field : String)
  deriving DecidableEq, Repr

namespace RelationOption

/-- The key that gives an option. -/
def key : RelationOption → String
  | target _ => "target"
  | inversedBy _ => "inversed_by"
  | mappedBy _ => "mapped_by"

/-- The option that a clause gives. -/
def read (kind : RelationKind) (c : Clause) : Except Fault (Found RelationOption) :=
  match c.path.text, kind with
  | "target", _ => giving target c.string
  | "inversed_by", .manyToOne => giving inversedBy c.string
  | "inversed_by", .manyToMany => giving inversedBy c.string
  | "mapped_by", .oneToMany => giving mappedBy c.string
  | "mapped_by", .manyToMany => giving mappedBy c.string
  | _, _ => .error (c.unsupported kind.clauseList)

end RelationOption

/-- The options of a relationship, as far as they are given. -/
structure RelationSpec where
  target : Option String := none
  inversedBy : Option String := none
  mappedBy : Option String := none
  deriving DecidableEq, Repr

/-- The options with one more. -/
def RelationSpec.add (s : RelationSpec) (o : RelationOption) : Except Fault RelationSpec :=
  match o with
  | .target v => return { s with target := ← once o.key s.target v }
  | .inversedBy v => return { s with inversedBy := ← once o.key s.inversedBy v }
  | .mappedBy v => return { s with mappedBy := ← once o.key s.mappedBy v }

/-- A relationship. -/
inductive Relation where
  | manyToOne (target : String) (inversedBy : Option String)
  | oneToMany (target mappedBy : String)
  | manyToMany (target : String) (inversedBy mappedBy : Option String)
  deriving DecidableEq, Repr

namespace Relation

/-- The kind of a relationship. -/
def kind : Relation → RelationKind
  | manyToOne .. => .manyToOne
  | oneToMany .. => .oneToMany
  | manyToMany .. => .manyToMany

/-- A value that a clause must have. -/
def required (kind : RelationKind) (key : String) : Option String → Except Fault String
  | some value => .ok value
  | none => .error (.missing kind.key key)

/-- The relationship of a kind with these options. -/
def ofSpec (kind : RelationKind) (s : RelationSpec) : Except Fault Relation := do
  let target ← required kind "target" s.target
  match kind with
  | .manyToOne => return .manyToOne target s.inversedBy
  | .oneToMany => return .oneToMany target (← required kind "mapped_by" s.mappedBy)
  | .manyToMany => return .manyToMany target s.inversedBy s.mappedBy

/-- The relationship of a kind whose options a list of clauses gives. -/
def ofTokens (kind : RelationKind) (tokens : List Token) : Except Fault Relation := do
  ofSpec kind (← foldClauses (RelationOption.read kind) RelationSpec.add {} tokens)

end Relation

end SchemaSync.Entity
