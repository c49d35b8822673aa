/-
Catalog queries: rows of nullable texts, a connection that answers queries,
and computations that ask it.

A connection is any function from a query to rows or a failure. A
computation keeps a record of the queries it made; `result_bind` and its
companions say that its result is computed as if there were no record.
-/
import SchemaSync.Error
namespace SchemaSync.Catalog

/-- A result row: values by column name, in select order. -/
structure Row where
  values : List (String × Option String)
  deriving DecidableEq, Repr

namespace Row

/-- Sets the value of a column: in its place if it is there, or else at the end. -/
def set (name : String) (value : Option String) :
    List (String × Option String) → List (String × Option String)
  | [] => [(name, value)]
  | (n, v) :: rest => if n = name then (n, value) :: rest else (n, v) :: set name value rest

/-- A row of named values; a repeated name keeps its first place and its last value. -/
def ofPairs (pairs : List (String × Option String)) : Row :=
  ⟨pairs.foldl (fun values (name, value) => set name value values) []⟩

/-- The value of a column; NULL and an unknown column give none. -/
def get? (r : Row) (name : String) : Option String :=
  (r.values.lookup name).join

/-- The value of the first column. -/
def first? (r : Row) : Option String :=
  r.values.head?.bind (·.2)

end Row

/-- A query with its parameters, bound by position. -/
structure Query where
  sql : String
  parameters : List String
  deriving DecidableEq, Repr

/-- What answers queries: rows, or the reason of a failure. -/
abbrev Connection := Query → Except String (List Row)

/-- The outcome of a computation that asks a connection, and the queries it made. -/
structure Traced (α : Type) where
  result : Except Error α
  queries : List Query

namespace Traced

/-- A value, without a query. -/
def pure (a : α) : Traced α :=
  ⟨.ok a, []⟩

/-- One computation after the other; an error of the first ends it. -/
def bind (x : Traced α) (f : α → Traced β) : Traced β :=
  match x.result with
  | .ok a => ⟨(f a).result, x.queries ++ (f a).queries⟩
  | .error e => ⟨.error e, x.queries⟩

instance : Monad Traced where
  pure := pure
  bind := bind

/-- A computation that asks nothing. -/
def ofResult (r : Except Error α) : Traced α :=
  ⟨r, []⟩

@[simp] theorem result_pure (a : α) : (Pure.pure a : Traced α).result = .ok a := rfl

@[simp] theorem result_ofResult (r : Except Error α) : (ofResult r).result = r := rfl

@[simp] theorem result_bind (x : Traced α) (f : α → Traced β) :
    (x >>= f).result = x.result >>= fun a => (f a).result := by
  show (bind x f).result = _
  unfold bind
  split
  · next h => rw [h]; rfl
  · next h => rw [h]; rfl

end Traced

/-- The rows that answer a query; the reason of a failure is given with the query. -/
def fetch (c : Connection) (sql : String) (parameters : List String) : Traced (List Row) :=
  let query : Query := ⟨sql, parameters⟩
  match c query with
  | .ok rows => ⟨.ok rows, [query]⟩
  | .error reason => ⟨.error (.catalog sql reason), [query]⟩

/-- The value of a column that a row of this query must have. -/
def Row.require (r : Row) (sql name : String) : Except Error String :=
  match r.get? name with
  | some value => .ok value
  | none => .error (.catalog sql ("catalog row has no '" ++ name ++ "' value"))

end SchemaSync.Catalog
