/-
Tables. The checked operations keep two rules: the column names of a table
are distinct, and a foreign key is added only on a column that is there.
-/
import SchemaSync.Schema.Column
import SchemaSync.Schema.ForeignKey
namespace SchemaSync

/-- A table, columns in declaration order. -/
structure Table where
  name : String
  columns : List Column := []
  foreignKeys : List ForeignKey := []
  deriving DecidableEq, Repr

/-- The first name that occurred before, `seen` being the names in front of the list. -/
def firstRepeated (seen : List String) : List String → Option String
  | [] => none
  | name :: names => if name ∈ seen then some name else firstRepeated (name :: seen) names

theorem firstRepeated_eq_none_iff {seen names : List String} :
    firstRepeated seen names = none ↔ names.Nodup ∧ ∀ name ∈ names, name ∉ seen := by
  induction names generalizing seen with
  | nil => simp [firstRepeated]
  | cons name names ih =>
    by_cases h : name ∈ seen
    · simp [firstRepeated, h]
    · simp only [firstRepeated, h, if_false, ih, List.nodup_cons, List.mem_cons, not_or,
        forall_eq_or_imp]
      grind

namespace Table

/-- The column with the given name. -/
def column? (t : Table) (name : String) : Option Column :=
  t.columns.find? fun c => c.name == name

/-- The table with other columns, whose names must be distinct. -/
def setColumns (t : Table) (columns : List Column) : Except Violation Table :=
  match firstRepeated [] (columns.map (·.name)) with
  | some column => .error (.duplicateColumn t.name column)
  | none => .ok { t with columns }

/-- The table with one more foreign key, on a column that it must have. -/
def addForeignKey (t : Table) (fk : ForeignKey) : Except Violation Table :=
  if (t.column? fk.column).isSome then .ok { t with foreignKeys := t.foreignKeys ++ [fk] }
  else .error (.unknownColumn t.name fk.name fk.column)

/-- A table of these columns and foreign keys, checked. -/
def build (name : String) (columns : List Column) (foreignKeys : List ForeignKey) :
    Except Violation Table := do
  let t ← { name : Table }.setColumns columns
  foreignKeys.foldlM addForeignKey t

/-- The primary key columns, in column order. -/
def primaryKey (t : Table) : List Column :=
  t.columns.filter (·.primaryKey)

/-- Whether the table has no columns. -/
def isEmpty (t : Table) : Bool :=
  t.columns.isEmpty

end Table

end SchemaSync
