/-
Outlines of tables, and a reader for them.

`readOutline` reads the text of a CREATE TABLE statement with the scanner of
`Text.Lexeme`, line by line, each line a clause. A quoted name opens the line
of a column, and the words outside quotes say whether it takes NULL and
whether it is the primary key; `PRIMARY` and `CONSTRAINT` open the other two
kinds of line. The clauses of a table describe its outline
(`outlineOf_tableClauses`).
-/
import SchemaSync.Ddl.Statement
import SchemaSync.Proofs.Text.Word

namespace SchemaSync

open Text

/-- The names, keys and nullability of a table. -/
structure Outline where
  name : String
  /-- The names of the columns, and whether they take NULL. -/
  columns : List (String × Bool)
  primaryKey : List String
  foreignKeys : List ForeignKey
  deriving DecidableEq

/-- The outline of a table. -/
def Table.outline (t : Table) : Outline where
  name := t.name
  columns := t.columns.map fun c => (c.name, c.takesNull)
  primaryKey := t.primaryKey.map (·.name)
  foreignKeys := t.foreignKeys

/-! ## Reading -/

/-- What a line of CREATE TABLE says about the outline. -/
inductive Item where
  | column (name : String) (takesNull isKey : Bool)
  | primaryKey (columns : List String)
  | foreignKey (fk : ForeignKey)

/-- The word that a column which takes NULL does not have. -/
def notWord : List Char :=
  "NOT".toList

/-- The word that only the column which is the primary key has. -/
def primaryWord : List Char :=
  "PRIMARY".toList

/-- The delete action that the words of a line end with. -/
def readAction? (line : List Lexeme) : Option DeleteAction :=
  DeleteAction.all.find? fun action =>
    (wordsChars ("ON DELETE " ++ action.sql).toList).isSuffixOf (lexemeWords line)

/-- The foreign key that a line declares. -/
def readForeignKey? (line : List Lexeme) : Option Item :=
  match quotedTexts line with
  | [name, column, table, referenced] =>
    some (.foreignKey ⟨name, column, table, referenced, readAction? line⟩)
  | _ => none

theorem readForeignKey?_eq {line : List Lexeme} {name column table referenced : String}
    (h : quotedTexts line = [name, column, table, referenced]) :
    readForeignKey? line =
      some (.foreignKey ⟨name, column, table, referenced, readAction? line⟩) := by
  rw [readForeignKey?, h]

/-- What a line says. -/
def readItem : List Lexeme → Option Item
  | [] => none
  | .quoted _ name :: line =>
    some (.column (String.ofList name) (notWord ∉ lexemeWords line)
      (primaryWord ∈ lexemeWords line))
  | .bare c :: line =>
    if c = ' ' then readItem line
    else if c = 'P' then some (.primaryKey (quotedTexts line))
    else if c = 'C' then readForeignKey? line
    else none

theorem readItem_primary (line : List Lexeme) :
    readItem (.bare 'P' :: line) = some (.primaryKey (quotedTexts line)) :=
  rfl

theorem readItem_constraint (line : List Lexeme) :
    readItem (.bare 'C' :: line) = readForeignKey? line :=
  rfl

/-- The comma behind a clause stands at the end of the line and says nothing. -/
theorem readItem_comma (line : List Lexeme) : readItem (line ++ [.bare ',']) = readItem line := by
  have hwords : ∀ l, lexemeWords (l ++ [.bare ',']) = lexemeWords l := by
    intro l
    rw [lexemeWords_append (by simp; rfl), lexemeWords_cons rfl]
    exact List.append_nil _
  have htexts : ∀ l, quotedTexts (l ++ [.bare ',']) = quotedTexts l := by
    intro l
    rw [quotedTexts_append]
    exact List.append_nil _
  induction line with
  | nil => rfl
  | cons a line ih =>
    cases a with
    | quoted q name => simp only [List.cons_append, readItem, hwords]
    | bare c =>
      simp only [List.cons_append, readItem, ih, htexts, readForeignKey?, readAction?, hwords]

/-- The lines of a text. -/
def readLines (text : String) : List (List Lexeme) :=
  (lexemes text.toList).splitOn (.bare '\n')

/-- The outline of a table of this name that items describe. -/
def outlineOf (name : String) (items : List Item) : Outline where
  name := name
  columns := items.filterMap fun
    | .column name takesNull _ => some (name, takesNull)
    | _ => none
  primaryKey := items.flatMap fun
    | .column name _ isKey => if isKey then [name] else []
    | .primaryKey columns => columns
    | .foreignKey _ => []
  foreignKeys := items.filterMap fun
    | .foreignKey fk => some fk
    | _ => none

/-- The outline that a text describes, its first line naming the table. -/
def readOutline (text : String) : Outline :=
  outlineOf ((quotedTexts ((readLines text).headD [])).headD "")
    ((readLines text).tail.filterMap readItem)

/-! ## Clauses -/

/-- What a clause says about the outline. -/
def TableClause.item : TableClause → Item
  | .column keys c => .column c.name c.takesNull (keys = .inColumn && c.primaryKey)
  | .primaryKey columns => .primaryKey columns
  | .foreignKey fk => .foreignKey fk

theorem outlineOf_tableClauses (t : Table) :
    outlineOf t.name ((tableClauses t.columns t.foreignKeys).map TableClause.item) = t.outline := by
  have hkeyNames : ∀ columns : List Column,
      columns.flatMap (fun c => if c.primaryKey then [c.name] else []) =
        (columns.filter (·.primaryKey)).map (·.name) := by
    intro columns
    induction columns with
    | nil => rfl
    | cons c columns ih =>
      rw [List.flatMap_cons, ih]
      cases hc : c.primaryKey <;> simp [hc]
  have hnone : ∀ {α : Type} (l : List α), l.flatMap (fun _ => []) = ([] : List String) :=
    fun l => List.flatMap_eq_nil_iff.2 fun _ _ => rfl
  by_cases hkeys : keyPlacement t.columns = .inTable
  · simp [outlineOf, Table.outline, tableClauses, columnClauses, hkeys, TableClause.item,
      Function.comp_def, Table.primaryKey, List.flatMap_map, List.filterMap_map, hnone]
  · have hkeys' : keyPlacement t.columns = .inColumn := by
      unfold keyPlacement at hkeys ⊢
      split at hkeys
      · exact absurd rfl hkeys
      · next h => rw [if_neg h]
    simp [outlineOf, Table.outline, tableClauses, columnClauses, hkeys', TableClause.item,
      Function.comp_def, Table.primaryKey, List.flatMap_map, List.filterMap_map, hkeyNames]

end SchemaSync
