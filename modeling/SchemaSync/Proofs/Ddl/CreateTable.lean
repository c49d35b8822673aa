/-
What the text of a CREATE TABLE statement tells about the table.

Every clause is read as what it declares (`readsAs_clause`), and the clauses
stand on lines of their own (`readLines_createTable`). So for a table whose
defaults are literals the outline is read off the statement
(`readOutline_create`), and tables with one text have one outline
(`create_text_determines_outline`).
-/
import Mathlib.Data.List.Basic
import SchemaSync.Proofs.Ddl.Phrase

namespace SchemaSync

open Text

/-! ## Clauses -/

/-- A text on one line that is read as this item. -/
def ReadsAs (cs : List Char) (item : Item) : Prop :=
  ∃ l, Lexes cs l ∧ '\n' ∉ bareChars l ∧ readItem l = some item

theorem ReadsAs.indent {cs : List Char} {item : Item} (h : ReadsAs cs item) :
    ReadsAs ("    ".toList ++ cs) item := by
  obtain ⟨l, hl, hnl, hitem⟩ := h
  exact ⟨_, hl.bareAppend _ (by decide), by simp [hnl], hitem⟩

/-- The words that the reader looks for have their places, and no plain word is one of them. -/
theorem mem_words_iff {c : Column} (d : Dialect) (keys : KeyPlacement)
    {before after words : List (List Char)}
    (hwords : words = before ++ (nullWords c.takesNull ++ (after ++
      keyWords d (showsGenerated keys c) (showsKey keys c))))
    (hplain : ∀ w ∈ before ++ after, isPlainWord w = true) :
    (notWord ∈ words ↔ c.takesNull = false) ∧ (primaryWord ∈ words ↔ showsKey keys c = true) := by
  have hnone : ∀ w, isPlainWord w = false → w ∉ before ∧ w ∉ after := by
    intro w hw
    rw [← not_or, ← List.mem_append]
    intro hmem
    rw [hplain w hmem] at hw
    cases hw
  obtain ⟨hnot, hnot'⟩ := hnone notWord (by decide)
  obtain ⟨hprimary, hprimary'⟩ := hnone primaryWord (by decide)
  have hnull : ∀ b, (notWord ∈ nullWords b ↔ b = false) ∧ primaryWord ∉ nullWords b := by decide
  have hkeys : ∀ d generated key, notWord ∉ keyWords d generated key ∧
      (primaryWord ∈ keyWords d generated key ↔ key = true) := by
    intro d generated key
    cases d <;> cases generated <;> cases key <;> decide
  simp only [hwords, List.mem_append, hnot, hnot', hprimary, hprimary', hnull, hkeys, false_or,
    or_false, and_self]

theorem readsAs_column (d : Dialect) (keys : KeyPlacement) {c : Column}
    (hc : ∀ value ∈ c.default, value.isLiteral = true) :
    ReadsAs (d.columnDefinition keys c).toList (TableClause.column keys c).item := by
  obtain ⟨rest, before, after, hchars, hrest, hplain⟩ := columnDefinition_phrase d keys hc
  have hu := hrest.worded.unquoted
  have hnl := hrest.oneLine
  obtain ⟨-, l, hl, hwords⟩ := hrest.worded
  obtain ⟨hnot, hprimary⟩ := mem_words_iff d keys hwords hplain
  rw [hl.eq] at hnl
  refine ⟨.quoted d.identifierQuote c.name.toList :: l, ?_, by simpa using hnl, ?_⟩
  · rw [hchars]
    exact (Lexes.quoted (isQuote_identifierQuote d) c.name).append hl hu
  · have hnull : decide (notWord ∉ lexemeWords l) = c.takesNull := by
      rw [Bool.eq_iff_iff, decide_eq_true_eq, hnot, Bool.not_eq_false]
    have hisKey : decide (primaryWord ∈ lexemeWords l) = (keys = .inColumn && c.primaryKey) := by
      rw [Bool.eq_iff_iff, decide_eq_true_eq, hprimary, showsKey]
      simp
    rw [readItem, hnull, hisKey, String.ofList_toList]
    rfl

theorem primaryKeyClause_chars (d : Dialect) (columns : List String) :
    (d.clause (.primaryKey columns)).toList = "PRIMARY KEY (".toList ++
      ((commaList (columns.map (quoted d.identifierQuote))).toList ++ [')']) := by
  simp only [Dialect.clause, String.toList_append, List.append_assoc]
  rfl

theorem readsAs_primaryKey (d : Dialect) (columns : List String) :
    ReadsAs (d.clause (.primaryKey columns)).toList (.primaryKey columns) := by
  obtain ⟨l, hl, htexts, hseparators⟩ := Lexes.commaList (isQuote_identifierQuote d) columns
  have hlex := Lexes.bareAppend "PRIMARY KEY (".toList (by decide)
    (hl.appendBare [')'] (by decide))
  have hnl : '\n' ∉ bareChars l := by
    intro h
    rcases hseparators _ h with he | he <;> cases he
  rw [primaryKeyClause_chars]
  refine ⟨_, hlex, by simp [hnl], ?_⟩
  · have hhead : "PRIMARY KEY (".toList = 'P' :: "RIMARY KEY (".toList := by decide
    rw [hhead, List.map_cons, List.cons_append, readItem_primary, quotedTexts_append,
      quotedTexts_append, quotedTexts_map_bare, quotedTexts_map_bare, htexts, List.nil_append,
      List.append_nil]

/-- What a foreign key clause says about deletions, behind all else. -/
def deletion : Option DeleteAction → String
  | some action => " ON DELETE " ++ action.sql
  | none => ""

theorem deletion_plain (action : Option DeleteAction) :
    isQuoteless (deletion action).toList = true ∧ '\n' ∉ (deletion action).toList := by
  cases action with
  | none => decide
  | some action => cases action <;> decide

/-- What stands behind the first letter of a foreign key clause. -/
def foreignKeyLexemes (q : Char) (fk : ForeignKey) : List Lexeme :=
  "ONSTRAINT ".toList.map .bare ++ .quoted q fk.name.toList ::
    (" FOREIGN KEY (".toList.map .bare ++ .quoted q fk.column.toList ::
      (") REFERENCES ".toList.map .bare ++ .quoted q fk.referencesTable.toList ::
        (" (".toList.map .bare ++ .quoted q fk.referencesColumn.toList ::
          (")".toList.map .bare ++ (deletion fk.onDelete).toList.map .bare))))

theorem quotedTexts_foreignKeyLexemes (q : Char) (fk : ForeignKey) :
    quotedTexts (foreignKeyLexemes q fk) =
      [fk.name, fk.column, fk.referencesTable, fk.referencesColumn] := by
  unfold foreignKeyLexemes
  simp only [quotedTexts_append, quotedTexts_map_bare, quotedTexts_quoted, List.nil_append,
    String.ofList_toList]

theorem readAction?_foreignKeyLexemes (q : Char) (fk : ForeignKey) :
    readAction? (foreignKeyLexemes q fk) = fk.onDelete := by
  unfold readAction? foreignKeyLexemes lexemeWords
  simp only [List.map_append, List.map_cons, wordChar]
  cases fk.onDelete with
  | none => decide
  | some action => cases action <;> decide

theorem foreignKeyClause_chars (d : Dialect) (fk : ForeignKey) :
    (d.foreignKeyClause fk).toList = "CONSTRAINT ".toList ++
      ((quoted d.identifierQuote fk.name).toList ++ (" FOREIGN KEY (".toList ++
        ((quoted d.identifierQuote fk.column).toList ++ (") REFERENCES ".toList ++
          ((quoted d.identifierQuote fk.referencesTable).toList ++ (" (".toList ++
            ((quoted d.identifierQuote fk.referencesColumn).toList ++ (")".toList ++
              (deletion fk.onDelete).toList)))))))) := by
  unfold Dialect.foreignKeyClause Dialect.wrap deletion
  cases fk.onDelete <;> simp only [String.toList_append, List.append_assoc]

theorem readsAs_foreignKey (d : Dialect) (fk : ForeignKey) :
    ReadsAs (d.foreignKeyClause fk).toList (.foreignKey fk) := by
  have hq := isQuote_identifierQuote d
  obtain ⟨hquoteless, hnl⟩ := deletion_plain fk.onDelete
  have hlex := Lexes.bareAppend "CONSTRAINT ".toList (by decide)
    (.quotedThen hq fk.name " FOREIGN KEY (".toList (by decide) (by decide)
      (.quotedThen hq fk.column ") REFERENCES ".toList (by decide) (by decide)
        (.quotedThen hq fk.referencesTable " (".toList (by decide) (by decide)
          (.quotedThen hq fk.referencesColumn ")".toList (by decide) (by decide)
            (.bare (deletion fk.onDelete).toList hquoteless)))))
  rw [foreignKeyClause_chars]
  refine ⟨_, hlex, by simp [hnl], ?_⟩
  have hhead : "CONSTRAINT ".toList = 'C' :: "ONSTRAINT ".toList := by decide
  rw [hhead, List.map_cons, List.cons_append, readItem_constraint]
  exact (readForeignKey?_eq (quotedTexts_foreignKeyLexemes d.identifierQuote fk)).trans
    (by rw [readAction?_foreignKeyLexemes])

/-- No default of the clause is a number or an expression, kept as written. -/
def TableClause.LiteralDefault : TableClause → Prop
  | .column _ c => ∀ value ∈ c.default, value.isLiteral = true
  | _ => True

theorem readsAs_clause (d : Dialect) {clause : TableClause} (h : clause.LiteralDefault) :
    ReadsAs (d.clause clause).toList clause.item := by
  cases clause with
  | column keys c => exact readsAs_column d keys h
  | primaryKey columns => exact readsAs_primaryKey d columns
  | foreignKey fk => exact readsAs_foreignKey d fk

/-! ## Statements -/

/-- The line that a clause stands on. -/
def clauseLine (d : Dialect) (clause : TableClause) : List Char :=
  "    ".toList ++ (d.clause clause).toList

theorem createTable_chars (d : Dialect) (table : String) (clauses : List TableClause) :
    (d.createTable table clauses).toList =
      "CREATE TABLE ".toList ++ ((quoted d.identifierQuote table).toList ++ (" (\n".toList ++
        ([',', '\n'].intercalate (clauses.map (clauseLine d)) ++ "\n);".toList))) := by
  have hlines : (clauses.map fun clause => "    " ++ d.clause clause).map String.toList =
      clauses.map (clauseLine d) := by
    rw [List.map_map]
    refine List.map_congr_left fun clause _ => ?_
    rw [Function.comp_apply, String.toList_append]
    rfl
  have hseparator : ",\n".toList = [',', '\n'] := by decide
  unfold Dialect.createTable Dialect.wrap
  rw [String.toList_append, String.toList_append, String.toList_append, String.toList_append,
    String.toList_intercalate, hlines, hseparator, List.append_assoc, List.append_assoc,
    List.append_assoc]

theorem lexes_createTable (d : Dialect) (table : String) {clauses : List TableClause}
    (h : ∀ clause ∈ clauses, clause.LiteralDefault) :
    lexemes (d.createTable table clauses).toList =
      "CREATE TABLE ".toList.map .bare ++ .quoted d.identifierQuote table.toList ::
        (" (\n".toList.map .bare ++ (([',', '\n'].map Lexeme.bare).intercalate
          (clauses.map fun clause => lexemes (clauseLine d clause)) ++ "\n);".toList.map .bare)) := by
  have hlines := Lexes.intercalate [',', '\n'] (by simp) (by decide) clauses (clauseLine d)
    (fun clause => lexemes (clauseLine d clause)) fun clause hclause => by
      obtain ⟨l, hl, -⟩ := (readsAs_clause d (h clause hclause)).indent
      exact hl.self
  rw [createTable_chars]
  exact Lexes.eq (.bareAppend _ (by decide) (.quotedThen (isQuote_identifierQuote d) table _
    (by decide) (by decide) (hlines.appendBare _ (by decide))))

theorem readItem_clauseLine (d : Dialect) {clause : TableClause} (h : clause.LiteralDefault) :
    .bare '\n' ∉ lexemes (clauseLine d clause) ∧
      readItem (lexemes (clauseLine d clause)) = some clause.item := by
  obtain ⟨l, hl, hnl, hitem⟩ := (readsAs_clause d h).indent
  rw [clauseLine, hl.eq]
  exact ⟨fun hmem => hnl (mem_bareChars.2 hmem), hitem⟩

/-- Clauses are read one by one from their lines, and then what stands behind them. -/
theorem readItem_lines (d : Dialect) {clauses : List TableClause} (rest : List Lexeme)
    (h : ∀ clause ∈ clauses, clause.LiteralDefault) :
    (([Lexeme.bare ',', .bare '\n'].intercalate
        (clauses.map fun clause => lexemes (clauseLine d clause)) ++ .bare '\n' :: rest).splitOn
      (.bare '\n')).filterMap readItem =
      clauses.map TableClause.item ++ (rest.splitOn (.bare '\n')).filterMap readItem := by
  induction clauses with
  | nil =>
    show ((.bare '\n' :: rest).splitOn (.bare '\n')).filterMap readItem = _
    rw [← List.nil_append (Lexeme.bare '\n' :: rest),
      List.splitOn_append_cons_self_of_not_mem List.not_mem_nil]
    rfl
  | cons clause clauses ih =>
    obtain ⟨hclause, hclauses⟩ := List.forall_mem_cons.1 h
    obtain ⟨hnl, hitem⟩ := readItem_clauseLine d hclause
    cases clauses with
    | nil =>
      rw [List.map_singleton, List.intercalate_singleton,
        List.splitOn_append_cons_self_of_not_mem hnl, List.filterMap_cons_some hitem]
      rfl
    | cons next clauses =>
      have hnl' : .bare '\n' ∉ lexemes (clauseLine d clause) ++ [.bare ','] := by simp [hnl]
      have hitem' := (readItem_comma (lexemes (clauseLine d clause))).trans hitem
      have hline : ∀ tail : List Lexeme,
          lexemes (clauseLine d clause) ++ [.bare ',', .bare '\n'] ++ tail ++ .bare '\n' :: rest =
            (lexemes (clauseLine d clause) ++ [.bare ',']) ++
              .bare '\n' :: (tail ++ .bare '\n' :: rest) := by simp
      have hrest := ih hclauses
      rw [List.map_cons] at hrest
      rw [List.map_cons, List.map_cons, List.intercalate_cons_cons, hline,
        List.splitOn_append_cons_self_of_not_mem hnl', List.filterMap_cons_some hitem', hrest]
      rfl

/-- The lines of the clauses stand between the one that names the table and the closing one. -/
theorem readLines_createTable (d : Dialect) (table : String) {clauses : List TableClause}
    (h : ∀ clause ∈ clauses, clause.LiteralDefault) :
    ∃ first lines, readLines (d.createTable table clauses) = first :: lines ∧
      quotedTexts first = [table] ∧ lines.filterMap readItem = clauses.map TableClause.item := by
  have hshape : lexemes (d.createTable table clauses).toList =
      ("CREATE TABLE ".toList.map .bare ++
        [.quoted d.identifierQuote table.toList, .bare ' ', .bare '(']) ++ .bare '\n' ::
          ([Lexeme.bare ',', .bare '\n'].intercalate
            (clauses.map fun clause => lexemes (clauseLine d clause)) ++
              .bare '\n' :: [.bare ')', .bare ';']) := by
    rw [lexes_createTable d table h, List.append_assoc]
    rfl
  have hfirst : Lexeme.bare '\n' ∉ "CREATE TABLE ".toList.map Lexeme.bare ++
      [.quoted d.identifierQuote table.toList, .bare ' ', .bare '('] := by
    rw [← mem_bareChars, bareChars_append, bareChars_map_bare]
    show '\n' ∉ "CREATE TABLE ".toList ++ [' ', '(']
    decide
  have hlines := congrArg (List.splitOn (.bare '\n')) hshape
  rw [List.splitOn_append_cons_self_of_not_mem hfirst] at hlines
  refine ⟨_, _, hlines, by simp, ?_⟩
  rw [readItem_lines d _ h]
  exact List.append_nil _

/-! ## Outlines -/

/-- No default of the table is a number or an expression, kept as written. -/
def Table.LiteralDefaults (t : Table) : Prop :=
  ∀ c ∈ t.columns, ∀ value ∈ c.default, value.isLiteral = true

instance (t : Table) : Decidable t.LiteralDefaults :=
  inferInstanceAs (Decidable (∀ c ∈ t.columns, ∀ value ∈ c.default, value.isLiteral = true))

theorem literalDefault_tableClauses {t : Table} (h : t.LiteralDefaults) :
    ∀ clause ∈ tableClauses t.columns t.foreignKeys, clause.LiteralDefault := by
  intro clause hclause
  cases clause with
  | column keys c =>
    have hc : c ∈ t.columns := by
      simp only [tableClauses, columnClauses, List.mem_append, List.mem_map] at hclause
      rcases hclause with (⟨c', hc', he⟩ | hkey) | ⟨fk, -, he⟩
      · cases he
        exact hc'
      · split at hkey <;> simp at hkey
      · cases he
    exact h c hc
  | primaryKey columns => trivial
  | foreignKey fk => trivial

/-- **The outline of a table stands in the statement that creates it.** -/
theorem readOutline_create (d : Dialect) {t : Table} (h : t.LiteralDefaults) :
    readOutline ((Statement.create t).sql d) = t.outline := by
  obtain ⟨first, lines, hlines, hname, hitems⟩ :=
    readLines_createTable d t.name (literalDefault_tableClauses h)
  have hsql : (Statement.create t).sql d =
      d.createTable t.name (tableClauses t.columns t.foreignKeys) := rfl
  rw [readOutline, hsql, hlines, List.tail_cons, hitems, List.headD_cons, hname, List.headD_cons,
    outlineOf_tableClauses]

/--
**The text of CREATE TABLE determines the table's outline**: its name, its columns in order, which
of them take NULL, its primary key and its foreign keys, whatever stands in names, labels and
defaults.
-/
theorem create_text_determines_outline (d : Dialect) {t u : Table} (ht : t.LiteralDefaults)
    (hu : u.LiteralDefaults) (h : (Statement.create t).sql d = (Statement.create u).sql d) :
    t.name = u.name ∧ t.columns.map (·.name) = u.columns.map (·.name) ∧
      t.columns.map (·.takesNull) = u.columns.map (·.takesNull) ∧
      t.primaryKey.map (·.name) = u.primaryKey.map (·.name) ∧ t.foreignKeys = u.foreignKeys := by
  have houtline : t.outline = u.outline := by
    rw [← readOutline_create d ht, ← readOutline_create d hu, h]
  have hcolumns : t.outline.columns = u.outline.columns := congrArg Outline.columns houtline
  have hnames : t.columns.map (·.name) = t.outline.columns.map Prod.fst ∧
      u.columns.map (·.name) = u.outline.columns.map Prod.fst := by
    simp [Table.outline, Function.comp_def]
  have hnulls : t.columns.map (·.takesNull) = t.outline.columns.map Prod.snd ∧
      u.columns.map (·.takesNull) = u.outline.columns.map Prod.snd := by
    simp [Table.outline, Function.comp_def]
  refine ⟨congrArg Outline.name houtline, ?_, ?_, congrArg Outline.primaryKey houtline,
    congrArg Outline.foreignKeys houtline⟩
  · rw [hnames.1, hnames.2, hcolumns]
  · rw [hnulls.1, hnulls.2, hcolumns]

/-- A table whose names and default look like parts of its own statement. -/
def layoutTable : Table where
  name := "a (\n    \x22b\x22"
  columns :=
    [{ name := "x NOT NULL, y", type := .integer, primaryKey := true },
      { name := "size", type := .enum, nullable := true, enumOptions := ["S',\n", "PRIMARY KEY ("],
        default := some (.text "it's,\n    CONSTRAINT") }]
  foreignKeys :=
    [{ name := "fk\x60\x22", column := "size", referencesTable := "t)", referencesColumn := "id",
       onDelete := some .setNull }]

/-- The table with what its statement does not show: void requests for values, unused scales. -/
def layoutTable' : Table :=
  { layoutTable with
    columns := layoutTable.columns.map fun c =>
      { c with autoIncrement := c.type = .enum, scale := some 2 } }

theorem create_text_determines_outline_layout :
    layoutTable.name = layoutTable'.name ∧
      layoutTable.columns.map (·.name) = layoutTable'.columns.map (·.name) ∧
      layoutTable.columns.map (·.takesNull) = layoutTable'.columns.map (·.takesNull) ∧
      layoutTable.primaryKey.map (·.name) = layoutTable'.primaryKey.map (·.name) ∧
      layoutTable.foreignKeys = layoutTable'.foreignKeys :=
  create_text_determines_outline .postgres (by decide) (by decide) rfl

end SchemaSync
