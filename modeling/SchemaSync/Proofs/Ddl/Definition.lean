/-
What the MySQL text of CREATE TABLE tells, read from left to right.

Equal texts with clauses of their own begin with clauses that declare the
same (`clause_append_inj`), whatever is written behind them. A default kept
as written may look like anything, so it is not read: columns of one name are
taken to have one default (`SameDefaults`). Clause by clause this says what
two tables have in common whose statements are one text
(`clauses_of_createTable_eq`).
-/
import SchemaSync.Proofs.Catalog.MySqlType
import SchemaSync.Proofs.Ddl.CreateTable
import SchemaSync.Proofs.Text.Boundary

namespace SchemaSync

open Text

/-! ## Types -/

theorem blank_notMem_decimal (n : UInt32) : ' ' ∉ (decimal n).toList :=
  fun h => absurd (isDigit_of_mem_decimal h) (by decide)

/-- A type without labels is one word, and not the one that opens a list of labels. -/
theorem bareTypeName_word (c : Column) :
    ' ' ∉ (Dialect.mySql.bareTypeName c).toList ∧
      (Dialect.mySql.bareTypeName c).toList.head? ≠ some 'E' := by
  obtain ⟨name, type, length, nullable, unique, default, options, precision, scale⟩ := c
  cases type with
  | dateTime | dateTimeTz | time =>
    cases precision <;>
      simp [Dialect.bareTypeName, Column.commonTypeName, Column.secondsName, blank_notMem_decimal]
  | _ =>
    simp [Dialect.bareTypeName, Column.commonTypeName, Column.sizedName, blank_notMem_decimal]

variable {c e : Column} {rest rest' : List Char}

theorem typeName_of_labels_eq_none (h : c.enumLabels? = none) :
    Dialect.mySql.typeName c = Dialect.mySql.bareTypeName c := by
  rw [Dialect.typeName, h]

theorem typeName_of_labels_eq_some {labels : List String} (h : c.enumLabels? = some labels) :
    (Dialect.mySql.typeName c).toList =
      "ENUM(".toList ++ ((commaList (labels.map (quoted '\''))).toList ++ [')']) := by
  simp only [Dialect.typeName, h, labelList, String.toList_append, List.append_assoc]
  rfl

theorem typeName_ne_of_labels {labels : List String} (hc : c.enumLabels? = none)
    (he : e.enumLabels? = some labels) :
    (Dialect.mySql.typeName c).toList ++ ' ' :: rest ≠
      (Dialect.mySql.typeName e).toList ++ ' ' :: rest' := by
  intro h
  have hheads := congrArg List.head? h
  rw [typeName_of_labels_eq_none hc, typeName_of_labels_eq_some he, List.head?_append] at hheads
  cases hhead : (Dialect.mySql.bareTypeName c).toList.head? with
  | none => simp [hhead] at hheads
  | some x =>
    have hx := (bareTypeName_word c).2
    rw [hhead] at hx hheads
    exact hx (by simpa using hheads)

theorem typeName_append_inj
    (h : (Dialect.mySql.typeName c).toList ++ ' ' :: rest =
      (Dialect.mySql.typeName e).toList ++ ' ' :: rest') :
    Dialect.mySql.typeName c = Dialect.mySql.typeName e ∧ c.enumLabels? = e.enumLabels? ∧
      rest = rest' := by
  cases hc : c.enumLabels? with
  | none =>
    cases he : e.enumLabels? with
    | none =>
      rw [typeName_of_labels_eq_none hc, typeName_of_labels_eq_none he] at h ⊢
      obtain ⟨hname, hrest⟩ :=
        blankless_append_inj (bareTypeName_word c).1 (bareTypeName_word e).1 h
      exact ⟨String.toList_inj.1 hname, rfl, hrest⟩
    | some labels => exact absurd h (typeName_ne_of_labels hc he)
  | some labels =>
    cases he : e.enumLabels? with
    | none => exact absurd h.symm (typeName_ne_of_labels he hc)
    | some labels' =>
      rw [typeName_of_labels_eq_some hc, typeName_of_labels_eq_some he, List.append_assoc,
        List.append_assoc, List.append_assoc, List.append_assoc] at h
      obtain ⟨rfl, hrest⟩ :=
        commaList_quoted_append_inj (by decide) (by decide) (List.append_cancel_left h)
      refine ⟨?_, rfl, (List.cons.inj hrest).2⟩
      rw [Dialect.typeName, Dialect.typeName, hc, he]

/-- Types other than enums are told apart by their names, and so are the sizes that they use. -/
theorem type_eq_of_typeName_eq (hc : c.type ≠ .enum) (he : e.type ≠ .enum)
    (h : Dialect.mySql.typeName c = Dialect.mySql.typeName e) :
    c.type = e.type ∧ Catalog.usedSizes c.effective = Catalog.usedSizes e.effective := by
  have hs : Catalog.SameSpelling (Dialect.mySql.typeName e) (Dialect.mySql.typeName c) := by
    rw [h]
    rfl
  have hread := Catalog.read_typeName c (fun h => absurd h hc) hs
  rw [Catalog.read_typeName e (fun h => absurd h he) rfl] at hread
  have htype := congrArg Catalog.MySql.columnType hread
  rw [Catalog.columnType_mySqlBase, Catalog.columnType_mySqlBase] at htype
  refine ⟨htype.symm, ?_⟩
  rw [← Catalog.sizes_mySqlArguments c hc, ← Catalog.sizes_mySqlArguments e he, hread, htype]

/-! ## Definitions -/

/-- The text of a default value in a definition. -/
def defaultPhrase : Option DefaultValue → List Char
  | some value => (" DEFAULT " ++ value.sql).toList
  | none => []

/-- Whether a definition says that the values are unique. -/
def showsUnique (keys : KeyPlacement) (c : Column) : Bool :=
  keys ≠ .omitted ∧ c.unique ∧ !c.primaryKey

/-- Two columns whose definitions say the same. -/
structure DefinedAlike (keys keys' : KeyPlacement) (c e : Column) : Prop where
  name : c.name = e.name
  typeName : Dialect.mySql.typeName c = Dialect.mySql.typeName e
  labels : c.enumLabels? = e.enumLabels?
  takesNull : c.takesNull = e.takesNull
  default : c.default = e.default
  unique : showsUnique keys c = showsUnique keys' e
  generated : showsGenerated keys c = showsGenerated keys' e
  key : showsKey keys c = showsKey keys' e

theorem columnDefinition_chars (keys : KeyPlacement) (c : Column) :
    (Dialect.mySql.columnDefinition keys c).toList =
      (quoted '\x60' c.name).toList ++ ' ' :: ((Dialect.mySql.typeName c).toList ++
        ' ' :: ((if c.takesNull then "NULL".toList else "NOT NULL".toList) ++
          (defaultPhrase c.default ++ (onlyIf (showsUnique keys c) " UNIQUE".toList ++
            (onlyIf (showsGenerated keys c) " AUTO_INCREMENT".toList ++
              onlyIf (showsKey keys c) " PRIMARY KEY".toList))))) := by
  have hnull : (if c.takesNull then " NULL" else " NOT NULL").toList =
      ' ' :: if c.takesNull then "NULL".toList else "NOT NULL".toList := by
    cases c.takesNull <;> decide
  have honly : ∀ (p : Prop) [Decidable p] (s : String),
      (if p then s else "").toList = onlyIf (decide p) s.toList := by
    intro p _ s
    by_cases hp : p <;> simp [hp]
  have hwords : " ".toList ++ Dialect.mySql.autoIncrementKeywords.toList =
      " AUTO_INCREMENT".toList := by decide
  unfold Dialect.columnDefinition Dialect.wrap defaultPhrase
  cases c.default <;>
    simp only [String.toList_append, hnull, honly, hwords, List.append_assoc, showsUnique,
      showsGenerated, showsKey] <;>
    rfl

/-- What stands behind a clause: a comma or the end of its line. -/
def EndsClause (rest : List Char) : Prop :=
  rest.head? = some ',' ∨ rest.head? = some '\n'

theorem EndsClause.not_blank_prefix (h : EndsClause rest) (word : List Char) :
    ¬ ' ' :: word <+: rest := by
  rintro ⟨after, rfl⟩
  rcases h with h | h <;> simp at h

theorem nullability_append_inj {b b' : Bool}
    (h : (if b then "NULL".toList else "NOT NULL".toList) ++ rest =
      (if b' then "NULL".toList else "NOT NULL".toList) ++ rest') : b = b' ∧ rest = rest' := by
  cases b <;> cases b'
  case true.true | false.false => exact ⟨rfl, List.append_cancel_left h⟩
  case true.false | false.true => simp at h

/-- The words behind the default are told apart by their first letters. -/
theorem keywords_append_inj {u u' g g' k k' : Bool} (hr : EndsClause rest) (hr' : EndsClause rest')
    (h : onlyIf u " UNIQUE".toList ++ (onlyIf g " AUTO_INCREMENT".toList ++
        (onlyIf k " PRIMARY KEY".toList ++ rest)) =
      onlyIf u' " UNIQUE".toList ++ (onlyIf g' " AUTO_INCREMENT".toList ++
        (onlyIf k' " PRIMARY KEY".toList ++ rest'))) :
    u = u' ∧ g = g' ∧ k = k' ∧ rest = rest' := by
  have hkey : ∀ {r}, EndsClause r → ¬ " PRIMARY KEY".toList <+: r :=
    fun hr => hr.not_blank_prefix _
  have hgenerated : ∀ {r} (k : Bool), EndsClause r →
      ¬ " AUTO_INCREMENT".toList <+: onlyIf k " PRIMARY KEY".toList ++ r := by
    intro r k hr
    cases k with
    | false => exact hr.not_blank_prefix _
    | true => simp
  have hunique : ∀ {r} (g k : Bool), EndsClause r → ¬ " UNIQUE".toList <+:
      onlyIf g " AUTO_INCREMENT".toList ++ (onlyIf k " PRIMARY KEY".toList ++ r) := by
    intro r g k hr
    cases g with
    | false =>
      cases k with
      | false => exact hr.not_blank_prefix _
      | true => simp
    | true => simp
  obtain ⟨hu, h⟩ := onlyIf_append_inj (hunique _ _ hr) (hunique _ _ hr') h
  obtain ⟨hg, h⟩ := onlyIf_append_inj (hgenerated _ hr) (hgenerated _ hr') h
  obtain ⟨hk, hrest⟩ := onlyIf_append_inj (hkey hr) (hkey hr') h
  exact ⟨hu, hg, hk, hrest⟩

theorem columnDefinition_append_inj {keys keys' : KeyPlacement}
    (hdefault : c.name = e.name → c.default = e.default)
    (hr : EndsClause rest) (hr' : EndsClause rest')
    (h : (Dialect.mySql.columnDefinition keys c).toList ++ rest =
      (Dialect.mySql.columnDefinition keys' e).toList ++ rest') :
    DefinedAlike keys keys' c e ∧ rest = rest' := by
  have hblank : ∀ r : List Char, (' ' :: r).head? ≠ some '\x60' := by simp
  rw [columnDefinition_chars, columnDefinition_chars] at h
  simp only [List.append_assoc, List.cons_append] at h
  obtain ⟨hname, h⟩ := quoted_append_inj (hblank _) (hblank _) h
  obtain ⟨htype, hlabels, h⟩ := typeName_append_inj (List.cons.inj h).2
  obtain ⟨hnull, h⟩ := nullability_append_inj h
  -- The default may be any text, so it is not read but taken to be the same on both sides.
  rw [hdefault hname] at h
  obtain ⟨hunique, hgenerated, hkey, hrest⟩ :=
    keywords_append_inj hr hr' (List.append_cancel_left h)
  exact ⟨⟨hname, htype, hlabels, hnull, hdefault hname, hunique, hgenerated, hkey⟩, hrest⟩

/-! ## Clauses -/

theorem deletion_append_inj {action action' : Option DeleteAction} (hr : EndsClause rest)
    (hr' : EndsClause rest')
    (h : (deletion action).toList ++ rest = (deletion action').toList ++ rest') :
    action = action' ∧ rest = rest' := by
  have hne : ∀ (a : DeleteAction) {r r' : List Char}, EndsClause r →
      r ≠ (deletion (some a)).toList ++ r' := by
    rintro a r r' hr rfl
    refine hr.not_blank_prefix ("ON DELETE ".toList ++ a.sql.toList) ⟨r', ?_⟩
    simp [deletion]
  cases action with
  | none =>
    cases action' with
    | none => exact ⟨rfl, h⟩
    | some a' => exact absurd h (hne a' hr)
  | some a =>
    cases action' with
    | none => exact absurd h.symm (hne a hr')
    | some a' =>
      have hwords : a.sql.toList ++ rest = a'.sql.toList ++ rest' := by
        simpa [deletion] using h
      by_cases ha : a = a'
      · subst ha
        exact ⟨rfl, List.append_cancel_left hwords⟩
      · -- No action's words begin with those of another.
        exact absurd hwords (by cases a <;> cases a' <;> simp [DeleteAction.sql] at ha ⊢)

theorem foreignKeyClause_append_inj {fk fk' : ForeignKey} (hr : EndsClause rest)
    (hr' : EndsClause rest')
    (h : (Dialect.mySql.foreignKeyClause fk).toList ++ rest =
      (Dialect.mySql.foreignKeyClause fk').toList ++ rest') : fk = fk' ∧ rest = rest' := by
  have hkey : ∀ r : List Char, (" FOREIGN KEY (".toList ++ r).head? ≠ some '\x60' := by simp
  have hrefers : ∀ r : List Char, (") REFERENCES ".toList ++ r).head? ≠ some '\x60' := by simp
  have hopening : ∀ r : List Char, (" (".toList ++ r).head? ≠ some '\x60' := by simp
  have hclosing : ∀ r : List Char, (")".toList ++ r).head? ≠ some '\x60' := by simp
  rw [foreignKeyClause_chars, foreignKeyClause_chars] at h
  simp only [List.append_assoc] at h
  obtain ⟨hname, h⟩ := quoted_append_inj (hkey _) (hkey _) (List.append_cancel_left h)
  obtain ⟨hcolumn, h⟩ := quoted_append_inj (hrefers _) (hrefers _) (List.append_cancel_left h)
  obtain ⟨htable, h⟩ := quoted_append_inj (hopening _) (hopening _) (List.append_cancel_left h)
  obtain ⟨hreferred, h⟩ := quoted_append_inj (hclosing _) (hclosing _) (List.append_cancel_left h)
  obtain ⟨haction, hrest⟩ := deletion_append_inj hr hr' (List.append_cancel_left h)
  refine ⟨?_, hrest⟩
  obtain ⟨name, column, table, referred, action⟩ := fk
  simp only at hname hcolumn htable hreferred haction
  rw [hname, hcolumn, htable, hreferred, haction]

/-- Two clauses that declare the same. -/
inductive ClauseAlike : TableClause → TableClause → Prop
  | column {keys keys' : KeyPlacement} {c e : Column} (h : DefinedAlike keys keys' c e) :
      ClauseAlike (.column keys c) (.column keys' e)
  | primaryKey {columns columns' : List String} (h : columns = columns') :
      ClauseAlike (.primaryKey columns) (.primaryKey columns')
  | foreignKey {fk fk' : ForeignKey} (h : fk = fk') : ClauseAlike (.foreignKey fk) (.foreignKey fk')

/-- Clauses that define columns of one name give them one default. -/
def SameDefaults (clauses clauses' : List TableClause) : Prop :=
  ∀ keys c, .column keys c ∈ clauses → ∀ keys' e, .column keys' e ∈ clauses' →
    c.name = e.name → c.default = e.default

/-- The character that a clause begins with tells what it declares. -/
theorem clause_head (clause : TableClause) (rest : List Char) :
    ((Dialect.mySql.clause clause).toList ++ rest).head? =
      some (match clause with
        | .column _ _ => '\x60'
        | .primaryKey _ => 'P'
        | .foreignKey _ => 'C') := by
  cases clause with
  | column keys c =>
    show ((Dialect.mySql.columnDefinition keys c).toList ++ rest).head? = _
    rw [columnDefinition_chars, toList_quoted]
    rfl
  | primaryKey columns =>
    rw [primaryKeyClause_chars]
    simp
  | foreignKey fk =>
    show ((Dialect.mySql.foreignKeyClause fk).toList ++ rest).head? = _
    rw [foreignKeyClause_chars]
    simp

/-- **A clause is read off the text that begins with it.** -/
theorem clause_append_inj {x y : TableClause} (hdefaults : SameDefaults [x] [y])
    (hr : EndsClause rest) (hr' : EndsClause rest')
    (h : (Dialect.mySql.clause x).toList ++ rest = (Dialect.mySql.clause y).toList ++ rest') :
    ClauseAlike x y ∧ rest = rest' := by
  have hhead := congrArg List.head? h
  rw [clause_head, clause_head] at hhead
  cases x with
  | column keys c =>
    cases y with
    | column keys' e =>
      obtain ⟨halike, hrest⟩ := columnDefinition_append_inj
        (hdefaults keys c (by simp) keys' e (by simp)) hr hr' h
      exact ⟨.column halike, hrest⟩
    | primaryKey columns' => simp at hhead
    | foreignKey fk' => simp at hhead
  | primaryKey columns =>
    cases y with
    | column keys' e => simp at hhead
    | primaryKey columns' =>
      rw [primaryKeyClause_chars, primaryKeyClause_chars] at h
      simp only [List.append_assoc, List.singleton_append] at h
      obtain ⟨hcolumns, hrest⟩ :=
        commaList_quoted_append_inj (by decide) (by decide) (List.append_cancel_left h)
      exact ⟨.primaryKey hcolumns, hrest⟩
    | foreignKey fk' => simp at hhead
  | foreignKey fk =>
    cases y with
    | column keys' e => simp at hhead
    | primaryKey columns' => simp at hhead
    | foreignKey fk' =>
      obtain ⟨hfk, hrest⟩ := foreignKeyClause_append_inj hr hr' h
      exact ⟨.foreignKey hfk, hrest⟩

/-! ## Statements -/

/-- The lines behind the first clause, up to the end of the statement. -/
def laterLines : List TableClause → List Char
  | [] => "\n);".toList
  | clause :: clauses => ',' :: '\n' :: (clauseLine .mySql clause ++ laterLines clauses)

theorem endsClause_laterLines (clauses : List TableClause) : EndsClause (laterLines clauses) := by
  cases clauses with
  | nil => exact .inr rfl
  | cons clause clauses => exact .inl rfl

theorem clauseLines_cons (clause : TableClause) (clauses : List TableClause) :
    [',', '\n'].intercalate ((clause :: clauses).map (clauseLine .mySql)) ++ "\n);".toList =
      clauseLine .mySql clause ++ laterLines clauses := by
  induction clauses generalizing clause with
  | nil => simp [laterLines]
  | cons next clauses ih =>
    rw [laterLines, ← ih next]
    simp [List.intercalate_cons_cons]

theorem clauseLine_append_inj {x y : TableClause} (hdefaults : SameDefaults [x] [y])
    (hr : EndsClause rest) (hr' : EndsClause rest')
    (h : clauseLine .mySql x ++ rest = clauseLine .mySql y ++ rest') :
    ClauseAlike x y ∧ rest = rest' := by
  rw [clauseLine, clauseLine, List.append_assoc, List.append_assoc] at h
  exact clause_append_inj hdefaults hr hr' (List.append_cancel_left h)

theorem SameDefaults.mono {xs ys xs' ys' : List TableClause} (h : SameDefaults xs ys)
    (hxs : xs' ⊆ xs) (hys : ys' ⊆ ys) : SameDefaults xs' ys' :=
  fun keys c hc keys' e he => h keys c (hxs hc) keys' e (hys he)

theorem laterLines_inj : ∀ {xs ys : List TableClause}, SameDefaults xs ys →
    laterLines xs = laterLines ys → List.Forall₂ ClauseAlike xs ys
  | [], [], _, _ => .nil
  | [], _ :: _, _, h => by simp [laterLines] at h
  | _ :: _, [], _, h => by simp [laterLines] at h
  | x :: xs, y :: ys, hdefaults, h => by
    simp only [laterLines, List.cons.injEq, true_and] at h
    obtain ⟨halike, hlater⟩ := clauseLine_append_inj (hdefaults.mono (by simp) (by simp))
      (endsClause_laterLines xs) (endsClause_laterLines ys) h
    exact .cons halike (laterLines_inj (hdefaults.mono (by simp) (by simp)) hlater)

/-- **Statements of one text have clauses that declare the same**, one by one. -/
theorem clauses_of_createTable_eq {table : String} {xs ys : List TableClause}
    (hdefaults : SameDefaults xs ys)
    (h : Dialect.mySql.createTable table xs = Dialect.mySql.createTable table ys) :
    List.Forall₂ ClauseAlike xs ys := by
  have hchars := congrArg String.toList h
  rw [createTable_chars, createTable_chars] at hchars
  have hlines := List.append_cancel_left (List.append_cancel_left (List.append_cancel_left hchars))
  -- Where there are no clauses, the statement closes at once, and not after a line.
  have hclosed : ∀ (z : TableClause) (zs : List TableClause),
      "\n);".toList ≠ clauseLine .mySql z ++ laterLines zs := by
    intro z zs he
    have hheads := congrArg List.head? he
    simp [clauseLine] at hheads
  cases xs with
  | nil =>
    cases ys with
    | nil => exact .nil
    | cons y ys =>
      rw [clauseLines_cons] at hlines
      exact absurd hlines (hclosed y ys)
  | cons x xs =>
    cases ys with
    | nil =>
      rw [clauseLines_cons] at hlines
      exact absurd hlines.symm (hclosed x xs)
    | cons y ys =>
      rw [clauseLines_cons, clauseLines_cons] at hlines
      refine laterLines_inj hdefaults ?_
      rw [laterLines, laterLines, hlines]

end SchemaSync
