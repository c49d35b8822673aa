/-
What becomes of the entities of a read.

An entity is either listed, with its table and its pivot tables, or skipped
for an error, and which of the two depends only on its own fields and on the
names of the tables listed before it (`Becomes`). A read is known by the
outcomes of its entities in order: the report holds the listed tables, then
the pivot tables whose names are new, and the errors of the skipped ones
(`readEntities_eq_ok_iff`). The modes differ in one point only, that a strict
read has no skipped entities. Since a skipped entity leaves no name behind,
the outcomes of the others are the same without it
(`lenient_read_isolates_skipped`).
-/
import SchemaSync.Entity.Reader
import SchemaSync.Proofs.Schema.Checked

namespace SchemaSync.Entity

/-- What becomes of an entity: its table and pivot tables, or the error that it is skipped for. -/
inductive Outcome where
  | listed (d : Declaration) (table : Table) (pivots : List Table)
  | skipped (d : Declaration) (e : Error)

namespace Outcome

/-- The entity. -/
def entity : Outcome → Declaration
  | listed d _ _ => d
  | skipped d _ => d

/-- The table of an entity that is listed. -/
def tables : Outcome → List Table
  | listed _ table _ => [table]
  | skipped _ _ => []

/-- The pivot tables of an entity that is listed. -/
def pivots : Outcome → List Table
  | listed _ _ pivots => pivots
  | skipped _ _ => []

/-- The note about an entity that is skipped. -/
def notes : Outcome → List Skipped
  | listed _ _ _ => []
  | skipped d e => [⟨d.id, e⟩]

end Outcome

/-- The names of the tables of the entities that are listed. -/
def listedNames (outcomes : List Outcome) : List String :=
  (outcomes.flatMap (·.tables)).map (·.name)

/-- What an entity becomes when the tables listed before it have these names. -/
inductive Becomes (declarations : List Declaration) (taken : List String) : Outcome → Prop where
  /-- It is listed with its own table, which has a new name. -/
  | listed {d table pivots} (read : readEntity declarations d = .ok (table, pivots))
      (fresh : table.name ∉ taken) : Becomes declarations taken (.listed d table pivots)
  /-- It cannot be read. -/
  | faulty {d e} (read : readEntity declarations d = .error e) (mild : e.isFatal = false) :
      Becomes declarations taken (.skipped d e)
  /-- Its table has the name of another one. -/
  | repeated {d table pivots} (read : readEntity declarations d = .ok (table, pivots))
      (old : table.name ∈ taken) :
      Becomes declarations taken (.skipped d (.violation (.duplicateTable table.name)))

/-- Outcomes each of which is what the entity becomes behind those in front of it. -/
def Account (declarations : List Declaration) : List String → List Outcome → Prop
  | _, [] => True
  | taken, o :: outcomes =>
    Becomes declarations taken o ∧ Account declarations (taken ++ listedNames [o]) outcomes

/-- The tables whose names are neither taken nor those of a table in front of them. -/
def newcomers (taken : List String) : List Table → List Table
  | [] => []
  | t :: tables =>
    if t.name ∈ taken then newcomers taken tables else t :: newcomers (taken ++ [t.name]) tables

/-- The tables that outcomes leave in a schema: those of the entities, then the new pivot tables. -/
def tablesOf (outcomes : List Outcome) : List Table :=
  outcomes.flatMap (·.tables) ++ newcomers (listedNames outcomes) (outcomes.flatMap (·.pivots))

/-! ## One entity -/

/-- A progress that has come further by these outcomes. -/
structure Progress.Gains (p : Progress) (outcomes : List Outcome) (q : Progress) : Prop where
  tables : q.schema.tables = p.schema.tables ++ outcomes.flatMap (·.tables)
  pivots : q.pivots = p.pivots ++ outcomes.flatMap (·.pivots)
  skipped : q.skipped = p.skipped ++ outcomes.flatMap (·.notes)

/-- The names of the tables so far. -/
def Progress.names (p : Progress) : List String :=
  p.schema.tables.map (·.name)

section

variable {mode : ScanMode} {declarations : List Declaration} {p q : Progress} {d : Declaration}
  {o : Outcome} {outcomes : List Outcome}

namespace Progress.Gains

theorem names (h : p.Gains outcomes q) : q.names = p.names ++ listedNames outcomes := by
  rw [Progress.names, h.tables, List.map_append]
  rfl

/-- What a progress gains by several outcomes it gains by the first one and then by the others. -/
theorem cons_iff {m : Progress} (h : p.Gains [o] m) :
    p.Gains (o :: outcomes) q ↔ m.Gains outcomes q := by
  obtain ⟨htables, hpivots, hskipped⟩ := h
  simp only [List.flatMap_cons, List.flatMap_nil, List.append_nil] at htables hpivots hskipped
  constructor
  · rintro ⟨h₁, h₂, h₃⟩
    simp only [List.flatMap_cons] at h₁ h₂ h₃
    exact ⟨by rw [h₁, htables, List.append_assoc], by rw [h₂, hpivots, List.append_assoc],
      by rw [h₃, hskipped, List.append_assoc]⟩
  · rintro ⟨h₁, h₂, h₃⟩
    refine ⟨?_, ?_, ?_⟩
    · rw [h₁, htables, List.append_assoc, List.flatMap_cons]
    · rw [h₂, hpivots, List.append_assoc, List.flatMap_cons]
    · rw [h₃, hskipped, List.append_assoc, List.flatMap_cons]

end Progress.Gains

theorem addEntity_of_error {e : Error} (h : readEntity declarations d = .error e) :
    addEntity declarations p d = .error e := by
  rw [addEntity, h]
  rfl

theorem addEntity_of_fresh {table : Table} {pivots : List Table}
    (h : readEntity declarations d = .ok (table, pivots)) (fresh : table.name ∉ p.names) :
    ∃ q, addEntity declarations p d = .ok q ∧ p.Gains [.listed d table pivots] q := by
  have hcontains : p.schema.contains table.name = false := Schema.contains_eq_false_iff.2 fresh
  have hinsert : p.schema.insert table = .ok (p.schema.push table hcontains) :=
    Schema.insert_eq_ok_iff.2 ⟨fresh, rfl⟩
  refine ⟨{ p with schema := p.schema.push table hcontains, pivots := p.pivots ++ pivots }, ?_, ?_⟩
  · rw [addEntity, h]
    show (Error.ofSchema (p.schema.insert table) >>= _) = _
    rw [hinsert]
    rfl
  · exact ⟨rfl, by simp [Outcome.pivots], by simp [Outcome.notes]⟩

theorem addEntity_of_old {table : Table} {pivots : List Table}
    (h : readEntity declarations d = .ok (table, pivots)) (old : table.name ∈ p.names) :
    addEntity declarations p d = .error (.violation (.duplicateTable table.name)) := by
  rw [addEntity, h]
  show (Error.ofSchema (p.schema.insert table) >>= _) = _
  rw [Schema.insert_eq_error_iff.2 ⟨old, rfl⟩]
  rfl

/-- An error that is no fatal one is noted, in lenient mode. -/
theorem step_of_error {e : Error} (h : addEntity declarations p d = .error e)
    (mild : e.isFatal = false) (hmode : mode ≠ .strict) :
    ∃ q, step mode declarations p d = .ok q ∧ p.Gains [.skipped d e] q := by
  refine ⟨{ p with skipped := p.skipped ++ [⟨d.id, e⟩] }, ?_, ?_⟩
  · simp [step, h, mild, hmode]
  · exact ⟨by simp [Outcome.tables], by simp [Outcome.pivots], rfl⟩

/-- A step leads on with what the entity becomes, in strict mode only if it is not skipped. -/
theorem step_of_becomes (h : Becomes declarations p.names o)
    (hmode : mode = .strict → o.notes = []) :
    ∃ q, step mode declarations p o.entity = .ok q ∧ p.Gains [o] q := by
  cases h with
  | listed read fresh =>
    obtain ⟨q, hq, hgains⟩ := addEntity_of_fresh read fresh
    exact ⟨q, by rw [step, Outcome.entity, hq], hgains⟩
  | faulty read mild =>
    exact step_of_error (addEntity_of_error read) mild fun he => nomatch hmode he
  | repeated read old =>
    exact step_of_error (addEntity_of_old read old) rfl fun he => nomatch hmode he

/-- Whatever a step leads on with, the entity becomes just that. -/
theorem becomes_of_step (h : step mode declarations p d = .ok q) :
    ∃ o : Outcome, o.entity = d ∧ Becomes declarations p.names o ∧
      (mode = .strict → o.notes = []) ∧ p.Gains [o] q := by
  have hmild : ∀ {e}, addEntity declarations p d = .error e → e.isFatal = false ∧ mode ≠ .strict := by
    intro e he
    rw [step, he] at h
    simp only [Bool.or_eq_true, decide_eq_true_eq] at h
    split at h
    · cases h
    · next hnot => simpa using hnot
  obtain ⟨o, hd, ho, hmode⟩ : ∃ o : Outcome, o.entity = d ∧ Becomes declarations p.names o ∧
      (mode = .strict → o.notes = []) := by
    cases hread : readEntity declarations d with
    | error e =>
      obtain ⟨mild, hmode⟩ := hmild (addEntity_of_error hread)
      exact ⟨.skipped d e, rfl, .faulty hread mild, fun he => absurd he hmode⟩
    | ok parts =>
      obtain ⟨table, pivots⟩ := parts
      by_cases hname : table.name ∈ p.names
      · obtain ⟨-, hmode⟩ := hmild (addEntity_of_old hread hname)
        exact ⟨.skipped d _, rfl, .repeated hread hname, fun he => absurd he hmode⟩
      · exact ⟨.listed d table pivots, rfl, .listed hread hname, fun _ => rfl⟩
  -- A step has one result, so the one that the outcome promises is this one.
  obtain ⟨q', hq', hgains⟩ := step_of_becomes ho hmode
  rw [hd, h] at hq'
  cases hq'
  exact ⟨o, hd, ho, hmode, hgains⟩

/-! ## A whole read -/

/-- A run leads on with the outcomes that an account of its entities gives. -/
theorem run_of_account (h : Account declarations p.names outcomes)
    (hmode : mode = .strict → outcomes.flatMap (·.notes) = []) :
    ∃ q, (outcomes.map (·.entity)).foldlM (step mode declarations) p = .ok q ∧
      p.Gains outcomes q := by
  induction outcomes generalizing p with
  | nil => exact ⟨p, rfl, by simp, by simp, by simp⟩
  | cons o outcomes ih =>
    obtain ⟨ho, hrest⟩ := h
    have hnotes : mode = .strict → o.notes = [] ∧ outcomes.flatMap (·.notes) = [] := by
      intro he
      simpa only [List.flatMap_cons, List.append_eq_nil_iff] using hmode he
    obtain ⟨m, hm, hgains⟩ := step_of_becomes ho fun he => (hnotes he).1
    rw [← hgains.names] at hrest
    obtain ⟨q, hq, hgains'⟩ := ih hrest fun he => (hnotes he).2
    refine ⟨q, ?_, hgains.cons_iff.2 hgains'⟩
    rw [List.map_cons, List.foldlM_cons, bind_eq_ok_iff]
    exact ⟨m, hm, hq⟩

/-- Whatever a run leads on with, there is an account of just that. -/
theorem account_of_run {entities : List Declaration}
    (h : entities.foldlM (step mode declarations) p = .ok q) :
    ∃ outcomes : List Outcome, outcomes.map (·.entity) = entities ∧
      Account declarations p.names outcomes ∧
      (mode = .strict → outcomes.flatMap (·.notes) = []) ∧ p.Gains outcomes q := by
  induction entities generalizing p with
  | nil =>
    cases h
    exact ⟨[], rfl, trivial, fun _ => rfl, by simp, by simp, by simp⟩
  | cons d entities ih =>
    rw [List.foldlM_cons, bind_eq_ok_iff] at h
    obtain ⟨m, hm, hq⟩ := h
    obtain ⟨o, hd, ho, hmode, hgains⟩ := becomes_of_step hm
    obtain ⟨outcomes, hmap, hrest, hmodes, hgains'⟩ := ih hq
    rw [hgains.names] at hrest
    refine ⟨o :: outcomes, by simp [hd, hmap], ⟨ho, hrest⟩, fun he => ?_, hgains.cons_iff.2 hgains'⟩
    rw [List.flatMap_cons, hmode he, hmodes he, List.append_nil]

end

theorem tables_addAbsent (s : Schema) (tables : List Table) :
    (addAbsent s tables).tables = s.tables ++ newcomers (s.tables.map (·.name)) tables := by
  induction tables generalizing s with
  | nil => simp [addAbsent, newcomers]
  | cons t tables ih =>
    have hfirst := Schema.tables_insertIfAbsent s t
    have hrest := ih (s.insertIfAbsent t).1
    rw [hfirst] at hrest
    show (addAbsent (s.insertIfAbsent t).1 tables).tables = _
    rw [hrest, newcomers]
    split <;> simp

theorem tables_of_gains {p : Progress} {outcomes : List Outcome}
    (h : Progress.Gains {} outcomes p) : (addAbsent p.schema p.pivots).tables = tablesOf outcomes := by
  rw [tables_addAbsent, h.tables, h.pivots]
  rfl

/-- **A read is known by the outcomes of its entities**, of which a strict one skips none. -/
theorem readEntities_eq_ok_iff {mode : ScanMode} {declarations entities : List Declaration}
    {r : Report} :
    readEntities mode declarations entities = .ok r ↔
      ∃ outcomes : List Outcome, outcomes.map (·.entity) = entities ∧
        Account declarations [] outcomes ∧ r.schema.tables = tablesOf outcomes ∧
        r.skipped = outcomes.flatMap (·.notes) ∧ (mode = .strict → r.skipped = []) := by
  rw [readEntities, bind_eq_ok_iff]
  constructor
  · rintro ⟨p, hp, hr⟩
    obtain ⟨outcomes, hmap, haccount, hmode, hgains⟩ := account_of_run hp
    cases hr
    exact ⟨outcomes, hmap, haccount, tables_of_gains hgains, hgains.skipped,
      fun he => hgains.skipped.trans (hmode he)⟩
  · rintro ⟨outcomes, rfl, haccount, htables, hskipped, hmode⟩
    obtain ⟨p, hp, hgains⟩ := run_of_account (p := {}) haccount fun he => hskipped ▸ hmode he
    refine ⟨p, hp, congrArg Except.ok ?_⟩
    obtain ⟨schema, skipped⟩ := r
    have hschema : addAbsent p.schema p.pivots = schema :=
      Schema.ext_tables ((tables_of_gains hgains).trans htables.symm)
    rw [hschema, hgains.skipped]
    exact congrArg (Report.mk schema) hskipped.symm

/-! ## Skipped entities -/

theorem account_append {declarations : List Declaration} {before after : List Outcome} :
    ∀ {taken : List String}, Account declarations taken (before ++ after) ↔
      Account declarations taken before ∧
        Account declarations (taken ++ listedNames before) after := by
  induction before with
  | nil => simp [Account, listedNames]
  | cons o before ih =>
    intro taken
    have hnames : listedNames (o :: before) = listedNames [o] ++ listedNames before := by
      simp [listedNames]
    rw [List.cons_append, Account, Account, ih, hnames, and_assoc, List.append_assoc]

/-- A skipped entity leaves nothing behind that others could meet. -/
theorem Account.withoutSkipped {declarations : List Declaration} {before after : List Outcome}
    {d : Declaration} {e : Error} (h : Account declarations [] (before ++ .skipped d e :: after)) :
    Account declarations [] (before ++ after) := by
  rw [account_append] at h ⊢
  obtain ⟨hbefore, -, hafter⟩ := h
  refine ⟨hbefore, ?_⟩
  simpa [listedNames, Outcome.tables] using hafter

theorem tablesOf_withoutSkipped (before after : List Outcome) (d : Declaration) (e : Error) :
    tablesOf (before ++ .skipped d e :: after) = tablesOf (before ++ after) := by
  simp [tablesOf, listedNames, Outcome.tables, Outcome.pivots]

/-- **A lenient read isolates what it skips.** Each entity is either listed with its own table or
skipped with one note, in order. The schema has the listed tables and then the pivot tables of their
entities that are new by name. Without a skipped entity, which may still be a target, the schema and
the other notes are the same. -/
theorem lenient_read_isolates_skipped (declarations : List Declaration) (r : Report)
    (h : readDeclarations .lenient declarations = .ok r) :
    ∃ outcomes : List Outcome,
      outcomes.map (·.entity) = declarations.filter (·.isEntity) ∧
      Account declarations [] outcomes ∧
      r.schema.tables = outcomes.flatMap (·.tables) ++
        newcomers (listedNames outcomes) (outcomes.flatMap (·.pivots)) ∧
      r.skipped = outcomes.flatMap (·.notes) ∧
      ∀ before d e after, outcomes = before ++ .skipped d e :: after →
        readEntities .lenient declarations ((before ++ after).map (·.entity)) =
          .ok ⟨r.schema, (before ++ after).flatMap (·.notes)⟩ := by
  obtain ⟨outcomes, hmap, haccount, htables, hskipped, -⟩ := readEntities_eq_ok_iff.1 h
  refine ⟨outcomes, hmap, haccount, htables, hskipped, ?_⟩
  rintro before d e after rfl
  rw [tablesOf_withoutSkipped] at htables
  exact readEntities_eq_ok_iff.2
    ⟨before ++ after, rfl, haccount.withoutSkipped, htables, rfl, nofun⟩

/-! ## A shop -/

open Source

/-- The attribute of a struct or field that describes an entity with these tokens. -/
def marker (tokens : List Token) : Attribute :=
  ⟨⟨false, ["orm"]⟩, .list tokens⟩

/-- The tokens that give an option a text. -/
def given (key text : String) : List Token :=
  [.ident key, .punct '=' false, .literal (.string text)]

/-- A field with a relationship to a target. -/
def relationField (kind name target : String) : Field :=
  ⟨[marker [.ident kind, .group .paren (given "target" target)]], name, .other⟩

/-- An entity of the shop. -/
def shopEntity (name table : String) (fields : List Field) : Declaration :=
  ⟨["shop"], "shop.rs", ⟨[marker (given "table" table)], name, fields⟩⟩

/-- A shop in which one entity names a target that is not there, behind a relationship that has a
pivot table, and one uses a table name again. -/
def shop : List Declaration :=
  [shopEntity "Order" "orders"
      [relationField "many_to_many" "items" "Item", relationField "many_to_one" "buyer" "Nobody"],
    shopEntity "Item" "items" [relationField "many_to_many" "labels" "Label"],
    shopEntity "Label" "labels" [],
    shopEntity "Part" "items" [],
    shopEntity "Offer" "offers"
      [relationField "many_to_one" "order" "Order", relationField "many_to_many" "items" "Item"]]

theorem lenient_read_isolates_skipped_shop :
    ∃ r, readDeclarations .lenient shop = .ok r ∧
      r.schema.tables.map (·.name) = ["items", "labels", "offers", "items_labels", "offers_items"] ∧
      r.skipped.map (·.entity) = ["shop::Order", "shop::Part"] ∧
      ∃ outcomes : List Outcome,
        outcomes.map (·.entity) = shop.filter (·.isEntity) ∧
        Account shop [] outcomes ∧
        r.schema.tables = outcomes.flatMap (·.tables) ++
          newcomers (listedNames outcomes) (outcomes.flatMap (·.pivots)) ∧
        r.skipped = outcomes.flatMap (·.notes) ∧
        ∀ before d e after, outcomes = before ++ .skipped d e :: after →
          readEntities .lenient shop ((before ++ after).map (·.entity)) =
            .ok ⟨r.schema, (before ++ after).flatMap (·.notes)⟩ := by
  have hread : (readDeclarations .lenient shop).toOption.map
      (fun r => (r.schema.tables.map (·.name), r.skipped.map (·.entity))) =
      some (["items", "labels", "offers", "items_labels", "offers_items"],
        ["shop::Order", "shop::Part"]) := by decide +kernel
  obtain ⟨r, h, hnames⟩ := toOption_map_eq_some_iff.1 hread
  rw [Prod.mk.injEq] at hnames
  exact ⟨r, h, hnames.1, hnames.2, lenient_read_isolates_skipped shop r h⟩

end SchemaSync.Entity
