/-
What changes do to a schema.

`Change.apply` carries out one change of a table and `execute` a list of
them, in order. A change concerns one table; `get?` of every other name is as
it was. `foldlM_keyed` turns that into a law of whole runs: steps with
distinct keys, each of which settles its own key and leaves the rest, settle
all of their keys.
-/
import Mathlib.Data.List.Nodup
import SchemaSync.Change.Diff

namespace SchemaSync

namespace Schema

/-- The schema without the table of that name. -/
def remove (s : Schema) (name : String) : Schema :=
  ⟨s.tables.filter (·.name ≠ name), (List.filter_sublist.map _).nodup s.distinct⟩

/-- The schema with `f` done to the table of that name, which keeps its name. -/
def modify (s : Schema) (name : String) (f : Table → Table) : Schema :=
  ⟨s.tables.map fun t => if t.name = name then { f t with name } else t, by
    have hnames : (s.tables.map fun t => if t.name = name then { f t with name } else t).map
        (·.name) = s.tables.map (·.name) := by
      rw [List.map_map]
      refine List.map_congr_left fun t _ => ?_
      by_cases ht : t.name = name <;> simp [ht]
    rw [hnames]
    exact s.distinct⟩

end Schema

namespace Change

/-- The columns of a table after a change of one of them. -/
def editColumns (columns : List Column) : Change → List Column
  | addColumn c => columns ++ [c]
  | dropColumn name => columns.filter (·.name ≠ name)
  | modifyColumn old new => columns.map fun c => if c.name = old.name then new else c
  | _ => columns

/-- The foreign keys of a table after a change of them. -/
def editForeignKeys (foreignKeys : List ForeignKey) : Change → List ForeignKey
  | addForeignKey fk => foreignKeys ++ [fk]
  | dropForeignKey fk => foreignKeys.filter (· ≠ fk)
  | _ => foreignKeys

/-- A table after a change of its columns or foreign keys. -/
def edit (t : Table) (c : Change) : Table :=
  { t with columns := c.editColumns t.columns, foreignKeys := c.editForeignKeys t.foreignKeys }

/-- A schema after a change that concerns the given table. -/
def apply (table : String) (s : Schema) : Change → Except Violation Schema
  | addTable t => s.insert t
  | dropTable name => .ok (s.remove name)
  | c => .ok (s.modify table (edit · c))

/-- Whether a change is one of a table that stays. -/
def isEdit : Change → Bool
  | addTable _ | dropTable _ => false
  | _ => true

/-- The column that a change is about. -/
def column? : Change → Option String
  | addColumn c => some c.name
  | dropColumn name => some name
  | modifyColumn old _ => some old.name
  | _ => none

end Change

/-- A schema after a list of changes, each given with the table that it concerns. -/
def execute (s : Schema) (steps : List (String × Change)) : Except Violation Schema :=
  steps.foldlM (fun s step => step.2.apply step.1 s) s

/-- The changes of a table, each with its table. -/
def TableDiff.steps (d : TableDiff) : List (String × Change) :=
  d.changes.map (d.table, ·)

/-- All changes in the order in which they are listed. -/
def diffSteps (diffs : List TableDiff) : List (String × Change) :=
  diffs.flatMap (·.steps)

/-! ## Tables by name -/

namespace Schema

theorem get?_eq_none_iff {s : Schema} {name : String} :
    s.get? name = none ↔ name ∉ s.tables.map (·.name) := by
  simp [get?]

theorem get?_name {s : Schema} {t : Table} (h : t ∈ s.tables) : s.get? t.name = some t :=
  get?_eq_some_iff.2 ⟨h, rfl⟩

theorem get?_insert {s : Schema} {t : Table} (h : s.get? t.name = none) :
    ∃ s', s.insert t = .ok s' ∧ ∀ name, s'.get? name = if name = t.name then some t else s.get? name := by
  have hc : s.contains t.name = false := contains_eq_false_iff.2 (get?_eq_none_iff.1 h)
  refine ⟨s.push t hc, by simp [insert, hc], fun name => ?_⟩
  by_cases hn : name = t.name
  · subst hn
    rw [if_pos rfl, get?_eq_some_iff]
    exact ⟨by simp [push], rfl⟩
  · have hne : (t.name == name) = false := by
      simp only [beq_eq_false_iff_ne]
      exact fun he => hn he.symm
    simp [get?, push, List.find?_append, hn, hne]

theorem get?_remove {s : Schema} {name other : String} :
    (s.remove name).get? other = if other = name then none else s.get? other := by
  by_cases hn : other = name
  · subst hn
    rw [if_pos rfl, get?_eq_none_iff]
    simp [remove]
  · rw [if_neg hn]
    simp only [get?, remove, List.find?_filter]
    congr 1
    funext t
    by_cases ht : t.name = other
    · simp [ht, hn]
    · simp [ht]

theorem get?_modify {s : Schema} {name other : String} {f : Table → Table} :
    (s.modify name f).get? other =
      if other = name then (s.get? name).map fun t => { f t with name } else s.get? other := by
  have hnames : ∀ t : Table, ((if t.name = name then { f t with name } else t).name == other) =
      (t.name == other) := by
    intro t
    by_cases ht : t.name = name <;> simp [ht]
  simp only [get?, modify, List.find?_map, Function.comp_def, hnames]
  by_cases hn : other = name
  · subst hn
    rw [if_pos rfl]
    cases h : s.tables.find? fun t => t.name == other with
    | none => rfl
    | some t =>
      have ht : t.name = other := by simpa using List.find?_some h
      simp [ht]
  · rw [if_neg hn]
    cases h : s.tables.find? fun t => t.name == other with
    | none => rfl
    | some t =>
      have ht : t.name = other := by simpa using List.find?_some h
      have htn : t.name ≠ name := ht ▸ hn
      simp [htn]

end Schema

/-! ## Runs -/

/-- Steps with distinct keys, each of which brings its own key to the target whatever the others
hold and leaves the view of every other key, bring all of their keys there. -/
theorem foldlM_keyed {σ δ κ α ε : Type} [DecidableEq κ] (f : σ → δ → Except ε σ) (key : δ → κ)
    (view : σ → κ → α) (target : κ → α) :
    ∀ {ds : List δ} {s : σ}, (ds.map key).Nodup →
      (∀ d ∈ ds, ∀ r, view r (key d) = view s (key d) → ∃ r', f r d = .ok r' ∧
        view r' (key d) = target (key d) ∧ ∀ k, k ≠ key d → view r' k = view r k) →
      ∃ s', ds.foldlM f s = .ok s' ∧
        ∀ k, view s' k = if k ∈ ds.map key then target k else view s k
  | [], s, _, _ => ⟨s, rfl, fun k => by simp⟩
  | d :: ds, s, hkeys, hstep => by
    simp only [List.map_cons, List.nodup_cons] at hkeys
    obtain ⟨r, hr, hown, hother⟩ := hstep d (by simp) s rfl
    -- The keys still to come are not `d`'s, so `r` shows them as `s` did.
    have hrest : ∀ e ∈ ds, view r (key e) = view s (key e) := by
      intro e he
      exact hother _ fun hk => hkeys.1 (hk ▸ List.mem_map_of_mem he)
    obtain ⟨s', hs', hview⟩ := foldlM_keyed f key view target hkeys.2 fun e he q hq =>
      hstep e (List.mem_cons_of_mem _ he) q (hq.trans (hrest e he))
    refine ⟨s', by rw [List.foldlM_cons, hr]; exact hs', fun k => ?_⟩
    rw [hview]
    by_cases hk : k = key d
    · subst hk
      simp [hkeys.1, hown]
    · simp [hk, hother k hk]

theorem execute_append {s : Schema} {first second : List (String × Change)} :
    execute s (first ++ second) = execute s first >>= fun r => execute r second := by
  simp [execute]

/-- The run of a whole difference goes table by table. -/
theorem execute_diffSteps {s : Schema} {diffs : List TableDiff} :
    execute s (diffSteps diffs) = diffs.foldlM (fun r d => execute r d.steps) s := by
  induction diffs generalizing s with
  | nil => rfl
  | cons d diffs ih =>
    rw [List.foldlM_cons, diffSteps, List.flatMap_cons, execute_append]
    exact bind_congr fun r => ih

theorem apply_of_isEdit {table : String} {s : Schema} {c : Change} (h : c.isEdit = true) :
    c.apply table s = .ok (s.modify table (Change.edit · c)) := by
  cases c <;> first | rfl | simp [Change.isEdit] at h

/-- Edits of one table are made to that table, one after the other, and to no other. -/
theorem execute_edits (table : String) : ∀ {changes : List Change} {s : Schema},
    (∀ c ∈ changes, c.isEdit = true) →
      ∃ s', execute s (changes.map (table, ·)) = .ok s' ∧
        s'.get? table = (s.get? table).map (changes.foldl Change.edit ·) ∧
        ∀ name, name ≠ table → s'.get? name = s.get? name
  | [], s, _ => ⟨s, rfl, by simp, fun _ _ => rfl⟩
  | c :: changes, s, h => by
    obtain ⟨s', hs', hown, hother⟩ := execute_edits table
      (s := s.modify table (Change.edit · c)) fun e he => h e (List.mem_cons_of_mem _ he)
    refine ⟨s', ?_, ?_, fun name hn => ?_⟩
    · rw [List.map_cons, execute, List.foldlM_cons, apply_of_isEdit (h c (by simp))]
      exact hs'
    · rw [hown, Schema.get?_modify, if_pos rfl, Option.map_map]
      cases hg : s.get? table with
      | none => rfl
      | some t =>
        have ht : t.name = table := (Schema.get?_eq_some_iff.1 hg).2
        subst ht
        rfl
    · rw [hother name hn, Schema.get?_modify, if_neg hn]

end SchemaSync
