/-
Schemas: tables in order of their insertion, found by name. That no two
tables share a name is part of the type, so `get?` of a listed table's name
is that table (`get?_eq_some_iff`).
-/
import SchemaSync.Schema.Table
namespace SchemaSync

/-- Tables with distinct names, in order. -/
structure Schema where
  tables : List Table
  distinct : (tables.map (·.name)).Nodup

namespace Schema

/-- The schema without tables. -/
def empty : Schema :=
  ⟨[], by simp⟩

instance : Inhabited Schema := ⟨empty⟩

/-- The table with the given name. -/
def get? (s : Schema) (name : String) : Option Table :=
  s.tables.find? fun t => t.name == name

/-- Whether a table has the given name. -/
def contains (s : Schema) (name : String) : Bool :=
  s.tables.any fun t => t.name == name

theorem contains_eq_false_iff {s : Schema} {name : String} :
    s.contains name = false ↔ name ∉ s.tables.map (·.name) := by
  simp [contains]

theorem get?_eq_some_iff {s : Schema} {name : String} {t : Table} :
    s.get? name = some t ↔ t ∈ s.tables ∧ t.name = name := by
  obtain ⟨tables, distinct⟩ := s
  simp only [get?]
  induction tables with
  | nil => simp
  | cons u us ih =>
    simp only [List.map_cons, List.nodup_cons, List.mem_map, not_exists, not_and] at distinct
    by_cases h : u.name = name
    · simp only [List.find?_cons, h, beq_self_eq_true]
      grind
    · have h' : (u.name == name) = false := by simpa using h
      simp only [List.find?_cons, h', ih distinct.2, List.mem_cons]
      grind

/-- The number of tables. -/
def size (s : Schema) : Nat :=
  s.tables.length

/-- Whether there are no tables. -/
def isEmpty (s : Schema) : Bool :=
  s.tables.isEmpty

/-- The schema with one more table at the end, which shares its name with none. -/
def push (s : Schema) (t : Table) (h : s.contains t.name = false) : Schema :=
  ⟨s.tables ++ [t], by
    have hd := s.distinct
    rw [contains_eq_false_iff] at h
    rw [List.map_append, List.nodup_append]
    refine ⟨hd, by simp, ?_⟩
    intro a ha b hb
    simp only [List.map_cons, List.map_nil, List.mem_singleton] at hb
    exact fun he => h (hb ▸ he ▸ ha)⟩

/-- The schema with one more table; two tables of one name are refused. -/
def insert (s : Schema) (t : Table) : Except Violation Schema :=
  if h : s.contains t.name = false then .ok (s.push t h) else .error (.duplicateTable t.name)

/-- The schema with one more table, or as it is when a table has that name; and which it was. -/
def insertIfAbsent (s : Schema) (t : Table) : Schema × Bool :=
  if h : s.contains t.name = false then (s.push t h, true) else (s, false)

/-- The schema with the table of that name replaced in its place, or else with `t` at the end. -/
def put (s : Schema) (t : Table) : Schema :=
  if h : s.contains t.name = false then s.push t h
  else ⟨s.tables.map fun u => if u.name == t.name then t else u, by
    have : (s.tables.map fun u => if u.name == t.name then t else u).map (·.name) =
        s.tables.map (·.name) := by
      rw [List.map_map]
      refine List.map_congr_left fun u _ => ?_
      by_cases hu : u.name = t.name <;> simp [hu]
    rw [this]
    exact s.distinct⟩

/-- The schema of a list of tables: a name keeps its first place and its last table. -/
def ofTables (tables : List Table) : Schema :=
  tables.foldl put empty

/-- Whether two schemas have the same tables, in any order. -/
def sameTables (a b : Schema) : Bool :=
  a.size == b.size && a.tables.all fun t => b.get? t.name == some t

end Schema

end SchemaSync
