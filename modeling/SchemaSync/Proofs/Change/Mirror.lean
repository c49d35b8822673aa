/-
The difference of two schemas, seen from either side.

`diff` does not treat its sides alike: what is on both is walked in the order
of the desired side and looked up in the current one. That the two differences
still mirror each other (`diff_mirrors`) rests on the pairs of one name: with
distinct names both walks meet the same pairs, each the other way round
(`matched_swap`).
-/
import Mathlib.Data.Multiset.MapFold
import Mathlib.Data.Prod.Basic
import SchemaSync.Proofs.Change.Convergence

namespace SchemaSync

/-- What the difference to one side lists for a change in the difference to the other. -/
inductive Change.Mirrors : Change → Change → Prop where
  | addTable (t : Table) : Mirrors (addTable t) (dropTable t.name)
  | dropTable (t : Table) : Mirrors (dropTable t.name) (addTable t)
  | addColumn (c : Column) : Mirrors (addColumn c) (dropColumn c.name)
  | dropColumn (c : Column) : Mirrors (dropColumn c.name) (addColumn c)
  | modifyColumn (old new : Column) : Mirrors (modifyColumn old new) (modifyColumn new old)
  | addForeignKey (fk : ForeignKey) : Mirrors (addForeignKey fk) (dropForeignKey fk)
  | dropForeignKey (fk : ForeignKey) : Mirrors (dropForeignKey fk) (addForeignKey fk)

/-- Changes of the same table that mirror each other one to one, whatever their order. -/
structure TableDiff.Mirrors (d e : TableDiff) : Prop where
  table : d.table = e.table
  changes : Multiset.Rel Change.Mirrors d.changes e.changes

/-! ## Lists in parallel -/

section

variable {α β γ : Type} {R : β → γ → Prop}

theorem rel_filterMap {l : List α} {f : α → Option β} {g : α → Option γ}
    (h : ∀ a ∈ l, Option.Rel R (f a) (g a)) :
    Multiset.Rel R (l.filterMap f : Multiset β) (l.filterMap g : Multiset γ) := by
  induction l with
  | nil => exact .zero
  | cons a l ih =>
    have hrest := ih fun b hb => h b (List.mem_cons_of_mem _ hb)
    have ha := h a List.mem_cons_self
    rw [List.filterMap_cons, List.filterMap_cons]
    generalize f a = x at ha
    generalize g a = y at ha
    cases ha with
    | some hr => exact .cons hr hrest
    | none => exact hrest

theorem rel_map {l : List α} {f : α → β} {g : α → γ} (h : ∀ a ∈ l, R (f a) (g a)) :
    Multiset.Rel R (l.map f : Multiset β) (l.map g : Multiset γ) := by
  rw [← List.filterMap_eq_map, ← List.filterMap_eq_map]
  exact rel_filterMap fun a ha => .some (h a ha)

theorem rel_append {xs xs' : List β} {ys ys' : List γ}
    (h : Multiset.Rel R (xs : Multiset β) (ys : Multiset γ))
    (h' : Multiset.Rel R (xs' : Multiset β) (ys' : Multiset γ)) :
    Multiset.Rel R (xs ++ xs' : List β) (ys ++ ys' : List γ) := by
  rw [← Multiset.coe_add, ← Multiset.coe_add]
  exact h.add h'

/-- Passes in another order are as good. -/
theorem rel_append_comm {xs xs' : List β} {ys ys' : List γ}
    (h : Multiset.Rel R (xs : Multiset β) (ys : Multiset γ))
    (h' : Multiset.Rel R (xs' : Multiset β) (ys' : Multiset γ)) :
    Multiset.Rel R (xs ++ xs' : List β) (ys' ++ ys : List γ) := by
  have hswap : (ys' ++ ys).Perm (ys ++ ys') := List.perm_append_comm
  rw [Multiset.coe_eq_coe.2 hswap]
  exact rel_append h h'

end

/-! ## Pairs of one name -/

section

variable {α β : Type} {name : α → String} {xs ys : List α} {inXs inYs : String → Option α}

/-- The elements of a list with what a look-up finds under their names. -/
def matched (name : α → String) (look : String → Option α) (xs : List α) : List (α × α) :=
  xs.filterMap fun x => (look (name x)).map (x, ·)

theorem mem_matched (hys : ∀ {n y}, inYs n = some y ↔ y ∈ ys ∧ name y = n) {x y : α} :
    (x, y) ∈ matched name inYs xs ↔ x ∈ xs ∧ y ∈ ys ∧ name y = name x := by
  simp only [matched, List.mem_filterMap, Option.map_eq_some_iff, Prod.mk.injEq]
  constructor
  · rintro ⟨x', hx, y', hy, rfl, rfl⟩
    exact ⟨hx, hys.1 hy⟩
  · rintro ⟨hx, hy⟩
    exact ⟨x, hx, y, hys.2 hy, rfl, rfl⟩

theorem nodup_matched {look : String → Option α} (hx : (xs.map name).Nodup) :
    (matched name look xs).Nodup := by
  refine (List.Nodup.of_map name hx).filterMap fun x x' p hp hp' => ?_
  obtain ⟨y, -, rfl⟩ := Option.map_eq_some_iff.1 hp
  obtain ⟨y', -, he⟩ := Option.map_eq_some_iff.1 hp'
  exact (Prod.mk.inj he).1.symm

/-- **Both walks meet the same pairs**, each the other way round. -/
theorem matched_swap (hx : (xs.map name).Nodup) (hy : (ys.map name).Nodup)
    (hxs : ∀ {n x}, inXs n = some x ↔ x ∈ xs ∧ name x = n)
    (hys : ∀ {n y}, inYs n = some y ↔ y ∈ ys ∧ name y = n) :
    ((matched name inXs ys).map Prod.swap).Perm (matched name inYs xs) := by
  refine (List.perm_ext_iff_of_nodup ((nodup_matched hy).map Prod.swap_injective)
    (nodup_matched hx)).2 ?_
  rintro ⟨x, y⟩
  have hswap : (x, y) ∈ (matched name inXs ys).map Prod.swap ↔ (y, x) ∈ matched name inXs ys := by
    simp
  rw [hswap, mem_matched hxs, mem_matched hys, eq_comm (a := name x)]
  exact and_left_comm

/-- What is made of the pairs from one side goes with what is made of them from the other. -/
theorem rel_matched {R : β → β → Prop} {make : α → α → Option β} (hx : (xs.map name).Nodup)
    (hy : (ys.map name).Nodup) (hxs : ∀ {n x}, inXs n = some x ↔ x ∈ xs ∧ name x = n)
    (hys : ∀ {n y}, inYs n = some y ↔ y ∈ ys ∧ name y = n)
    (h : ∀ x ∈ xs, ∀ y ∈ ys, name y = name x → Option.Rel R (make x y) (make y x)) :
    Multiset.Rel R ((matched name inYs xs).filterMap fun p => make p.1 p.2 : List β)
      ((matched name inXs ys).filterMap fun p => make p.1 p.2 : List β) := by
  have hperm := (matched_swap hx hy hxs hys).filterMap fun p => make p.2 p.1
  rw [List.filterMap_map] at hperm
  have hturned : ((matched name inXs ys).filterMap fun p => make p.1 p.2 : Multiset β) =
      ((matched name inYs xs).filterMap fun p => make p.2 p.1 : List β) :=
    Multiset.coe_eq_coe.2 hperm
  rw [hturned]
  refine rel_filterMap ?_
  rintro ⟨x, y⟩ hp
  obtain ⟨hxmem, hymem, hname⟩ := (mem_matched hys).1 hp
  exact h x hxmem y hymem hname

end

/-! ## Columns and foreign keys -/

/-- The change of a column that is on both sides, if it differs. -/
def modification? (new old : Column) : Option Change :=
  if new.effective = old.effective then none else some (.modifyColumn old new)

theorem diffColumns_matched (desired current : List Column) :
    diffColumns desired current =
      ((desired.filter fun c => (columnNamed? current c.name).isNone).map .addColumn ++
        (current.filter fun c => (columnNamed? desired c.name).isNone).map
          (fun c => .dropColumn c.name)) ++
      (matched Column.name (columnNamed? current) desired).filterMap
        fun p => modification? p.1 p.2 := by
  rw [diffColumns, matched, List.filterMap_filterMap]
  congr 1
  refine List.filterMap_congr fun new _ => ?_
  cases columnNamed? current new.name <;> rfl

theorem mirrors_modification (c e : Column) :
    Option.Rel Change.Mirrors (modification? c e) (modification? e c) := by
  unfold modification?
  by_cases h : c.effective = e.effective
  · rw [if_pos h, if_pos h.symm]
    exact .none
  · rw [if_neg h, if_neg (Ne.symm h)]
    exact .some (.modifyColumn e c)

theorem diffColumns_mirrors {xs ys : List Column} (hx : (xs.map (·.name)).Nodup)
    (hy : (ys.map (·.name)).Nodup) :
    Multiset.Rel Change.Mirrors (diffColumns xs ys) (diffColumns ys xs) := by
  rw [diffColumns_matched, diffColumns_matched]
  refine rel_append (rel_append_comm ?added ?dropped) ?modified
  case added => exact rel_map fun c _ => .addColumn c
  case dropped => exact rel_map fun c _ => .dropColumn c
  case modified =>
    exact rel_matched hx hy (columnNamed?_eq_some_iff hx) (columnNamed?_eq_some_iff hy)
      fun c _ e _ _ => mirrors_modification c e

theorem diffForeignKeys_mirrors (ks ls : List ForeignKey) :
    Multiset.Rel Change.Mirrors (diffForeignKeys ks ls) (diffForeignKeys ls ks) :=
  rel_append_comm (rel_map fun fk _ => .addForeignKey fk) (rel_map fun fk _ => .dropForeignKey fk)

theorem diffTable_mirrors {t u : Table} (ht : t.DistinctColumns) (hu : u.DistinctColumns) :
    Multiset.Rel Change.Mirrors (diffTable t u) (diffTable u t) :=
  rel_append (diffColumns_mirrors ht hu) (diffForeignKeys_mirrors _ _)

/-! ## Tables -/

/-- The changes of a table that is on both sides, if there are any. -/
def alteration? (t u : Table) : Option TableDiff :=
  match diffTable t u with
  | [] => none
  | changes => some ⟨t.name, changes⟩

theorem diff_matched (desired current : Schema) :
    diff desired current =
      ((desired.tables.filter fun t => !current.contains t.name).map
          (fun t => ⟨t.name, [.addTable t]⟩) ++
        (current.tables.filter fun t => !desired.contains t.name).map
          (fun t => ⟨t.name, [.dropTable t.name]⟩)) ++
      (matched Table.name current.get? desired.tables).filterMap fun p => alteration? p.1 p.2 := by
  rw [diff, matched, List.filterMap_filterMap]
  congr 1
  refine List.filterMap_congr fun t _ => ?_
  cases current.get? t.name <;> rfl

theorem mirrors_alteration {t u : Table} (ht : t.DistinctColumns) (hu : u.DistinctColumns)
    (hname : u.name = t.name) :
    Option.Rel TableDiff.Mirrors (alteration? t u) (alteration? u t) := by
  have h := diffTable_mirrors ht hu
  unfold alteration?
  cases hleft : diffTable t u with
  | nil =>
    rw [hleft, Multiset.coe_nil, Multiset.rel_zero_left, Multiset.coe_eq_zero] at h
    rw [h]
    exact .none
  | cons c cs =>
    cases hright : diffTable u t with
    | nil =>
      rw [hright, Multiset.coe_nil, Multiset.rel_zero_right, Multiset.coe_eq_zero, hleft] at h
      cases h
    | cons e es => exact .some ⟨hname.symm, hleft ▸ hright ▸ h⟩

/-- What depends on the table and the number of changes only is the same for both sides. -/
theorem map_perm_of_mirrors {κ : Type} {ds es : List TableDiff} {f : TableDiff → κ}
    (h : Multiset.Rel TableDiff.Mirrors (ds : Multiset TableDiff) (es : Multiset TableDiff))
    (hf : ∀ d e, d.table = e.table → d.changes.length = e.changes.length → f d = f e) :
    (ds.map f).Perm (es.map f) := by
  rw [← Multiset.coe_eq_coe, ← Multiset.map_coe, ← Multiset.map_coe, ← Multiset.rel_eq,
    Multiset.rel_map]
  refine h.mono fun d _ e _ hde => hf d e hde.table ?_
  simpa using Multiset.card_eq_card_of_rel hde.changes

/-- **The difference one way is the mirror of the difference the other way**: the same tables are
changed, and the changes of each go one to one, additions with drops and every modification with
its reverse. So the two are equal in number. -/
theorem diff_mirrors (a b : Schema) (ha : a.DistinctColumns) (hb : b.DistinctColumns) :
    Multiset.Rel TableDiff.Mirrors (diff a b) (diff b a) ∧
      ((diff a b).map (·.table)).Perm ((diff b a).map (·.table)) ∧
      changeCount (diff a b) = changeCount (diff b a) := by
  have hrel : Multiset.Rel TableDiff.Mirrors (diff a b) (diff b a) := by
    rw [diff_matched, diff_matched]
    refine rel_append (rel_append_comm ?added ?dropped) ?altered
    case added => exact rel_map fun t _ => ⟨rfl, .cons (.addTable t) .zero⟩
    case dropped => exact rel_map fun t _ => ⟨rfl, .cons (.dropTable t) .zero⟩
    case altered =>
      exact rel_matched a.distinct b.distinct Schema.get?_eq_some_iff Schema.get?_eq_some_iff
        fun t ht u hu => mirrors_alteration (ha t ht) (hb u hu)
  refine ⟨hrel, map_perm_of_mirrors hrel fun _ _ htable _ => htable, ?_⟩
  rw [changeCount, changeCount, List.length_flatMap, List.length_flatMap]
  exact (map_perm_of_mirrors hrel fun _ _ _ hlength => hlength).sum_nat

theorem diff_mirrors_blog :
    blogSchema.DistinctColumns ∧ olderBlogSchema.DistinctColumns ∧
      changeCount (diff blogSchema olderBlogSchema) = 7 ∧
      Multiset.Rel TableDiff.Mirrors (diff blogSchema olderBlogSchema)
        (diff olderBlogSchema blogSchema) ∧
      ((diff blogSchema olderBlogSchema).map (·.table)).Perm
        ((diff olderBlogSchema blogSchema).map (·.table)) ∧
      changeCount (diff blogSchema olderBlogSchema) =
        changeCount (diff olderBlogSchema blogSchema) :=
  ⟨by decide, by decide, by decide, diff_mirrors _ _ (by decide) (by decide)⟩

end SchemaSync
