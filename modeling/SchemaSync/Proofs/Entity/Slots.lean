/-
How options are taken, one after the other.

Each option has a place in the state that it is added to, and most places take
one option only. `Slots` says so of a way of adding, without the order of its
cases: an option is refused if its place is taken, and an option in another
place changes nothing about that. So two options of one place are refused
wherever they stand (`Slots.exists_error_of_rivals`), and the order of all others
does not count (`Slots.toOption_foldlM_perm`). The second part has the slots of
each kind of option.
-/
import Mathlib.Data.List.Basic
import SchemaSync.Proofs.Entity.Items

namespace SchemaSync.Entity

open Source

/-- How a state takes options one after the other. -/
structure Slots {α σ : Type} (key : α → String) (add : σ → α → Except Fault σ) (empty : σ) where
  /-- Whether the place of an option is taken, so that it is refused. -/
  holds : σ → α → Bool
  /-- The state with an option in its place. -/
  put : σ → α → σ
  add_eq (s : σ) (a : α) :
    add s a = if holds s a then .error (.repeated (key a)) else .ok (put s a)
  holds_put (s : σ) (a b : α) : holds (put s a) b = (holds s b || holds (put empty a) b)
  holds_put_comm (a b : α) : holds (put empty a) b = holds (put empty b) a
  put_comm (s : σ) {a b : α} (hkey : key a ≠ key b) (hfree : holds (put empty a) b = false) :
    put (put s a) b = put (put s b) a

namespace Slots

variable {α σ : Type} {key : α → String} {add : σ → α → Except Fault σ} {empty : σ}

/-- Whether two options have one place, which takes only one of them. -/
def rivals (S : Slots key add empty) (a b : α) : Bool :=
  S.holds (S.put empty a) b

/-- Whether no two options of one key are taken. -/
def Strict (S : Slots key add empty) : Prop :=
  ∀ a b, key a = key b → S.rivals a b = true

variable (S : Slots key add empty) {a b : α} {as as' : List α} {s s' : σ}

theorem rivals_comm (a b : α) : S.rivals a b = S.rivals b a :=
  S.holds_put_comm a b

theorem holds_of_add (h : add s a = .ok s') : S.holds s' b = (S.holds s b || S.rivals a b) := by
  rw [S.add_eq] at h
  split at h
  · cases h
  · cases h
    exact S.holds_put s a b

/-! ## Options that are refused -/

/-- An option whose place is taken is refused, however many others come in front of it. -/
theorem exists_error_of_holds (hholds : S.holds s b = true) (hb : b ∈ as) :
    ∃ fault, as.foldlM add s = .error fault := by
  induction as generalizing s with
  | nil => cases hb
  | cons a as ih =>
    rw [List.foldlM_cons]
    cases hadd : add s a with
    | error fault => exact ⟨fault, rfl⟩
    | ok s' =>
      rcases List.mem_cons.1 hb with rfl | hb
      · rw [S.add_eq, if_pos hholds] at hadd
        cases hadd
      · refine ih ?_ hb
        rw [S.holds_of_add hadd, hholds, Bool.true_or]

theorem exists_error_of_rivals (hrivals : S.rivals a b = true) (h : [a, b].Sublist as) :
    ∃ fault, as.foldlM add s = .error fault := by
  induction as generalizing s with
  | nil => cases h
  | cons c as ih =>
    rw [List.foldlM_cons]
    cases hadd : add s c with
    | error fault => exact ⟨fault, rfl⟩
    | ok s' =>
      cases h with
      | cons _ h => exact ih h
      | cons_cons _ h =>
        refine S.exists_error_of_holds (b := b) ?_ (List.singleton_sublist.1 h)
        rw [S.holds_of_add hadd, hrivals, Bool.or_true]

/-! ## The order of options -/

theorem toOption_add_add (s : σ) (h : key a ≠ key b ∨ S.rivals a b = true) :
    (add s a >>= fun s => add s b).toOption = (add s b >>= fun s => add s a).toOption := by
  have hadd : ∀ c d, (add s c >>= fun s => add s d).toOption =
      if S.holds s c || S.holds s d || S.rivals c d then none else some (S.put (S.put s c) d) := by
    intro c d
    rw [S.add_eq s c]
    cases hc : S.holds s c with
    | true => rfl
    | false =>
      show (add (S.put s c) d).toOption = _
      rw [S.add_eq, S.holds_put, Bool.false_or]
      exact apply_ite _ _ _ _
  rw [hadd, hadd, Bool.or_comm (S.holds s a), S.rivals_comm b a]
  cases hrivals : S.rivals a b with
  | true => simp
  | false =>
    have hkey : key a ≠ key b := h.resolve_right (by simp [hrivals])
    rw [S.put_comm s hkey hrivals]

/-- The order of options does not count, but for two of one key whose place takes both. -/
theorem toOption_foldlM_perm (hp : as.Perm as')
    (h : as.Pairwise fun a b => key a ≠ key b ∨ S.rivals a b = true) :
    (as.foldlM add s).toOption = (as'.foldlM add s).toOption := by
  induction hp generalizing s with
  | nil => rfl
  | cons a _ ih =>
    simp only [List.foldlM_cons, toOption_bind]
    exact Option.bind_congr fun s' _ => ih h.of_cons
  | swap a b as =>
    have hba := (List.pairwise_cons.1 h).1 a List.mem_cons_self
    simp only [List.foldlM_cons, ← bind_assoc]
    rw [toOption_bind (add s b >>= fun s => add s a), S.toOption_add_add s hba, ← toOption_bind]
  | trans h₁ _ ih₁ ih₂ =>
    have hsymm : ∀ {a b}, (key a ≠ key b ∨ S.rivals a b = true) →
        key b ≠ key a ∨ S.rivals b a = true := by
      intro a b hab
      rw [S.rivals_comm b a]
      exact hab.imp_left Ne.symm
    exact (ih₁ h).trans (ih₂ (h.perm h₁ hsymm))

end Slots

/-! ## The slots of each kind of option -/

theorem once_bind {α β : Type} (key : String) (slot : Option α) (v : α)
    (f : Option α → Except Fault β) :
    once key slot v >>= f = if slot.isSome then .error (.repeated key) else f (some v) := by
  rw [once]
  split <;> rfl

def ColumnSpec.slots : Slots ColumnOption.key ColumnSpec.add {} where
  holds s
    | .name _ => s.name.isSome
    | .type _ => s.type.isSome
    | .length _ => s.length.isSome
    | .nullable _ => s.nullable.isSome
    | .default _ | .defaultExpression _ => s.default.isSome
    | .precision _ => s.precision.isSome
    | .scale _ => s.scale.isSome
    | .autoIncrement _ => s.autoIncrement.isSome
    | .unique _ | .enumOptions _ | .primaryKey _ => false
  put s
    | .name v => { s with name := some v }
    | .type v => { s with type := some v }
    | .length v => { s with length := some v }
    | .nullable v => { s with nullable := some v }
    | .unique v => { s with unique := v }
    | .default v => { s with default := some v }
    | .defaultExpression v => { s with default := some (.expression v) }
    | .enumOptions v => { s with enumOptions := v }
    | .precision v => { s with precision := some v }
    | .scale v => { s with scale := some v }
    | .primaryKey v => { s with primaryKey := v }
    | .autoIncrement v => { s with autoIncrement := some v }
  add_eq s o := by
    cases o with
    | unique | enumOptions | primaryKey => rfl
    | _ => exact once_bind _ _ _ _
  holds_put s a b := by cases a <;> cases b <;> simp
  holds_put_comm a b := by cases a <;> cases b <;> rfl
  put_comm s a b hkey hfree := by
    cases a <;> cases b <;> first | rfl | exact absurd rfl hkey | cases hfree

def RelationSpec.slots : Slots RelationOption.key RelationSpec.add {} where
  holds s
    | .target _ => s.target.isSome
    | .inversedBy _ => s.inversedBy.isSome
    | .mappedBy _ => s.mappedBy.isSome
  put s
    | .target v => { s with target := some v }
    | .inversedBy v => { s with inversedBy := some v }
    | .mappedBy v => { s with mappedBy := some v }
  add_eq s o := by cases o <;> exact once_bind _ _ _ _
  holds_put s a b := by cases a <;> cases b <;> simp
  holds_put_comm a b := by cases a <;> cases b <;> rfl
  put_comm s a b hkey hfree := by
    cases a <;> cases b <;> first | rfl | cases hfree

def JoinColumnSpec.slots : Slots JoinColumnOption.key JoinColumnSpec.add {} where
  holds s
    | .name _ => s.name.isSome
    | .referencedColumn _ => s.referencedColumn.isSome
    | .nullable _ => s.nullable.isSome
    | .onDelete _ => s.onDelete.isSome
  put s
    | .name v => { s with name := some v }
    | .referencedColumn v => { s with referencedColumn := some v }
    | .nullable v => { s with nullable := some v }
    | .onDelete v => { s with onDelete := some v }
  add_eq s o := by cases o <;> exact once_bind _ _ _ _
  holds_put s a b := by cases a <;> cases b <;> simp
  holds_put_comm a b := by cases a <;> cases b <;> rfl
  put_comm s a b hkey hfree := by
    cases a <;> cases b <;> first | rfl | cases hfree

def JoinTableSpec.slots : Slots JoinTableOption.key JoinTableSpec.add {} where
  holds s
    | .name _ => s.name.isSome
    | .joinColumn _ => s.joinColumn.isSome
    | .inverseJoinColumn _ => s.inverseJoinColumn.isSome
  put s
    | .name v => { s with name := some v }
    | .joinColumn v => { s with joinColumn := some v }
    | .inverseJoinColumn v => { s with inverseJoinColumn := some v }
  add_eq s o := by cases o <;> exact once_bind _ _ _ _
  holds_put s a b := by cases a <;> cases b <;> simp
  holds_put_comm a b := by cases a <;> cases b <;> rfl
  put_comm s a b hkey hfree := by
    cases a <;> cases b <;> first | rfl | cases hfree

def FieldSpec.slots : Slots FieldClause.key FieldSpec.add {} where
  holds s
    | .column _ => s.column.isSome
    | .relation _ => s.relation.isSome
    | .joinColumn _ => s.joinColumn.isSome
    | .joinTable _ => s.joinTable.isSome
  put s
    | .column v => { s with column := some v }
    | .relation v => { s with relation := some v }
    | .joinColumn v => { s with joinColumn := some v }
    | .joinTable v => { s with joinTable := some v }
  add_eq s c := by cases c <;> exact once_bind _ _ _ _
  holds_put s a b := by cases a <;> cases b <;> simp
  holds_put_comm a b := by cases a <;> cases b <;> rfl
  put_comm s a b hkey hfree := by
    cases a <;> cases b <;> first | rfl | cases hfree

theorem RelationSpec.slots_strict : slots.Strict := by
  intro a b h
  cases a <;> cases b <;> first | rfl | simp [RelationOption.key] at h

theorem JoinColumnSpec.slots_strict : slots.Strict := by
  intro a b h
  cases a <;> cases b <;> first | rfl | simp [JoinColumnOption.key] at h

theorem JoinTableSpec.slots_strict : slots.Strict := by
  intro a b h
  cases a <;> cases b <;> first | rfl | simp [JoinTableOption.key] at h

theorem FieldSpec.slots_strict : slots.Strict := by
  have hrelation : ∀ r : Relation, r.kind.key ≠ "column" ∧ r.kind.key ≠ "join_column" ∧
      r.kind.key ≠ "join_table" := by
    intro r
    cases r <;> simp [Relation.kind, RelationKind.key]
  intro a b h
  cases a <;> cases b <;> first | rfl | grind [FieldClause.key]

end SchemaSync.Entity
