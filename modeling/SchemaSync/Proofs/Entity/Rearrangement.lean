/-
The order in which a field is described.

Items may change places with one another, within an attribute or from one to
another, and options may within an item: `Rearranged` is a permutation of items that
reaches into their lists of options. What a field's attributes say does not
depend on it (`ofAttributes_rearranged`): each item is read on its own, and the
places that items and options go to are taken once, whichever comes first. Only
a list that repeats an option has an order that counts, for the options whose
place takes both.
-/
import Mathlib.Data.Option.Basic
import SchemaSync.Proofs.Entity.Readers
import SchemaSync.Proofs.Entity.Slots

namespace SchemaSync.Entity

open Source

/-- Items in another order, and with their options in another order where none is repeated. -/
inductive Rearranged : List (List Token) → List (List Token) → Prop
  | perm {items items' : List (List Token)} (h : items.Perm items') : Rearranged items items'
  | options {a b : List Token} {path : Path} {inside inside' : List Token}
    (items : List (List Token)) (ha : HasOptions a path inside [])
    (hb : HasOptions b path inside' [])
    (hdistinct : (keysOf (listItems inside)).Nodup)
    (h : Rearranged (listItems inside) (listItems inside')) :
    Rearranged (a :: items) (b :: items)
  | trans {items items' items'' : List (List Token)} (h : Rearranged items items')
    (h' : Rearranged items' items'') : Rearranged items items''

section

variable {α σ : Type} {read : Clause → Except Fault (Found α)} {key : α → String}
  {add : σ → α → Except Fault σ} {empty : σ} {items items' : List (List Token)}
  {inside inside' : List Token}

theorem sayings_trans {x y z : Option (List α)} (h : Option.Rel List.Perm x y)
    (h' : Option.Rel List.Perm y z) : Option.Rel List.Perm x z := by
  cases h with
  | none => exact h'
  | some hperm =>
    cases h' with
    | some hperm' => exact .some (hperm.trans hperm')

theorem mapM_said_perm (h : items.Perm items') :
    Option.Rel List.Perm (items.mapM (said read)) (items'.mapM (said read)) := by
  induction h with
  | nil => exact .some .nil
  | @cons item items items' _ ih =>
    simp only [List.mapM_cons]
    cases said read item with
    | none => exact .none
    | some a =>
      generalize items.mapM (said read) = sayings at ih
      generalize items'.mapM (said read) = sayings' at ih
      cases ih with
      | none => exact .none
      | some hperm => exact .some (hperm.cons a)
  | swap a b items =>
    simp only [List.mapM_cons]
    cases said read a <;> cases said read b <;> cases items.mapM (said read)
    case some.some.some a b as => exact .some (.swap a b as)
    all_goals exact .none
  | @trans items items' items'' _ _ ih ih' => exact sayings_trans ih ih'

/-- Rearranged items say the same in another order, if the options of an item say the same. -/
theorem Rearranged.sayings
    (hread : ∀ {a b : List Token} {path : Path} {inside inside' : List Token},
      HasOptions a path inside [] → HasOptions b path inside' [] →
        (keysOf (listItems inside)).Nodup → Rearranged (listItems inside) (listItems inside') →
          said read a = said read b)
    (h : Rearranged items items') :
    Option.Rel List.Perm (items.mapM (said read)) (items'.mapM (said read)) := by
  induction h with
  | perm h => exact mapM_said_perm h
  | options items ha hb hdistinct h =>
    rw [List.mapM_cons, List.mapM_cons, hread ha hb hdistinct h]
    cases said read _ <;> cases items.mapM (said read)
    case some.some => exact .some (.refl _)
    all_goals exact .none
  | trans _ _ ih ih' => exact sayings_trans ih ih'

/-- What is put together is the same then, unless an option is repeated whose place takes both. -/
theorem gathered_congr (S : Slots key add empty) (hkeyed : Keyed key read)
    (hsayings : Option.Rel List.Perm (items.mapM (said read)) (items'.mapM (said read)))
    (hdistinct : S.Strict ∨ (keysOf items).Nodup) (s : σ) :
    gathered read add s items = gathered read add s items' := by
  -- Two options of one key are refused in either order, or there are no two of one key.
  have hpairs : ∀ as, items.mapM (said read) = some as →
      as.Pairwise fun a b => key a ≠ key b ∨ S.rivals a b = true := by
    intro as has
    rcases hdistinct with hstrict | hnodup
    · refine List.pairwise_of_forall fun a b => ?_
      exact or_iff_not_imp_left.2 fun hkey => hstrict a b (not_not.1 hkey)
    · rw [← map_key_of_mapM hkeyed has] at hnodup
      exact (List.pairwise_map.1 hnodup).imp .inl
  unfold gathered
  generalize items.mapM (said read) = sayings at hsayings hpairs
  generalize items'.mapM (said read) = sayings' at hsayings
  cases hsayings with
  | none => rfl
  | some hperm => exact S.toOption_foldlM_perm hperm (hpairs _ rfl)

end

/-! ## The lists of options -/

section

variable {inside inside' : List Token}

theorem joinColumnOf_congr (h : Rearranged (listItems inside) (listItems inside')) :
    joinColumnOf inside = joinColumnOf inside' := by
  refine gathered_congr JoinColumnSpec.slots keyed_joinColumnOption (h.sayings ?_)
    (.inl JoinColumnSpec.slots_strict) _
  intro a b path inside inside' ha hb _ _
  rw [said_joinColumnOption ha, said_joinColumnOption hb]

theorem relationOf_congr (kind : RelationKind)
    (h : Rearranged (listItems inside) (listItems inside')) :
    relationOf kind inside = relationOf kind inside' := by
  rw [relationOf, relationOf]
  congr 1
  refine gathered_congr RelationSpec.slots (keyed_relationOption kind) (h.sayings ?_)
    (.inl RelationSpec.slots_strict) _
  intro a b path inside inside' ha hb _ _
  rw [said_relationOption ha, said_relationOption hb]

theorem columnOf_congr (hdistinct : (keysOf (listItems inside)).Nodup)
    (h : Rearranged (listItems inside) (listItems inside')) :
    columnOf inside = columnOf inside' := by
  refine gathered_congr ColumnSpec.slots keyed_columnOption (h.sayings ?_) (.inr hdistinct) _
  intro a b path inside inside' ha hb _ _
  rw [said_columnOption ha, said_columnOption hb]

theorem joinTableOf_congr (h : Rearranged (listItems inside) (listItems inside')) :
    joinTableOf inside = joinTableOf inside' := by
  refine gathered_congr JoinTableSpec.slots keyed_joinTableOption (h.sayings ?_)
    (.inl JoinTableSpec.slots_strict) _
  intro a b path inside inside' ha hb _ hinside
  exact said_joinTableOption_congr ha hb (joinColumnOf_congr hinside)

end

/-! ## Fields -/

/-- **The order of the items and options of a field does not count, nor which attributes they are
on.** Attributes of other kinds may stand between. -/
theorem ofAttributes_rearranged {attributes attributes' : List Attribute}
    (hlists : HaveLists attributes) (hlists' : HaveLists attributes')
    (h : Rearranged (itemsOf attributes) (itemsOf attributes')) :
    (FieldSpec.ofAttributes attributes).toOption =
      (FieldSpec.ofAttributes attributes').toOption := by
  rw [FieldSpec.ofAttributes, FieldSpec.ofAttributes,
    toOption_foldAttributes steady_fieldClause _ hlists,
    toOption_foldAttributes steady_fieldClause _ hlists']
  refine gathered_congr FieldSpec.slots keyed_fieldClause (h.sayings ?_)
    (.inl FieldSpec.slots_strict) _
  intro a b path inside inside' ha hb hdistinct hinside
  exact said_fieldClause_congr ha hb (columnOf_congr hdistinct hinside)
    (fun kind => relationOf_congr kind hinside) (joinColumnOf_congr hinside)
    (joinTableOf_congr hinside)

/-! ## The tags of a post -/

def tagsTarget : List (List Token) :=
  [setting "target" "Tag", setting "inversed_by" "posts"]

def tagsColumn : List (List Token) :=
  [setting "name" "post_id", setting "on_delete" "cascade"]

def tagsTable : List (List Token) :=
  [setting "name" "post_tags", withOptions "join_column" tagsColumn]

def tagsTable' : List (List Token) :=
  [withOptions "join_column" tagsColumn.reverse, setting "name" "post_tags"]

/-- One attribute with a relationship and its join table. -/
def tagsAttributes : List Attribute :=
  [attributeOf [withOptions "many_to_many" tagsTarget, withOptions "join_table" tagsTable]]

/-- The same on two attributes, with an empty one and one of another kind between, and with every
list in reverse order. The last list ends with a comma. -/
def tagsAttributes' : List Attribute :=
  [attributeOf [withOptions "join_table" tagsTable'],
    ⟨⟨false, ["serde"]⟩, .list [.ident "skip"]⟩,
    attributeOf [],
    attributeOf [withOptions "many_to_many" tagsTarget.reverse, []]]

theorem tagsAttributes_rearranged :
    Rearranged (itemsOf tagsAttributes) (itemsOf tagsAttributes') := by
  have htarget : Rearranged tagsTarget tagsTarget.reverse := .perm tagsTarget.reverse_perm.symm
  have hcolumn : Rearranged tagsColumn tagsColumn.reverse := .perm tagsColumn.reverse_perm.symm
  have htable : Rearranged tagsTable tagsTable' :=
    .trans (.perm (.swap (withOptions "join_column" tagsColumn) _ []))
      (.options _ (hasOptions_withOptions _ _) (hasOptions_withOptions _ _) (by decide) hcolumn)
  have hitems : Rearranged
      [withOptions "many_to_many" tagsTarget, withOptions "join_table" tagsTable]
      [withOptions "many_to_many" tagsTarget.reverse, withOptions "join_table" tagsTable] :=
    .options _ (hasOptions_withOptions _ _) (hasOptions_withOptions _ _) (by decide) htarget
  have hitems' : Rearranged
      [withOptions "join_table" tagsTable, withOptions "many_to_many" tagsTarget.reverse]
      [withOptions "join_table" tagsTable', withOptions "many_to_many" tagsTarget.reverse] :=
    .options _ (hasOptions_withOptions _ _) (hasOptions_withOptions _ _) (by decide) htable
  exact .trans hitems (.trans (.perm (.swap _ _ _)) hitems')

theorem ofAttributes_tags :
    HaveLists tagsAttributes ∧ HaveLists tagsAttributes' ∧
      Rearranged (itemsOf tagsAttributes) (itemsOf tagsAttributes') ∧
      (FieldSpec.ofAttributes tagsAttributes).toOption =
        (FieldSpec.ofAttributes tagsAttributes').toOption ∧
      (FieldSpec.ofAttributes tagsAttributes').toOption =
        some {
          relation := some (.manyToMany "Tag" (some "posts") none)
          joinTable := some {
            name := some "post_tags"
            joinColumn := some { name := some "post_id", onDelete := some .cascade } } } := by
  have hlists : HaveLists tagsAttributes := by simp [HaveLists, tagsAttributes, attributeOf]
  have hlists' : HaveLists tagsAttributes' := by simp [HaveLists, tagsAttributes', attributeOf]
  exact ⟨hlists, hlists', tagsAttributes_rearranged,
    ofAttributes_rearranged hlists hlists' tagsAttributes_rearranged, by decide +kernel⟩

end SchemaSync.Entity
