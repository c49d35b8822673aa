/-
The items of attributes, and what they say.

The clauses of a list are read and added up one after the other. Which fault
comes first depends on that, but nothing else does: an item says the same
wherever it stands (`said`), and a list says what its items say, put together
(`toOption_foldClauses`). The attributes of a struct or a field are read as one
list with the items of all of them (`toOption_foldAttributes`).
-/
import SchemaSync.Entity.FieldSpec
import SchemaSync.Entity.TableName
import SchemaSync.Proofs.Except

namespace SchemaSync.Entity

open Source

/-! ## Items -/

/-- The items of a list. -/
def listItems (tokens : List Token) : List (List Token) :=
  (parts tokens).map (·.1)

/-- The items of an attribute's list, which may be empty. -/
def attributeItems (a : Attribute) : List (List Token) :=
  match a.input with
  | .list tokens => if tokens.isEmpty then [] else listItems tokens
  | _ => []

/-- The items of those attributes that describe entities. -/
def itemsOf (attributes : List Attribute) : List (List Token) :=
  (attributes.filter isMarker).flatMap attributeItems

/-- Whether each of the attributes that describe entities has a list. -/
def HaveLists (attributes : List Attribute) : Prop :=
  ∀ a ∈ attributes, isMarker a = true → ∃ tokens, a.input = .list tokens

/-- The text of the path that an item begins with, if it begins with one. -/
def itemKey? (item : List Token) : Option String :=
  (Clause.ofPart item true).toOption.map fun c => c.path.text

/-- The keys of items. -/
def keysOf (items : List (List Token)) : List String :=
  items.filterMap itemKey?

/-- Whether an item is a path and a list of options in parentheses, with what is behind them. -/
def HasOptions (item : List Token) (path : Path) (inside behind : List Token) : Prop :=
  Clause.ofPart item true = .ok ⟨path, .group .paren inside :: behind, true⟩

/-- What a clause says of which a reader has found something and left the rest. -/
def whole {α : Type} : Found α → Option α
  | (a, []) => some a
  | _ => none

/-- What an item says, if all of it is read. -/
def said {α : Type} (read : Clause → Except Fault (Found α)) (item : List Token) : Option α :=
  (Clause.ofPart item true).toOption.bind fun c => (read c).toOption.bind whole

/-- What items say, put together, if each says something. -/
def gathered {α σ : Type} (read : Clause → Except Fault (Found α)) (add : σ → α → Except Fault σ)
    (s : σ) (items : List (List Token)) : Option σ :=
  (items.mapM (said read)).bind fun as => (as.foldlM add s).toOption

/-! ## Readers -/

/-- A reader finds the same in a clause whether or not the list ends with it, faults aside. -/
def Steady {β : Type} (read : Clause → Except Fault β) : Prop :=
  ∀ path rest last last',
    (read ⟨path, rest, last⟩).toOption = (read ⟨path, rest, last'⟩).toOption

/-- A reader finds values of the key that a clause begins with. -/
def Keyed {α : Type} (key : α → String) (read : Clause → Except Fault (Found α)) : Prop :=
  ∀ c a rest, read c = .ok (a, rest) → key a = c.path.text

section

variable {α β : Type}

theorem toOption_giving (f : α → β) (x : Except Fault (Found α)) :
    (giving f x).toOption = x.toOption.map fun (a, rest) => (f a, rest) := by
  cases x <;> rfl

theorem giving_eq_ok_iff {f : α → β} {x : Except Fault (Found α)} {b : β} {rest : List Token} :
    giving f x = .ok (b, rest) ↔ ∃ a, x = .ok (a, rest) ∧ f a = b := by
  rw [giving, map_eq_ok_iff]
  constructor
  · rintro ⟨⟨a, rest⟩, hx, h⟩
    cases h
    exact ⟨a, hx, rfl⟩
  · rintro ⟨a, hx, rfl⟩
    exact ⟨(a, rest), hx, rfl⟩

theorem Steady.giving {read : Clause → Except Fault (Found α)} (h : Steady read) (f : α → β) :
    Steady fun c => giving f (read c) := by
  intro path rest last last'
  rw [toOption_giving, toOption_giving, h path rest last last']

theorem Steady.bind {read : Clause → Except Fault α} (h : Steady read) (f : α → Except Fault β) :
    Steady fun c => read c >>= f := by
  intro path rest last last'
  rw [toOption_bind, toOption_bind, h path rest last last']

theorem steady_list : Steady Clause.list := by
  intro path rest last last'
  unfold Clause.list
  dsimp only
  split <;> rfl

theorem steady_string : Steady Clause.string := by
  intro path rest last last'
  unfold Clause.string
  rw [toOption_bind, toOption_bind]
  refine Option.bind_congr fun tokens _ => ?_
  split <;> rfl

theorem steady_number : Steady Clause.number := by
  intro path rest last last'
  unfold Clause.number
  rw [toOption_bind, toOption_bind]
  refine Option.bind_congr fun tokens _ => ?_
  split <;> rfl

theorem steady_flag : Steady Clause.flag := by
  intro path rest last last'
  unfold Clause.flag
  dsimp only
  split <;> rfl

theorem steady_defaultLiteral (sign : String) (tokens : List Token) :
    Steady fun c => c.defaultLiteral sign tokens := by
  intro path rest last last'
  unfold Clause.defaultLiteral
  dsimp only
  split <;> rfl

theorem steady_default : Steady Clause.default := by
  intro path rest last last'
  unfold Clause.default
  rw [toOption_bind, toOption_bind]
  refine Option.bind_congr fun tokens _ => ?_
  split
  · exact steady_defaultLiteral _ _ path rest last last'
  · exact steady_defaultLiteral _ _ path rest last last'

end

/-! ## What a list says -/

section

variable {α σ : Type} {read : Clause → Except Fault (Found α)} {add : σ → α → Except Fault σ}

theorem toOption_moreNames (last last' : Bool) (tokens : List Token) :
    (moreNames last tokens).toOption = (moreNames last' tokens).toOption := by
  fun_induction moreNames last tokens with
  | case1 j name rest ih => rw [moreNames, toOption_giving, toOption_giving, ih]
  | case2 j rest h =>
    rw [moreNames]
    · rfl
    · exact h
  | case3 tokens h =>
    rw [moreNames]
    · exact h

theorem toOption_ofPart (part : List Token) (last : Bool) :
    (Clause.ofPart part last).toOption =
      (Clause.ofPart part true).toOption.map fun c => { c with last } := by
  unfold Clause.ofPart
  dsimp only
  split
  · rw [toOption_bind, toOption_bind, toOption_moreNames last true, Option.map_bind]
    rfl
  · rfl
  · rfl

/-- A part adds what its item says, and where it says nothing the list has a fault. -/
theorem toOption_addPart (hread : Steady read) (s : σ) (part : List Token × Bool) :
    (addPart read add s part).toOption = (said read part.1).bind fun a => (add s a).toOption := by
  rw [addPart, toOption_bind, toOption_ofPart, said, Option.bind_map, Option.bind_assoc]
  refine Option.bind_congr fun c _ => ?_
  rw [Function.comp_apply, toOption_bind, hread c.path c.rest part.2 c.last, Option.bind_assoc]
  refine Option.bind_congr fun (a, rest) _ => ?_
  rw [toOption_bind]
  cases rest with
  | nil =>
    show _ = (add s a).toOption
    cases add s a <;> rfl
  | cons t rest => cases add s a <;> rfl

theorem said_eq_some_iff {item : List Token} {a : α} :
    said read item = some a ↔
      ∃ c, Clause.ofPart item true = .ok c ∧ read c = .ok (a, []) := by
  have hwhole : ∀ found : Found α, whole found = some a ↔ found = (a, []) := by
    rintro ⟨b, _ | ⟨t, rest⟩⟩ <;> simp [whole]
  simp only [said, Option.bind_eq_some_iff, toOption_eq_some_iff, hwhole, exists_eq_right]

theorem gathered_cons (s : σ) (item : List Token) (items : List (List Token)) :
    gathered read add s (item :: items) =
      (said read item).bind fun a =>
        (add s a).toOption.bind fun s => gathered read add s items := by
  unfold gathered
  rw [List.mapM_cons]
  cases said read item with
  | none => rfl
  | some a =>
    cases items.mapM (said read) with
    | none => cases (add s a).toOption <;> simp
    | some as =>
      show ((a :: as).foldlM add s).toOption = _
      rw [List.foldlM_cons, toOption_bind]
      rfl

theorem gathered_append (s : σ) (items items' : List (List Token)) :
    gathered read add s (items ++ items') =
      (gathered read add s items).bind fun s => gathered read add s items' := by
  induction items generalizing s with
  | nil => rfl
  | cons item items ih =>
    simp only [List.cons_append, gathered_cons, Option.bind_assoc, ih]

theorem gathered_eq_none_of_said {item : List Token} {items : List (List Token)}
    (hmem : item ∈ items) (h : said read item = none) (s : σ) :
    gathered read add s items = none := by
  induction items generalizing s with
  | nil => cases hmem
  | cons first items ih =>
    rw [gathered_cons]
    rcases List.mem_cons.1 hmem with rfl | hmem
    · rw [h]
      rfl
    · simp [ih hmem]

theorem exists_said_of_gathered {items : List (List Token)} {s s' : σ}
    (h : gathered read add s items = some s') {item : List Token} (hmem : item ∈ items) :
    ∃ a, said read item = some a := by
  cases hitem : said read item with
  | some a => exact ⟨a, rfl⟩
  | none =>
    rw [gathered_eq_none_of_said hmem hitem] at h
    cases h

/-- **A list says what its items say, put together.** -/
theorem toOption_foldClauses (hread : Steady read) (s : σ) (tokens : List Token) :
    (foldClauses read add s tokens).toOption = gathered read add s (listItems tokens) := by
  rw [foldClauses, listItems]
  induction parts tokens generalizing s with
  | nil => rfl
  | cons part rest ih =>
    rw [List.foldlM_cons, toOption_bind, toOption_addPart hread, List.map_cons, gathered_cons,
      Option.bind_assoc]
    exact Option.bind_congr fun a _ => Option.bind_congr fun s' _ => ih s'

theorem toOption_addAttribute (hread : Steady read) (s : σ) {a : Attribute} {tokens : List Token}
    (ha : a.input = .list tokens) :
    (addAttribute read add s a).toOption = gathered read add s (attributeItems a) := by
  have htokens : listTokens a = .ok tokens := by rw [listTokens, ha]
  rw [addAttribute, htokens, attributeItems, ha]
  show (if tokens.isEmpty then _ else _ : Except Fault σ).toOption = _
  dsimp only
  split
  · rfl
  · exact toOption_foldClauses hread s tokens

/-- Attributes say what the items of all of them say. -/
theorem toOption_foldAttributes (hread : Steady read) (s : σ) {attributes : List Attribute}
    (hlists : HaveLists attributes) :
    (foldAttributes read add s attributes).toOption =
      gathered read add s (itemsOf attributes) := by
  have hall : ∀ a ∈ attributes.filter isMarker, ∃ tokens, a.input = .list tokens := by
    intro a ha
    obtain ⟨hmem, hmarker⟩ := List.mem_filter.1 ha
    exact hlists a hmem hmarker
  rw [foldAttributes, itemsOf]
  generalize attributes.filter isMarker = markers at hall
  induction markers generalizing s with
  | nil => rfl
  | cons a markers ih =>
    obtain ⟨tokens, ha⟩ := hall a List.mem_cons_self
    rw [List.foldlM_cons, toOption_bind, toOption_addAttribute hread s ha, List.flatMap_cons,
      gathered_append]
    exact Option.bind_congr fun s' _ => ih s' fun a' ha' => hall a' (List.mem_cons_of_mem _ ha')

/-- An attribute without a list is a fault. -/
theorem haveLists_of_foldAttributes {s s' : σ} {attributes : List Attribute}
    (h : foldAttributes read add s attributes = .ok s') : HaveLists attributes := by
  intro a hmem hmarker
  rw [foldAttributes] at h
  have hmem : a ∈ attributes.filter isMarker := List.mem_filter.2 ⟨hmem, hmarker⟩
  generalize attributes.filter isMarker = markers at h hmem
  induction markers generalizing s with
  | nil => cases hmem
  | cons b markers ih =>
    rw [List.foldlM_cons] at h
    obtain ⟨s₁, hadd, h⟩ := bind_eq_ok_iff.1 h
    rcases List.mem_cons.1 hmem with rfl | hmem
    · obtain ⟨tokens, htokens, -⟩ := bind_eq_ok_iff.1 hadd
      unfold listTokens at htokens
      split at htokens
      · next tokens' ha => exact ⟨tokens', ha⟩
      · cases htokens
      · cases htokens
    · exact ih h hmem

/-- Attributes whose items say nothing together have a fault, whether or not they have lists. -/
theorem exists_error_of_gathered (hread : Steady read) {s : σ} {attributes : List Attribute}
    (h : gathered read add s (itemsOf attributes) = none) :
    ∃ fault, foldAttributes read add s attributes = .error fault := by
  cases hfold : foldAttributes read add s attributes with
  | error fault => exact ⟨fault, rfl⟩
  | ok s' =>
    have hlists := haveLists_of_foldAttributes hfold
    rw [← toOption_foldAttributes hread s hlists, hfold] at h
    cases h

/-! ## Keys -/

theorem itemKey?_of_said {key : α → String} (hkeyed : Keyed key read) {item : List Token} {a : α}
    (h : said read item = some a) : itemKey? item = some (key a) := by
  obtain ⟨c, hpart, hread⟩ := said_eq_some_iff.1 h
  rw [itemKey?, hpart, hkeyed c a [] hread]
  rfl

/-- The keys of items that all say something are the keys of what they say. -/
theorem map_key_of_mapM {key : α → String} (hkeyed : Keyed key read) {items : List (List Token)}
    {as : List α} (h : items.mapM (said read) = some as) : as.map key = keysOf items := by
  induction items generalizing as with
  | nil =>
    cases h
    rfl
  | cons item items ih =>
    rw [List.mapM_cons] at h
    cases hitem : said read item with
    | none => simp [hitem] at h
    | some a =>
      cases hitems : items.mapM (said read) with
      | none => simp [hitem, hitems] at h
      | some as' =>
        simp [hitem, hitems] at h
        subst h
        rw [List.map_cons, ih hitems, keysOf, keysOf, List.filterMap_cons,
          itemKey?_of_said hkeyed hitem]

end

/-! ## Writing items -/

/-- A name and a text for it. -/
def setting (name text : String) : List Token :=
  [.ident name, .punct '=' false, .literal (.string text)]

/-- A name and a list of options. -/
def withOptions (name : String) (options : List (List Token)) : List Token :=
  [.ident name, .group .paren ([.punct ',' false].intercalate options)]

/-- An attribute with a list of items. -/
def attributeOf (items : List (List Token)) : Attribute :=
  ⟨⟨false, ["orm"]⟩, .list ([.punct ',' false].intercalate items)⟩

theorem hasOptions_withOptions (name : String) (options : List (List Token)) :
    HasOptions (withOptions name options) ⟨false, [name]⟩
      ([.punct ',' false].intercalate options) [] :=
  rfl

end SchemaSync.Entity
