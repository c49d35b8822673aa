/-
The marker of an entity and its table name.

The marker is looked for among the tokens of the attributes, the name is read
from their items, and the two agree wherever the attributes can be read
(`isEntity_iff_tableName`): an item that gives a name begins with the word
`table`, and a list with any token has an item. So no struct that gives a table
name is left out as one that is no entity.
-/
import SchemaSync.Entity.Target
import SchemaSync.Proofs.Entity.Readers
import SchemaSync.Proofs.Text.Blank

namespace SchemaSync.Entity

open Source

/-! ## The items of a list -/

theorem mem_of_mem_markLast {parts : List (List Token)} {part : List Token} {last : Bool}
    (h : (part, last) ∈ markLast parts) : part ∈ parts := by
  fun_induction markLast parts with
  | case1 => cases h
  | case2 part' =>
    obtain ⟨rfl, -⟩ := Prod.mk.inj (List.mem_singleton.1 h)
    exact List.mem_cons_self
  | case3 part' =>
    obtain ⟨rfl, -⟩ := Prod.mk.inj (List.mem_singleton.1 h)
    exact List.mem_cons_self
  | case4 part' rest _ _ ih =>
    rcases List.mem_cons.1 h with he | hmem
    · obtain ⟨rfl, -⟩ := Prod.mk.inj he
      exact List.mem_cons_self
    · exact List.mem_cons_of_mem _ (ih hmem)

theorem markLast_ne_nil {parts : List (List Token)} (h : parts ≠ []) : markLast parts ≠ [] := by
  fun_cases markLast parts with
  | case1 => exact absurd rfl h
  | _ => simp

theorem listItems_ne_nil (tokens : List Token) : listItems tokens ≠ [] := by
  simp [listItems, parts, markLast_ne_nil (List.splitOnP_ne_nil isComma tokens)]

theorem mem_of_mem_listItems {tokens item : List Token} (h : item ∈ listItems tokens) :
    ∀ t ∈ item, t ∈ tokens := by
  obtain ⟨⟨part, last⟩, hpart, rfl⟩ := List.mem_map.1 h
  exact Text.mem_of_mem_splitOnP (mem_of_mem_markLast hpart)

theorem exists_tokens_of_mem_attributeItems {a : Attribute} {item : List Token}
    (h : item ∈ attributeItems a) : ∃ tokens, a.input = .list tokens ∧ ∀ t ∈ item, t ∈ tokens := by
  unfold attributeItems at h
  split at h
  · next tokens ha =>
    split at h
    · cases h
    · exact ⟨tokens, ha, mem_of_mem_listItems h⟩
  · cases h

/-! ## The word of the marker -/

theorem ident_mem_of_ofPart {part : List Token} {last : Bool} {c : Clause} {name : String}
    {names : List String} (h : Clause.ofPart part last = .ok c)
    (hpath : c.path.segments = name :: names) : Token.ident name ∈ part := by
  unfold Clause.ofPart at h
  dsimp only at h
  split at h
  · next first rest hpart =>
    obtain ⟨⟨more, rest'⟩, -, h⟩ := bind_eq_ok_iff.1 h
    cases h
    obtain ⟨rfl, -⟩ := List.cons.inj hpath
    have hmem : Token.ident first ∈ if atMark "::" part then part.drop 2 else part := by
      rw [hpart]
      exact List.mem_cons_self
    split at hmem
    · exact List.mem_of_mem_drop hmem
    · exact hmem
  · cases h
  · cases h

/-- An item that gives a table name has the word `table` in it. -/
theorem table_mem_of_said {item : List Token} {name : String}
    (h : said tableNameClause item = some name) : Token.ident "table" ∈ item := by
  obtain ⟨c, hpart, hread⟩ := said_eq_some_iff.1 h
  unfold tableNameClause at hread
  split at hread
  · next hname =>
    have hpath : c.path = ⟨false, ["table"]⟩ := by simpa [Path.isName] using hname
    exact ident_mem_of_ofPart hpart (by rw [hpath])
  · cases hread

theorem namesTable_of_table_mem {a : Attribute} {tokens : List Token} (ha : a.input = .list tokens)
    (h : Token.ident "table" ∈ tokens) : namesTable a = true := by
  rw [namesTable, ha]
  exact List.any_eq_true.2 ⟨_, h, by rfl⟩

theorem attributeItems_ne_nil_of_namesTable {a : Attribute} (h : namesTable a = true) :
    attributeItems a ≠ [] := by
  unfold namesTable at h
  split at h
  · next tokens ha =>
    rw [attributeItems, ha]
    cases tokens with
    | nil => cases h
    | cons t tokens => exact listItems_ne_nil _
  · cases h

/-! ## The table name -/

/-- Items that are all understood give a name if there are any. -/
theorem isSome_of_gathered {items : List (List Token)} {s given : Option String}
    (h : gathered tableNameClause (fun _ name => .ok (some name)) s items = some given) :
    given.isSome = (s.isSome || !items.isEmpty) := by
  induction items generalizing s with
  | nil =>
    cases h
    simp
  | cons item items ih =>
    rw [gathered_cons] at h
    obtain ⟨name, -, h⟩ := Option.bind_eq_some_iff.1 h
    rw [ih h]
    simp

/-- **Attributes that can be read give a table name if and only if they have the marker.** -/
theorem isSome_tableName {attributes : List Attribute} {given : Option String}
    (h : tableName attributes = .ok given) :
    given.isSome = true ↔ hasTableMarker attributes = true := by
  have hlists := haveLists_of_foldAttributes h
  have hgathered : gathered tableNameClause (fun _ name => .ok (some name)) none
      (itemsOf attributes) = some given := by
    rw [← toOption_foldAttributes steady_tableNameClause none hlists, ← tableName, h]
    rfl
  rw [isSome_of_gathered hgathered, hasTableMarker, List.any_eq_true]
  constructor
  · intro hitems
    have hne : itemsOf attributes ≠ [] := by simpa using hitems
    obtain ⟨item, hitem⟩ := List.exists_mem_of_ne_nil _ hne
    obtain ⟨a, ha, hitem'⟩ := List.mem_flatMap.1 hitem
    obtain ⟨hmem, hmarker⟩ := List.mem_filter.1 ha
    -- The item is understood, so it has the word that marks an entity.
    obtain ⟨tokens, htokens, hsub⟩ := exists_tokens_of_mem_attributeItems hitem'
    obtain ⟨name, hname⟩ := exists_said_of_gathered hgathered hitem
    refine ⟨a, hmem, Bool.and_eq_true_iff.2 ⟨hmarker, ?_⟩⟩
    exact namesTable_of_table_mem htokens (hsub _ (table_mem_of_said hname))
  · rintro ⟨a, hmem, hmark⟩
    obtain ⟨hmarker, hnames⟩ := Bool.and_eq_true_iff.1 hmark
    obtain ⟨item, hitem⟩ := List.exists_mem_of_ne_nil _ (attributeItems_ne_nil_of_namesTable hnames)
    have hitems : item ∈ itemsOf attributes :=
      List.mem_flatMap.2 ⟨a, List.mem_filter.2 ⟨hmem, hmarker⟩, hitem⟩
    simp [List.ne_nil_of_mem hitems]

/-! ## The faults of a table name -/

/-- Whether a part of the reading fails for anything but a name that is not there. -/
def NeverNameless {α : Type} (x : Except Fault α) : Prop :=
  x ≠ .error .noTableName

section

variable {α β : Type}

theorem NeverNameless.bind {x : Except Fault α} {f : α → Except Fault β} (hx : NeverNameless x)
    (hf : ∀ a, NeverNameless (f a)) : NeverNameless (x >>= f) := by
  intro h
  rcases bind_eq_error_iff.1 h with hfail | ⟨a, -, hfail⟩
  · exact hx hfail
  · exact hf a hfail

theorem NeverNameless.foldlM {σ : Type} {f : σ → α → Except Fault σ}
    (hf : ∀ s a, NeverNameless (f s a)) (s : σ) (as : List α) : NeverNameless (as.foldlM f s) := by
  intro h
  obtain ⟨a, -, s', hfail⟩ := exists_of_foldlM_error h
  exact hf s' a hfail

theorem neverNameless_moreNames (last : Bool) (tokens : List Token) :
    NeverNameless (moreNames last tokens) := by
  fun_induction moreNames last tokens with
  | case1 j name rest ih =>
    intro h
    exact ih (map_eq_error_iff.1 h)
  | case2 | case3 =>
    intro h
    cases h

theorem neverNameless_ofPart (part : List Token) (last : Bool) :
    NeverNameless (Clause.ofPart part last) := by
  unfold Clause.ofPart
  dsimp only
  generalize (if atMark "::" part then part.drop 2 else part) = tokens
  split
  · exact (neverNameless_moreNames _ _).bind fun _ => nofun
  · cases last <;> nofun
  · unfold NeverNameless
    split <;> nofun

theorem neverNameless_string (c : Clause) : NeverNameless c.string := by
  refine NeverNameless.bind ?_ fun tokens => ?_
  · unfold Clause.value
    split <;> nofun
  · split <;> nofun

theorem neverNameless_tableNameClause (c : Clause) : NeverNameless (tableNameClause c) := by
  unfold tableNameClause
  split
  · refine (neverNameless_string c).bind fun (name, rest) => ?_
    dsimp only
    split <;> nofun
  · nofun

theorem neverNameless_tableName (attributes : List Attribute) :
    NeverNameless (tableName attributes) := by
  refine NeverNameless.foldlM (fun s a => ?_) _ _
  refine NeverNameless.bind ?_ fun tokens => ?_
  · unfold listTokens
    split <;> nofun
  · split
    · nofun
    · refine NeverNameless.foldlM (fun s part => ?_) _ _
      refine (neverNameless_ofPart _ _).bind fun c => ?_
      refine (neverNameless_tableNameClause c).bind fun (name, rest) => ?_
      refine NeverNameless.bind nofun fun s => ?_
      split <;> nofun

end

/-! ## Declarations -/

/-- **Attributes that can be read give a table name if and only if the struct is an entity**, and no
entity lacks a name for the want of one: its attributes have another fault then. -/
theorem isEntity_iff_tableName (d : Declaration) :
    (∀ given, tableName d.item.attributes = .ok given →
      (given.isSome = true ↔ d.isEntity = true)) ∧
    (d.isEntity = true → ∀ entity,
      d.tableName ≠ .error (.invalidAttribute entity .noTableName)) := by
  refine ⟨fun given h => isSome_tableName h, fun hentity entity => ?_⟩
  unfold Declaration.tableName
  split
  · nofun
  · next hnone =>
    have hsome := (isSome_tableName hnone).2 hentity
    cases hsome
  · next fault hfault =>
    intro h
    cases h
    exact neverNameless_tableName _ hfault

/-- A struct that gives its table name in the last of its attributes. -/
def usersStruct : Declaration :=
  ⟨["users"], "users.rs",
    ⟨[attributeOf [], ⟨⟨false, ["serde"]⟩, .list (setting "table" "people")⟩,
      attributeOf [setting "table" "users", []]], "User", []⟩⟩

theorem isEntity_usersStruct :
    tableName usersStruct.item.attributes = .ok (some "users") ∧ usersStruct.isEntity = true ∧
      ∀ entity, usersStruct.tableName ≠ .error (.invalidAttribute entity .noTableName) := by
  have hname : tableName usersStruct.item.attributes = .ok (some "users") := by decide +kernel
  have hentity := ((isEntity_iff_tableName usersStruct).1 _ hname).1 rfl
  exact ⟨hname, hentity, (isEntity_iff_tableName usersStruct).2 hentity⟩

end SchemaSync.Entity
