/-
What the target of a relationship means.

`Means` says it for a set of declarations: the one that the path identifies,
or else one that nothing else in question can be taken for. `resolve` finds
exactly that (`resolve_means`), and so it cannot depend on the order in which
the declarations are listed, nor settle an ambiguity by it.

A struct's name is an identifier, so no colon is in it. That is all that is
needed of names: the last segment of a path is then known from its end.
-/
import Mathlib.Data.List.Nodup
import SchemaSync.Proofs.Entity.Outcome

namespace SchemaSync.Entity

/-- Whether a name is the last segment of a path. -/
def IsLastSegment (name path : String) : Prop :=
  path = name ∨ ∃ front, path = front ++ "::" ++ name

/-- Whether a struct is in question for a path: it has the name that the path ends with, and
entities hide other structs of that name. -/
structure InQuestion (declarations : List Declaration) (path : String) (d : Declaration) : Prop where
  mem : d ∈ declarations
  name : IsLastSegment d.name path
  unhidden : d.isEntity = true ∨ ∀ e ∈ declarations, e.name = d.name → e.isEntity = false

/-- Whether an identifier ends with a whole path, behind further modules. -/
def EndsWithPath (path : String) (d : Declaration) : Prop :=
  ∃ front, d.id = front ++ ("::" ++ path)

/-- Which declaration a path means. -/
inductive Means (declarations : List Declaration) (path : String) : Declaration → Prop where
  | identified {d} (mem : d ∈ declarations) (id : d.id = path) : Means declarations path d
  | alone {d} (unidentified : ∀ e ∈ declarations, e.id ≠ path)
      (inQuestion : InQuestion declarations path d)
      (unrivalled : ∀ e, InQuestion declarations path e → e = d) : Means declarations path d
  | located {d} (unidentified : ∀ e ∈ declarations, e.id ≠ path)
      (inQuestion : InQuestion declarations path d) (ends : EndsWithPath path d)
      (unrivalled : ∀ e, InQuestion declarations path e → EndsWithPath path e → e = d) :
      Means declarations path d

/-! ## Segments -/

theorem behindColons?_of_notMem {cs : List Char} (h : ':' ∉ cs) : behindColons? cs = none := by
  induction cs with
  | nil => rfl
  | cons c cs ih =>
    rw [List.mem_cons, not_or] at h
    rw [behindColons?, ih h.2]
    exact if_neg fun hc => h.1 hc.1.symm

theorem behindColons?_append (front : List Char) {last : List Char} (h : ':' ∉ last) :
    behindColons? (front ++ ':' :: ':' :: last) = some last := by
  induction front with
  | nil =>
    have hhead : ¬ last.head? = some ':' := fun he => h (List.mem_of_head? he)
    simp [behindColons?, behindColons?_of_notMem h, hhead]
  | cons c front ih => rw [List.cons_append, behindColons?, ih]

theorem exists_of_behindColons? {cs last : List Char} (h : behindColons? cs = some last) :
    ∃ front, cs = front ++ ':' :: ':' :: last := by
  induction cs with
  | nil => cases h
  | cons c cs ih =>
    rw [behindColons?] at h
    split at h
    · next last' hlast =>
      cases h
      obtain ⟨front, rfl⟩ := ih hlast
      exact ⟨c :: front, rfl⟩
    · split at h
      · next hcolons =>
        cases h
        obtain ⟨rfl, hhead⟩ := hcolons
        obtain ⟨rest, rfl⟩ := List.head?_eq_some_iff.1 hhead
        exact ⟨[], rfl⟩
      · cases h

theorem isLastSegment_lastName (path : String) : IsLastSegment (lastName path) path := by
  unfold lastName
  cases h : behindColons? path.toList with
  | none => exact .inl (by simp)
  | some last =>
    obtain ⟨front, hfront⟩ := exists_of_behindColons? h
    refine .inr ⟨String.ofList front, String.toList_inj.1 ?_⟩
    simp [hfront]

theorem lastName_eq_iff {name path : String} (h : ':' ∉ name.toList) :
    lastName path = name ↔ IsLastSegment name path := by
  constructor
  · rintro rfl
    exact isLastSegment_lastName path
  · rintro (rfl | ⟨front, rfl⟩)
    · simp [lastName, behindColons?_of_notMem h]
    · have hcolons : "::".toList = [':', ':'] := rfl
      simp [lastName, hcolons, behindColons?_append front.toList h]

theorem isLastSegment_intercalate (module : List String) (name : String) :
    IsLastSegment name ("::".intercalate (module ++ [name])) := by
  induction module with
  | nil => exact .inl (by simp)
  | cons m module ih =>
    rw [List.cons_append, String.intercalate_cons_of_ne_nil (by simp)]
    rcases ih with h | ⟨front, h⟩
    · exact .inr ⟨m, by rw [h]⟩
    · exact .inr ⟨m ++ "::" ++ front, by rw [h]; simp only [String.append_assoc]⟩

/-- An identifier ends with the name of its struct. -/
theorem isLastSegment_id (d : Declaration) : IsLastSegment d.name d.id :=
  isLastSegment_intercalate d.module d.name

/-! ## Roots -/

theorem exists_roots (cs : List Char) :
    ∃ roots, cs = (List.replicate roots "crate::".toList).flatten ++ dropRoot cs := by
  fun_induction dropRoot cs with
  | case1 rest ih =>
    obtain ⟨roots, h⟩ := ih
    exact ⟨roots + 1, by rw [List.replicate_succ, List.flatten_cons, List.append_assoc, ← h]; rfl⟩
  | case2 cs => exact ⟨0, rfl⟩

theorem not_prefix_dropRoot (cs : List Char) : ¬ "crate::".toList <+: dropRoot cs := by
  fun_induction dropRoot cs with
  | case1 rest ih => exact ih
  | case2 cs hroot =>
    rintro ⟨rest, h⟩
    exact hroot rest h.symm

/-- A path is what a target has behind its blanks and behind all words `crate::`. -/
theorem targetPath_spec (target : String) :
    (∃ roots, Text.trim target =
      String.join (List.replicate roots "crate::") ++ targetPath target) ∧
    Text.beginsWith (targetPath target) "crate::" = false := by
  have hpath : (targetPath target).toList = dropRoot (Text.trimChars target.toList) :=
    String.toList_ofList
  have htrim : (Text.trim target).toList = Text.trimChars target.toList := String.toList_ofList
  obtain ⟨roots, h⟩ := exists_roots (Text.trimChars target.toList)
  refine ⟨⟨roots, String.toList_inj.1 ?_⟩, ?_⟩
  · rw [String.toList_append, String.toList_join, List.flatMap_replicate, htrim, hpath]
    exact h
  · rw [Text.beginsWith, hpath, ← Bool.not_eq_true, List.isPrefixOf_iff_prefix]
    exact not_prefix_dropRoot _

/-! ## Looking up -/

theorem only?_eq_some_iff {α : Type} {l : List α} (hl : l.Nodup) {a : α} :
    only? l = some a ↔ a ∈ l ∧ ∀ b ∈ l, b = a := by
  match l with
  | [] => simp [only?]
  | [b] => simp [only?, eq_comm]
  | b :: b' :: rest =>
    have hne : b ≠ b' := fun he => (List.nodup_cons.1 hl).1 (he ▸ List.mem_cons_self)
    refine iff_of_false (by simp [only?]) ?_
    rintro ⟨-, h⟩
    exact hne ((h b (by simp)).trans (h b' (by simp)).symm)

theorem endsIn_iff (d : Declaration) (path : String) :
    Text.endsIn d.id ("::" ++ path) = true ↔ EndsWithPath path d := by
  rw [Text.endsIn, List.isSuffixOf_iff_suffix]
  constructor
  · rintro ⟨front, h⟩
    exact ⟨String.ofList front, String.toList_inj.1 (by simp [← h])⟩
  · rintro ⟨front, h⟩
    exact ⟨front.toList, by simp [h]⟩

section

variable {declarations : List Declaration} {path : String} {d : Declaration}

theorem find?_id_eq_some_iff (hids : (declarations.map (·.id)).Nodup) :
    (declarations.reverse.find? fun e => e.id == path) = some d ↔
      d ∈ declarations ∧ d.id = path := by
  constructor
  · intro h
    exact ⟨List.mem_reverse.1 (List.mem_of_find?_eq_some h), by simpa using List.find?_some h⟩
  · rintro ⟨hd, hid⟩
    cases h : declarations.reverse.find? fun e => e.id == path with
    | none => exact absurd (List.find?_eq_none.1 h d (List.mem_reverse.2 hd)) (by simp [hid])
    | some e =>
      have he := List.mem_reverse.1 (List.mem_of_find?_eq_some h)
      have heid : e.id = path := by simpa using List.find?_some h
      rw [List.inj_on_of_nodup_map hids he hd (heid.trans hid.symm)]

/-- Entities hide other structs of their name. -/
theorem mem_candidates {name : String} :
    d ∈ candidates declarations name ↔ d ∈ declarations ∧ d.name = name ∧
      (d.isEntity = true ∨ ∀ e ∈ declarations, e.name = name → e.isEntity = false) := by
  simp only [candidates, List.isEmpty_iff, List.filter_eq_nil_iff, List.mem_filter, beq_iff_eq,
    Bool.not_eq_true, and_imp]
  by_cases h : ∀ e ∈ declarations, e.name = name → e.isEntity = false
  · rw [if_pos h, List.mem_filter, beq_iff_eq, and_iff_left (Or.inr h)]
  · rw [if_neg h, or_iff_left h, List.mem_filter, List.mem_filter, beq_iff_eq, and_assoc]

theorem mem_candidates_iff (hnames : ∀ e ∈ declarations, ':' ∉ e.name.toList) :
    d ∈ candidates declarations (lastName path) ↔ InQuestion declarations path d := by
  rw [mem_candidates]
  constructor
  · rintro ⟨hd, hname, hentity⟩
    exact ⟨hd, (lastName_eq_iff (hnames d hd)).1 hname.symm, hname ▸ hentity⟩
  · rintro ⟨hd, hname, hentity⟩
    have hlast : lastName path = d.name := (lastName_eq_iff (hnames d hd)).2 hname
    exact ⟨hd, hlast.symm, hlast ▸ hentity⟩

theorem nodup_candidates (hids : (declarations.map (·.id)).Nodup) (name : String) :
    (candidates declarations name).Nodup := by
  have hnodup : declarations.Nodup := .of_map _ hids
  simp only [candidates]
  split
  · exact hnodup.filter _
  · exact (hnodup.filter _).filter _

/-- **A look-up finds what the path means**, and nothing where it means nothing. -/
theorem lookUp_eq_some_iff (hids : (declarations.map (·.id)).Nodup)
    (hnames : ∀ e ∈ declarations, ':' ∉ e.name.toList) :
    lookUp declarations path = some d ↔ Means declarations path d := by
  have hnodup := nodup_candidates hids (lastName path)
  unfold lookUp
  cases hid : declarations.reverse.find? fun e => e.id == path with
  | some e =>
    obtain ⟨he, heid⟩ := (find?_id_eq_some_iff hids).1 hid
    constructor
    · rintro h
      cases h
      exact .identified he heid
    · rintro (⟨hd, hdid⟩ | ⟨hno, -, -⟩ | ⟨hno, -, -, -⟩)
      · rw [List.inj_on_of_nodup_map hids he hd (heid.trans hdid.symm)]
      · exact absurd heid (hno e he)
      · exact absurd heid (hno e he)
  | none =>
    have hno : ∀ e ∈ declarations, e.id ≠ path := by
      intro e he
      simpa using List.find?_eq_none.1 hid e (List.mem_reverse.2 he)
    have hfiltered : ∀ e, e ∈ (candidates declarations (lastName path)).filter
        (fun e => Text.endsIn e.id ("::" ++ path)) ↔
          InQuestion declarations path e ∧ EndsWithPath path e := by
      intro e
      rw [List.mem_filter, mem_candidates_iff hnames, endsIn_iff]
    dsimp only
    cases honly : only? (candidates declarations (lastName path)) with
    | some e =>
      obtain ⟨he, halone⟩ := (only?_eq_some_iff hnodup).1 honly
      simp only [mem_candidates_iff hnames] at he halone
      constructor
      · rintro h
        cases h
        exact .alone hno he halone
      · rintro (⟨hd, hdid⟩ | ⟨-, hd, -⟩ | ⟨-, hd, -, -⟩)
        · exact absurd hdid (hno d hd)
        · rw [halone d hd]
        · rw [halone d hd]
    | none =>
      dsimp only
      rw [only?_eq_some_iff (hnodup.filter _)]
      simp only [hfiltered, and_imp]
      constructor
      · rintro ⟨⟨hd, hends⟩, halone⟩
        exact .located hno hd hends halone
      · rintro (⟨hd, hdid⟩ | ⟨-, hd, halone⟩ | ⟨-, hd, hends, halone⟩)
        · exact absurd hdid (hno d hd)
        · have hsome : only? (candidates declarations (lastName path)) = some d := by
            rw [only?_eq_some_iff hnodup]
            simp only [mem_candidates_iff hnames]
            exact ⟨hd, halone⟩
          rw [honly] at hsome
          cases hsome
        · exact ⟨⟨hd, hends⟩, halone⟩

theorem Means.isLastSegment (h : Means declarations path d) : IsLastSegment d.name path := by
  cases h with
  | identified hd hid => exact hid ▸ isLastSegment_id d
  | alone hno hd halone => exact hd.name
  | located hno hd hends halone => exact hd.name

theorem InQuestion.of_perm {others : List Declaration} (hperm : others.Perm declarations)
    (h : InQuestion others path d) : InQuestion declarations path d where
  mem := hperm.mem_iff.1 h.mem
  name := h.name
  unhidden := h.unhidden.imp_right fun hplain e he => hplain e (hperm.mem_iff.2 he)

theorem Means.of_perm {others : List Declaration} (hperm : others.Perm declarations)
    (h : Means others path d) : Means declarations path d := by
  cases h with
  | identified hd hid => exact .identified (hperm.mem_iff.1 hd) hid
  | alone hno hd halone =>
    exact .alone (fun e he => hno e (hperm.mem_iff.2 he)) (hd.of_perm hperm)
      fun e he => halone e (he.of_perm hperm.symm)
  | located hno hd hends halone =>
    exact .located (fun e he => hno e (hperm.mem_iff.2 he)) (hd.of_perm hperm) hends
      fun e he => halone e (he.of_perm hperm.symm)

end

/-- **A target means the same in every order of the declarations**: the one that it identifies, or
else the one of its last name that no other can be taken for. The target counts without the blanks
around it and without the words `crate::` in front. -/
theorem resolve_means (declarations : List Declaration) (hids : (declarations.map (·.id)).Nodup)
    (hnames : ∀ d ∈ declarations, ':' ∉ d.name.toList) (target : String) :
    (∀ others, others.Perm declarations → resolve others target = resolve declarations target) ∧
    (∀ d, resolve declarations target = some d ↔ Means declarations (targetPath target) d) ∧
    (∀ d, resolve declarations target = some d → IsLastSegment d.name (targetPath target)) ∧
    (∃ roots, Text.trim target =
      String.join (List.replicate roots "crate::") ++ targetPath target) ∧
    Text.beginsWith (targetPath target) "crate::" = false := by
  refine ⟨fun others hperm => ?_, fun d => lookUp_eq_some_iff hids hnames,
    fun d h => ((lookUp_eq_some_iff hids hnames).1 h).isLastSegment, targetPath_spec target⟩
  have hids' : (others.map (·.id)).Nodup := (hperm.map Declaration.id).nodup_iff.2 hids
  have hnames' : ∀ d ∈ others, ':' ∉ d.name.toList := fun d hd => hnames d (hperm.mem_iff.1 hd)
  refine Option.ext fun d => ?_
  rw [resolve, resolve, lookUp_eq_some_iff hids hnames, lookUp_eq_some_iff hids' hnames']
  exact ⟨.of_perm hperm, .of_perm hperm.symm⟩

open Source in
/-- Posts of a blog and of a shop, and a struct of the same name that is no entity. -/
def posts : List Declaration :=
  [⟨["blog", "post"], "blog/post.rs", ⟨[marker (given "table" "posts")], "Post", []⟩⟩,
    ⟨["shop"], "shop.rs", ⟨[marker (given "table" "shop_posts")], "Post", []⟩⟩,
    ⟨["web", "post"], "web/post.rs", ⟨[], "Post", []⟩⟩]

theorem resolve_means_posts :
    (posts.map (·.id)).Nodup ∧ (∀ d ∈ posts, ':' ∉ d.name.toList) ∧
      (resolve posts " crate::post::Post ").map (·.id) = some "blog::post::Post" ∧
      (resolve posts "web::post::Post").map (·.id) = some "web::post::Post" ∧
      (resolve posts "Post").map (·.id) = none ∧
      (∀ others, others.Perm posts →
        resolve others " crate::post::Post " = resolve posts " crate::post::Post ") ∧
      ∀ d, resolve posts " crate::post::Post " = some d ↔
        Means posts (targetPath " crate::post::Post ") d := by
  have hids : (posts.map (·.id)).Nodup := by decide +kernel
  have hnames : ∀ d ∈ posts, ':' ∉ d.name.toList := by decide +kernel
  obtain ⟨horder, hmeans, -⟩ := resolve_means posts hids hnames " crate::post::Post "
  exact ⟨hids, hnames, by decide +kernel, by decide +kernel, by decide +kernel, horder, hmeans⟩

end SchemaSync.Entity
