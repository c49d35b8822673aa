/-
Where a piece of a text ends.

Two texts that begin with pieces of one kind and are equal begin with the
same piece, and go on equally behind it. So it is with quoted texts, lists of
them in parentheses, and words that may be left out, each under a condition
on what follows; these laws are enough to read a text from left to right.
-/
import SchemaSync.Proofs.Text.Lexeme

namespace SchemaSync.Text

variable {rest rest' : List Char}

theorem quoted_append_inj {q : Char} {s s' : String} (hr : rest.head? ≠ some q)
    (hr' : rest'.head? ≠ some q)
    (h : (quoted q s).toList ++ rest = (quoted q s').toList ++ rest') : s = s' ∧ rest = rest' := by
  rw [toList_quoted, toList_quoted, List.cons_append, List.cons_append, List.append_assoc,
    List.append_assoc] at h
  have hscan := congrArg (scanInside q) (List.cons.inj h).2
  rw [List.singleton_append, List.singleton_append, scanInside_doubled q _ hr,
    scanInside_doubled q _ hr', Option.some.injEq, Prod.mk.injEq] at hscan
  exact ⟨String.toList_inj.1 hscan.1, hscan.2⟩

/-- Quoted texts behind the first one of a list, each with its separator in front. -/
def laterQuoted (q : Char) : List String → List Char
  | [] => []
  | s :: texts => ',' :: ' ' :: ((quoted q s).toList ++ laterQuoted q texts)

theorem commaList_quoted_cons (q : Char) (s : String) (texts : List String) :
    (commaList ((s :: texts).map (quoted q))).toList =
      (quoted q s).toList ++ laterQuoted q texts := by
  induction texts generalizing s with
  | nil => simp [commaList, laterQuoted]
  | cons t texts ih =>
    rw [List.map_cons, List.map_cons, toList_commaList_cons_cons, ← List.map_cons, ih t,
      laterQuoted]
    rfl

theorem laterQuoted_append_inj {q : Char} (hcomma : q ≠ ',') (hparen : q ≠ ')') :
    ∀ {texts texts' : List String},
      laterQuoted q texts ++ ')' :: rest = laterQuoted q texts' ++ ')' :: rest' →
        texts = texts' ∧ rest = rest'
  | [], [], h => ⟨rfl, (List.cons.inj h).2⟩
  | [], _ :: _, h => by simp [laterQuoted] at h
  | _ :: _, [], h => by simp [laterQuoted] at h
  | s :: texts, s' :: texts', h => by
    have hhead : ∀ (l : List String) (r : List Char),
        (laterQuoted q l ++ ')' :: r).head? ≠ some q := by
      intro l r
      cases l <;> simp [laterQuoted, hcomma.symm, hparen.symm]
    simp only [laterQuoted, List.cons_append, List.append_assoc, List.cons.injEq, true_and] at h
    obtain ⟨hs, hlater⟩ := quoted_append_inj (hhead _ _) (hhead _ _) h
    obtain ⟨htexts, hrest⟩ := laterQuoted_append_inj hcomma hparen hlater
    exact ⟨by rw [hs, htexts], hrest⟩

/-- A list of quoted texts ends at the parenthesis behind it. -/
theorem commaList_quoted_append_inj {q : Char} (hcomma : q ≠ ',') (hparen : q ≠ ')')
    {texts texts' : List String}
    (h : (commaList (texts.map (quoted q))).toList ++ ')' :: rest =
      (commaList (texts'.map (quoted q))).toList ++ ')' :: rest') :
    texts = texts' ∧ rest = rest' := by
  cases texts with
  | nil =>
    cases texts' with
    | nil => exact ⟨rfl, (List.cons.inj h).2⟩
    | cons s' texts' =>
      rw [commaList_quoted_cons, toList_quoted] at h
      exact absurd (List.cons.inj h).1.symm hparen
  | cons s texts =>
    cases texts' with
    | nil =>
      rw [commaList_quoted_cons, toList_quoted] at h
      exact absurd (List.cons.inj h).1 hparen
    | cons s' texts' =>
      -- With a separator in front the lists are of the other kind.
      have hlater : laterQuoted q (s :: texts) ++ ')' :: rest =
          laterQuoted q (s' :: texts') ++ ')' :: rest' := by
        rw [commaList_quoted_cons, commaList_quoted_cons] at h
        rw [laterQuoted, laterQuoted, List.cons_append, List.cons_append, List.cons_append,
          List.cons_append, h]
      exact laterQuoted_append_inj hcomma hparen hlater

/-- A text that may be left out. -/
def onlyIf (present : Bool) (text : List Char) : List Char :=
  if present then text else []

@[simp] theorem onlyIf_true (text : List Char) : onlyIf true text = text :=
  rfl

@[simp] theorem onlyIf_false (text : List Char) : onlyIf false text = [] :=
  rfl

theorem onlyIf_append_inj {text : List Char} {b b' : Bool} (hr : ¬ text <+: rest)
    (hr' : ¬ text <+: rest') (h : onlyIf b text ++ rest = onlyIf b' text ++ rest') :
    b = b' ∧ rest = rest' := by
  cases b <;> cases b'
  case false.false => exact ⟨rfl, h⟩
  case false.true => exact absurd ⟨rest', h.symm⟩ hr
  case true.false => exact absurd ⟨rest, h⟩ hr'
  case true.true => exact ⟨rfl, List.append_cancel_left h⟩

/-- A text without a blank ends at the blank behind it. -/
theorem blankless_append_inj {cs cs' : List Char} (hc : ' ' ∉ cs) (hc' : ' ' ∉ cs')
    (h : cs ++ ' ' :: rest = cs' ++ ' ' :: rest') : cs = cs' ∧ rest = rest' := by
  induction cs generalizing cs' with
  | nil =>
    cases cs' with
    | nil => exact ⟨rfl, (List.cons.inj h).2⟩
    | cons c' cs' => exact absurd ((List.cons.inj h).1 ▸ List.mem_cons_self) hc'
  | cons c cs ih =>
    cases cs' with
    | nil => exact absurd ((List.cons.inj h).1 ▸ List.mem_cons_self) hc
    | cons c' cs' =>
      rw [List.mem_cons, not_or] at hc hc'
      obtain ⟨rfl, htail⟩ := List.cons.inj h
      obtain ⟨rfl, hrest⟩ := ih hc.2 hc'.2 htail
      exact ⟨rfl, hrest⟩

end SchemaSync.Text
