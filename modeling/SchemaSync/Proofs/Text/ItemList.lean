/-
Comma-separated lists read back item by item.

`ListedItems` says how such a list may look: items between commas, each
with blanks around it or none. `splitChars_listed` says that the reader finds
exactly the values of the items, whatever stands inside their quotes. The
reader looks one character ahead at a closing quote, so the laws of quoted
items ask that the character behind is not the quote again. In a list that
was written here a comma stands there, so any quoted texts read back
(`splitList_commaList`).
-/
import SchemaSync.Proofs.Text.Blank
import SchemaSync.Proofs.Text.Quoting
import SchemaSync.Text.ItemList

namespace SchemaSync.Text

/-- Puts a text in front of the first item. -/
def prependFirst (cs : List Char) (items : List (List Char)) : List (List Char) :=
  cs.foldr consFirst items

/-- The text of an item and the value that it stands for: a word, or a quoted text. -/
inductive IsItem : (text value : List Char) → Prop
  | word {w : List Char} (hne : w ≠ [])
      (h : ∀ c ∈ w, isQuote c = false ∧ c ≠ ',' ∧ isBlank c = false) : IsItem w w
  | quoted {q : Char} (hq : isQuote q = true) (cs : List Char) :
      IsItem (q :: (doubled q cs ++ [q])) cs

/-- A list of items in print, blanks around each, and the values of the items. -/
inductive ListedItems (item : List Char → List Char → Prop) : List Char → List (List Char) → Prop
  | single {before text after value : List Char} (hb : ∀ c ∈ before, isBlank c = true)
      (hi : item text value) (ha : ∀ c ∈ after, isBlank c = true) :
      ListedItems item (before ++ text ++ after) [value]
  | cons {before text after value rest : List Char} {values : List (List Char)}
      (hb : ∀ c ∈ before, isBlank c = true) (hi : item text value)
      (ha : ∀ c ∈ after, isBlank c = true) (hr : ListedItems item rest values) :
      ListedItems item (before ++ text ++ after ++ ',' :: rest) (value :: values)

theorem ListedItems.mono {p r : List Char → List Char → Prop} (hpr : ∀ t v, p t v → r t v)
    {cs : List Char} {values : List (List Char)} (h : ListedItems p cs values) :
    ListedItems r cs values := by
  induction h with
  | single hb hi ha => exact .single hb (hpr _ _ hi) ha
  | cons hb hi ha _ ih => exact .cons hb (hpr _ _ hi) ha ih

/-- Items joined by a comma, with blanks behind it or none, are such a list. -/
theorem ListedItems.intercalate {α : Type} {item : List Char → List Char → Prop}
    {text value : α → List Char} {as : List α} (before blanks : List Char)
    (hbefore : ∀ c ∈ before, isBlank c = true) (hblanks : ∀ c ∈ blanks, isBlank c = true)
    (hne : as ≠ []) (h : ∀ a ∈ as, item (text a) (value a)) :
    ListedItems item (before ++ (',' :: blanks).intercalate (as.map text)) (as.map value) := by
  have hnone : ∀ c ∈ ([] : List Char), isBlank c = true := by simp
  induction as generalizing before with
  | nil => exact absurd rfl hne
  | cons a as ih =>
    obtain ⟨ha, has⟩ := List.forall_mem_cons.1 h
    cases as with
    | nil => simpa using ListedItems.single hbefore ha hnone
    | cons b as =>
      have hrest := ih blanks hblanks (List.cons_ne_nil b as) has
      simpa [List.intercalate_cons_cons] using ListedItems.cons hbefore ha hnone hrest

/-! ## Characters -/

theorem isQuote_iff {c : Char} : isQuote c = true ↔ c ∈ quoteChars := by
  simp only [isQuote, quoteChars, Bool.or_eq_true, decide_eq_true_eq, List.mem_cons,
    List.not_mem_nil, or_false]
  constructor
  · rintro ((rfl | rfl) | rfl) <;> simp
  · rintro (rfl | rfl | rfl) <;> simp

theorem isBlank_of_isQuote {c : Char} (h : isQuote c = true) : isBlank c = false := by
  simp only [isQuote, Bool.or_eq_true, decide_eq_true_eq] at h
  rcases h with (rfl | rfl) | rfl <;> rfl

theorem isQuote_of_isBlank {c : Char} (h : isBlank c = true) : isQuote c = false := by
  cases hq : isQuote c with
  | false => rfl
  | true => simp [isBlank_of_isQuote hq] at h

theorem ne_comma_of_isBlank {c : Char} (h : isBlank c = true) : c ≠ ',' := by
  rintro rfl
  simp [isBlank] at h

/-! ## Items between commas -/

theorem prependFirst_append (cs ds : List Char) (items : List (List Char)) :
    prependFirst (cs ++ ds) items = prependFirst cs (prependFirst ds items) :=
  List.foldr_append

theorem prependFirst_cons (cs item : List Char) (items : List (List Char)) :
    prependFirst cs (item :: items) = (cs ++ item) :: items := by
  induction cs with
  | nil => rfl
  | cons c cs ih =>
    show consFirst c (prependFirst cs (item :: items)) = _
    rw [ih]
    rfl

theorem rawItems_plain {cs : List Char} (h : ∀ c ∈ cs, isQuote c = false ∧ c ≠ ',')
    (rest : List Char) : rawItems none (cs ++ rest) = prependFirst cs (rawItems none rest) := by
  induction cs with
  | nil => rfl
  | cons c cs ih =>
    obtain ⟨hq, hc⟩ := h c (by simp)
    show rawItems none (c :: (cs ++ rest)) = consFirst c (prependFirst cs (rawItems none rest))
    rw [rawItems, if_neg (by simp [hq]), if_neg hc, ih fun d hd => h d (List.mem_cons_of_mem _ hd)]

theorem rawItems_blanks {cs : List Char} (h : ∀ c ∈ cs, isBlank c = true) (rest : List Char) :
    rawItems none (cs ++ rest) = prependFirst cs (rawItems none rest) :=
  rawItems_plain (fun c hc => ⟨isQuote_of_isBlank (h c hc), ne_comma_of_isBlank (h c hc)⟩) rest

theorem rawItems_inside_ne {q c : Char} (h : c ≠ q) (cs : List Char) :
    rawItems (some q) (c :: cs) = consFirst c (rawItems (some q) cs) := by
  cases cs with
  | nil => simp [rawItems]
  | cons d cs => simp [rawItems, h]

theorem rawItems_closing {q : Char} {rest : List Char} (hrest : rest.head? ≠ some q) :
    rawItems (some q) (q :: rest) = consFirst q (rawItems none rest) := by
  cases rest with
  | nil => simp [rawItems]
  | cons d rest =>
    have hd : d ≠ q := fun h => hrest (by simp [h])
    simp [rawItems, hd]

/-- The reader passes over a quoted text whole, up to its closing quote. -/
theorem rawItems_quoted {q : Char} (hq : isQuote q = true) (cs : List Char) {rest : List Char}
    (hrest : rest.head? ≠ some q) :
    rawItems none (q :: (doubled q cs ++ [q]) ++ rest) =
      prependFirst (q :: (doubled q cs ++ [q])) (rawItems none rest) := by
  have hinside : ∀ ds, rawItems (some q) (doubled q ds ++ [q] ++ rest) =
      prependFirst (doubled q ds ++ [q]) (rawItems none rest) := by
    intro ds
    induction ds with
    | nil => exact rawItems_closing hrest
    | cons d ds ih =>
      by_cases hd : d = q
      · subst hd
        simp only [doubled, if_true, List.cons_append]
        show rawItems (some d) (d :: d :: (doubled d ds ++ [d] ++ rest)) = _
        rw [rawItems, if_pos rfl, if_pos rfl, ih]
        rfl
      · simp only [doubled, if_neg hd, List.cons_append]
        rw [rawItems_inside_ne hd, ih]
        rfl
  rw [List.cons_append, rawItems, if_pos hq, hinside]
  rfl

theorem rawItems_item {before text after value rest : List Char}
    (hb : ∀ c ∈ before, isBlank c = true) (hi : IsItem text value)
    (ha : ∀ c ∈ after, isBlank c = true) (hrest : ∀ c ∈ rest.head?, c = ',') :
    rawItems none (before ++ text ++ after ++ rest) =
      prependFirst (before ++ text ++ after) (rawItems none rest) := by
  have htext : rawItems none (text ++ (after ++ rest)) =
      prependFirst text (rawItems none (after ++ rest)) := by
    cases hi with
    | word _ h => exact rawItems_plain (fun c hc => ⟨(h c hc).1, (h c hc).2.1⟩) _
    | quoted hq =>
      refine rawItems_quoted hq _ fun hhead => ?_
      -- What follows is a blank or a comma, and neither is a quote character.
      cases after with
      | nil =>
        have := hrest _ hhead
        subst this
        simp [isQuote] at hq
      | cons a after =>
        simp only [List.cons_append, List.head?_cons, Option.some.injEq] at hhead
        rw [← hhead, isQuote_of_isBlank (ha a (by simp))] at hq
        cases hq
  rw [List.append_assoc, List.append_assoc, rawItems_blanks hb, htext, rawItems_blanks ha,
    prependFirst_append, prependFirst_append]

theorem unquoteChars_trimChars_item {before text after value : List Char}
    (hb : ∀ c ∈ before, isBlank c = true) (hi : IsItem text value)
    (ha : ∀ c ∈ after, isBlank c = true) :
    unquoteChars (trimChars (before ++ text ++ after)) = value := by
  rw [trimChars_pad hb ha]
  cases hi with
  | word hne h =>
    rw [trimChars_eq_self (fun c hc => (h c (List.mem_of_mem_head? hc)).2.2)
      fun c hc => (h c (List.mem_of_getLast? hc)).2.2]
    cases text with
    | nil => exact absurd rfl hne
    | cons c cs =>
      refine unquoteChars_of_not_quote (fun hc => ?_) cs
      rw [← isQuote_iff, (h c (by simp)).1] at hc
      cases hc
  | quoted hq =>
    have hblank := isBlank_of_isQuote hq
    rw [trimChars_eq_self (by simpa using hblank) (by simpa [List.getLast?_cons] using hblank)]
    exact unquoteChars_quoted (isQuote_iff.1 hq) _

/-- **A list reads back as the values of its items**, in order. -/
theorem splitChars_listed {cs : List Char} {values : List (List Char)}
    (h : ListedItems IsItem cs values) :
    (rawItems none cs).map (fun item => unquoteChars (trimChars item)) = values := by
  induction h with
  | single hb hi ha =>
    have hend : ∀ c ∈ ([] : List Char).head?, c = ',' := by simp
    have hraw := rawItems_item hb hi ha hend
    rw [List.append_nil, rawItems, prependFirst_cons, List.append_nil] at hraw
    rw [hraw, List.map_singleton, unquoteChars_trimChars_item hb hi ha]
  | cons hb hi ha _ ih =>
    rename_i rest values _
    have hcomma : rawItems none (',' :: rest) = [] :: rawItems none rest := by
      simp [rawItems, isQuote]
    rw [rawItems_item hb hi ha (by simp), hcomma, prependFirst_cons, List.append_nil, List.map_cons,
      unquoteChars_trimChars_item hb hi ha, ih]

theorem splitList_listed {s : String} {values : List (List Char)}
    (h : ListedItems IsItem s.toList values) :
    splitList s = (values.map String.ofList).filter (· ≠ "") := by
  rw [splitList, ← splitChars_listed h, List.map_map]
  rfl

/-! ## Quoted texts -/

theorem isItem_quoted {q : Char} (hq : q ∈ quoteChars) (s : String) :
    IsItem (quoted q s).toList s.toList := by
  rw [toList_quoted]
  exact .quoted (isQuote_iff.2 hq) _

theorem toList_commaList (items : List String) :
    (commaList items).toList = [',', ' '].intercalate (items.map String.toList) := by
  simp [commaList, String.toList_intercalate]

theorem toList_commaList_cons_cons (s t : String) (items : List String) :
    (commaList (s :: t :: items)).toList =
      s.toList ++ ([',', ' '] ++ (commaList (t :: items)).toList) := by
  simp [toList_commaList, List.intercalate_cons_cons]

/-- A text and the quote character that it is to be written with: in single quotes it is a
literal, in one of the others an identifier. -/
structure QuotedText where
  quote : Char
  text : String
  quote_mem : quote ∈ quoteChars

/-- A text in its quotes. -/
def QuotedText.written (t : QuotedText) : String :=
  quoted t.quote t.text

/-- **A list of quoted texts reads back as these texts**, whatever stands in them and whichever of
the quote characters each of them is written with. Only empty texts are left out. -/
theorem splitList_commaList (texts : List QuotedText) :
    splitList (commaList (texts.map QuotedText.written)) =
      (texts.map QuotedText.text).filter (· ≠ "") := by
  by_cases hne : texts = []
  · subst hne
    rfl
  · have hlisted : ListedItems IsItem (commaList (texts.map QuotedText.written)).toList
        (texts.map fun t => t.text.toList) := by
      rw [toList_commaList, List.map_map]
      exact .intercalate [] [' '] (by simp) (by simp [isBlank]) hne
        fun t _ => isItem_quoted t.quote_mem t.text
    rw [splitList_listed hlisted, List.map_map]
    simp [Function.comp_def]

/-- Texts with other quotes, commas and blanks in them, and one that is empty. -/
def mixedTexts : List QuotedText :=
  [⟨'\x22', "a, 'b", by decide⟩, ⟨'\x60', "", by decide⟩, ⟨'\'', "it's \"c\" ", by decide⟩,
    ⟨'\x60', "d`", by decide⟩]

theorem splitList_commaList_mixedTexts :
    commaList (mixedTexts.map QuotedText.written) = "\"a, 'b\", ``, 'it''s \"c\" ', `d```" ∧
      splitList (commaList (mixedTexts.map QuotedText.written)) =
        ["a, 'b", "it's \"c\" ", "d`"] := by
  refine ⟨by decide +kernel, ?_⟩
  rw [splitList_commaList mixedTexts]
  decide

end SchemaSync.Text
