import TransformRegistry.Store.Description

/-!
# The JSON text of a description tells which one it is

A spelled string ends at its first bare quote, and what follows an item tells whether another one
comes. So a text is that of one value only, and as a value keeps every part of a description or of a
target, the text does so too.
-/

namespace TransformRegistry

namespace Json

/-! ## Spelled strings -/

namespace Spelling

/-- The character that an escape stands for, after its backslash, and what follows the escape. -/
def escaped? : Spelling → Option (Char × Spelling)
  | 'u' :: a :: b :: c :: d :: rest => (fourDigits? a b c d).map fun n => (Char.ofNat n, rest)
  | c :: rest => (shortEscape? c).map fun c => (c, rest)
  | [] => none

/-- The character that is spelled first, and what follows it. A bare quote spells none. -/
def first? : Spelling → Option (Char × Spelling)
  | [] => none
  | c :: rest =>
    if c = '"' then none else if c = '\\' then escaped? rest else some (c, rest)

theorem fourDigits?_control :
    ∀ n < 0x20, fourDigits? '0' '0' (Nat.digitChar (n / 16)) (Nat.digitChar (n % 16)) = some n := by
  decide

theorem first?_escapeChar (c : Char) (rest : Spelling) :
    first? (escapeChar c ++ rest) = some (c, rest) := by
  unfold escapeChar
  split
  case h_8 notQuote notBackslash _ _ _ _ _ =>
    split
    · next control => simp [first?, escaped?, twoDigits, fourDigits?_control _ control]
    · rw [List.singleton_append, first?, if_neg notQuote, if_neg notBackslash]
  all_goals rfl

theorem append_quote_inj {cs ds l m : List Char}
    (same : cs.flatMap escapeChar ++ '"' :: l = ds.flatMap escapeChar ++ '"' :: m) :
    cs = ds ∧ l = m := by
  induction cs generalizing ds with
  | nil =>
    cases ds with
    | nil => exact ⟨rfl, (List.cons.inj same).2⟩
    | cons d ds =>
      have read := congrArg first? same
      rw [List.flatMap_cons, List.append_assoc, first?_escapeChar] at read
      cases read
  | cons c cs ih =>
    have read := congrArg first? same
    rw [List.flatMap_cons, List.append_assoc, first?_escapeChar] at read
    cases ds with
    | nil => cases read
    | cons d ds =>
      rw [List.flatMap_cons, List.append_assoc, first?_escapeChar, Option.some_inj] at read
      obtain ⟨rfl, later⟩ := Prod.mk.inj read
      obtain ⟨rfl, rest⟩ := ih later
      exact ⟨rfl, rest⟩

end Spelling

theorem inQuotes_append_inj {s t : String} {l m : List Char}
    (same : inQuotes (.ofText s) ++ l = inQuotes (.ofText t) ++ m) : s = t ∧ l = m := by
  simp only [inQuotes, List.cons_append, List.append_assoc, List.nil_append, List.cons.injEq,
    true_and] at same
  obtain ⟨texts, rest⟩ := Spelling.append_quote_inj same
  exact ⟨String.toList_inj.1 texts, rest⟩

theorem Spelling.ofText_inj {s t : String} : Spelling.ofText s = .ofText t ↔ s = t := by
  constructor
  · intro same
    have quoted : inQuotes (.ofText s) ++ [] = inQuotes (.ofText t) ++ [] := by rw [same]
    exact (inQuotes_append_inj quoted).1
  · rintro rfl
    rfl

theorem ofText_inj {s t : String} : ofText s = ofText t ↔ s = t := by
  rw [ofText, ofText, Json.str.injEq, Spelling.ofText_inj]

theorem ofTexts_inj {ss ts : List String} : ofTexts ss = ofTexts ts ↔ ss = ts := by
  rw [ofTexts, ofTexts, Json.arr.injEq, List.map_inj_right fun _ _ => ofText_inj.1]

theorem ofFields_inj {fs gs : List (String × Json)} : ofFields fs = ofFields gs ↔ fs = gs := by
  rw [ofFields, ofFields, Json.obj.injEq, List.map_inj_right]
  rintro ⟨key, value⟩ ⟨otherKey, other⟩ same
  obtain ⟨keys, rfl⟩ := Prod.mk.inj same
  rw [Spelling.ofText_inj.1 keys]

/-! ## Items with commas between them -/

section Joined

variable {α : Type} {write : α → List Char} {close : Char} {as bs : List α} {l m : List Char}

/-- A comma stands before every item but the first. -/
def joined (write : α → List Char) : List α → List Char
  | [] => []
  | a :: rest => write a ++ rest.flatMap fun b => ',' :: write b

/-- The items of one list can be told from those of another, wherever they stand. -/
def ToldApart (write : α → List Char) (as bs : List α) : Prop :=
  ∀ a ∈ as, ∀ b ∈ bs, ∀ l m, write a ++ l = write b ++ m → a = b ∧ l = m

theorem ToldApart.rest {a b : α} (apart : ToldApart write (a :: as) (b :: bs)) :
    ToldApart write as bs :=
  fun x hx y hy => apart x (List.mem_cons_of_mem _ hx) y (List.mem_cons_of_mem _ hy)

theorem others_append_inj (notComma : close ≠ ',') (apart : ToldApart write as bs)
    (same : (as.flatMap fun a => ',' :: write a) ++ close :: l =
      (bs.flatMap fun b => ',' :: write b) ++ close :: m) : as = bs ∧ l = m := by
  induction as generalizing bs with
  | nil =>
    cases bs with
    | nil => exact ⟨rfl, (List.cons.inj same).2⟩
    | cons b bs => exact absurd (List.cons.inj same).1 notComma
  | cons a as ih =>
    cases bs with
    | nil => exact absurd (List.cons.inj same).1.symm notComma
    | cons b bs =>
      rw [List.flatMap_cons, List.flatMap_cons, List.append_assoc, List.append_assoc] at same
      obtain ⟨rfl, later⟩ := apart a List.mem_cons_self b List.mem_cons_self _ _
        (List.cons.inj same).2
      obtain ⟨rfl, rest⟩ := ih apart.rest later
      exact ⟨rfl, rest⟩

theorem joined_append_inj (notComma : close ≠ ',') (apart : ToldApart write as bs)
    (opens : ∀ a, a ∈ as ∨ a ∈ bs → ∀ l m, write a ++ l ≠ close :: m)
    (same : joined write as ++ close :: l = joined write bs ++ close :: m) :
    as = bs ∧ l = m := by
  cases as with
  | nil =>
    cases bs with
    | nil => exact ⟨rfl, (List.cons.inj same).2⟩
    | cons b bs =>
      have opened : close :: l = joined write (b :: bs) ++ close :: m := same
      rw [joined, List.append_assoc] at opened
      exact absurd opened.symm (opens b (.inr List.mem_cons_self) _ _)
  | cons a as =>
    cases bs with
    | nil =>
      have opened : joined write (a :: as) ++ close :: l = close :: m := same
      rw [joined, List.append_assoc] at opened
      exact absurd opened (opens a (.inl List.mem_cons_self) _ _)
    | cons b bs =>
      rw [joined, joined, List.append_assoc, List.append_assoc] at same
      obtain ⟨rfl, later⟩ := apart a List.mem_cons_self b List.mem_cons_self _ _ same
      obtain ⟨rfl, rest⟩ := others_append_inj notComma apart.rest later
      exact ⟨rfl, rest⟩

end Joined

theorem itemsChars_eq (items : List Json) : itemsChars items = joined chars items := by
  induction items with
  | nil => rfl
  | cons item rest ih =>
    cases rest with
    | nil => simp [itemsChars, joined]
    | cons next rest =>
      rw [itemsChars, ih]
      · rfl
      · rintro ⟨⟩

def fieldChars (field : String × Json) : List Char :=
  inQuotes (.ofText field.1) ++ ':' :: field.2.chars

theorem fieldsChars_eq (fields : List (String × Json)) :
    fieldsChars (fields.map fun (key, value) => (.ofText key, value)) =
      joined fieldChars fields := by
  induction fields with
  | nil => rfl
  | cons field rest ih =>
    cases rest with
    | nil => simp [fieldsChars, fieldChars, joined]
    | cons next rest =>
      rw [List.map_cons, fieldsChars, ih]
      · simp [fieldChars, joined]
      · rintro ⟨⟩

/-! ## Values made of texts -/

/-- The value is a text, or an array or object of such values. -/
inductive Textual : Json → Prop
  | text (s : String) : Textual (.ofText s)
  | arr {items : List Json} : (∀ item ∈ items, Textual item) → Textual (.arr items)
  | obj {fields : List (String × Json)} : (∀ field ∈ fields, Textual field.2) →
      Textual (.ofFields fields)

variable {j k : Json} {l m : List Char}

theorem chars_arr_append (items : List Json) (l : List Char) :
    (arr items).chars ++ l = '[' :: (joined chars items ++ ']' :: l) := by
  simp [chars, itemsChars_eq]

theorem chars_ofFields_append (fields : List (String × Json)) (l : List Char) :
    (ofFields fields).chars ++ l = '\x7b' :: (joined fieldChars fields ++ '\x7d' :: l) := by
  simp [ofFields, chars, fieldsChars_eq]

theorem Textual.opens (ok : Textual j) : ∃ c ∈ ['"', '[', '\x7b'], ∃ rest, j.chars = c :: rest := by
  cases ok with
  | text s => exact ⟨'"', by simp, _, rfl⟩
  | arr => exact ⟨'[', by simp, _, rfl⟩
  | obj => exact ⟨'\x7b', by simp, _, rfl⟩

theorem Textual.chars_append_ne (ok : Textual j) {close : Char}
    (closes : close ∉ ['"', '[', '\x7b']) (l m : List Char) : j.chars ++ l ≠ close :: m := by
  obtain ⟨c, opening, rest, start⟩ := ok.opens
  rw [start]
  intro same
  obtain rfl := (List.cons.inj same).1
  exact closes opening

theorem fieldChars_append_inj {f g : String × Json}
    (value : ∀ l m, f.2.chars ++ l = g.2.chars ++ m → f.2 = g.2 ∧ l = m)
    (same : fieldChars f ++ l = fieldChars g ++ m) : f = g ∧ l = m := by
  rw [fieldChars, fieldChars, List.append_assoc, List.append_assoc] at same
  obtain ⟨keys, later⟩ := inQuotes_append_inj same
  obtain ⟨values, rest⟩ := value _ _ (List.cons.inj later).2
  exact ⟨Prod.ext keys values, rest⟩

/-- A text is read as one value only, and that value ends in one place. -/
theorem Textual.append_inj (ok : Textual j) (okToo : Textual k)
    (same : j.chars ++ l = k.chars ++ m) : j = k ∧ l = m := by
  induction ok generalizing k l m with
  | text s =>
    cases okToo with
    | text t =>
      obtain ⟨rfl, rest⟩ := inQuotes_append_inj same
      exact ⟨rfl, rest⟩
    | arr | obj => exact absurd (List.cons.inj same).1 (by decide)
  | @arr items okItems ih =>
    cases okToo with
    | text | obj => exact absurd (List.cons.inj same).1 (by decide)
    | @arr others okOthers =>
      rw [chars_arr_append, chars_arr_append] at same
      have apart : ToldApart chars items others := fun a ha b hb _ _ same =>
        ih a ha (okOthers b hb) same
      have textual : ∀ a, a ∈ items ∨ a ∈ others → Textual a :=
        fun a ha => ha.elim (okItems a) (okOthers a)
      obtain ⟨rfl, rest⟩ := joined_append_inj (by decide) apart
        (fun a ha => (textual a ha).chars_append_ne (by decide)) (List.cons.inj same).2
      exact ⟨rfl, rest⟩
  | @obj fields okFields ih =>
    cases okToo with
    | text | arr => exact absurd (List.cons.inj same).1 (by decide)
    | @obj others okOthers =>
      rw [chars_ofFields_append, chars_ofFields_append] at same
      have apart : ToldApart fieldChars fields others := fun a ha b hb _ _ same =>
        fieldChars_append_inj (fun _ _ => ih a ha (okOthers b hb)) same
      have opens : ∀ (f : String × Json) (l m : List Char), fieldChars f ++ l ≠ '\x7d' :: m :=
        fun f l m same => absurd (List.cons.inj same).1 (by decide)
      obtain ⟨rfl, rest⟩ := joined_append_inj (by decide) apart (fun f _ => opens f)
        (List.cons.inj same).2
      exact ⟨rfl, rest⟩

theorem Textual.text_inj (ok : Textual j) (okToo : Textual k) : j.text = k.text ↔ j = k := by
  constructor
  · intro same
    have chars : j.chars ++ [] = k.chars ++ [] := by rw [String.ofList_injective same]
    exact (ok.append_inj okToo chars).1
  · rintro rfl
    rfl

/-- A text that holds what stands between two items is still one item. -/
example : (Json.ofTexts ["a\",\"b"]).text = "[\"a\\\",\\\"b\"]" := by decide

end Json

/-! ## Targets -/

namespace Target

theorem toJson_textual (t : Target) : t.toJson.Textual := by
  cases t <;> refine .obj ?_ <;> simp [Kind.toJson, Json.Textual.text]

theorem toJson_inj {a b : Target} : a.toJson = b.toJson ↔ a = b := by
  constructor
  · intro same
    unfold toJson at same
    rw [Json.ofFields_inj] at same
    cases a <;> cases b <;>
      simp_all [Kind.toJson, Json.ofText_inj, kind, owner, Kind.name, ClassName.ext_iff]
  · rintro rfl
    rfl

end Target

/-! ## Descriptions -/

theorem Json.textual_ofTexts (ss : List String) : (Json.ofTexts ss).Textual := by
  refine .arr fun item hi => ?_
  obtain ⟨s, -, rfl⟩ := List.mem_map.1 hi
  exact .text s

namespace DescribedTarget

theorem toJson_textual (d : DescribedTarget) : d.toJson.Textual := by
  refine .obj ?_
  simp [d.target.toJson_textual, Json.textual_ofTexts]

theorem toJson_inj {d e : DescribedTarget} : d.toJson = e.toJson ↔ d = e := by
  constructor
  · intro same
    have fields := Json.ofFields_inj.1 same
    simp only [List.cons.injEq, Prod.mk.injEq, true_and, and_true] at fields
    obtain ⟨targets, labels⟩ := fields
    cases d
    congr
    · exact Target.toJson_inj.1 targets
    · exact Json.ofTexts_inj.1 labels
  · rintro rfl
    rfl

end DescribedTarget

namespace Description

variable {d e : Description}

theorem lists_textual (d : Description) :
    (Json.ofFields (Kind.all.filterMap d.listField)).Textual := by
  refine .obj fun field hf => ?_
  obtain ⟨k, -, listed⟩ := List.mem_filterMap.1 hf
  obtain ⟨entries, -, rfl⟩ := Option.map_eq_some_iff.1 listed
  refine .arr fun item hi => ?_
  obtain ⟨entry, -, rfl⟩ := List.mem_map.1 hi
  exact entry.toJson_textual

theorem toJson_textual (d : Description) : d.toJson.Textual := by
  refine .obj ?_
  simp [d.lists_textual, Json.textual_ofTexts]

theorem lookup_listField (d : Description) (k : Kind) :
    (Kind.all.filterMap d.listField).lookup k.name =
      (d.lists.get k).map fun entries => .arr (entries.map DescribedTarget.toJson) := by
  obtain ⟨⟨cls, method, field⟩, owners⟩ := d
  cases cls <;> cases method <;> cases field <;> cases k <;> rfl

theorem lists_eq_of_fields
    (same : Kind.all.filterMap d.listField = Kind.all.filterMap e.listField) :
    d.lists = e.lists := by
  apply PerKind.ext_get
  intro k
  have field := congrArg (List.lookup k.name) same
  rw [lookup_listField, lookup_listField] at field
  refine Option.map_injective ?_ field
  intro entries others items
  exact (List.map_inj_right fun _ _ => DescribedTarget.toJson_inj.1).1 (Json.arr.inj items)

theorem toJson_inj : d.toJson = e.toJson ↔ d = e := by
  constructor
  · intro same
    have fields := Json.ofFields_inj.1 same
    simp only [List.cons.injEq, Prod.mk.injEq, true_and, and_true] at fields
    obtain ⟨lists, owners⟩ := fields
    cases d
    congr
    · exact lists_eq_of_fields (Json.ofFields_inj.1 lists)
    · exact (List.map_inj_right fun _ _ => ClassName.ext).1 (Json.ofTexts_inj.1 owners)
  · rintro rfl
    rfl

end Description

/-- No two descriptions have one text, and no two targets. -/
theorem texts_told_apart :
    (∀ d e : Description, d.toJson.text = e.toJson.text ↔ d = e) ∧
      ∀ a b : Target, a.toJson.text = b.toJson.text ↔ a = b := by
  refine ⟨fun d e => ?_, fun a b => ?_⟩
  · rw [d.toJson_textual.text_inj e.toJson_textual, Description.toJson_inj]
  · rw [a.toJson_textual.text_inj b.toJson_textual, Target.toJson_inj]

end TransformRegistry
