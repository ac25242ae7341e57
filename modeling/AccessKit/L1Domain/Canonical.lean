import AccessKit.Core.ReadBack
import AccessKit.Core.Text
import AccessKit.L1Domain.Stringify

/-!
# What `stableStringify` tells apart

The text of a JSON value determines the value up to the order of the keys and
the properties that are `undefined`. Outside of JSON it does not: an array with
an `undefined` in it has the text of a shorter one, and `NaN` that of `null`.

Results:
* `stableStringify_readsBack`: the text can be read back.
* `sameJson_of_text`: values of one text are the same JSON.
-/
namespace AccessKit.L1
open AccessKit.Core

/-- A value that JSON has, where a property may be `undefined`: it is left out. -/
inductive IsJson : JsValue → Prop
  | null : IsJson .null
  | bool (b : Bool) : IsJson (.bool b)
  | num (q : Rat) : IsJson (.num (.fin q))
  | str (s : String) : IsJson (.str s)
  | arr {items : List JsValue} (h : ∀ v ∈ items, IsJson v) : IsJson (.arr items)
  | obj {fields : JsonRecord} (hkeys : (fields.map (·.1)).Nodup)
      (h : ∀ p ∈ fields, p.2 ≠ .undefined → IsJson p.2) : IsJson (.obj fields)

/-- Equal up to the order of the keys and the properties that are `undefined`. -/
inductive SameJson : JsValue → JsValue → Prop
  | undefined : SameJson .undefined .undefined
  | null : SameJson .null .null
  | bool (b : Bool) : SameJson (.bool b) (.bool b)
  | num (n : JsNumber) : SameJson (.num n) (.num n)
  | str (s : String) : SameJson (.str s) (.str s)
  | arr {items items' : List JsValue} (h : List.Forall₂ SameJson items items') :
      SameJson (.arr items) (.arr items')
  | obj {fields fields' : JsonRecord} (h : ∀ k, SameJson (fields.get k) (fields'.get k)) :
      SameJson (.obj fields) (.obj fields')

def isNumberChar (c : Char) : Bool := c.isDigit || c ∈ ['-', '+', '.', 'e']

/-- How the language prints numbers: in digits, signs, points and exponents,
and different numbers differently. -/
structure PrintsNumbers (H : Host) : Prop where
  nonempty : ∀ q, (H.numberToString q).toList ≠ []
  chars : ∀ q, ∀ c ∈ (H.numberToString q).toList, isNumberChar c = true
  inj : Function.Injective H.numberToString

/-! ## String literals -/

def hexValue (c : Char) : Nat := if c.toNat < 58 then c.toNat - 48 else c.toNat - 87

/-- Read one character of a string literal. -/
def unquoteChar : List Char → Char × List Char
  | '\\' :: 'b' :: r => (Char.ofNat 0x08, r)
  | '\\' :: 'f' :: r => (Char.ofNat 0x0C, r)
  | '\\' :: 'n' :: r => (Char.ofNat 0x0A, r)
  | '\\' :: 'r' :: r => (Char.ofNat 0x0D, r)
  | '\\' :: 't' :: r => (Char.ofNat 0x09, r)
  | '\\' :: 'u' :: '0' :: '0' :: a :: b :: r => (Char.ofNat (hexValue a * 16 + hexValue b), r)
  | '\\' :: c :: r => (c, r)
  | c :: r => (c, r)
  | [] => (' ', [])

theorem hexValue_hexDigit : ∀ m < 16, hexValue (hexDigit m) = m := by decide

theorem unquoteChar_plain {c : Char} (hc : c ≠ '\\') (rest : List Char) :
    unquoteChar (c :: rest) = (c, rest) := by
  unfold unquoteChar
  split <;> simp_all

theorem unquoteChar_quoteChar (c : Char) (rest : List Char) :
    unquoteChar (quoteChar c ++ rest) = (c, rest) := by
  have hc : Char.ofNat c.toNat = c := Char.ofNat_toNat c
  unfold quoteChar
  split
  case h_8 hquote hslash _ _ _ _ _ =>
    split
    case isTrue hlt =>
      have hvalue : hexValue (hexDigit (c.toNat / 16)) * 16 + hexValue (hexDigit (c.toNat % 16)) =
          c.toNat := by
        rw [hexValue_hexDigit _ (by omega), hexValue_hexDigit _ (by omega)]
        omega
      show (Char.ofNat _, rest) = (c, rest)
      rw [hvalue, hc]
    case isFalse =>
      exact unquoteChar_plain (fun h => hslash (by rw [h]; rfl)) rest
  all_goals
    rename_i hn
    rw [← hc, hn]
    rfl

/-- No character is written with a quotation mark in front. -/
theorem quoteChar_head (c : Char) : ∃ d t, quoteChar c = d :: t ∧ d ≠ '"' := by
  unfold quoteChar
  split
  case h_8 hquote _ _ _ _ _ _ =>
    split
    · exact ⟨_, _, rfl, by decide⟩
    · exact ⟨_, _, rfl, fun h => hquote (by rw [h]; rfl)⟩
  all_goals exact ⟨_, _, rfl, by decide⟩

/-- A string literal ends at its closing quotation mark. -/
theorem quoted_inj {s t rest rest' : List Char}
    (h : s.flatMap quoteChar ++ '"' :: rest = t.flatMap quoteChar ++ '"' :: rest') :
    s = t ∧ rest = rest' := by
  induction s generalizing t with
  | nil =>
    cases t with
    | nil => exact ⟨rfl, (List.cons.inj h).2⟩
    | cons d t =>
      obtain ⟨x, u, hx, hne⟩ := quoteChar_head d
      rw [List.flatMap_cons, hx] at h
      exact absurd (List.cons.inj h).1.symm hne
  | cons c s ih =>
    cases t with
    | nil =>
      obtain ⟨x, u, hx, hne⟩ := quoteChar_head c
      rw [List.flatMap_cons, hx] at h
      exact absurd (List.cons.inj h).1 hne
    | cons d t =>
      rw [List.flatMap_cons, List.flatMap_cons, List.append_assoc, List.append_assoc] at h
      have hread := congrArg unquoteChar h
      rw [unquoteChar_quoteChar, unquoteChar_quoteChar] at hread
      obtain ⟨hcd, htail⟩ := Prod.mk.inj hread
      obtain ⟨hst, hrest⟩ := ih htail
      exact ⟨by rw [hcd, hst], hrest⟩

theorem quote_toList (s : String) :
    (quote s).toList = '"' :: (s.toList.flatMap quoteChar ++ ['"']) := by
  simp [quote]

theorem quote_inj {s t : String} {rest rest' : List Char}
    (h : (quote s).toList ++ rest = (quote t).toList ++ rest') : s = t ∧ rest = rest' := by
  simp only [quote_toList, List.cons_append, List.append_assoc, List.nil_append,
    List.cons.injEq, true_and] at h
  obtain ⟨hst, hrest⟩ := quoted_inj h
  exact ⟨String.toList_inj.1 hst, hrest⟩

/-! ## Texts of values -/

/-- The text of a value, as `join` prints it. -/
def text (H : Host) (v : JsValue) : List Char := ((stableStringify H v).getD "").toList

/-- The text of a property. -/
def fieldText (H : Host) (p : String × JsValue) : List Char :=
  (quote p.1).toList ++ ':' :: text H p.2

section
variable {H : Host}

theorem stableStringify_undefined : stableStringify H .undefined = none := rfl

theorem stableStringify_null : stableStringify H .null = some "null" := rfl

theorem stableStringify_bool (b : Bool) :
    stableStringify H (.bool b) = some (if b then "true" else "false") := rfl

theorem stableStringify_num (n : JsNumber) :
    stableStringify H (.num n) = some (stringifyNumber H n) := rfl

theorem stableStringify_str (s : String) : stableStringify H (.str s) = some (quote s) := rfl

theorem stableStringify_arr (items : List JsValue) :
    stableStringify H (.arr items) = some ("[" ++ joinWith "," (stringifyItems H items) ++ "]") :=
  rfl

theorem stableStringify_obj (fields : JsonRecord) :
    stableStringify H (.obj fields) = some (renderFields (stringifyFields H fields)) := rfl

theorem stableStringify_eq_none {v : JsValue} : stableStringify H v = none ↔ v = .undefined := by
  cases v with
  | undefined => exact iff_of_true stableStringify_undefined rfl
  | _ => exact iff_of_false (Option.some_ne_none _) (by simp)

theorem text_null : text H .null = ['n', 'u', 'l', 'l'] := by simp [text, stableStringify_null]

theorem text_bool (b : Bool) : text H (.bool b) =
    if b then ['t', 'r', 'u', 'e'] else ['f', 'a', 'l', 's', 'e'] := by
  cases b <;> simp [text, stableStringify_bool]

theorem text_num (q : Rat) : text H (.num (.fin q)) = (H.numberToString q).toList := by
  simp [text, stableStringify_num, stringifyNumber]

theorem text_str (s : String) : text H (.str s) = (quote s).toList := by
  simp [text, stableStringify_str]

theorem joinWith_toList {α : Type} (f : α → String) (l : List α) :
    (joinWith "," (l.map f)).toList = sepBy ',' (fun a => (f a).toList) l := by
  induction l with
  | nil => rfl
  | cons a l ih =>
    cases l with
    | nil => rfl
    | cons b l => simpa [joinWith, sepBy] using ih

theorem text_arr (items : List JsValue) :
    text H (.arr items) = '[' :: (sepBy ',' (text H) items ++ [']']) := by
  have hitems : ∀ l : List JsValue, stringifyItems H l =
      l.map fun v => (stableStringify H v).getD "" := by
    intro l
    induction l with
    | nil => rfl
    | cons v l ih => exact congrArg (_ :: ·) ih
  rw [text, stableStringify_arr, hitems, Option.getD_some]
  simp [joinWith_toList]
  rfl

theorem insertKey_perm (p : String × Option String) (l : List (String × Option String)) :
    (insertKey p l).Perm (p :: l) := by
  induction l with
  | nil => exact .refl _
  | cons q l ih =>
    unfold insertKey
    split
    · exact .refl _
    · exact (ih.cons q).trans (.swap p q l)

theorem sortKeys_perm (l : List (String × Option String)) : (sortKeys l).Perm l := by
  induction l with
  | nil => exact .refl _
  | cons p l ih => exact (insertKey_perm p _).trans (ih.cons p)

/-- The properties of an object are written in some order, without those that
are `undefined`. -/
theorem text_obj (fields : JsonRecord) :
    ∃ l : JsonRecord, l.Perm (fields.filter fun p => !p.2.isUndefined) ∧
      text H (.obj fields) = '\x7b' :: (sepBy ',' (fieldText H) l ++ ['\x7d']) := by
  have hfields : stringifyFields H fields = fields.map fun p => (p.1, stableStringify H p.2) := by
    induction fields with
    | nil => rfl
    | cons p fields ih => exact congrArg (_ :: ·) ih
  obtain ⟨l, hl, hsorted⟩ := exists_map_of_perm (sortKeys_perm (fields.map fun p =>
    (p.1, stableStringify H p.2)))
  refine ⟨l.filter fun p => !p.2.isUndefined, hl.filter _, ?_⟩
  have hparts : (l.map fun p => (p.1, stableStringify H p.2)).filterMap
        (fun p => p.2.map fun v => quote p.1 ++ ":" ++ v) =
      (l.filter fun p => !p.2.isUndefined).map fun p =>
        quote p.1 ++ ":" ++ (stableStringify H p.2).getD "" := by
    clear hl hsorted
    induction l with
    | nil => rfl
    | cons p l ih =>
      rw [List.map_cons, List.filterMap_cons, ih]
      cases hp : p.2 <;>
        simp [JsValue.isUndefined, stableStringify_undefined, stableStringify_null,
          stableStringify_bool, stableStringify_num, stableStringify_str, stableStringify_arr,
          stableStringify_obj, hp]
  rw [text, stableStringify_obj, Option.getD_some, renderFields, hfields, hsorted, hparts]
  simp [joinWith_toList]
  rfl

/-! ## Reading a text back -/

/-- The first character of a text tells the kind of value. -/
def Leads : JsValue → Char → Prop
  | .undefined, _ => False
  | .null, c => c = 'n'
  | .bool b, c => c = if b then 't' else 'f'
  | .num _, c => isNumberChar c = true
  | .str _, c => c = '"'
  | .arr _, c => c = '['
  | .obj _, c => c = '\x7b'

theorem text_leads (hp : PrintsNumbers H) {v : JsValue} (hv : IsJson v) :
    ∃ c t, text H v = c :: t ∧ Leads v c := by
  cases hv with
  | null => exact ⟨_, _, text_null, rfl⟩
  | bool b => cases b <;> exact ⟨_, _, text_bool _, rfl⟩
  | num q =>
    obtain ⟨c, t, hc⟩ := List.exists_cons_of_ne_nil (hp.nonempty q)
    exact ⟨c, t, by rw [text_num, hc], hp.chars q c (by simp [hc])⟩
  | str s => exact ⟨_, _, (text_str s).trans (quote_toList s), rfl⟩
  | @arr items _ => exact ⟨_, _, text_arr items, rfl⟩
  | @obj fields _ _ =>
    obtain ⟨l, -, hl⟩ := text_obj (H := H) fields
    exact ⟨_, _, hl, rfl⟩

theorem Leads.not_close {v : JsValue} {c : Char} (h : Leads v c) : c ≠ ']' := by
  rintro rfl
  cases v with
  | bool b => cases b <;> simp [Leads] at h
  | _ => simp [Leads, isNumberChar] at h

/-- What may follow a value: nothing that continues a number. -/
def Ends (rest : List Char) : Prop := ∀ c ∈ rest.head?, ¬ isNumberChar c = true

theorem ends_cons {c : Char} {t : List Char} (h : isNumberChar c = false) : Ends (c :: t) := by
  intro d hd
  cases hd
  simp [h]

theorem get_eq_of_mem {fields : JsonRecord} (hkeys : (fields.map (·.1)).Nodup) {k : String}
    {v : JsValue} (h : (k, v) ∈ fields) : fields.get k = v := by
  unfold JsonRecord.get
  induction fields with
  | nil => cases h
  | cons p fields ih =>
    rw [List.map_cons, List.nodup_cons] at hkeys
    rcases List.mem_cons.1 h with rfl | h
    · simp
    · have hne : p.1 ≠ k := fun he => hkeys.1 (he ▸ List.mem_map_of_mem (f := (·.1)) h)
      rw [List.find?_cons_of_neg (by simpa using hne)]
      exact ih hkeys.2 h

theorem mem_of_get {fields : JsonRecord} {k : String} (h : fields.get k ≠ .undefined) :
    (k, fields.get k) ∈ fields := by
  unfold JsonRecord.get at h ⊢
  cases hf : fields.find? fun p => p.1 == k with
  | none => simp [hf] at h
  | some p =>
    have hk : p.1 = k := by simpa using List.find?_some hf
    exact hk ▸ List.mem_of_find?_eq_some hf

theorem mem_defined {l fields : JsonRecord} {p : String × JsValue}
    (hl : l.Perm (fields.filter fun p => !p.2.isUndefined)) :
    p ∈ l ↔ p ∈ fields ∧ p.2 ≠ .undefined := by
  rw [hl.mem_iff, List.mem_filter]
  cases p.2 <;> simp [JsValue.isUndefined]

/-- Properties that are there on one side are there, and the same, on the other. -/
theorem sameJson_obj {fields fields' l l' : JsonRecord}
    (hkeys : (fields.map (·.1)).Nodup) (hkeys' : (fields'.map (·.1)).Nodup)
    (hl : l.Perm (fields.filter fun p => !p.2.isUndefined))
    (hl' : l'.Perm (fields'.filter fun p => !p.2.isUndefined))
    (h : List.Forall₂ (fun p q => p.1 = q.1 ∧ SameJson p.2 q.2) l l') :
    SameJson (.obj fields) (.obj fields') := by
  refine .obj fun k => ?_
  by_cases hk : fields.get k = .undefined
  · by_cases hk' : fields'.get k = .undefined
    · rw [hk, hk']
      exact .undefined
    · have hin := (mem_defined hl').2 ⟨mem_of_get hk', hk'⟩
      obtain ⟨⟨k', v⟩, hp, rfl, -⟩ := forall₂_exists_right h.flip hin
      obtain ⟨hp, hne⟩ := (mem_defined hl).1 hp
      exact absurd (get_eq_of_mem hkeys hp ▸ hk) hne
  · have hin := (mem_defined hl).2 ⟨mem_of_get hk, hk⟩
    obtain ⟨⟨k', v⟩, hq, rfl, hsame⟩ := forall₂_exists_right h hin
    rw [get_eq_of_mem hkeys' ((mem_defined hl').1 hq).1]
    exact hsame

/-- **The text of a value can be read back**, up to the order of the keys and
the properties that are `undefined`. -/
theorem stableStringify_readsBack (hp : PrintsNumbers H) {v : JsValue} (hv : IsJson v) :
    ReadsBack IsJson (text H) Ends SameJson v := by
  have hstart : ∀ a, IsJson a → ∃ c t, text H a = c :: t ∧ c ≠ ']' := fun a ha =>
    let ⟨c, t, h, hl⟩ := text_leads hp ha
    ⟨c, t, h, hl.not_close⟩
  have hfield : ∀ p : String × JsValue, ∃ c t, fieldText H p = c :: t ∧ c ≠ '\x7d' := fun p =>
    ⟨_, _, by rw [fieldText, quote_toList, List.cons_append], by decide⟩
  -- two values whose texts agree start with the same character, so that only
  -- values of one kind are left
  have hsame : ∀ {a b : JsValue} {rest rest' : List Char}, IsJson a → IsJson b →
      text H a ++ rest = text H b ++ rest' → ∃ c, Leads a c ∧ Leads b c := by
    intro a b rest rest' ha hb h
    obtain ⟨c, t, hc, hl⟩ := text_leads hp ha
    obtain ⟨c', t', hc', hl'⟩ := text_leads hp hb
    rw [hc, hc'] at h
    exact ⟨c, hl, (List.cons.inj h).1 ▸ hl'⟩
  induction hv with
  | null =>
    intro w hw rest rest' hr hr' h
    obtain ⟨c, hc, hl⟩ := hsame .null hw h
    cases hc
    cases hw with
    | null => exact ⟨.null, List.append_cancel_left h⟩
    | bool b => cases b <;> simp [Leads] at hl
    | _ => simp [Leads, isNumberChar] at hl
  | bool b =>
    intro w hw rest rest' hr hr' h
    obtain ⟨c, hc, hl⟩ := hsame (.bool b) hw h
    cases hc
    cases hw with
    | bool b' =>
      have hb : b = b' := by cases b <;> cases b' <;> simp [Leads] at hl <;> rfl
      subst hb
      exact ⟨.bool b, List.append_cancel_left h⟩
    | _ => cases b <;> simp [Leads, isNumberChar] at hl
  | num q =>
    intro w hw rest rest' hr hr' h
    obtain ⟨c, hc, hl⟩ := hsame (.num q) hw h
    cases hw with
    | num q' =>
      rw [text_num, text_num] at h
      obtain ⟨hq, hrest⟩ := append_run_inj (hp.chars q) (hp.chars q') hr hr' h
      cases hp.inj (String.toList_inj.1 hq)
      exact ⟨.num _, hrest⟩
    | bool b => cases b <;> cases hl <;> simp [Leads, isNumberChar] at hc
    | _ => cases hl; simp [Leads, isNumberChar] at hc
  | str s =>
    intro w hw rest rest' hr hr' h
    obtain ⟨c, hc, hl⟩ := hsame (.str s) hw h
    cases hc
    cases hw with
    | str s' =>
      rw [text_str, text_str] at h
      obtain ⟨rfl, hrest⟩ := quote_inj h
      exact ⟨.str s, hrest⟩
    | bool b => cases b <;> simp [Leads] at hl
    | _ => simp [Leads, isNumberChar] at hl
  | arr hitems ih =>
    intro w hw rest rest' hr hr' h
    obtain ⟨c, hc, hl⟩ := hsame (.arr hitems) hw h
    cases hc
    cases hw with
    | arr hitems' =>
      simp only [text_arr, List.cons_append, List.append_assoc, List.nil_append, List.cons.injEq,
        true_and] at h
      obtain ⟨hall, hrest⟩ := sepBy_readsBack (by decide) (fun v hv => ⟨hitems v hv, ih v hv⟩)
        (fun _ => ends_cons rfl) (fun _ => ends_cons rfl) hstart _ hitems' _ _ h
      exact ⟨.arr hall, hrest⟩
    | bool b => cases b <;> simp [Leads] at hl
    | _ => simp [Leads, isNumberChar] at hl
  | @obj fields hkeys hfields ih =>
    intro w hw rest rest' hr hr' h
    obtain ⟨c, hc, hl⟩ := hsame (.obj hkeys hfields) hw h
    cases hc
    cases hw with
    | @obj fields' hkeys' hfields' =>
      obtain ⟨l, hperm, htext⟩ := text_obj (H := H) fields
      obtain ⟨l', hperm', htext'⟩ := text_obj (H := H) fields'
      simp only [htext, htext', List.cons_append, List.append_assoc, List.nil_append,
        List.cons.injEq, true_and] at h
      have hread : ∀ p ∈ l, IsJson p.2 ∧ ReadsBack (fun p => IsJson p.2) (fieldText H) Ends
          (fun p q => p.1 = q.1 ∧ SameJson p.2 q.2) p := by
        intro p hpl
        obtain ⟨hm, hne⟩ := (mem_defined hperm).1 hpl
        refine ⟨hfields p hm hne, fun q hq rest rest' hr hr' he => ?_⟩
        simp only [fieldText, List.append_assoc, List.cons_append] at he
        obtain ⟨hk, htail⟩ := quote_inj he
        obtain ⟨hv, hrest⟩ := ih p hm hne q.2 hq rest rest' hr hr' (List.cons.inj htail).2
        exact ⟨⟨hk, hv⟩, hrest⟩
      have hread' : ∀ p ∈ l', IsJson p.2 := by
        intro p hpl
        obtain ⟨hm, hne⟩ := (mem_defined hperm').1 hpl
        exact hfields' p hm hne
      obtain ⟨hall, hrest⟩ := sepBy_readsBack (by decide) hread (fun _ => ends_cons rfl)
        (fun _ => ends_cons rfl) (fun p _ => hfield p) _ hread' _ _ h
      exact ⟨sameJson_obj hkeys hkeys' hperm hperm' hall, hrest⟩
    | bool b => cases b <;> simp [Leads] at hl
    | _ => simp [Leads, isNumberChar] at hl

/-- **Values of one text are the same JSON.** -/
theorem sameJson_of_text (hp : PrintsNumbers H) {v w : JsValue} (hv : IsJson v) (hw : IsJson w)
    (h : stableStringify H v = stableStringify H w) : SameJson v w :=
  (stableStringify_readsBack hp hv).of_eq (fun c hc => nomatch hc) hw
    (by rw [text, text, h])

end

end AccessKit.L1
