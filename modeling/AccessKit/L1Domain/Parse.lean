import Mathlib.Data.List.TakeWhile
import AccessKit.L1Domain.SameText

/-!
# `JSON.parse`

The reader of the language, on the forms `stableStringify` writes and all others of the
grammar: white space between tokens, every escape, surrogate pairs. What it makes of the text
of a number is left to the environment, as the printing of one is. A text that names a lone
surrogate has no `String` and is refused here.

Results:
* `parseString_quote`: a string literal is read back.
* `parseValue_text`: the text of a value is read back, whatever follows it.
* `parse_stableStringify`: what is read is the same JSON as what was written.
-/
namespace AccessKit.L1
open AccessKit.Core

/-- The language reads back the numbers that it prints. -/
structure ReadsNumbers (H : Host) (readNumber : String → Option Rat) : Prop where
  reads : ∀ q, readNumber (H.numberToString q) = some q

/-! ## Tokens -/

def isSpace (c : Char) : Bool := c = ' ' || c = '\t' || c = '\n' || c = '\r'

def skipSpace (cs : List Char) : List Char := cs.dropWhile isSpace

/-- One hexadecimal digit. -/
def readHex (c : Char) : Option Nat :=
  if c.isDigit then some (c.toNat - 48)
  else if 97 ≤ c.toNat ∧ c.toNat ≤ 102 then some (c.toNat - 87)
  else if 65 ≤ c.toNat ∧ c.toNat ≤ 70 then some (c.toNat - 55)
  else none

/-- The code unit of `\u` and four digits. -/
def readUnit (a b c d : Char) : Option Nat := do
  let a ← readHex a
  let b ← readHex b
  let c ← readHex c
  let d ← readHex d
  return ((a * 16 + b) * 16 + c) * 16 + d

/-- What `\` and a character stand for, `\u` apart. -/
def readEscape (c : Char) : Option Nat :=
  if c = 'b' then some 0x08
  else if c = 'f' then some 0x0C
  else if c = 'n' then some 0x0A
  else if c = 'r' then some 0x0D
  else if c = 't' then some 0x09
  else if c = '"' ∨ c = '\\' ∨ c = '/' then some c.toNat
  else none

/-- The code units of a literal up to its closing quotation mark. -/
def readUnits : List Char → Option (List Nat × List Char)
  | '"' :: rest => some ([], rest)
  | '\\' :: 'u' :: a :: b :: c :: d :: rest =>
    (readUnit a b c d).bind fun u => (readUnits rest).map fun p => (u :: p.1, p.2)
  | '\\' :: c :: rest =>
    (readEscape c).bind fun u => (readUnits rest).map fun p => (u :: p.1, p.2)
  | c :: rest =>
    if c.toNat < 0x20 then none else (readUnits rest).map fun p => (units c ++ p.1, p.2)
  | [] => none

/-- The characters of code units. -/
def decodeUnits : List Nat → Option (List Char)
  | [] => some []
  | u :: us =>
    if u < 0xD800 ∨ 0xDFFF < u then (decodeUnits us).map (Char.ofNat u :: ·)
    else
      match us with
      | [] => none
      | v :: us =>
        if u < 0xDC00 ∧ 0xDC00 ≤ v ∧ v ≤ 0xDFFF then
          (decodeUnits us).map
            (Char.ofNat (0x10000 + (u - 0xD800) * 0x400 + (v - 0xDC00)) :: ·)
        else none

/-- The rest of a string literal. -/
def parseString (cs : List Char) : Option (String × List Char) := do
  let (us, rest) ← readUnits cs
  let s ← decodeUnits us
  return (String.ofList s, rest)

/-! ## Values -/

/-- Values with commas between them up to a closing mark. -/
def parseList {α : Type} (parse : List Char → Option (α × List Char)) (close : Char) :
    Nat → List Char → Option (List α × List Char)
  | 0, _ => none
  | n + 1, cs =>
    match parse cs with
    | none => none
    | some (a, rest) =>
      match skipSpace rest with
      | [] => none
      | c :: rest =>
        if c = ',' then (parseList parse close n rest).map fun p => (a :: p.1, p.2)
        else if c = close then some ([a], rest)
        else none

/-- A property. -/
def parseField (parse : List Char → Option (JsValue × List Char)) (cs : List Char) :
    Option ((String × JsValue) × List Char) :=
  match skipSpace cs with
  | '"' :: cs =>
    match parseString cs with
    | none => none
    | some (key, cs) =>
      match skipSpace cs with
      | ':' :: cs => (parse cs).map fun p => ((key, p.1), p.2)
      | _ => none
  | _ => none

/-- What numbers may be written in. -/
def isLiteralChar (c : Char) : Bool := isNumberChar c || c = 'E'

section
variable (readNumber : String → Option Rat)

/-- The run of characters that a number is written in. -/
def parseNumber (cs : List Char) : Option (JsValue × List Char) :=
  (readNumber (String.ofList (cs.takeWhile isLiteralChar))).map fun q =>
    (.num (.fin q), cs.dropWhile isLiteralChar)

/-- A value and what follows it; `n` bounds how deep values nest. -/
def parseValue : Nat → List Char → Option (JsValue × List Char)
  | 0, _ => none
  | n + 1, cs =>
    match skipSpace cs with
    | 'n' :: 'u' :: 'l' :: 'l' :: rest => some (.null, rest)
    | 't' :: 'r' :: 'u' :: 'e' :: rest => some (.bool true, rest)
    | 'f' :: 'a' :: 'l' :: 's' :: 'e' :: rest => some (.bool false, rest)
    | '"' :: rest => (parseString rest).map fun p => (.str p.1, p.2)
    | '[' :: rest =>
      match skipSpace rest with
      | ']' :: rest => some (.arr [], rest)
      | _ => (parseList (parseValue n) ']' rest.length rest).map fun p => (.arr p.1, p.2)
    | '\x7b' :: rest =>
      match skipSpace rest with
      | '\x7d' :: rest => some (.obj [], rest)
      | _ => (parseList (parseField (parseValue n)) '\x7d' rest.length rest).map fun p =>
        (.obj (JsonRecord.spread [] p.1), p.2)
    | rest => parseNumber readNumber rest

/-- `JSON.parse(text)`; `none` is the `SyntaxError`. -/
def jsonParse (text : String) : Option JsValue :=
  match parseValue readNumber (text.toList.length + 1) text.toList with
  | none => none
  | some (v, rest) => if skipSpace rest = [] then some v else none

end

/-! ## Reading strings back -/

theorem readHex_hexDigit : ∀ m < 16, readHex (hexDigit m) = some m := by decide

theorem units_of_lt {c : Char} (h : c.toNat < 0x10000) : units c = [c.toNat] := if_pos h

theorem readUnits_plain {c : Char} (hquote : c ≠ '"') (hslash : c ≠ '\\') (hc : 0x20 ≤ c.toNat)
    (rest : List Char) :
    readUnits (c :: rest) = (readUnits rest).map fun p => (units c ++ p.1, p.2) := by
  rw [readUnits.eq_def]
  split
  · simp_all
  · simp_all
  · simp_all
  · rename_i h
    cases h
    exact if_neg (by omega)
  · simp_all

/-- **One character** of a literal is read back. -/
theorem readUnits_quoteChar (c : Char) (rest : List Char) :
    readUnits (quoteChar c ++ rest) = (readUnits rest).map fun p => (units c ++ p.1, p.2) := by
  unfold quoteChar
  split
  case h_8 hquote hslash _ _ _ _ _ =>
    split
    case isTrue hlt =>
      have hunit : readUnit '0' '0' (hexDigit (c.toNat / 16)) (hexDigit (c.toNat % 16)) =
          some c.toNat := by
        have hzero : readHex '0' = some 0 := by decide
        simp only [readUnit, hzero, readHex_hexDigit _ (show c.toNat / 16 < 16 by omega),
          readHex_hexDigit _ (Nat.mod_lt _ (by decide : 0 < 16)), Option.bind_eq_bind,
          Option.bind_some, Option.pure_def, Option.some.injEq]
        omega
      simp [readUnits, hunit, units_of_lt (show c.toNat < 0x10000 by omega)]
    case isFalse hlt =>
      exact readUnits_plain (fun h => hquote (by rw [h]; rfl)) (fun h => hslash (by rw [h]; rfl))
        (by omega) rest
  all_goals
    rename_i hn
    rw [units_of_lt (by omega), hn]
    simp [readUnits, readEscape]

/-- **The characters** of code units are those that have them. -/
theorem decodeUnits_units (c : Char) (us : List Nat) :
    decodeUnits (units c ++ us) = (decodeUnits us).map (c :: ·) := by
  have hc := not_surrogate c
  have hof : Char.ofNat c.toNat = c := Char.ofNat_toNat c
  unfold units
  split
  · rw [List.cons_append, List.nil_append, decodeUnits.eq_def]
    simp only [hof]
    exact if_pos (by omega)
  · rw [List.cons_append, List.cons_append, List.nil_append, decodeUnits.eq_def]
    simp only
    rw [if_neg (by omega), if_pos (by omega)]
    have hcode : 0x10000 + (0xD800 + (c.toNat - 0x10000) / 0x400 - 0xD800) * 0x400 +
        (0xDC00 + (c.toNat - 0x10000) % 0x400 - 0xDC00) = c.toNat := by omega
    rw [hcode, hof]

theorem readUnits_literal (s rest : List Char) :
    readUnits (s.flatMap quoteChar ++ '"' :: rest) = some (s.flatMap units, rest) := by
  induction s with
  | nil => rfl
  | cons c s ih =>
    rw [List.flatMap_cons, List.append_assoc, readUnits_quoteChar, ih]
    rfl

theorem decodeUnits_flatMap (s : List Char) : decodeUnits (s.flatMap units) = some s := by
  induction s with
  | nil => rfl
  | cons c s ih =>
    rw [List.flatMap_cons, decodeUnits_units, ih]
    rfl

/-- **A string literal is read back.** -/
theorem parseString_quote (s : String) (rest : List Char) :
    ∃ cs, (quote s).toList ++ rest = '"' :: cs ∧ parseString cs = some (s, rest) := by
  refine ⟨s.toList.flatMap quoteChar ++ '"' :: rest, by simp [quote_toList], ?_⟩
  simp [parseString, readUnits_literal, decodeUnits_flatMap]

/-! ## Reading values back -/

/-- What may follow a value: nothing that continues a number. -/
def Follows (rest : List Char) : Prop := ∀ c ∈ rest.head?, isLiteralChar c = false

theorem follows_cons {c : Char} {rest : List Char} (h : isLiteralChar c = false) :
    Follows (c :: rest) := by
  intro d hd
  cases hd
  exact h

theorem skipSpace_cons {c : Char} {rest : List Char} (h : isSpace c = false) :
    skipSpace (c :: rest) = c :: rest :=
  List.dropWhile_cons_of_neg (by simp [h])

/-- **Lists are read back** when their values are. -/
theorem parseList_sepBy {α β : Type} {parse : List Char → Option (β × List Char)}
    {enc : α → List Char} {R : α → β → Prop} (close : Char) (hne : close ≠ ',')
    (hspace : isSpace close = false) (hliteral : isLiteralChar close = false) :
    ∀ {xs : List α}, xs ≠ [] →
      (∀ a ∈ xs, ∀ rest, Follows rest → ∃ b, parse (enc a ++ rest) = some (b, rest) ∧ R a b) →
      ∀ {n : Nat}, xs.length ≤ n → ∀ rest, ∃ ys,
        parseList parse close n (sepBy ',' enc xs ++ close :: rest) = some (ys, rest) ∧
          List.Forall₂ R xs ys := by
  intro xs
  induction xs with
  | nil => exact fun h => absurd rfl h
  | cons a xs ih =>
    intro _ hread n hn rest
    obtain ⟨ha, hrest⟩ := List.forall_mem_cons.1 hread
    cases n with
    | zero => simp at hn
    | succ n =>
      rw [sepBy_cons]
      cases xs with
      | nil =>
        obtain ⟨b, hb, hab⟩ := ha (close :: rest) (follows_cons hliteral)
        refine ⟨[b], ?_, .cons hab .nil⟩
        simp only [parseList, hb, skipSpace_cons hspace, hne, if_false, if_true]
      | cons a' xs =>
        obtain ⟨b, hb, hab⟩ := ha (',' :: (sepBy ',' enc (a' :: xs) ++ close :: rest))
          (follows_cons (by decide))
        obtain ⟨ys, hys, hall⟩ := ih (List.cons_ne_nil _ _) hrest (Nat.le_of_succ_le_succ hn) rest
        refine ⟨b :: ys, ?_, .cons hab hall⟩
        simp only [parseList, hb, skipSpace_cons (show isSpace ',' = false by decide), if_true, hys,
          Option.map_some]

theorem sepBy_length {α : Type} (enc : α → List Char) (xs : List α) :
    xs.length ≤ (sepBy ',' enc xs).length + 1 ∧
      ∀ a ∈ xs, (enc a).length ≤ (sepBy ',' enc xs).length := by
  induction xs with
  | nil => exact ⟨Nat.zero_le _, by simp⟩
  | cons a xs ih =>
    cases xs with
    | nil => simp [sepBy]
    | cons b xs =>
      obtain ⟨hlen, hmem⟩ := ih
      simp only [sepBy, List.length_append, List.length_cons] at hlen ⊢
      refine ⟨by omega, fun c hc => ?_⟩
      rcases List.mem_cons.1 hc with rfl | hc
      · omega
      · have := hmem c hc
        omega

theorem set_of_not_mem {key : String} {r : JsonRecord} (h : key ∉ r.map (·.1)) (v : JsValue) :
    JsonRecord.set key v r = r ++ [(key, v)] := by
  induction r with
  | nil => rfl
  | cons p r ih =>
    rw [List.map_cons, List.mem_cons, not_or] at h
    rw [JsonRecord.set, if_neg (by simpa using fun he => h.1 he.symm), ih h.2, List.cons_append]

theorem spread_of_nodup {l r : JsonRecord} (h : ((r ++ l).map (·.1)).Nodup) :
    JsonRecord.spread r l = r ++ l := by
  unfold JsonRecord.spread
  induction l generalizing r with
  | nil => rw [List.foldl_nil, List.append_nil]
  | cons p l ih =>
    have hp : p.1 ∉ r.map (·.1) := by
      rw [List.map_append, List.nodup_append] at h
      exact fun hm => h.2.2 _ hm _ List.mem_cons_self rfl
    rw [List.append_cons] at h
    rw [List.foldl_cons, set_of_not_mem hp, ih h, ← List.append_cons]

theorem keys_set (key : String) (v : JsValue) (r : JsonRecord) :
    (JsonRecord.set key v r).map (·.1) =
      if key ∈ r.map (·.1) then r.map (·.1) else r.map (·.1) ++ [key] := by
  induction r with
  | nil => simp [JsonRecord.set]
  | cons p r ih =>
    by_cases hp : p.1 = key
    · simp [JsonRecord.set, hp]
    · have hne : key ≠ p.1 := fun he => hp he.symm
      simp only [JsonRecord.set, beq_iff_eq, hp, if_false, List.map_cons, ih, List.mem_cons, hne,
        false_or]
      split <;> rfl

theorem mem_set {key : String} {v : JsValue} {r : JsonRecord} {p : String × JsValue}
    (h : p ∈ JsonRecord.set key v r) : p = (key, v) ∨ p ∈ r := by
  induction r with
  | nil => exact .inl (List.mem_singleton.1 h)
  | cons q r ih =>
    unfold JsonRecord.set at h
    split at h
    · exact (List.mem_cons.1 h).imp id (List.mem_cons_of_mem q)
    · rcases List.mem_cons.1 h with rfl | h
      · exact .inr List.mem_cons_self
      · exact (ih h).imp id (List.mem_cons_of_mem q)

theorem isJson_set {key : String} {v : JsValue} {r : JsonRecord} (hr : IsJson (.obj r))
    (hv : IsJson v) : IsJson (.obj (JsonRecord.set key v r)) := by
  cases hr with
  | obj hkeys hfields =>
    refine .obj ?_ fun p hp hne => ?_
    · rw [keys_set]
      split
      · exact hkeys
      · rename_i hnew
        exact List.nodup_append.2 ⟨hkeys, List.nodup_singleton _, fun a ha b hb he =>
          hnew (by rw [← List.mem_singleton.1 hb, ← he]; exact ha)⟩
    · rcases mem_set hp with rfl | hp
      · exact hv
      · exact hfields p hp hne

section
variable {H : Host} {readNumber : String → Option Rat}

theorem parseField_fieldText {parse : List Char → Option (JsValue × List Char)}
    {p : String × JsValue} {rest : List Char}
    (h : ∃ w, parse (text H p.2 ++ rest) = some (w, rest) ∧ SameJson p.2 w) :
    ∃ q, parseField parse (fieldText H p ++ rest) = some (q, rest) ∧
      p.1 = q.1 ∧ SameJson p.2 q.2 := by
  obtain ⟨w, hw, hsame⟩ := h
  obtain ⟨cs, hcs, hkey⟩ := parseString_quote p.1 (':' :: (text H p.2 ++ rest))
  refine ⟨(p.1, w), ?_, rfl, hsame⟩
  rw [fieldText, List.append_assoc, List.cons_append, hcs]
  simp only [parseField, skipSpace_cons (show isSpace '"' = false by decide), hkey,
    skipSpace_cons (show isSpace ':' = false by decide), hw, Option.map_some]

theorem isLiteralChar_of_number {c : Char} (h : isNumberChar c = true) :
    isLiteralChar c = true := by
  rw [isLiteralChar, h, Bool.true_or]

theorem parseValue_number {c : Char} (hc : isNumberChar c = true) (n : Nat) (cs : List Char) :
    parseValue readNumber (n + 1) (c :: cs) = parseNumber readNumber (c :: cs) := by
  have hspace : isSpace c = false := by
    by_contra h
    simp only [isSpace, Bool.not_eq_false, Bool.or_eq_true, decide_eq_true_eq] at h
    rcases h with ((rfl | rfl) | rfl) | rfl <;> revert hc <;> decide
  rw [parseValue, skipSpace_cons hspace]
  split <;> try rfl
  all_goals
    rename_i heq
    rw [(List.cons.inj heq).1] at hc
    exact absurd hc (by decide)

theorem keys_of_forall₂ {l l' : JsonRecord} {R : JsValue → JsValue → Prop}
    (h : List.Forall₂ (fun p q => p.1 = q.1 ∧ R p.2 q.2) l l') : l.map (·.1) = l'.map (·.1) := by
  induction h with
  | nil => rfl
  | cons hab _ ih => rw [List.map_cons, List.map_cons, hab.1, ih]

theorem Leads.not_space {v : JsValue} {c : Char} (h : Leads v c) : isSpace c = false := by
  by_contra hspace
  simp only [isSpace, Bool.not_eq_false, Bool.or_eq_true, decide_eq_true_eq] at hspace
  cases v with
  | bool b => cases b <;> rcases hspace with ((rfl | rfl) | rfl) | rfl <;> simp [Leads] at h
  | _ => rcases hspace with ((rfl | rfl) | rfl) | rfl <;> simp [Leads, isNumberChar] at h

/-- **The text of a value is read back**, whatever follows it. -/
theorem parseValue_text (hp : PrintsNumbers H) (hr : ReadsNumbers H readNumber) {v : JsValue}
    (hv : IsJson v) : ∀ n, (text H v).length < n → ∀ rest, Follows rest →
      ∃ w, parseValue readNumber n (text H v ++ rest) = some (w, rest) ∧ SameJson v w := by
  induction hv with
  | null =>
    rintro (_ | n) hn rest -
    · exact absurd hn (Nat.not_lt_zero _)
    · exact ⟨.null, by rw [text_null]; rfl, .null⟩
  | bool b =>
    rintro (_ | n) hn rest -
    · exact absurd hn (Nat.not_lt_zero _)
    · exact ⟨.bool b, by rw [text_bool]; cases b <;> rfl, .bool b⟩
  | num q =>
    rintro (_ | n) hn rest hrest
    · exact absurd hn (Nat.not_lt_zero _)
    refine ⟨.num (.fin q), ?_, .num _⟩
    have hchars : ∀ c ∈ (H.numberToString q).toList, isLiteralChar c = true := fun c hc =>
      isLiteralChar_of_number (hp.chars q c hc)
    obtain ⟨c, t, hc⟩ := List.exists_cons_of_ne_nil (hp.nonempty q)
    have hstop : rest.takeWhile isLiteralChar = [] ∧ rest.dropWhile isLiteralChar = rest := by
      cases rest with
      | nil => exact ⟨rfl, rfl⟩
      | cons d rest =>
        have hd := hrest d rfl
        exact ⟨List.takeWhile_cons_of_neg (by simp [hd]), List.dropWhile_cons_of_neg (by simp [hd])⟩
    rw [text_num, hc, List.cons_append, parseValue_number (hp.chars q c (by simp [hc])),
      ← List.cons_append, ← hc, parseNumber, List.takeWhile_append_of_pos hchars,
      List.dropWhile_append_of_pos hchars, hstop.1, hstop.2, List.append_nil, String.ofList_toList,
      hr.reads, Option.map_some]
  | str s =>
    rintro (_ | n) hn rest -
    · exact absurd hn (Nat.not_lt_zero _)
    obtain ⟨cs, hcs, hs⟩ := parseString_quote s rest
    refine ⟨.str s, ?_, .str s⟩
    rw [text_str, hcs]
    simp only [parseValue, skipSpace_cons (show isSpace '"' = false by decide), hs,
      Option.map_some]
  | @arr items hitems ih =>
    rintro (_ | n) hn rest -
    · exact absurd hn (Nat.not_lt_zero _)
    rw [text_arr] at hn ⊢
    cases items with
    | nil => exact ⟨.arr [], rfl, .arr .nil⟩
    | cons a items =>
      obtain ⟨hlen, hmem⟩ := sepBy_length (text H) (a :: items)
      simp only [List.length_cons, List.length_append, List.length_nil] at hn hlen
      obtain ⟨c, t, hc, hleads⟩ := text_leads hp (hitems a List.mem_cons_self)
      have hfit : (a :: items).length ≤
          (sepBy ',' (text H) (a :: items) ++ ']' :: rest).length := by
        simp only [List.length_append, List.length_cons]
        omega
      obtain ⟨ys, hys, hall⟩ := parseList_sepBy ']' (by decide) (by decide) (by decide)
        (List.cons_ne_nil a items)
        (fun v hv => ih v hv n (by have := hmem v hv; omega)) hfit rest
      refine ⟨.arr ys, ?_, .arr hall⟩
      obtain ⟨t', ht'⟩ : ∃ t', sepBy ',' (text H) (a :: items) ++ ']' :: rest = c :: t' :=
        ⟨_, by rw [sepBy_cons, hc, List.cons_append]⟩
      rw [ht'] at hys
      rw [List.cons_append, List.append_assoc, List.cons_append, List.nil_append, ht', parseValue,
        skipSpace_cons (by decide)]
      simp only [skipSpace_cons hleads.not_space]
      split
      · rename_i heq
        exact absurd (List.cons.inj heq).1 hleads.not_close
      · rw [hys, Option.map_some]
  | @obj fields hkeys hfields ih =>
    rintro (_ | n) hn rest -
    · exact absurd hn (Nat.not_lt_zero _)
    obtain ⟨l, hperm, htext⟩ := text_obj (H := H) fields
    rw [htext] at hn ⊢
    cases l with
    | nil =>
      refine ⟨.obj [], rfl, ?_⟩
      exact sameJson_obj hkeys List.nodup_nil hperm .nil .nil
    | cons p l =>
      obtain ⟨hlen, hmem⟩ := sepBy_length (fieldText H) (p :: l)
      simp only [List.length_cons, List.length_append, List.length_nil] at hn hlen
      have hread : ∀ q ∈ p :: l, ∀ rest, Follows rest →
          ∃ b, parseField (parseValue readNumber n) (fieldText H q ++ rest) = some (b, rest) ∧
            q.1 = b.1 ∧ SameJson q.2 b.2 := by
        intro q hq rest hrest
        obtain ⟨hm, hne⟩ := (mem_defined hperm).1 hq
        have hshort := hmem q hq
        simp only [fieldText, List.length_append, List.length_cons] at hshort
        exact parseField_fieldText (ih q hm hne n (by omega) rest hrest)
      have hfit : (p :: l).length ≤
          (sepBy ',' (fieldText H) (p :: l) ++ '\x7d' :: rest).length := by
        simp only [List.length_append, List.length_cons]
        omega
      obtain ⟨ys, hys, hall⟩ := parseList_sepBy '\x7d' (by decide) (by decide) (by decide)
        (List.cons_ne_nil p l) hread hfit rest
      -- the properties that are read have the keys that were written
      have hnodup : (ys.map (·.1)).Nodup := by
        rw [← keys_of_forall₂ hall]
        exact (hperm.map _).nodup_iff.2 ((List.filter_sublist.map _).nodup hkeys)
      have hdefined : ys.filter (fun q => !q.2.isUndefined) = ys := by
        refine List.filter_eq_self.2 fun q hq => ?_
        obtain ⟨a, ha, -, hsame⟩ := forall₂_exists_right hall.flip hq
        obtain ⟨hm, hne⟩ := (mem_defined hperm).1 ha
        cases hu : q.2 with
        | undefined => exact absurd (hu ▸ hsame).symm.undefined_left hne
        | _ => rfl
      refine ⟨.obj (JsonRecord.spread [] ys), ?_, ?_⟩
      · obtain ⟨t', ht'⟩ : ∃ t',
            sepBy ',' (fieldText H) (p :: l) ++ '\x7d' :: rest = '"' :: t' :=
          ⟨_, by rw [sepBy_cons, fieldText, quote_toList, List.cons_append, List.cons_append]⟩
        rw [ht'] at hys
        rw [List.cons_append, List.append_assoc, List.cons_append, List.nil_append, ht',
          parseValue, skipSpace_cons (by decide)]
        simp only [skipSpace_cons (show isSpace '"' = false by decide)]
        rw [hys, Option.map_some]
        rfl
      · rw [spread_of_nodup (r := []) hnodup, List.nil_append]
        exact sameJson_obj hkeys hnodup hperm (by rw [hdefined]) hall

/-- **What is read** is the same JSON as what was written, also when white space follows. -/
theorem parse_stableStringify (hp : PrintsNumbers H) (hr : ReadsNumbers H readNumber)
    {v : JsValue} (hv : IsJson v) (tail : String)
    (htail : ∀ c ∈ tail.toList, isSpace c = true) :
    ∃ s w, stableStringify H v = some s ∧ jsonParse readNumber (s ++ tail) = some w ∧
      SameJson v w := by
  cases hs : stableStringify H v with
  | none =>
    rw [stableStringify_eq_none.1 hs] at hv
    cases hv
  | some s =>
    have htext : text H v = s.toList := by rw [text, hs, Option.getD_some]
    have hfollows : Follows tail.toList := fun c hc => by
      have hspace := htail c (List.mem_of_mem_head? hc)
      simp only [isSpace, Bool.or_eq_true, decide_eq_true_eq] at hspace
      rcases hspace with ((rfl | rfl) | rfl) | rfl <;> decide
    obtain ⟨w, hw, hsame⟩ := parseValue_text hp hr hv ((s ++ tail).toList.length + 1)
      (by rw [htext, String.toList_append, List.length_append]; omega) _ hfollows
    refine ⟨s, w, rfl, ?_, hsame⟩
    rw [htext, ← String.toList_append] at hw
    rw [jsonParse, hw]
    exact if_pos (List.dropWhile_eq_nil_iff.2 htail)

end

end AccessKit.L1
