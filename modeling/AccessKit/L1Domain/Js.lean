import Mathlib.Data.Rat.Defs
import Mathlib.Algebra.Order.Ring.Unbundled.Rat
import Mathlib.Data.List.Sort

/-!
# The JavaScript values the sources compute with

`JsValue` is the `unknown` of a `JsonRecord`, `JsNumber` the numbers that can
stand in one (a finite number is its exact value, so `0` and `-0` are one
number, as `===` and `<=` see them). A record is the list of its properties
in insertion order.

`Host` collects what the language leaves to its environment: the lower case
of a non-ASCII string, the reading of a date that is not in the ECMAScript
date-time format, the printing of a number, and SHA-256. Everything below is
proved for every host. `Date.parse` is defined here on the ISO-8601 forms
whose meaning does not depend on the local time zone; the others (no offset,
or out of the format) go to the host. `none` is `NaN`.
-/
namespace AccessKit.L1

/-- A number. -/
inductive JsNumber
  | nan
  | inf (neg : Bool)
  | fin (q : Rat)
  deriving DecidableEq

namespace JsNumber

/-- `a === b` -/
def strictEq : JsNumber → JsNumber → Bool
  | .nan, _ => false
  | _, .nan => false
  | a, b => decide (a = b)

/-- `a <= b` -/
def le : JsNumber → JsNumber → Bool
  | .nan, _ => false
  | _, .nan => false
  | .inf true, _ => true
  | _, .inf false => true
  | .inf false, _ => false
  | _, .inf true => false
  | .fin p, .fin q => decide (p ≤ q)

/-- `a < b` and `a > b`, through `<=`. -/
def lt (a b : JsNumber) : Bool := le a b && !strictEq a b

end JsNumber

inductive JsValue
  | undefined
  | null
  | bool (b : Bool)
  | num (n : JsNumber)
  | str (s : String)
  | arr (items : List JsValue)
  | obj (fields : List (String × JsValue))

abbrev JsonRecord := List (String × JsValue)

namespace JsValue

/-- Induction over the items of arrays and the properties of objects. -/
theorem induction {P : JsValue → Prop} (undefined : P .undefined) (null : P .null)
    (bool : ∀ b, P (.bool b)) (num : ∀ n, P (.num n)) (str : ∀ s, P (.str s))
    (arr : ∀ items, (∀ v ∈ items, P v) → P (.arr items))
    (obj : ∀ fields, (∀ p ∈ fields, P p.2) → P (.obj fields)) : ∀ v, P v :=
  @JsValue.rec P (fun l => ∀ v ∈ l, P v) (fun l => ∀ p ∈ l, P p.2) (fun p => P p.2)
    undefined null bool num str arr obj (by simp) (fun _ _ hv hl => List.forall_mem_cons.2 ⟨hv, hl⟩)
    (by simp) (fun _ _ hp hl => List.forall_mem_cons.2 ⟨hp, hl⟩) (fun _ _ hv => hv)

/-- `typeof v` -/
def typeof : JsValue → String
  | .undefined => "undefined"
  | .null => "object"
  | .bool _ => "boolean"
  | .num _ => "number"
  | .str _ => "string"
  | .arr _ => "object"
  | .obj _ => "object"

/-- `a === b`. Two arrays or objects read from different places are different
references. -/
def strictEq : JsValue → JsValue → Bool
  | .undefined, .undefined => true
  | .null, .null => true
  | .bool a, .bool b => a == b
  | .num a, .num b => a.strictEq b
  | .str a, .str b => a == b
  | _, _ => false

def isUndefined : JsValue → Bool
  | .undefined => true
  | _ => false

def isNull : JsValue → Bool
  | .null => true
  | _ => false

end JsValue

namespace JsonRecord

/-- `record[key]` -/
def get (r : JsonRecord) (key : String) : JsValue :=
  match r.find? (fun p => p.1 == key) with
  | some p => p.2
  | none => .undefined

/-- `record[key] = v`: in place, or after the other properties. -/
def set (key : String) (v : JsValue) : JsonRecord → JsonRecord
  | [] => [(key, v)]
  | p :: r => if p.1 == key then (key, v) :: r else p :: set key v r

/-- `{ ...a, ...b }` -/
def spread (a b : JsonRecord) : JsonRecord := b.foldl (fun r p => set p.1 p.2 r) a

theorem get_set (r : JsonRecord) (key k : String) (v : JsValue) :
    get (set key v r) k = if key = k then v else get r k := by
  induction r with
  | nil => by_cases h : key = k <;> simp [set, get, h]
  | cons p r ih =>
    unfold get at ih ⊢
    by_cases hp : p.1 = key
    · by_cases h : key = k
      · simp [set, hp, h]
      · simp [set, hp, h]
    · by_cases h : p.1 = k
      · have : key ≠ k := fun he => hp (h.trans he.symm)
        simp [set, h, this]
        rw [if_neg (fun he => this he.symm)]
        simp [h]
      · simp only [set, beq_iff_eq, hp, if_false, List.find?_cons]
        simp only [beq_eq_false_iff_ne.2 h]
        exact ih

end JsonRecord

/-- A string that is there and not empty: what a bare `if (s)` tests. -/
def truthy : Option String → Option String
  | some s => if s = "" then none else some s
  | none => none

theorem truthy_eq_some {o : Option String} {s : String} :
    truthy o = some s ↔ o = some s ∧ s ≠ "" := by
  cases o with
  | none => simp [truthy]
  | some t =>
    by_cases ht : t = ""
    · subst ht
      simp only [truthy, if_pos, Option.some.injEq]
      exact ⟨nofun, fun h => absurd h.1.symm h.2⟩
    · simp only [truthy, if_neg ht, Option.some.injEq]
      exact ⟨fun h => ⟨h, h ▸ ht⟩, fun h => h.1⟩

structure Host where
  lowerUnicode : String → String
  dateLegacy : String → Option Int
  numberToString : Rat → String
  sha256Hex : String → String

/-! ## Lower case -/

/-- `s.toLowerCase()`: letter by letter on an ASCII string. -/
def toLowerCase (H : Host) (s : String) : String :=
  if s.toList.all fun c => c.toNat < 128 then String.ofList (s.toList.map Char.toLower)
  else H.lowerUnicode s

/-! ## Dates -/

/-- Days from 1970-01-01 in the proleptic Gregorian calendar. -/
def daysFromCivil (y : Int) (m d : Nat) : Int :=
  let y' : Int := if m ≤ 2 then y - 1 else y
  let era : Int := y' / 400
  let yoe : Int := y' - era * 400
  let doy : Int := ((153 * ((m + 9) % 12) + 2) / 5 + d - 1 : Nat)
  era * 146097 + (yoe * 365 + yoe / 4 - yoe / 100 + doy) - 719468

def isLeap (y : Int) : Bool := y % 4 = 0 ∧ (y % 100 ≠ 0 ∨ y % 400 = 0)

def daysInMonth (y : Int) (m : Nat) : Nat :=
  match m with
  | 2 => if isLeap y then 29 else 28
  | 4 | 6 | 9 | 11 => 30
  | _ => 31

/-- Exactly `n` decimal digits. -/
def takeDigits : Nat → Nat → List Char → Option (Nat × List Char)
  | 0, acc, cs => some (acc, cs)
  | n + 1, acc, c :: cs =>
    if c.isDigit then takeDigits n (acc * 10 + (c.toNat - 48)) cs else none
  | _ + 1, _, [] => none

/-- `YYYY`, or a sign and six digits; the year `-000000` does not exist. -/
def parseYear : List Char → Option (Int × List Char)
  | '+' :: cs => (takeDigits 6 0 cs).map fun p => ((p.1 : Int), p.2)
  | '-' :: cs =>
    match takeDigits 6 0 cs with
    | some (0, _) => none
    | some (y, rest) => some (-(y : Int), rest)
    | none => none
  | cs => (takeDigits 4 0 cs).map fun p => ((p.1 : Int), p.2)

/-- `-MM` and `-DD`, each 1 when left out. -/
def parseMonthDay (y : Int) : List Char → Option (Nat × Nat × List Char)
  | '-' :: cs =>
    match takeDigits 2 0 cs with
    | none => none
    | some (m, rest) =>
      if m < 1 ∨ 12 < m then none
      else
        match rest with
        | '-' :: cs' =>
          match takeDigits 2 0 cs' with
          | none => none
          | some (d, rest') => if d < 1 ∨ daysInMonth y m < d then none else some (m, d, rest')
        | _ => some (m, 1, rest)
  | cs => some (1, 1, cs)

/-- `HH:mm`, `HH:mm:ss` or `HH:mm:ss.sss`, in milliseconds. -/
def parseTime (cs : List Char) : Option (Nat × List Char) :=
  match takeDigits 2 0 cs with
  | some (h, ':' :: cs) =>
    match takeDigits 2 0 cs with
    | none => none
    | some (mi, rest) =>
      let secs : Option (Nat × Nat × List Char) :=
        match rest with
        | ':' :: cs =>
          match takeDigits 2 0 cs with
          | some (s, '.' :: cs) => (takeDigits 3 0 cs).map fun p => (s, p.1, p.2)
          | some (s, rest) => some (s, 0, rest)
          | none => none
        | _ => some (0, 0, rest)
      match secs with
      | none => none
      | some (s, ms, rest) =>
        if (h < 24 ∧ mi < 60 ∧ s < 60) ∨ (h = 24 ∧ mi = 0 ∧ s = 0 ∧ ms = 0) then
          some (((h * 60 + mi) * 60 + s) * 1000 + ms, rest)
        else none
  | _ => none

/-- `Z` or `±HH:mm` up to the end of the string, in milliseconds. -/
def parseOffset : List Char → Option Int
  | ['Z'] => some 0
  | c :: cs =>
    if c = '+' ∨ c = '-' then
      match takeDigits 2 0 cs with
      | some (h, ':' :: cs) =>
        match takeDigits 2 0 cs with
        | some (mi, []) =>
          if h < 24 ∧ mi < 60 then
            some (if c = '-' then -(((h * 60 + mi) * 60000 : Nat) : Int)
              else (((h * 60 + mi) * 60000 : Nat) : Int))
          else none
        | _ => none
      | _ => none
    else none
  | [] => none

/-- The forms of the date-time format that name an instant by themselves. -/
def parseIso (cs : List Char) : Option Int :=
  match parseYear cs with
  | none => none
  | some (y, cs) =>
    match parseMonthDay y cs with
    | none => none
    | some (m, d, cs) =>
      match cs with
      | [] => some (daysFromCivil y m d * 86400000)
      | 'T' :: cs =>
        match parseTime cs with
        | none => none
        | some (t, cs) => (parseOffset cs).map fun o => daysFromCivil y m d * 86400000 + t - o
      | _ => none

/-- The largest time value, 100 million days from the epoch. -/
def maxTime : Int := 8640000000000000

/-- `Date.parse(s)`; `none` is `NaN`. -/
def dateParse (H : Host) (s : String) : Option Int :=
  match parseIso s.toList with
  | some t => if -maxTime ≤ t ∧ t ≤ maxTime then some t else none
  | none => H.dateLegacy s

/-- `a > b` on time values: false when either is `NaN`. -/
def gtMs : Option Int → Option Int → Bool
  | some a, some b => decide (b < a)
  | _, _ => false

/-- `a <= b` on time values: false when either is `NaN`. -/
def leMs : Option Int → Option Int → Bool
  | some a, some b => decide (a ≤ b)
  | _, _ => false

end AccessKit.L1
