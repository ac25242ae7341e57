import AccessKit.L1Domain.Js

/-!
# `stableStringify` and SHA-256

packages/core/src/audit.ts:108-127: the text a record is hashed under. Object
keys are sorted by UTF-16 code units and properties whose value is
`undefined` are dropped; everything else is `JSON.stringify`. `none` is the
value `undefined` that `JSON.stringify(undefined)` returns; inside an array
`join` prints it as the empty string.
-/
namespace AccessKit.L1

/-- The UTF-16 code units of a string. -/
def utf16 (s : String) : List Nat :=
  s.toList.flatMap fun c =>
    if c.toNat < 0x10000 then [c.toNat]
    else [0xD800 + (c.toNat - 0x10000) / 0x400, 0xDC00 + (c.toNat - 0x10000) % 0x400]

def lexLe : List Nat → List Nat → Bool
  | [], _ => true
  | _ :: _, [] => false
  | a :: as, b :: bs => if a = b then lexLe as bs else decide (a < b)

/-- The order of `Array.prototype.sort` on strings. -/
def stringLe (a b : String) : Bool := lexLe (utf16 a) (utf16 b)

def hexDigit (n : Nat) : Char :=
  if n < 10 then Char.ofNat (48 + n) else Char.ofNat (87 + n)

/-- One character of a JSON string literal. -/
def quoteChar (c : Char) : List Char :=
  match c.toNat with
  | 0x22 => ['\\', '"']
  | 0x5C => ['\\', '\\']
  | 0x08 => ['\\', 'b']
  | 0x0C => ['\\', 'f']
  | 0x0A => ['\\', 'n']
  | 0x0D => ['\\', 'r']
  | 0x09 => ['\\', 't']
  | n =>
    if n < 0x20 then ['\\', 'u', '0', '0', hexDigit (n / 16), hexDigit (n % 16)]
    else [c]

/-- `JSON.stringify` of a string. -/
def quote (s : String) : String := String.ofList ('"' :: s.toList.flatMap quoteChar ++ ['"'])

/-- `JSON.stringify` of a number. -/
def stringifyNumber (H : Host) : JsNumber → String
  | .fin q => H.numberToString q
  | _ => "null"

/-- `parts.join(sep)` -/
def joinWith (sep : String) : List String → String
  | [] => ""
  | [s] => s
  | s :: t :: l => s ++ sep ++ joinWith sep (t :: l)

/-- Insert by key, after the keys that are not greater. -/
def insertKey (p : String × Option String) :
    List (String × Option String) → List (String × Option String)
  | [] => [p]
  | q :: l => if stringLe p.1 q.1 then p :: q :: l else q :: insertKey p l

def sortKeys (l : List (String × Option String)) : List (String × Option String) :=
  l.foldr insertKey []

/-- `{…}` over the properties that are not `undefined`, by key. -/
def renderFields (l : List (String × Option String)) : String :=
  let parts := (sortKeys l).filterMap fun p => p.2.map fun v => quote p.1 ++ ":" ++ v
  String.ofList ['\x7b'] ++ joinWith "," parts ++ String.ofList ['\x7d']

mutual

/-- mirrors packages/core/src/audit.ts:112-127 -/
def stableStringify (H : Host) : JsValue → Option String
  | .undefined => none
  | .null => some "null"
  | .bool b => some (if b then "true" else "false")
  | .num n => some (stringifyNumber H n)
  | .str s => some (quote s)
  | .arr items => some ("[" ++ joinWith "," (stringifyItems H items) ++ "]")
  | .obj fields => some (renderFields (stringifyFields H fields))

def stringifyItems (H : Host) : List JsValue → List String
  | [] => []
  | v :: l => (stableStringify H v).getD "" :: stringifyItems H l

def stringifyFields (H : Host) : List (String × JsValue) → List (String × Option String)
  | [] => []
  | (k, v) :: l => (k, stableStringify H v) :: stringifyFields H l

end

/-- `sha256(value)`; the hash of `undefined` throws in the source and is never
asked for.
mirrors packages/core/src/audit.ts:50-52 -/
def sha256 (H : Host) (v : JsValue) : String := H.sha256Hex ((stableStringify H v).getD "")

/-- `s.slice(0, n)` -/
def sliceTo (n : Nat) (s : String) : String := String.ofList (s.toList.take n)

end AccessKit.L1
