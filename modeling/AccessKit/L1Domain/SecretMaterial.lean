import AccessKit.Core.Regex
import AccessKit.L1Domain.Js

/-!
# What looks like secret material

packages/core/src/secret-material-heuristics.ts (keys) and
packages/core/src/reference-audit-utils.ts:144-150 (strings). Letters are
compared without case where the source has the flag `i`: without the flag `u`
no letter outside of ASCII is read as one of ASCII.

Results:
* `isSensitiveString_eq_false`: a string of letters that do not make up any word
  of the patterns is not sensitive; hashes and times are such.
-/
namespace AccessKit.L1
open AccessKit.Core

/-! ## Keys -/

/-- `\s` -/
def isJsSpace (c : Char) : Bool :=
  c.toNat ∈ [0x09, 0x0A, 0x0B, 0x0C, 0x0D, 0x20, 0xA0, 0x1680, 0x2028, 0x2029, 0x202F, 0x205F,
    0x3000, 0xFEFF] || (0x2000 ≤ c.toNat && c.toNat ≤ 0x200A)

/-- `SENSITIVE_KEY_PATTERN` -/
def sensitiveKeyParts : List String :=
  ["secret", "token", "password", "credential", "accesskey", "privatekey", "signingkey", "hmackey",
   "encryptionkey"]

/-- `SENSITIVE_KEY_NAMES` -/
def sensitiveKeyNames : List String :=
  ["accesskey", "accesstoken", "apikey", "apisecret", "apitoken", "authtoken", "authorization",
   "bearertoken", "clientkey", "clientsecret", "cookie", "idtoken", "refreshtoken", "sessiontoken",
   "setcookie", "token", "tokenmaterial", "tokenvalue", "xapikey"]

/-- `s.includes(part)` -/
def includes (part : List Char) : List Char → Bool
  | [] => part.isEmpty
  | c :: s => part.isPrefixOf (c :: s) || includes part s

/-- mirrors packages/core/src/secret-material-heuristics.ts:25-29 -/
def isSecretMaterialSensitiveKey (H : Host) (key : String) : Bool :=
  let normalized := toLowerCase H
    (String.ofList (key.toList.filter fun c => !(c == '-' || c == '_' || isJsSpace c)))
  sensitiveKeyParts.any (fun part => includes part.toList normalized.toList) ||
    sensitiveKeyNames.contains normalized

theorem sensitiveKey_ascii {key : String} (h : key.toList.all (·.toNat < 128) = true)
    (H H' : Host) : isSecretMaterialSensitiveKey H key = isSecretMaterialSensitiveKey H' key := by
  have hascii : (String.ofList (key.toList.filter fun c =>
      !(c == '-' || c == '_' || isJsSpace c))).toList.all (fun c => c.toNat < 128) = true := by
    rw [String.toList_ofList, List.all_eq_true] at *
    exact fun c hc => h c (List.mem_of_mem_filter hc)
  simp only [isSecretMaterialSensitiveKey, toLowerCase, hascii, if_true]

/-! ### Letter by letter -/

/-- The letters of `sensitiveKeyParts`. -/
def sensitiveKeyPartLetters : List (List Char) :=
  [['s', 'e', 'c', 'r', 'e', 't'],
    ['t', 'o', 'k', 'e', 'n'],
    ['p', 'a', 's', 's', 'w', 'o', 'r', 'd'],
    ['c', 'r', 'e', 'd', 'e', 'n', 't', 'i', 'a', 'l'],
    ['a', 'c', 'c', 'e', 's', 's', 'k', 'e', 'y'],
    ['p', 'r', 'i', 'v', 'a', 't', 'e', 'k', 'e', 'y'],
    ['s', 'i', 'g', 'n', 'i', 'n', 'g', 'k', 'e', 'y'],
    ['h', 'm', 'a', 'c', 'k', 'e', 'y'],
    ['e', 'n', 'c', 'r', 'y', 'p', 't', 'i', 'o', 'n', 'k', 'e', 'y']]

/-- The letters of `sensitiveKeyNames`. -/
def sensitiveKeyNameLetters : List (List Char) :=
  [['a', 'c', 'c', 'e', 's', 's', 'k', 'e', 'y'],
    ['a', 'c', 'c', 'e', 's', 's', 't', 'o', 'k', 'e', 'n'],
    ['a', 'p', 'i', 'k', 'e', 'y'],
    ['a', 'p', 'i', 's', 'e', 'c', 'r', 'e', 't'],
    ['a', 'p', 'i', 't', 'o', 'k', 'e', 'n'],
    ['a', 'u', 't', 'h', 't', 'o', 'k', 'e', 'n'],
    ['a', 'u', 't', 'h', 'o', 'r', 'i', 'z', 'a', 't', 'i', 'o', 'n'],
    ['b', 'e', 'a', 'r', 'e', 'r', 't', 'o', 'k', 'e', 'n'],
    ['c', 'l', 'i', 'e', 'n', 't', 'k', 'e', 'y'],
    ['c', 'l', 'i', 'e', 'n', 't', 's', 'e', 'c', 'r', 'e', 't'],
    ['c', 'o', 'o', 'k', 'i', 'e'],
    ['i', 'd', 't', 'o', 'k', 'e', 'n'],
    ['r', 'e', 'f', 'r', 'e', 's', 'h', 't', 'o', 'k', 'e', 'n'],
    ['s', 'e', 's', 's', 'i', 'o', 'n', 't', 'o', 'k', 'e', 'n'],
    ['s', 'e', 't', 'c', 'o', 'o', 'k', 'i', 'e'],
    ['t', 'o', 'k', 'e', 'n'],
    ['t', 'o', 'k', 'e', 'n', 'm', 'a', 't', 'e', 'r', 'i', 'a', 'l'],
    ['t', 'o', 'k', 'e', 'n', 'v', 'a', 'l', 'u', 'e'],
    ['x', 'a', 'p', 'i', 'k', 'e', 'y']]

/-- The letters of a key, in lower case. -/
def sensitiveLetters (key : List Char) : Bool :=
  let normalized := (key.filter fun c => !(c == '-' || c == '_' || isJsSpace c)).map Char.toLower
  sensitiveKeyPartLetters.any (includes · normalized) ||
    sensitiveKeyNameLetters.contains normalized

theorem contains_toList (names : List String) (cs : List Char) :
    names.contains (String.ofList cs) = (names.map String.toList).contains cs := by
  rw [Bool.eq_iff_iff, List.contains_iff_mem, List.contains_iff_mem, List.mem_map]
  constructor
  · exact fun h => ⟨_, h, String.toList_ofList⟩
  · rintro ⟨name, hname, rfl⟩
    rwa [String.ofList_toList]

/-- **A key of ASCII letters** is judged letter by letter. -/
theorem sensitiveKey_letters {key : String} (h : key.toList.all (·.toNat < 128) = true)
    (H : Host) : isSecretMaterialSensitiveKey H key = sensitiveLetters key.toList := by
  have hparts : sensitiveKeyParts.map String.toList = sensitiveKeyPartLetters := by decide
  have hnames : sensitiveKeyNames.map String.toList = sensitiveKeyNameLetters := by decide
  have hascii : (key.toList.filter fun c => !(c == '-' || c == '_' || isJsSpace c)).all
      (fun c => c.toNat < 128) = true := by
    rw [List.all_eq_true] at *
    exact fun c hc => h c (List.mem_of_mem_filter hc)
  unfold isSecretMaterialSensitiveKey sensitiveLetters toLowerCase
  simp only [String.toList_ofList, hascii, if_true]
  rw [← hparts, ← hnames, contains_toList, List.any_map]
  rfl

/-! ## Strings -/

open Regex in
section

def isWordChar (c : Char) : Bool := c.isAlphanum || c == '_'

/-- `\b` -/
def wordEdge : Regex := .edge isWordChar

/-- A letter in either case. -/
def anyCase (d c : Char) : Bool := c == d || c == d.toUpper

def exact (d c : Char) : Bool := c == d

/-- A word in any case, given in lower case. -/
def caseless (w : String) : Regex := word anyCase w.toList

/-- `[marks]` next to letters and digits. -/
def alphanumOr (marks : List Char) : Regex := .one fun c => c.isAlphanum || marks.contains c

def oneOf (cs : List Char) : Regex := .one cs.contains

def space : Regex := .one isJsSpace

/-- `first[_-]?second` -/
def hyphened (first second : String) : Regex :=
  concat [caseless first, opt (oneOf ['_', '-']), caseless second]

def authorizationSchemes : List Regex :=
  [concat [caseless "bearer", plus space, atLeast 8 (alphanumOr ['.', '_', '~', '+', '/', '=', '-'])],
   concat [caseless "basic", plus space, atLeast 12 (alphanumOr ['+', '/', '='])]]

def authorizationScheme : Regex := concat [wordEdge, anyOf authorizationSchemes, wordEdge]

def secretNames : List Regex :=
  [hyphened "access" "token", hyphened "refresh" "token", hyphened "id" "token",
   hyphened "api" "key", hyphened "api" "token", hyphened "auth" "token", caseless "authorization",
   hyphened "bearer" "token",
   concat [caseless "client", opt (oneOf ['_', '-']), anyOf [caseless "key", caseless "secret"]],
   caseless "credential", caseless "password", caseless "secret", hyphened "session" "token",
   caseless "token",
   concat [caseless "x", opt (oneOf ['_', '-']), caseless "api", opt (oneOf ['_', '-']),
     caseless "key"]]

def secretAssignment : Regex :=
  concat [anyOf [.start, .one fun c => isJsSpace c || ['?', '&', '\x7b', ',', ';', '"', '\''].contains c],
    anyOf secretNames, wordEdge, opt (oneOf ['"', '\'']), .star space, oneOf [':', '=']]

def providerKeys : List Regex :=
  [concat [caseless "sk-", atLeast 12 (alphanumOr ['_', '-'])],
   concat [caseless "xox", .one fun c => ['b', 'a', 'p', 'r', 's'].any (anyCase · c), caseless "-",
     atLeast 12 (alphanumOr ['-'])],
   concat [caseless "gh", .one fun c => ['p', 'o', 'u', 's', 'r'].any (anyCase · c), caseless "_",
     atLeast 16 (alphanumOr ['_'])],
   concat [caseless "github_pat_", atLeast 16 (alphanumOr ['_'])],
   concat [caseless "glpat-", atLeast 16 (alphanumOr ['_', '-'])],
   concat [caseless "akia", exactly (.one Char.isAlphanum) 16]]

def providerKey : Regex := concat [wordEdge, anyOf providerKeys, wordEdge]

def webToken : Regex :=
  let part := atLeast 10 (alphanumOr ['_', '-'])
  concat [wordEdge, word exact ['e', 'y', 'J'], part, word exact ['.'], part, word exact ['.'], part,
    wordEdge]

def privateKeyBlock : Regex :=
  concat [word exact "-----BEGIN ".toList, opt (plus (.one fun c => c.isUpper || c == ' ')),
    word exact "PRIVATE KEY-----".toList]

/-- mirrors packages/core/src/reference-audit-utils.ts:144-150 -/
def isSensitiveString (value : String) : Bool :=
  [authorizationScheme, secretAssignment, providerKey, webToken, privateKeyBlock].any fun r =>
    test r value.toList

/-! ## Strings that are not sensitive -/

/-- Words in any case of which most patterns need one. -/
def caselessWords : List String :=
  ["token", "key", "authorization", "client", "credential", "password", "secret", "api", "sk-",
   "xox", "_", "github_pat_", "glpat-", "akia"]

/-- Words as they stand of which the other patterns need one. -/
def exactWords : List String := ["eyJ", "PRIVATE KEY-----"]

/-- Letters without a blank that do not make up any of the words. -/
structure Harmless (letters : List Char) : Prop where
  blanks : ∀ c ∈ letters, isJsSpace c = false
  caseless : ∀ w ∈ caselessWords, ∃ d ∈ w.toList, d ∉ letters ∧ d.toUpper ∉ letters
  exact : ∀ w ∈ exactWords, ∃ d ∈ w.toList, d ∉ letters

section
variable {letters : List Char} (hl : Harmless letters)
include hl

theorem needs_space : Needs (· ∉ letters) space := by
  refine needs_one fun c hc hin => ?_
  rw [hl.blanks c hin] at hc
  cases hc

theorem needs_caseless {w : String} (hw : w ∈ caselessWords) : Needs (· ∉ letters) (caseless w) := by
  obtain ⟨d, hd, hlower, hupper⟩ := hl.caseless w hw
  refine needs_word hd fun c hc => ?_
  simp only [anyCase, Bool.or_eq_true, beq_iff_eq] at hc
  rcases hc with rfl | rfl
  · exact hlower
  · exact hupper

theorem needs_exact {w : String} (hw : w ∈ exactWords) :
    Needs (· ∉ letters) (word exact w.toList) := by
  obtain ⟨d, hd, hout⟩ := hl.exact w hw
  refine needs_word hd fun c hc => ?_
  rw [show c = d by simpa [exact] using hc]
  exact hout

theorem needs_hyphened {first second : String} (hw : second ∈ caselessWords) :
    Needs (· ∉ letters) (hyphened first second) :=
  needs_concat (by simp) (needs_caseless hl hw)

theorem needs_authorizationScheme : Needs (· ∉ letters) authorizationScheme := by
  unfold authorizationScheme
  refine needs_concat (r := anyOf authorizationSchemes) (by simp) (needs_anyOf ?_)
  simp only [authorizationSchemes, List.forall_mem_cons, List.not_mem_nil, false_implies,
    implies_true, and_true]
  exact ⟨needs_concat (r := plus space) (by simp) (needs_plus (needs_space hl)),
    needs_concat (r := plus space) (by simp) (needs_plus (needs_space hl))⟩

theorem needs_secretAssignment : Needs (· ∉ letters) secretAssignment := by
  unfold secretAssignment
  refine needs_concat (r := anyOf secretNames) (by simp) (needs_anyOf ?_)
  simp only [secretNames, List.forall_mem_cons, List.not_mem_nil, false_implies, implies_true,
    and_true]
  have hword : ∀ {w : String}, w ∈ caselessWords → Needs (· ∉ letters) (caseless w) :=
    needs_caseless hl
  have htoken : ∀ {first : String}, Needs (· ∉ letters) (hyphened first "token") :=
    needs_hyphened hl (by simp [caselessWords])
  exact ⟨htoken, htoken, htoken, needs_hyphened hl (by simp [caselessWords]), htoken, htoken,
    hword (by simp [caselessWords]), htoken,
    needs_concat (r := caseless "client") (by simp) (hword (by simp [caselessWords])),
    hword (by simp [caselessWords]), hword (by simp [caselessWords]),
    hword (by simp [caselessWords]), htoken, hword (by simp [caselessWords]),
    needs_concat (r := caseless "api") (by simp) (hword (by simp [caselessWords]))⟩

theorem needs_providerKey : Needs (· ∉ letters) providerKey := by
  unfold providerKey
  refine needs_concat (r := anyOf providerKeys) (by simp) (needs_anyOf ?_)
  simp only [providerKeys, List.forall_mem_cons, List.not_mem_nil, false_implies, implies_true,
    and_true]
  have hin : ∀ {w : String} {rs : List Regex}, caseless w ∈ rs → w ∈ caselessWords →
      Needs (· ∉ letters) (concat rs) :=
    fun hr hw => needs_concat hr (needs_caseless hl hw)
  exact ⟨hin (w := "sk-") (by simp) (by simp [caselessWords]),
    hin (w := "xox") (by simp) (by simp [caselessWords]),
    hin (w := "_") (by simp) (by simp [caselessWords]),
    hin (w := "github_pat_") (by simp) (by simp [caselessWords]),
    hin (w := "glpat-") (by simp) (by simp [caselessWords]),
    hin (w := "akia") (by simp) (by simp [caselessWords])⟩

theorem isSensitiveString_eq_false {s : String} (h : ∀ c ∈ s.toList, c ∈ letters) :
    isSensitiveString s = false := by
  have hs : ∀ c ∈ s.toList, ¬ c ∉ letters := fun c hc hout => hout (h c hc)
  have hjwt : Needs (· ∉ letters) webToken :=
    needs_concat (r := word exact "eyJ".toList) (by simp) (needs_exact hl (by simp [exactWords]))
  have hblock : Needs (· ∉ letters) privateKeyBlock :=
    needs_concat (r := word exact "PRIVATE KEY-----".toList) (by simp)
      (needs_exact hl (by simp [exactWords]))
  simp [isSensitiveString, test_eq_false (needs_authorizationScheme hl) hs,
    test_eq_false (needs_secretAssignment hl) hs, test_eq_false (needs_providerKey hl) hs,
    test_eq_false hjwt hs, test_eq_false hblock hs]

end

/-! What hashes, identifiers made of them, and times are written with. -/

def digestLetters : List Char := "0123456789abcdef:-shaiemdlvry".toList

def timeLetters : List Char := "0123456789-:.+TZ".toList

/-- What makes letters harmless, letter by letter and word by word. -/
def harmlessCheck (letters : List Char) : Bool :=
  (letters.all fun c => !isJsSpace c) &&
    (caselessWords.all fun w =>
      w.toList.any fun d => !letters.contains d && !letters.contains d.toUpper) &&
    exactWords.all fun w => w.toList.any fun d => !letters.contains d

theorem harmless_of_check {letters : List Char} (h : harmlessCheck letters = true) :
    Harmless letters := by
  simp only [harmlessCheck, Bool.and_eq_true, List.all_eq_true, List.any_eq_true,
    Bool.not_eq_true', List.contains_eq_mem, decide_eq_false_iff_not] at h
  exact ⟨h.1.1, h.1.2, h.2⟩

theorem harmless_digest : Harmless digestLetters := harmless_of_check (by decide +kernel)

theorem harmless_time : Harmless timeLetters := harmless_of_check (by decide +kernel)

theorem mem_of_all {letters text : List Char} (h : (text.all letters.contains) = true) :
    ∀ c ∈ text, c ∈ letters := fun c hc => by
  simpa using List.all_eq_true.1 h c hc

end

end AccessKit.L1
