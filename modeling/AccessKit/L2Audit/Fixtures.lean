import AccessKit.L1Domain.Parse
import AccessKit.L2Audit.Events
import AccessKit.L2Graph.Fixtures

/-!
# Audit events to try the chain on

Results:
* `printsNumbers_exact`: the host of the fixtures prints every number, and
  different numbers differently.
* `readsNumbers_exact`: and its numbers are read back.
-/
namespace AccessKit.L2.Audit.Fixtures
open AccessKit.Core AccessKit.L1 AccessKit.L2.Fixtures

/-- An integer in decimal digits, a fraction with its denominator after an `e`. -/
def printNumber (q : Rat) : String :=
  (if q.num < 0 then "-" else "") ++ toString q.num.natAbs ++
    if q.den = 1 then "" else "e" ++ toString q.den

/-- A host without collisions. -/
def exactHost : Host := { plainHost with numberToString := printNumber }

theorem digits_decimal (n : Nat) : ∀ c ∈ (toString n).toList, c.isDigit = true := by
  intro c hc
  by_contra hd
  exact not_mem_decimal (by simpa using hd) n hc

theorem decimal_ne_nil (n : Nat) : (toString n).toList ≠ [] := by
  rw [Nat.toString_eq_repr, Nat.toList_repr]
  exact Nat.toDigits_ne_nil

theorem printNumber_toList (q : Rat) : (printNumber q).toList =
    (if q.num < 0 then ['-'] else []) ++ ((toString q.num.natAbs).toList ++
      if q.den = 1 then [] else 'e' :: (toString q.den).toList) := by
  unfold printNumber
  split <;> split <;> simp

theorem printNumber_inj : Function.Injective printNumber := by
  intro q q' h
  have h := congrArg String.toList h
  rw [printNumber_toList, printNumber_toList] at h
  -- the sign is the first character that is no digit
  have hsign : (q.num < 0 ↔ q'.num < 0) ∧
      (toString q.num.natAbs).toList ++ (if q.den = 1 then [] else 'e' :: (toString q.den).toList) =
      (toString q'.num.natAbs).toList ++
        (if q'.den = 1 then [] else 'e' :: (toString q'.den).toList) := by
    have hfirst : ∀ (n : Nat) (r r' : List Char), '-' :: r ≠ (toString n).toList ++ r' := by
      intro n r r' he
      obtain ⟨c, t, hc⟩ := List.exists_cons_of_ne_nil (decimal_ne_nil n)
      have hd := digits_decimal n c (hc ▸ List.mem_cons_self)
      rw [hc] at he
      rw [← (List.cons.inj he).1] at hd
      cases hd
    by_cases hq : q.num < 0
    · by_cases hq' : q'.num < 0
      · simpa [hq, hq'] using h
      · simp only [hq, hq', if_true, if_false, List.cons_append, List.nil_append] at h
        exact absurd h (hfirst _ _ _)
    · by_cases hq' : q'.num < 0
      · simp only [hq, hq', if_true, if_false, List.cons_append, List.nil_append] at h
        exact absurd h.symm (hfirst _ _ _)
      · simpa [hq, hq'] using h
  obtain ⟨hneg, hrest⟩ := hsign
  have hstop : ∀ d : Nat, ∀ c ∈ (if d = 1 then [] else 'e' :: (toString d).toList).head?,
      ¬ c.isDigit = true := by
    intro d c hc
    split at hc
    · cases hc
    · cases hc
      decide
  obtain ⟨hnum, hden⟩ := append_run_inj (digits_decimal _) (digits_decimal _) (hstop q.den)
    (hstop q'.den) hrest
  have hnum := decimal_inj hnum
  refine Rat.ext (by omega) ?_
  split at hden
  · rename_i h1
    split at hden
    · rename_i h2
      rw [h1, h2]
    · cases hden
  · split at hden
    · cases hden
    · exact decimal_inj (List.cons.inj hden).2

theorem printsNumbers_exact : PrintsNumbers exactHost where
  nonempty q := by
    show (printNumber q).toList ≠ []
    rw [printNumber_toList]
    simp
  chars q c hc := by
    have hdigit : ∀ n : Nat, c ∈ (toString n).toList → isNumberChar c = true := by
      intro n hn
      simp [isNumberChar, digits_decimal n c hn]
    change c ∈ (printNumber q).toList at hc
    rw [printNumber_toList, List.mem_append, List.mem_append] at hc
    rcases hc with hc | hc | hc
    · split at hc
      · rw [List.mem_singleton.1 hc]
        decide
      · cases hc
    · exact hdigit _ hc
    · split at hc
      · cases hc
      · rcases List.mem_cons.1 hc with rfl | hc
        · decide
        · exact hdigit _ hc
  inj := printNumber_inj

/-- A number without its sign. -/
def scanMagnitude (cs : List Char) : Rat :=
  mkRat (Nat.ofDigitChars 10 (cs.takeWhile Char.isDigit) 0)
    (match cs.dropWhile Char.isDigit with
    | [] => 1
    | _ :: den => Nat.ofDigitChars 10 den 0)

/-- The reader of `printNumber`. -/
def scanNumber (s : String) : Option Rat :=
  match s.toList with
  | [] => none
  | c :: cs => some (if c = '-' then -scanMagnitude cs else scanMagnitude (c :: cs))

theorem ofDigitChars_toString (n : Nat) : Nat.ofDigitChars 10 (toString n).toList 0 = n := by
  rw [Nat.toString_eq_repr, Nat.toList_repr, Nat.ofDigitChars_ten_toDigits]

theorem scanMagnitude_digits (n d : Nat) :
    scanMagnitude ((toString n).toList ++ if d = 1 then [] else 'e' :: (toString d).toList) =
      mkRat n d := by
  have hdigits := digits_decimal n
  unfold scanMagnitude
  rw [List.takeWhile_append_of_pos hdigits, List.dropWhile_append_of_pos hdigits]
  split
  · rename_i hd
    simp [hd]
  · rw [List.takeWhile_cons_of_neg (by decide), List.dropWhile_cons_of_neg (by decide),
      List.append_nil, ofDigitChars_toString]
    simp only [ofDigitChars_toString]

theorem readsNumbers_exact : ReadsNumbers exactHost scanNumber where
  reads q := by
    show scanNumber (printNumber q) = some q
    unfold scanNumber
    rw [printNumber_toList]
    by_cases hq : q.num < 0
    · rw [if_pos hq, List.cons_append, List.nil_append]
      simp only [if_true, scanMagnitude_digits]
      rw [Rat.neg_mkRat, show -(q.num.natAbs : Int) = q.num by omega, Rat.mkRat_self]
    · obtain ⟨d, ds, hd⟩ := List.exists_cons_of_ne_nil (decimal_ne_nil q.num.natAbs)
      have hdigit : d ≠ '-' := by
        rintro rfl
        exact absurd (digits_decimal q.num.natAbs '-' (hd ▸ List.mem_cons_self)) (by decide)
      have hmagnitude := scanMagnitude_digits q.num.natAbs q.den
      rw [hd, List.cons_append] at hmagnitude
      rw [if_neg hq, List.nil_append, hd, List.cons_append]
      simp only [hdigit, if_false, hmagnitude]
      rw [show (q.num.natAbs : Int) = q.num by omega, Rat.mkRat_self]

theorem noCollision_exact : Function.Injective exactHost.sha256Hex := fun _ _ h => h

def grantCreated : AuditEventInput where
  eventType := "relationship.put"
  actor := "service:api"
  subjectId := some "user:alice"
  correlationId := "corr:1"
  payload := [("relation", .str "owner_of"), ("depth", .num (.fin 2))]

/-- The payload with its properties in another order and one that is `undefined`. -/
def payloadReordered : JsonRecord :=
  [("depth", .num (.fin 2)), ("note", .undefined), ("relation", .str "owner_of")]

/-- Two events recorded from the start. -/
def recorded (input : AuditEventInput) : AuditRecorder :=
  AuditRecorder.recordAll exactHost ⟨[]⟩ [(input, timestamp), (input, later)]

def reordered (events : List AuditEvent) : List AuditEvent :=
  events.map fun e => { e with payload := payloadReordered }

theorem payload_recorded : ∀ e ∈ (recorded grantCreated).list, e.payload = grantCreated.payload := by
  intro e he
  simp only [recorded, AuditRecorder.recordAll, AuditRecorder.list, AuditRecorder.record,
    List.foldl_cons, List.foldl_nil, List.nil_append, List.cons_append, List.mem_cons,
    List.not_mem_nil, or_false] at he
  rcases he with rfl | rfl <;> rfl

theorem text_reordered : stableStringify exactHost (.obj grantCreated.payload) =
    stableStringify exactHost (.obj payloadReordered) := by
  decide +kernel

theorem recorded_json : ∀ e ∈ (recorded grantCreated).list, IsJson (.obj e.payload) := by
  intro e he
  rw [payload_recorded e he]
  exact .obj (by decide) (by simp [grantCreated, IsJson.str, IsJson.num])

theorem reordered_json :
    ∀ e ∈ reordered (recorded grantCreated).list, IsJson (.obj e.payload) := by
  intro e he
  obtain ⟨_, -, rfl⟩ := List.mem_map.1 he
  show IsJson (.obj payloadReordered)
  exact .obj (by decide) (by simp [payloadReordered, IsJson.str, IsJson.num])

end AccessKit.L2.Audit.Fixtures
