import RelayPay.Codec.Stamp
import Mathlib.Algebra.Order.Field.Power
import Mathlib.Data.Nat.Log
import Mathlib.Data.Rat.Cast.Order
import Mathlib.Tactic.Linarith
import Mathlib.Tactic.NormNum
import Mathlib.Tactic.Ring

/-! Decimal floating point: numbers as they are written, and the rounding of a context. -/

namespace Decimal

structure Number where
  negative : Bool
  coefficient : ℕ
  exponent : ℤ
deriving DecidableEq, Repr

def numDigits (c : ℕ) : ℕ := Nat.log 10 c + 1

lemma numDigits_mul_hundred {c : ℕ} (hc : c ≠ 0) : numDigits (c * 100) = numDigits c + 2 := by
  have h : c * 100 = c * 10 * 10 := by omega
  rw [numDigits, h, Nat.log_mul_base (by omega) (by omega), Nat.log_mul_base (by omega) hc, numDigits]

namespace Number

variable {n m : Number}

def sign (n : Number) : ℤ := if n.negative then -1 else 1

def value (n : Number) : ℚ := n.sign * n.coefficient * 10 ^ n.exponent

def adjusted (n : Number) : ℤ := n.exponent + numDigits n.coefficient - 1

lemma sign_ne_zero : n.sign ≠ 0 := by
  simp only [sign]
  split <;> decide

lemma value_eq_zero_iff : n.value = 0 ↔ n.coefficient = 0 := by
  have hpow : (10 : ℚ) ^ n.exponent ≠ 0 := by positivity
  simp [value, sign_ne_zero, hpow]

lemma value_of_nonneg (h : 0 ≤ n.value) : n.value = n.coefficient * 10 ^ n.exponent := by
  cases hneg : n.negative with
  | false => simp [value, sign, hneg]
  | true =>
    have hle : n.value ≤ 0 := by
      have hpos : (0 : ℚ) ≤ n.coefficient * 10 ^ n.exponent := by positivity
      have hvalue : n.value = -(n.coefficient * 10 ^ n.exponent) := by simp [value, sign, hneg]
      linarith
    have hzero := value_eq_zero_iff.1 (le_antisymm hle h)
    rw [le_antisymm hle h, hzero]
    simp

lemma pow_adjusted_le (h : 0 < n.value) : (10 : ℚ) ^ n.adjusted ≤ n.value := by
  have hc : n.coefficient ≠ 0 := fun hzero => h.ne' (value_eq_zero_iff.2 hzero)
  have hlog : (10 : ℚ) ^ (Nat.log 10 n.coefficient) ≤ n.coefficient := by
    exact_mod_cast Nat.pow_log_le_self 10 hc
  have hadjusted : n.adjusted = (Nat.log 10 n.coefficient : ℕ) + n.exponent := by
    simp only [adjusted, numDigits]
    push_cast
    ring
  rw [value_of_nonneg h.le, hadjusted, zpow_add₀ (by norm_num), zpow_natCast]
  gcongr

lemma lt_pow_adjusted (h : 0 < n.value) : n.value < (10 : ℚ) ^ (n.adjusted + 1) := by
  have hlog : (n.coefficient : ℚ) < 10 ^ (Nat.log 10 n.coefficient + 1) := by
    exact_mod_cast Nat.lt_pow_succ_log_self (by omega) n.coefficient
  have hadjusted : n.adjusted + 1 = (Nat.log 10 n.coefficient + 1 : ℕ) + n.exponent := by
    simp only [adjusted, numDigits]
    push_cast
    ring
  rw [value_of_nonneg h.le, hadjusted, zpow_add₀ (by norm_num), zpow_natCast]
  gcongr

end Number

structure Context where
  prec : ℕ
  emin : ℤ
  emax : ℤ

inductive Signal where
  | overflow
  | invalidOperation
deriving DecidableEq, Repr

def halfEven (c p : ℕ) : ℕ := if p < 2 * (c % p) ∨ 2 * (c % p) = p ∧ c / p % 2 = 1 then c / p + 1 else c / p

lemma halfEven_mul_eq_iff {c p : ℕ} (hp : 0 < p) : halfEven c p * p = c ↔ p ∣ c := by
  constructor
  · intro h
    exact ⟨halfEven c p, by rw [mul_comm]; exact h.symm⟩
  · intro h
    have hzero : c % p = 0 := Nat.mod_eq_zero_of_dvd h
    rw [halfEven, hzero, if_neg (by omega), Nat.div_mul_cancel h]

namespace Context

def etiny (ctx : Context) : ℤ := ctx.emin - ctx.prec + 1

def etop (ctx : Context) : ℤ := ctx.emax - ctx.prec + 1

def fix (ctx : Context) (n : Number) : Except Signal Number :=
  if n.coefficient = 0 then .ok { n with exponent := min (max n.exponent ctx.etiny) ctx.emax }
  else
    let exact := numDigits n.coefficient + n.exponent - ctx.prec
    if ctx.etop < exact then .error .overflow
    else
      let least := max exact ctx.etiny
      if n.exponent < least then
        let c := halfEven n.coefficient (10 ^ (least - n.exponent).toNat)
        let rounded : Number := if ctx.prec < numDigits c then ⟨n.negative, c / 10, least + 1⟩ else ⟨n.negative, c, least⟩
        if ctx.etop < rounded.exponent then .error .overflow else .ok rounded
      else .ok n

def mul (ctx : Context) (n m : Number) : Except Signal Number :=
  ctx.fix ⟨xor n.negative m.negative, n.coefficient * m.coefficient, n.exponent + m.exponent⟩

lemma fix_eq_self {ctx : Context} {n : Number} (hc : n.coefficient ≠ 0) (hprec : numDigits n.coefficient ≤ ctx.prec)
    (hmax : n.adjusted ≤ ctx.emax) (hmin : ctx.emin ≤ n.adjusted) : ctx.fix n = .ok n := by
  have hadjusted : n.adjusted = n.exponent + numDigits n.coefficient - 1 := rfl
  have hexact : ¬ctx.etop < numDigits n.coefficient + n.exponent - ctx.prec := by
    simp only [etop]
    omega
  have hleast : ¬n.exponent < max (numDigits n.coefficient + n.exponent - ctx.prec) ctx.etiny := by
    simp only [etiny]
    omega
  simp only [fix]
  rw [if_neg hc, if_neg hexact, if_neg hleast]

end Context

namespace Number

variable {n : Number}

def toIntegralValue (n : Number) : Number :=
  if 0 ≤ n.exponent then n else ⟨n.negative, halfEven n.coefficient (10 ^ (-n.exponent).toNat), 0⟩

def toInt (n : Number) : ℤ :=
  if 0 ≤ n.exponent then n.sign * (n.coefficient * 10 ^ n.exponent.toNat)
  else n.sign * (n.coefficient / 10 ^ (-n.exponent).toNat)

lemma value_of_exponent_nonneg (h : 0 ≤ n.exponent) : n.value = n.toInt := by
  have hpow : (10 : ℚ) ^ n.exponent = 10 ^ n.exponent.toNat := by
    rw [← zpow_natCast, Int.toNat_of_nonneg h]
  rw [value, hpow, toInt, if_pos h]
  push_cast
  ring

lemma value_mul_pow (h : n.exponent < 0) : n.value * 10 ^ (-n.exponent).toNat = n.sign * n.coefficient := by
  have hcast : ((-n.exponent).toNat : ℤ) = -n.exponent := Int.toNat_of_nonneg (by omega)
  rw [value, mul_assoc, ← zpow_natCast, hcast, ← zpow_add₀ (by norm_num), add_neg_cancel, zpow_zero, mul_one]

lemma toIntegralValue_value (h : n.exponent < 0) :
    n.toIntegralValue.value = n.sign * halfEven n.coefficient (10 ^ (-n.exponent).toNat) := by
  rw [toIntegralValue, if_neg (by omega)]
  simp [value, sign]

lemma toIntegralValue_value_eq_iff (h : n.exponent < 0) :
    n.toIntegralValue.value = n.value ↔ 10 ^ (-n.exponent).toNat ∣ n.coefficient := by
  have hpow : (10 : ℚ) ^ (-n.exponent).toNat ≠ 0 := by positivity
  have hsign : (n.sign : ℚ) ≠ 0 := by exact_mod_cast sign_ne_zero
  rw [← mul_left_inj' hpow, value_mul_pow h, toIntegralValue_value h, mul_assoc, mul_right_inj' hsign,
    ← halfEven_mul_eq_iff (by positivity)]
  norm_cast

theorem value_eq_toInt (h : n.toIntegralValue.value = n.value) : n.value = n.toInt := by
  by_cases hexp : 0 ≤ n.exponent
  · exact value_of_exponent_nonneg hexp
  · have hneg : n.exponent < 0 := by omega
    have hdvd := (toIntegralValue_value_eq_iff hneg).1 h
    have hpow : (10 : ℚ) ^ (-n.exponent).toNat ≠ 0 := by positivity
    apply mul_right_cancel₀ hpow
    rw [value_mul_pow hneg, toInt, if_neg hexp]
    obtain ⟨q, hq⟩ := hdvd
    rw [hq]
    push_cast
    rw [Int.mul_ediv_cancel_left _ (by positivity)]
    push_cast
    ring

theorem toIntegralValue_of_int {k : ℤ} (h : n.value = k) : n.toIntegralValue.value = n.value := by
  by_cases hexp : 0 ≤ n.exponent
  · rw [toIntegralValue, if_pos hexp]
  · have hneg : n.exponent < 0 := by omega
    rw [toIntegralValue_value_eq_iff hneg]
    have hscaled := value_mul_pow hneg
    rw [h] at hscaled
    have hint : k * 10 ^ (-n.exponent).toNat = n.sign * n.coefficient := by exact_mod_cast hscaled
    have hdvd : (10 ^ (-n.exponent).toNat : ℤ) ∣ n.coefficient := by
      rw [sign] at hint
      split at hint
      · exact ⟨-k, by linarith⟩
      · exact ⟨k, by linarith⟩
    exact_mod_cast hdvd

end Number

def isDigit (c : Char) : Bool := (Digits.decimalValue c).isSome

def numeral (digits : List Char) : ℕ := digits.foldl (fun n c => n * 10 + (c.toNat - 48)) 0

def readSign : List Char → Bool × List Char
  | '+' :: rest => (false, rest)
  | '-' :: rest => (true, rest)
  | text => (false, text)

def readPart (text : List Char) : Option ((ℕ × ℕ) × List Char) :=
  let int := text.takeWhile isDigit
  match text.dropWhile isDigit with
  | '.' :: rest =>
    let frac := rest.takeWhile isDigit
    if int = [] ∧ frac = [] then none else some ((numeral (int ++ frac), frac.length), rest.dropWhile isDigit)
  | rest => if int = [] then none else some ((numeral int, 0), rest)

def readExponent : List Char → Option ℤ
  | [] => some 0
  | c :: rest =>
    if c = 'e' ∨ c = 'E' then
      let (negative, digits) := readSign rest
      if digits ≠ [] ∧ digits.all isDigit then some (if negative then -numeral digits else numeral digits) else none
    else none

def readNumber (text : List Char) : Option Number := do
  let (negative, rest) := readSign text
  let ((coefficient, places), rest) ← readPart rest
  let e ← readExponent rest
  return ⟨negative, coefficient, e - places⟩

def maxPrec : ℕ := 999999999999999999

def maxEmax : ℤ := 999999999999999999

def minEtiny : ℤ := -1999999999999999997

structure Number.Fits (n : Number) : Prop where
  digits : numDigits n.coefficient ≤ maxPrec
  adjusted : n.adjusted ≤ maxEmax
  etiny : minEtiny ≤ n.exponent

instance (n : Number) : Decidable n.Fits :=
  decidable_of_iff (numDigits n.coefficient ≤ maxPrec ∧ n.adjusted ≤ maxEmax ∧ minEtiny ≤ n.exponent)
    ⟨fun h => ⟨h.1, h.2.1, h.2.2⟩, fun h => ⟨h.digits, h.adjusted, h.etiny⟩⟩

inductive Object where
  | finite (n : Number) (h : n.Fits)
  | infinity (negative : Bool)
  | nan (signaling : Bool)

def ofNumber (n : Number) : Except Signal Object :=
  if h : n.Fits then .ok (.finite n h) else .error .invalidOperation

def ofInt (i : ℤ) : Number := ⟨decide (i < 0), i.natAbs, 0⟩

structure Unicode where
  space : Char → Bool
  digit : Char → Option ℕ

def numericAsAscii (u : Unicode) (text : List Char) : Option (List Char) :=
  let stripped := ((text.dropWhile u.space).reverse.dropWhile u.space).reverse
  (stripped.filter (· ≠ '_')).mapM fun c =>
    if 0 < c.toNat ∧ c.toNat ≤ 127 then some c else (u.digit c).map Digits.decimal

def readSpecial (text : List Char) : Option Object :=
  let (negative, rest) := readSign text
  let lower := rest.map Char.toLower
  if lower = "inf".toList ∨ lower = "infinity".toList then some (.infinity negative)
  else if "nan".toList.isPrefixOf lower ∧ (lower.drop 3).all isDigit then some (.nan false)
  else if "snan".toList.isPrefixOf lower ∧ (lower.drop 4).all isDigit then some (.nan true)
  else none

def ofText (u : Unicode) (text : List Char) : Except Signal Object :=
  match numericAsAscii u text with
  | none => .error .invalidOperation
  | some ascii =>
    match readNumber ascii with
    | some n => ofNumber n
    | none =>
      match readSpecial ascii with
      | some special => .ok special
      | none => .error .invalidOperation

lemma ofNumber_finite_iff {n m : Number} {h : n.Fits} : ofNumber m = .ok (.finite n h) ↔ m = n := by
  constructor
  · intro heq
    unfold ofNumber at heq
    split at heq
    · cases heq
      rfl
    · cases heq
  · rintro rfl
    rw [ofNumber, dif_pos h]

lemma readSpecial_ne_finite {text : List Char} {n : Number} {h : n.Fits} : readSpecial text ≠ some (.finite n h) := by
  simp only [readSpecial]
  split_ifs <;> simp

theorem ofText_finite_iff {u : Unicode} {text : List Char} {n : Number} {h : n.Fits} :
    ofText u text = .ok (.finite n h) ↔ ∃ ascii, numericAsAscii u text = some ascii ∧ readNumber ascii = some n := by
  unfold ofText
  cases hascii : numericAsAscii u text with
  | none => simp
  | some ascii =>
    simp only [Option.some.injEq, exists_eq_left']
    cases hread : readNumber ascii with
    | some m => rw [Option.some.injEq, ofNumber_finite_iff]
    | none =>
      cases hspecial : readSpecial ascii with
      | none => simp
      | some special =>
        simp only [Except.ok.injEq, reduceCtorEq, iff_false]
        rintro rfl
        exact readSpecial_ne_finite hspecial

end Decimal
