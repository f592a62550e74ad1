import RelayPay.Codec.Decimal

namespace RelayPay.Cashfree

open Decimal

/-- What a payload or a row can hold; `other` is anything that is neither a text nor a number, and a float. -/
inductive Value where
  | bool (b : Bool)
  | text (s : String)
  | int (i : ℤ)
  | decimal (d : Object)
  | other

inductive Raised where
  | valueError (message : String)
  | signal (s : Signal)

def maxAmountRupees : Number := ⟨false, 9223372036854775807, -2⟩

def leastAmount : Number := ⟨false, 1, -2⟩

def hundred : Number := ⟨false, 100, 0⟩

def context (prec : ℕ) : Context := ⟨prec, -999999, 999999⟩

def notDecimal (field : String) : Raised := .valueError (field ++ " must be a decimal amount")

def outOfRange (field : String) (allowZero : Bool) : Raised :=
  .valueError (field ++ " must be " ++ (if allowZero then "non-negative" else "positive") ++
    " within the supported paise range")

def tooManyPlaces (field : String) : Raised := .valueError (field ++ " must have at most two decimal places")

def scaled (n : Number) (field : String) : Except Raised ℤ :=
  let prec := max 28 (numDigits n.coefficient + 2)
  if maxPrec < prec then .error (.valueError "valid range for prec is [1, MAX_PREC]")
  else
    match (context prec).mul n hundred with
    | .error s => .error (.signal s)
    | .ok paise => if paise.value ≠ paise.toIntegralValue.value then .error (tooManyPlaces field) else .ok paise.toInt

def amountToPaise (amount : Object) (field : String) (allowZero : Bool) : Except Raised ℤ :=
  match amount with
  | .finite n _ =>
    if n.value < 0 ∨ (n.value = 0 ∧ ¬allowZero) ∨ maxAmountRupees.value < n.value then
      .error (outOfRange field allowZero)
    else if n.value = 0 then .ok 0
    else if n.value < leastAmount.value then .error (tooManyPlaces field)
    else scaled n field
  | _ => .error (outOfRange field allowZero)

def toDecimal (u : Unicode) : Value → Option (Except Signal Object)
  | .text s => some (ofText u s.toList)
  | .int i => some (ofNumber (ofInt i))
  | .decimal d => some (.ok d)
  | .bool _ => none
  | .other => none

def rupeesToPaise (u : Unicode) (value : Value) (field : String) (allowZero : Bool) : Except Raised ℤ :=
  match toDecimal u value with
  | some (.ok amount) => amountToPaise amount field allowZero
  | some (.error _) => .error (notDecimal field)
  | none => .error (notDecimal field)

def Writes (u : Unicode) (value : Value) (n : Number) : Prop :=
  match value with
  | .text s => ∃ ascii, numericAsAscii u s.toList = some ascii ∧ readNumber ascii = some n
  | .int i => n = ofInt i
  | .decimal d => ∃ h, d = .finite n h
  | .bool _ => False
  | .other => False

def Room (n : Number) : Prop :=
  if n.coefficient = 0 then minEtiny ≤ n.exponent ∧ n.exponent ≤ maxEmax else numDigits n.coefficient + 2 ≤ maxPrec

section Amounts

variable {n : Number}

lemma maxAmountRupees_value : maxAmountRupees.value = (2 ^ 63 - 1) / 100 := by
  norm_num [maxAmountRupees, Number.value, Number.sign]

lemma leastAmount_value : leastAmount.value = 1 / 100 := by
  norm_num [leastAmount, Number.value, Number.sign]

lemma adjusted_mem (hleast : 1 / 100 ≤ n.value) (hmax : n.value ≤ (2 ^ 63 - 1) / 100) :
    -2 ≤ n.adjusted ∧ n.adjusted ≤ 16 := by
  have hpos : 0 < n.value := lt_of_lt_of_le (by norm_num) hleast
  constructor
  · have hlt : (10 : ℚ) ^ (-2 : ℤ) < 10 ^ (n.adjusted + 1) := lt_of_le_of_lt (by norm_num; linarith) (n.lt_pow_adjusted hpos)
    have := (zpow_lt_zpow_iff_right₀ (by norm_num)).1 hlt
    omega
  · have hlt : (10 : ℚ) ^ n.adjusted < 10 ^ (17 : ℤ) :=
      lt_of_le_of_lt ((n.pow_adjusted_le hpos).trans hmax) (by norm_num)
    have := (zpow_lt_zpow_iff_right₀ (by norm_num)).1 hlt
    omega

lemma mul_hundred {prec : ℕ} (hleast : 1 / 100 ≤ n.value) (hmax : n.value ≤ (2 ^ 63 - 1) / 100)
    (hprec : numDigits n.coefficient + 2 ≤ prec) :
    (context prec).mul n hundred = .ok ⟨n.negative, n.coefficient * 100, n.exponent⟩ := by
  have hc : n.coefficient ≠ 0 := by
    intro hzero
    rw [Number.value_eq_zero_iff.2 hzero] at hleast
    norm_num at hleast
  obtain ⟨hlow, hhigh⟩ := adjusted_mem hleast hmax
  have hdigits := numDigits_mul_hundred hc
  have hadjusted : n.adjusted = n.exponent + numDigits n.coefficient - 1 := rfl
  simp only [Context.mul, hundred, Bool.xor_false, add_zero]
  apply Context.fix_eq_self
  · simp only [ne_eq]
    omega
  · simp only [context, hdigits]
    exact hprec
  · simp only [Number.adjusted, context, hdigits]
    omega
  · simp only [Number.adjusted, context, hdigits]
    omega

lemma value_mul_hundred : (⟨n.negative, n.coefficient * 100, n.exponent⟩ : Number).value = n.value * 100 := by
  simp only [Number.value, Number.sign]
  push_cast
  ring

lemma scaled_of_not_room {field : String} (h : ¬numDigits n.coefficient + 2 ≤ maxPrec) :
    ∃ message, scaled n field = .error (.valueError message) := by
  have hlarge : maxPrec < max 28 (numDigits n.coefficient + 2) := by omega
  simp only [scaled]
  exact ⟨_, if_pos hlarge⟩

lemma scaled_of_room {field : String} (hleast : 1 / 100 ≤ n.value) (hmax : n.value ≤ (2 ^ 63 - 1) / 100)
    (hroom : numDigits n.coefficient + 2 ≤ maxPrec) : (∃ k : ℤ, n.value = k / 100 ∧ scaled n field = .ok k) ∨
      (∀ k : ℤ, n.value ≠ k / 100) ∧ scaled n field = .error (tooManyPlaces field) := by
  have hsmall : ¬maxPrec < max 28 (numDigits n.coefficient + 2) := by
    have : 28 ≤ maxPrec := by decide
    omega
  have hmul := mul_hundred hleast hmax (le_max_right 28 (numDigits n.coefficient + 2))
  simp only [scaled, if_neg hsmall, hmul]
  split
  · rename_i hne
    refine .inr ⟨fun k hk => hne ?_, rfl⟩
    have hint : (⟨n.negative, n.coefficient * 100, n.exponent⟩ : Number).value = k := by
      rw [value_mul_hundred, hk]
      ring
    exact (Number.toIntegralValue_of_int hint).symm
  · rename_i heq
    have hint := Number.value_eq_toInt (not_not.1 heq).symm
    refine .inl ⟨_, ?_, rfl⟩
    rw [← hint, value_mul_hundred]
    ring

lemma room_zero (h : n.Fits) (hzero : n.coefficient = 0) : Room n := by
  rw [Room, if_pos hzero]
  refine ⟨h.etiny, ?_⟩
  have hadjusted := h.adjusted
  simp only [Number.adjusted, hzero, numDigits, Nat.log_zero_right] at hadjusted
  omega

lemma fits_of_room {k : ℤ} (hroom : Room n) (hvalue : n.value = k / 100) (hmax : k ≤ 2 ^ 63 - 1) (hk : 0 ≤ k) :
    n.Fits := by
  rw [Room] at hroom
  split at hroom
  · rename_i hzero
    have hdigits : numDigits n.coefficient = 1 := by simp [numDigits, hzero]
    refine ⟨?_, ?_, hroom.1⟩
    · rw [hdigits]
      decide
    · rw [Number.adjusted, hdigits]
      have := hroom.2
      omega
  · rename_i hc
    have hpos : 1 ≤ k := by
      refine hk.lt_of_ne fun hzero => hc (Number.value_eq_zero_iff.1 ?_)
      rw [hvalue, ← hzero]
      norm_num
    have hleast : 1 / 100 ≤ n.value := by
      have : (1 : ℚ) ≤ k := by exact_mod_cast hpos
      rw [hvalue]
      linarith
    have hle : n.value ≤ (2 ^ 63 - 1) / 100 := by
      have : (k : ℚ) ≤ 2 ^ 63 - 1 := by exact_mod_cast hmax
      rw [hvalue]
      linarith
    obtain ⟨hlow, hhigh⟩ := adjusted_mem hleast hle
    have hadjusted : n.adjusted = n.exponent + numDigits n.coefficient - 1 := rfl
    simp only [maxPrec] at hroom
    refine ⟨?_, ?_, ?_⟩
    · simp only [maxPrec]
      omega
    · simp only [maxEmax]
      omega
    · simp only [minEtiny]
      omega

end Amounts

def Paise (allowZero : Bool) (q : ℚ) (k : ℤ) : Prop :=
  q = k / 100 ∧ k ≤ 2 ^ 63 - 1 ∧ (1 ≤ k ∨ k = 0 ∧ allowZero = true)

section Objects

variable {n : Number} {field : String} {allowZero : Bool}

lemma paise_range {k : ℤ} (h : Paise allowZero n.value k) :
    ¬(n.value < 0 ∨ (n.value = 0 ∧ ¬allowZero) ∨ maxAmountRupees.value < n.value) := by
  obtain ⟨hvalue, hmax, hk⟩ := h
  have hcast : (k : ℚ) ≤ 2 ^ 63 - 1 := by exact_mod_cast hmax
  have hnonneg : (0 : ℚ) ≤ k := by exact_mod_cast (show 0 ≤ k by omega)
  rw [maxAmountRupees_value]
  rintro (hneg | ⟨hzero, hallow⟩ | hlarge)
  · linarith
  · have hk0 : (k : ℚ) = 0 := by linarith
    have hk0 : k = 0 := by exact_mod_cast hk0
    rcases hk with hk | hk
    · omega
    · exact hallow hk.2
  · linarith

lemma amountToPaise_finite (h : n.Fits) :
    (∃ k, Room n ∧ Paise allowZero n.value k ∧ amountToPaise (.finite n h) field allowZero = .ok k) ∨
      (∀ k, ¬(Room n ∧ Paise allowZero n.value k)) ∧
        ∃ message, amountToPaise (.finite n h) field allowZero = .error (.valueError message) := by
  by_cases hrange : n.value < 0 ∨ (n.value = 0 ∧ ¬allowZero) ∨ maxAmountRupees.value < n.value
  · exact .inr ⟨fun k hk => paise_range hk.2 hrange, _, if_pos hrange⟩
  simp only [amountToPaise, if_neg hrange]
  simp only [not_or, not_lt, maxAmountRupees_value, not_and, not_not] at hrange
  obtain ⟨hnonneg, hallow, hmax⟩ := hrange
  by_cases hzero : n.value = 0
  · refine .inl ⟨0, room_zero h (Number.value_eq_zero_iff.1 hzero), ⟨?_, by norm_num, .inr ⟨rfl, hallow hzero⟩⟩,
      if_pos hzero⟩
    rw [hzero]
    norm_num
  simp only [if_neg hzero]
  have hroom : Room n ↔ numDigits n.coefficient + 2 ≤ maxPrec := by
    rw [Room, if_neg fun hc => hzero (Number.value_eq_zero_iff.2 hc)]
  by_cases hleast : n.value < leastAmount.value
  · refine .inr ⟨?_, _, if_pos hleast⟩
    -- between zero and the least amount there are no whole paise
    rintro k ⟨-, hvalue, -, hk⟩
    rw [leastAmount_value] at hleast
    have hlt : (k : ℚ) < 1 := by linarith
    have hlt : k < 1 := by exact_mod_cast hlt
    have hk0 : k = 0 := by omega
    rw [hk0] at hvalue
    exact hzero (hvalue.trans (by norm_num))
  simp only [if_neg hleast]
  rw [not_lt, leastAmount_value] at hleast
  by_cases hdigits : numDigits n.coefficient + 2 ≤ maxPrec
  · rcases scaled_of_room hleast hmax hdigits with ⟨k, hvalue, hscaled⟩ | ⟨hnone, hscaled⟩
    · refine .inl ⟨k, hroom.2 hdigits, ⟨hvalue, ?_, .inl ?_⟩, hscaled⟩
      · have : (k : ℚ) ≤ 2 ^ 63 - 1 := by linarith
        exact_mod_cast this
      · have : (1 : ℚ) ≤ k := by linarith
        exact_mod_cast this
    · exact .inr ⟨fun k hk => hnone k hk.2.1, _, hscaled⟩
  · exact .inr ⟨fun k hk => hdigits (hroom.1 hk.1), scaled_of_not_room hdigits⟩

end Objects

lemma toDecimal_finite_iff {u : Unicode} {value : Value} {n : Number} (h : n.Fits) :
    toDecimal u value = some (.ok (.finite n h)) ↔ Writes u value n := by
  cases value with
  | text s => simp only [toDecimal, Writes, Option.some.injEq, ofText_finite_iff]
  | int i => simp only [toDecimal, Writes, Option.some.injEq, ofNumber_finite_iff, eq_comm]
  | decimal d =>
    simp only [toDecimal, Writes, Option.some.injEq, Except.ok.injEq]
    constructor
    · intro heq
      exact ⟨h, heq⟩
    · rintro ⟨_, heq⟩
      exact heq
  | bool b => simp [toDecimal, Writes]
  | other => simp [toDecimal, Writes]

/-- A value is converted to `k` exactly if it writes `k / 100` in a form that there is room for. -/
theorem rupees_to_paise (u : Unicode) (value : Value) (field : String) (allowZero : Bool) :
    (∀ k, rupeesToPaise u value field allowZero = .ok k ↔ ∃ n, Writes u value n ∧ Room n ∧ Paise allowZero n.value k) ∧
      ∀ e, rupeesToPaise u value field allowZero = .error e → ∃ message, e = .valueError message := by
  by_cases hfinite : ∃ n h, toDecimal u value = some (.ok (.finite n h))
  · obtain ⟨n, h, hdecimal⟩ := hfinite
    have hunique : ∀ m k, Writes u value m → Room m → Paise allowZero m.value k → m = n := by
      rintro m k hm hroom ⟨hvalue, hmax, hk⟩
      have hfits := fits_of_room hroom hvalue hmax (by omega)
      have heq := (toDecimal_finite_iff hfits).2 hm
      rw [hdecimal] at heq
      simp only [Option.some.injEq, Except.ok.injEq, Object.finite.injEq] at heq
      exact heq.symm
    have hresult : rupeesToPaise u value field allowZero = amountToPaise (.finite n h) field allowZero := by
      rw [rupeesToPaise, hdecimal]
    rw [hresult]
    rcases @amountToPaise_finite n field allowZero h with
      ⟨k, hroom, hpaise, hok⟩ | ⟨hnone, message, herror⟩
    · refine ⟨fun k' => ?_, fun e he => ?_⟩
      · rw [hok, Except.ok.injEq]
        constructor
        · rintro rfl
          exact ⟨n, (toDecimal_finite_iff h).1 hdecimal, hroom, hpaise⟩
        · rintro ⟨m, hm, hroom', hpaise'⟩
          obtain rfl := hunique m k' hm hroom' hpaise'
          have hcast : (k : ℚ) = k' := by linarith [hpaise.1, hpaise'.1]
          exact_mod_cast hcast
      · rw [hok] at he
        cases he
    · refine ⟨fun k' => ?_, fun e he => ⟨message, ?_⟩⟩
      · rw [herror]
        refine ⟨fun h => (by cases h), ?_⟩
        rintro ⟨m, hm, hroom, hpaise⟩
        obtain rfl := hunique m k' hm hroom hpaise
        exact absurd ⟨hroom, hpaise⟩ (hnone k')
      · rw [herror] at he
        cases he
        rfl
  · have herror : ∃ message, rupeesToPaise u value field allowZero = .error (.valueError message) := by
      unfold rupeesToPaise
      split
      · rename_i amount hdecimal
        cases amount with
        | finite n h => exact absurd ⟨n, h, hdecimal⟩ hfinite
        | infinity negative => exact ⟨_, rfl⟩
        | nan signaling => exact ⟨_, rfl⟩
      · exact ⟨_, rfl⟩
      · exact ⟨_, rfl⟩
    obtain ⟨message, herror⟩ := herror
    rw [herror]
    refine ⟨fun k => ⟨fun h => (by cases h), ?_⟩, fun e he => ⟨message, ?_⟩⟩
    · rintro ⟨n, hn, hroom, hvalue, hmax, hk⟩
      have hfits := fits_of_room hroom hvalue hmax (by omega)
      exact absurd ⟨n, hfits, (toDecimal_finite_iff hfits).2 hn⟩ hfinite
    · cases he
      rfl

def asciiOnly : Unicode := ⟨fun c => c = ' ', fun _ => none⟩

theorem rupees_to_paise_fee : rupeesToPaise asciiOnly (.text "12.340e1") "fee" true = .ok 12340 := by
  have hwrites : Writes asciiOnly (.text "12.340e1") ⟨false, 12340, -2⟩ :=
    ⟨"12.340e1".toList, by decide +kernel, by decide +kernel⟩
  refine ((rupees_to_paise asciiOnly (.text "12.340e1") "fee" true).1 12340).2 ⟨_, hwrites, ?_, ?_, ?_, .inl ?_⟩
  · have hdigits : numDigits 12340 = 5 := by decide +kernel
    simp [Room, hdigits, maxPrec]
  · norm_num [Number.value, Number.sign]
  · norm_num
  · norm_num

theorem zero_fee_refused :
    Writes asciiOnly (.text "0e1000000000000000000") ⟨false, 0, 10 ^ 18⟩ ∧
      (⟨false, 0, 10 ^ 18⟩ : Number).value = (0 : ℤ) / 100 ∧
      rupeesToPaise asciiOnly (.text "0e1000000000000000000") "fee" true =
        .error (.valueError "fee must be a decimal amount") := by
  have hread : readNumber "0e1000000000000000000".toList = some ⟨false, 0, 10 ^ 18⟩ := by decide +kernel
  have hascii : numericAsAscii asciiOnly "0e1000000000000000000".toList = some "0e1000000000000000000".toList := by
    decide +kernel
  have hfits : ¬(⟨false, 0, 10 ^ 18⟩ : Number).Fits := fun h => by
    have := h.adjusted
    simp [Number.adjusted, numDigits, maxEmax] at this
  refine ⟨⟨_, hascii, hread⟩, ?_, ?_⟩
  · rw [Number.value_eq_zero_iff.2 rfl]
    norm_num
  · simp only [rupeesToPaise, toDecimal, ofText, hascii, hread, ofNumber, dif_neg hfits]
    rfl

end RelayPay.Cashfree
