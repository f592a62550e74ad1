import Mathlib.Algebra.Order.Round
import Mathlib.Data.Rat.Floor
import Mathlib.Tactic.Linarith
import Mathlib.Tactic.Push
import RelayPay.Payments.Commands

namespace RelayPay

def NearestHalfUp (q : ℚ) (n : ℤ) : Prop := IsGreatest {m : ℤ | ∀ k : ℤ, |q - m| ≤ |q - k|} n

lemma nearestHalfUp_round (q : ℚ) : NearestHalfUp q (round q) := by
  constructor
  · exact round_le q
  · intro m hm
    have hhalf : |q - m| ≤ 1 / 2 := (hm (round q)).trans (abs_sub_round q)
    have hm : (m : ℚ) ≤ q + 1 / 2 := by
      rw [abs_le] at hhalf
      linarith
    rw [round_eq]
    exact Int.le_floor.2 hm

lemma NearestHalfUp.eq_round {q : ℚ} {n : ℤ} (h : NearestHalfUp q n) : n = round q :=
  h.unique (nearestHalfUp_round q)

lemma NearestHalfUp.mono {q q' : ℚ} {n n' : ℤ} (h : NearestHalfUp q n) (h' : NearestHalfUp q' n') (hle : q ≤ q') :
    n ≤ n' := by
  rw [h.eq_round, h'.eq_round, round_eq, round_eq]
  apply Int.floor_le_floor
  linarith

lemma roundHalfUp_eq (numerator : ℤ) {denominator : ℕ} (h : 0 < denominator) :
    roundHalfUp numerator denominator = round ((numerator : ℚ) / denominator) := by
  have hd : (denominator : ℚ) ≠ 0 := by exact_mod_cast h.ne'
  have hsum : (numerator : ℚ) / denominator + 1 / 2 =
      ((2 * numerator + denominator : ℤ) : ℚ) / ((2 * denominator : ℕ) : ℚ) := by
    push_cast
    field_simp
  rw [round_eq, hsum, Rat.floor_intCast_div_natCast, roundHalfUp]
  push_cast
  rfl

namespace FeeScheduleTerms

structure Valid (terms : FeeScheduleTerms) : Prop where
  mdrBps_le : terms.mdrBps ≤ 10000
  gstBps_le : terms.gstBps ≤ 10000
  bounds : ∀ lo ∈ terms.minFeePaise, ∀ hi ∈ terms.maxFeePaise, lo ≤ hi

def clamp (terms : FeeScheduleTerms) (fee : ℤ) : ℤ :=
  let capped := terms.maxFeePaise.elim fee fun hi => min fee hi
  terms.minFeePaise.elim capped fun lo => max (lo : ℤ) capped

lemma clamp_mono (terms : FeeScheduleTerms) {fee fee' : ℤ} (h : fee ≤ fee') : terms.clamp fee ≤ terms.clamp fee' := by
  rw [clamp, clamp]
  cases terms.maxFeePaise with
  | none =>
    cases terms.minFeePaise with
    | none => exact h
    | some lo => exact max_le_max le_rfl h
  | some hi =>
    have hcap := min_le_min_right (hi : ℤ) h
    cases terms.minFeePaise with
    | none => exact hcap
    | some lo => exact max_le_max le_rfl hcap

lemma clamp_nonneg (terms : FeeScheduleTerms) {fee : ℤ} (h : 0 ≤ fee) : 0 ≤ terms.clamp fee := by
  rw [clamp]
  cases terms.maxFeePaise <;> cases terms.minFeePaise <;> simp <;> omega

structure Asks (terms : FeeScheduleTerms) (amount fee gst : ℤ) : Prop where
  fee_eq : ∃ n, NearestHalfUp ((amount * terms.mdrBps : ℤ) / 10000) n ∧ fee = terms.clamp (n + terms.fixedPaise)
  gst_nearest : NearestHalfUp ((fee * terms.gstBps : ℤ) / 10000) gst

def feeOf (terms : FeeScheduleTerms) (amount : ℤ) : ℤ :=
  terms.clamp (roundHalfUp (amount * terms.mdrBps) 10000 + terms.fixedPaise)

def gstOf (terms : FeeScheduleTerms) (amount : ℤ) : ℤ := roundHalfUp (terms.feeOf amount * terms.gstBps) 10000

variable {terms : FeeScheduleTerms} {amount fee gst : ℤ}

lemma asks_feeOf (terms : FeeScheduleTerms) (amount : ℤ) : terms.Asks amount (terms.feeOf amount) (terms.gstOf amount) := by
  have hrounds : ∀ numerator : ℤ, roundHalfUp numerator 10000 = round ((numerator : ℚ) / 10000) := by
    intro numerator
    exact_mod_cast roundHalfUp_eq numerator (show 0 < 10000 by decide)
  constructor
  · refine ⟨roundHalfUp (amount * terms.mdrBps) 10000, ?_, rfl⟩
    rw [hrounds]
    exact nearestHalfUp_round _
  · rw [gstOf, hrounds]
    exact nearestHalfUp_round _

lemma Asks.unique {fee' gst' : ℤ} (h : terms.Asks amount fee gst) (h' : terms.Asks amount fee' gst') :
    fee = fee' ∧ gst = gst' := by
  obtain ⟨n, hn, hfee⟩ := h.fee_eq
  obtain ⟨n', hn', hfee'⟩ := h'.fee_eq
  have hsame : fee = fee' := by
    rw [hfee, hfee', hn.unique hn']
  have hgst' := h'.gst_nearest
  rw [← hsame] at hgst'
  exact ⟨hsame, h.gst_nearest.unique hgst'⟩

lemma Asks.mono {amount' fee' gst' : ℤ} (hle : amount ≤ amount') (h : terms.Asks amount fee gst)
    (h' : terms.Asks amount' fee' gst') : fee ≤ fee' ∧ gst ≤ gst' := by
  have hscale : ∀ (rate : ℕ) {a b : ℤ}, a ≤ b → ((a * rate : ℤ) : ℚ) / 10000 ≤ ((b * rate : ℤ) : ℚ) / 10000 := by
    intro rate a b hab
    have hmul : a * rate ≤ b * rate := Int.mul_le_mul_of_nonneg_right hab (Int.natCast_nonneg rate)
    have hcast : ((a * rate : ℤ) : ℚ) ≤ ((b * rate : ℤ) : ℚ) := by exact_mod_cast hmul
    linarith
  obtain ⟨n, hn, hfee⟩ := h.fee_eq
  obtain ⟨n', hn', hfee'⟩ := h'.fee_eq
  have hfees : fee ≤ fee' := by
    rw [hfee, hfee']
    apply terms.clamp_mono
    have := hn.mono hn' (hscale terms.mdrBps hle)
    omega
  exact ⟨hfees, h.gst_nearest.mono h'.gst_nearest (hscale terms.gstBps hfees)⟩

lemma Asks.nonneg (hamount : 0 < amount) (h : terms.Asks amount fee gst) : 0 ≤ fee ∧ 0 ≤ gst := by
  -- an amount of nothing asks for no less than nothing
  have hround : ∀ {a : ℤ} {rate : ℕ} {n : ℤ}, 0 ≤ a → NearestHalfUp ((a * rate : ℤ) / 10000) n → 0 ≤ n := by
    intro a rate n ha hn
    have hzero : NearestHalfUp 0 0 := by simpa using nearestHalfUp_round 0
    apply hzero.mono hn
    have hmul : (0 : ℚ) ≤ ((a * rate : ℤ) : ℚ) := by
      exact_mod_cast Int.mul_nonneg ha (Int.natCast_nonneg rate)
    linarith
  obtain ⟨n, hn, hfee⟩ := h.fee_eq
  have hn0 := hround hamount.le hn
  have hfee0 : 0 ≤ fee := by
    rw [hfee]
    apply terms.clamp_nonneg
    omega
  exact ⟨hfee0, hround hfee0 h.gst_nearest⟩

def raised (terms : FeeScheduleTerms) (raw : ℤ) : ℤ := terms.minFeePaise.elim raw fun lo => max raw lo

lemma Valid.clamp_eq (h : terms.Valid) (raw : ℤ) :
    (terms.maxFeePaise.elim (terms.raised raw) fun hi => min (terms.raised raw) hi) = terms.clamp raw := by
  have hbounds := h.bounds
  rw [clamp, raised]
  cases hhi : terms.maxFeePaise with
  | none =>
    cases hlo : terms.minFeePaise with
    | none => rfl
    | some lo => exact max_comm _ _
  | some hi =>
    cases hlo : terms.minFeePaise with
    | none => rfl
    | some lo =>
      have := hbounds lo hlo hi hhi
      simp only [Option.elim_some]
      omega

end FeeScheduleTerms

lemma computeCaptureFee_eq {terms : FeeScheduleTerms} (h : terms.Valid) {amount : ℤ} (hamount : 0 < amount) :
    computeCaptureFee amount terms =
      if amount < terms.feeOf amount + terms.gstOf amount then .error (.value "fee and GST exceed the captured amount")
      else .ok ⟨terms.feeOf amount, terms.gstOf amount, amount - terms.feeOf amount - terms.gstOf amount⟩ := by
  have hsplit : ∀ fee, fee = terms.feeOf amount →
      (let gst := roundHalfUp (fee * terms.gstBps) 10000
        let net := amount - fee - gst
        if net < 0 then .error (.value "fee and GST exceed the captured amount") else .ok ⟨fee, gst, net⟩) =
      if amount < terms.feeOf amount + terms.gstOf amount then .error (.value "fee and GST exceed the captured amount")
      else (.ok ⟨terms.feeOf amount, terms.gstOf amount, amount - terms.feeOf amount - terms.gstOf amount⟩ :
        Except Error FeeBreakdown) := by
    rintro fee rfl
    apply if_congr _ rfl rfl
    change amount - terms.feeOf amount - terms.gstOf amount < 0 ↔ _
    omega
  rw [computeCaptureFee, if_neg (by omega)]
  refine hsplit _ ?_
  rw [FeeScheduleTerms.feeOf, ← h.clamp_eq, FeeScheduleTerms.raised]
  cases terms.minFeePaise <;> cases terms.maxFeePaise <;> rfl

theorem computeCaptureFee_nearest (terms : FeeScheduleTerms) (hterms : terms.Valid) :
    (∀ amount > 0, ∃ fee gst, terms.Asks amount fee gst ∧ 0 ≤ fee ∧ 0 ≤ gst ∧
      (∀ fee' gst', terms.Asks amount fee' gst' → fee' = fee ∧ gst' = gst) ∧ ((amount < fee + gst ∧
          computeCaptureFee amount terms = .error (.value "fee and GST exceed the captured amount")) ∨
        ∃ net ≥ 0, fee + gst + net = amount ∧ computeCaptureFee amount terms = .ok ⟨fee, gst, net⟩)) ∧
    ∀ amount amount' fee gst fee' gst', 0 < amount → amount ≤ amount' → terms.Asks amount fee gst →
      terms.Asks amount' fee' gst' → fee ≤ fee' ∧ gst ≤ gst' := by
  constructor
  · intro amount hamount
    have hasks := terms.asks_feeOf amount
    obtain ⟨hfee, hgst⟩ := hasks.nonneg hamount
    refine ⟨_, _, hasks, hfee, hgst, fun fee' gst' h => h.unique hasks, ?_⟩
    rw [computeCaptureFee_eq hterms hamount]
    by_cases hexceeds : amount < terms.feeOf amount + terms.gstOf amount
    · exact .inl ⟨hexceeds, if_pos hexceeds⟩
    · exact .inr ⟨_, by omega, by omega, if_neg hexceeds⟩
  · intro amount amount' fee gst fee' gst' _ hle h h'
    exact h.mono hle h'

def sampleTerms : FeeScheduleTerms := ⟨190, 300, 1800, some 1000, some 10000⟩

theorem computeCaptureFee_nearest_sample : ∃ fee gst, sampleTerms.Asks 123450 fee gst ∧ 0 ≤ fee ∧ 0 ≤ gst ∧
    (∀ fee' gst', sampleTerms.Asks 123450 fee' gst' → fee' = fee ∧ gst' = gst) ∧ ((123450 < fee + gst ∧
        computeCaptureFee 123450 sampleTerms = .error (.value "fee and GST exceed the captured amount")) ∨
      ∃ net ≥ 0, fee + gst + net = 123450 ∧ computeCaptureFee 123450 sampleTerms = .ok ⟨fee, gst, net⟩) :=
  (computeCaptureFee_nearest sampleTerms ⟨by decide, by decide, by decide⟩).1 123450 (by decide)

-- 1.90 % of 123450 paise is 2345.55, and 18 % of 2646 is 476.28
example : computeCaptureFee 123450 sampleTerms = .ok ⟨2646, 476, 120328⟩ := by
  simp [computeCaptureFee, roundHalfUp, sampleTerms]

end RelayPay
