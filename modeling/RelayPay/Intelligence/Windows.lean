import RelayPay.Intelligence.Queries
import Mathlib.Order.Interval.Finset.Nat
import Mathlib.Order.Bounds.Basic

namespace RelayPay.Intelligence

def weekdaysUpTo (d e : Date) : Finset Date := (Finset.Ioc d e).filter fun x => weekday x < 5

lemma mem_weekdaysUpTo {d e x : ℕ} : x ∈ weekdaysUpTo d e ↔ (d < x ∧ x ≤ e) ∧ weekday x < 5 := by
  simp [weekdaysUpTo]

lemma weekdaysUpTo_self (d : ℕ) : weekdaysUpTo d d = ∅ := by simp [weekdaysUpTo]

lemma weekdaysUpTo_mono {d d' e e' : ℕ} (hd : d' ≤ d) (he : e ≤ e') : weekdaysUpTo d e ⊆ weekdaysUpTo d' e' := by
  intro x hx
  rw [mem_weekdaysUpTo] at hx ⊢
  omega

lemma card_weekdaysUpTo {d e : ℕ} (h : d < e) :
    (weekdaysUpTo d e).card = (weekdaysUpTo (d + 1) e).card + if weekday (d + 1) < 5 then 1 else 0 := by
  have hmem : ∀ x : ℕ, x ∈ weekdaysUpTo d e ↔
      x ∈ weekdaysUpTo (d + 1) e ∨ (x = d + 1 ∧ weekday (d + 1) < 5) := by
    intro x
    simp only [mem_weekdaysUpTo]
    constructor
    · rintro ⟨⟨hlt, hle⟩, hday⟩
      rcases Nat.lt_or_ge (d + 1) x with hlater | hnext
      · exact Or.inl ⟨⟨hlater, hle⟩, hday⟩
      · obtain rfl : x = d + 1 := by omega
        exact Or.inr ⟨rfl, hday⟩
    · rintro (⟨⟨hlt, hle⟩, hday⟩ | ⟨rfl, hday⟩)
      · exact ⟨⟨by omega, hle⟩, hday⟩
      · exact ⟨⟨by omega, h⟩, hday⟩
  split_ifs with hday
  · have hinsert : weekdaysUpTo d e = insert (d + 1) (weekdaysUpTo (d + 1) e) := by
      ext x
      rw [hmem, Finset.mem_insert]
      tauto
    rw [hinsert, Finset.card_insert_of_notMem]
    rw [mem_weekdaysUpTo]
    omega
  · have hsame : weekdaysUpTo d e = weekdaysUpTo (d + 1) e := by
      ext x
      rw [hmem]
      tauto
    rw [hsame]
    rfl

lemma card_weekdaysUpTo_lt {d e e' : ℕ} (hd : d ≤ e) (h : e < e') (hday : weekday e' < 5) :
    (weekdaysUpTo d e).card < (weekdaysUpTo d e').card := by
  apply Finset.card_lt_card
  rw [Finset.ssubset_iff_of_subset (weekdaysUpTo_mono le_rfl h.le)]
  refine ⟨e', ?_, ?_⟩
  · rw [mem_weekdaysUpTo]
    omega
  · rw [mem_weekdaysUpTo]
    omega

lemma least_of_weekend {current n : ℕ} (hweekend : 5 ≤ weekday current)
    (h : IsLeast {e | current + 1 ≤ e ∧ weekday e < 5} n) : IsLeast {e | current ≤ e ∧ weekday e < 5} n := by
  refine ⟨⟨by have := h.1.1; omega, h.1.2⟩, fun e he => h.2 ⟨?_, he.2⟩⟩
  have hne : e ≠ current := by
    rintro rfl
    have := he.2
    omega
  have := he.1
  omega

lemma skipWeekend_least (current : ℕ) : IsLeast {e | current ≤ e ∧ weekday e < 5} (skipWeekend current) := by
  induction current using skipWeekend.induct with
  | case1 current hweekend ih =>
    rw [skipWeekend, if_pos hweekend]
    exact least_of_weekend hweekend ih
  | case2 current hweekend =>
    rw [skipWeekend, if_neg hweekend]
    exact ⟨⟨le_rfl, by omega⟩, fun e he => he.1⟩

lemma arrivalAfter_included (current : ℕ) (remaining : ℕ) :
    arrivalAfter false current remaining = current + remaining := by
  induction remaining generalizing current with
  | zero =>
    rw [arrivalAfter, if_neg (by simp)]
    rfl
  | succ n ih =>
    rw [arrivalAfter, if_pos (by simp), if_neg (by simp), Nat.add_sub_cancel, ih, Nat.add_assoc, Nat.add_comm 1]

lemma arrivalAfter_zero_least (current : ℕ) :
    IsLeast {e | current ≤ e ∧ weekday e < 5} (arrivalAfter true current 0) := by
  induction current using skipWeekend.induct with
  | case1 current hweekend ih =>
    rw [arrivalAfter, if_pos (Or.inr ⟨rfl, hweekend⟩)]
    simp only [Nat.zero_sub, ite_self]
    exact least_of_weekend hweekend ih
  | case2 current hweekend =>
    rw [arrivalAfter, if_neg (by simp [hweekend])]
    exact ⟨⟨le_rfl, by omega⟩, fun e he => he.1⟩

structure WeekdayAfter (d : ℕ) (n : ℕ) (e : ℕ) : Prop where
  later : d < e
  isWeekday : weekday e < 5
  count : (weekdaysUpTo d e).card = n

lemma WeekdayAfter.next {d e : ℕ} {n : ℕ} (h : WeekdayAfter (d + 1) n e) :
    WeekdayAfter d (n + if weekday (d + 1) < 5 then 1 else 0) e where
  later := by
    have := h.later
    omega
  isWeekday := h.isWeekday
  count := by
    have hlater := h.later
    rw [card_weekdaysUpTo (by omega), h.count]

lemma weekdayAfter_one {d : ℕ} (h : weekday (d + 1) < 5) : WeekdayAfter d 1 (d + 1) where
  later := Nat.lt_succ_self d
  isWeekday := h
  count := by rw [card_weekdaysUpTo (Nat.lt_succ_self d), weekdaysUpTo_self, if_pos h, Finset.card_empty]

lemma arrivalAfter_skipped (current : ℕ) (n : ℕ) :
    WeekdayAfter current (n + 1) (arrivalAfter true current (n + 1)) := by
  generalize hremaining : n + 1 = remaining
  induction current, remaining using arrivalAfter.induct true generalizing n with
  | case1 current remaining hloop hweekend ih =>
    -- a weekend day is passed over and the countdown stands
    rw [arrivalAfter, if_pos hloop, if_pos hweekend]
    have hnext := (ih n hremaining).next
    rwa [if_neg (by omega)] at hnext
  | case2 current remaining hloop hweekend ih =>
    rw [arrivalAfter, if_pos hloop, if_neg hweekend]
    subst hremaining
    have hday : weekday (current + 1) < 5 := by
      by_contra h
      exact hweekend ⟨rfl, by omega⟩
    cases n with
    | zero =>
      rw [Nat.add_sub_cancel, arrivalAfter, if_neg (by simp; omega)]
      exact weekdayAfter_one hday
    | succ n =>
      have hnext := (ih n rfl).next
      rwa [if_pos hday] at hnext
  | case3 current remaining hloop =>
    exact absurd (Or.inl (by omega)) hloop

lemma arrivalAfter_mono_date (skip : Bool) (n : ℕ) {d d' : ℕ} (h : d ≤ d') :
    arrivalAfter skip d n ≤ arrivalAfter skip d' n := by
  cases skip with
  | false =>
    rw [arrivalAfter_included, arrivalAfter_included]
    exact Nat.add_le_add_right h n
  | true =>
    cases n with
    | zero =>
      have hleast := arrivalAfter_zero_least d'
      exact (arrivalAfter_zero_least d).2 ⟨h.trans hleast.1.1, hleast.1.2⟩
    | succ n =>
      have hfrom := arrivalAfter_skipped d n
      have hto := arrivalAfter_skipped d' n
      by_contra hlt
      -- an earlier arrival would leave too few weekdays between
      have hfewer := card_weekdaysUpTo_lt (h.trans hto.later.le) (not_le.1 hlt) hfrom.isWeekday
      have hmore := Finset.card_le_card (weekdaysUpTo_mono h (le_refl (arrivalAfter true d' (n + 1))))
      rw [hfrom.count] at hfewer
      rw [hto.count] at hmore
      omega

lemma arrivalAfter_mono_delay (skip : Bool) (d : ℕ) {n n' : ℕ} (h : n ≤ n') :
    arrivalAfter skip d n ≤ arrivalAfter skip d n' := by
  cases skip with
  | false =>
    rw [arrivalAfter_included, arrivalAfter_included]
    exact Nat.add_le_add_left h d
  | true =>
    cases n' with
    | zero =>
      obtain rfl : n = 0 := by omega
      exact le_rfl
    | succ n' =>
      have hto := arrivalAfter_skipped d n'
      cases n with
      | zero => exact (arrivalAfter_zero_least d).2 ⟨hto.later.le, hto.isWeekday⟩
      | succ n =>
        have hfrom := arrivalAfter_skipped d n
        by_contra hlt
        have hfewer := card_weekdaysUpTo_lt hto.later.le (not_le.1 hlt) hfrom.isWeekday
        rw [hfrom.count, hto.count] at hfewer
        omega

theorem business_dates (window : PolicyWindow) (d : Date) : (window.weekendHandling = .skipped →
      IsLeast {e | d < e ∧ weekday e < 5} (nextBusinessDate window d) ∧
      weekday (arrivalDate window d) < 5 ∧ (0 < window.settlementDelayDays → d < arrivalDate window d ∧
        (weekdaysUpTo d (arrivalDate window d)).card = window.settlementDelayDays) ∧
      (window.settlementDelayDays = 0 → IsLeast {e | d ≤ e ∧ weekday e < 5} (arrivalDate window d))) ∧
    (window.weekendHandling = .included →
      nextBusinessDate window d = d + 1 ∧ arrivalDate window d = d + window.settlementDelayDays) ∧
    (∀ d', d ≤ d' → arrivalDate window d ≤ arrivalDate window d') ∧
    ∀ longer : PolicyWindow, longer.weekendHandling = window.weekendHandling →
      window.settlementDelayDays ≤ longer.settlementDelayDays →
      arrivalDate window d ≤ arrivalDate longer d := by
  refine ⟨fun hskip => ?_, fun hinclude => ?_, fun d' hle => arrivalAfter_mono_date _ _ hle, fun longer hsame hle => ?_⟩
  · have hnext : nextBusinessDate window d = skipWeekend (d + 1) := by simp only [nextBusinessDate, hskip]
    have harrive : arrivalDate window d = arrivalAfter true d window.settlementDelayDays := by
      simp only [arrivalDate, hskip, decide_true]
    rw [hnext, harrive]
    refine ⟨skipWeekend_least (d + 1), ?_⟩
    cases window.settlementDelayDays with
    | zero =>
      have hleast := arrivalAfter_zero_least d
      exact ⟨hleast.1.2, fun h => absurd h (lt_irrefl 0), fun _ => hleast⟩
    | succ n =>
      have hafter := arrivalAfter_skipped d n
      exact ⟨hafter.isWeekday, fun _ => ⟨hafter.later, hafter.count⟩, fun h => absurd h (Nat.succ_ne_zero n)⟩
  · have hnext : nextBusinessDate window d = d + 1 := by simp only [nextBusinessDate, hinclude]
    have harrive : arrivalDate window d = arrivalAfter false d window.settlementDelayDays := by
      simp [arrivalDate, hinclude]
    exact ⟨hnext, harrive.trans (arrivalAfter_included d _)⟩
  · rw [arrivalDate, arrivalDate, hsame]
    exact arrivalAfter_mono_delay _ d hle

def PolicyWindow.default : PolicyWindow where
  timezoneName := "Asia/Kolkata"
  cutoffHour := 17
  cutoffMinute := 0
  settlementDelayDays := 1
  weekendHandling := .skipped

theorem business_dates_friday :
    weekday 5 = 4 ∧ 5 < arrivalDate .default 5 ∧ (weekdaysUpTo 5 (arrivalDate .default 5)).card = 1 ∧
      arrivalDate .default 5 ≤ arrivalDate .default 6 :=
  have h := business_dates .default 5
  have harrive := (h.1 rfl).2.2.1 Nat.zero_lt_one
  ⟨rfl, harrive.1, harrive.2, h.2.2.1 6 (by decide)⟩

end RelayPay.Intelligence
