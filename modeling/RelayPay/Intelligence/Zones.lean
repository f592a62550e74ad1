import RelayPay.Intelligence.Queries
import Mathlib.Algebra.Order.Ring.Int
import Mathlib.Data.Nat.Find
import Mathlib.Order.Bounds.Basic

/-! Cutoffs and business dates in a time zone whose offset changes, in microseconds on an unbounded calendar. -/

namespace RelayPay.Intelligence

def day : ℤ := seconds 86400

structure Zone where
  offset : ℤ → ℤ
  above (t : ℤ) : -day < offset t
  below (t : ℤ) : offset t < day

namespace Zone

variable (z : Zone) (window : PolicyWindow)

def wall (t : ℤ) : ℤ := t + z.offset t

lemma wall_reaches (c : ℤ) : ∃ n : ℕ, c ≤ z.wall (c - day + n) := by
  refine ⟨(2 * day).toNat, ?_⟩
  have habove := z.above (c - day + (2 * day).toNat)
  rw [wall]
  simp only [day, seconds] at *
  omega

def firstAt (c : ℤ) : ℤ := c - day + Nat.find (z.wall_reaches c)

/-- The first instant that shows a local time, and for one that the clock leaps over that by the offset before. -/
def resolve (c : ℤ) : ℤ :=
  if z.wall (z.firstAt c) = c then z.firstAt c else c - z.offset (z.firstAt c - 1)

def cutoffWall (d : ℤ) : ℤ := d * day + window.cutoffTime

def cutoffAt (businessDate : ℤ) : ℤ := z.resolve (cutoffWall window businessDate)

def businessDateOf (moment : ℤ) : ℤ :=
  if z.wall moment % day ≤ window.cutoffTime then z.wall moment / day else z.wall moment / day + 1

def calendar (zones : String → Zone) (dateText : Date → String) (momentText : String → Time → String) : Calendar where
  localDate name t := ((zones name).wall t / day).toNat
  localTime name t := ((zones name).wall t % day).toNat
  combine name d t := ((zones name).resolve (d * day + t)).toNat
  dateText := dateText
  momentText := momentText

lemma calendar_businessDateOf (zones : String → Zone) (dateText : Date → String)
    (momentText : String → Time → String) (t : Time) (h : 0 ≤ (zones window.timezoneName).wall t) :
    (Intelligence.businessDateOf (calendar zones dateText momentText) window t : ℤ) =
      (zones window.timezoneName).businessDateOf window t := by
  have hday : 0 < day := by decide
  have hdate : (((zones window.timezoneName).wall t / day).toNat : ℤ) = (zones window.timezoneName).wall t / day :=
    Int.toNat_of_nonneg (Int.ediv_nonneg h hday.le)
  simp only [Intelligence.businessDateOf, businessDateOf, calendar, Int.toNat_le]
  split_ifs with hcutoff
  · exact hdate
  · rw [Nat.cast_add, hdate, Nat.cast_one]

lemma calendar_cutoffAt (zones : String → Zone) (dateText : Date → String)
    (momentText : String → Time → String) (d : Date) :
    Intelligence.cutoffAt (calendar zones dateText momentText) window d =
      ((zones window.timezoneName).cutoffAt window d).toNat := rfl

lemma le_wall_firstAt (c : ℤ) : c ≤ z.wall (z.firstAt c) := Nat.find_spec (z.wall_reaches c)

variable {z window}

lemma wall_lt_of_lt_firstAt {m c : ℤ} (h : m < z.firstAt c) : z.wall m < c := by
  rcases le_or_gt m (c - day) with hearly | hlate
  · have hbelow := z.below m
    rw [wall]
    omega
  · obtain ⟨n, rfl⟩ : ∃ n : ℕ, m = c - day + n := ⟨(m - (c - day)).toNat, by omega⟩
    have hn : n < Nat.find (z.wall_reaches c) := by
      rw [firstAt] at h
      omega
    exact not_le.1 (Nat.find_min (z.wall_reaches c) hn)

lemma firstAt_eq {u c : ℤ} (hu : c ≤ z.wall u) (hbefore : ∀ m < u, z.wall m < c) : z.firstAt c = u := by
  apply le_antisymm
  · by_contra hlt
    have := wall_lt_of_lt_firstAt (not_le.1 hlt)
    omega
  · by_contra hlt
    have := hbefore _ (not_le.1 hlt)
    have := z.le_wall_firstAt c
    omega

lemma resolve_shown {u c : ℤ} (hu : z.wall u = c) (hbefore : ∀ m < u, z.wall m < c) : z.resolve c = u := by
  rw [resolve, firstAt_eq hu.ge hbefore, if_pos hu]

lemma resolve_leapt {u c : ℤ} (hu : c < z.wall u) (hbefore : ∀ m < u, z.wall m < c) :
    z.resolve c = c - z.offset (u - 1) := by
  rw [resolve, firstAt_eq hu.le hbefore, if_neg hu.ne']

lemma firstAt_le_resolve (c : ℤ) : z.firstAt c ≤ z.resolve c := by
  rw [resolve]
  split_ifs with hshown
  · exact le_rfl
  · have hbefore : z.wall (z.firstAt c - 1) < c := wall_lt_of_lt_firstAt (Int.sub_one_lt_of_le le_rfl)
    rw [wall] at hbefore
    omega

lemma businessDateOf_le_iff (hcut : (window.cutoffTime : ℤ) < day) (m d : ℤ) :
    z.businessDateOf window m ≤ d ↔ z.wall m ≤ cutoffWall window d := by
  simp only [businessDateOf, cutoffWall, day, seconds] at *
  split_ifs <;> omega

lemma cutoffWall_lt {d e : ℤ} (h : d < e) : cutoffWall window d < cutoffWall window e := by
  simp only [cutoffWall, day, seconds]
  omega

def ShownOnce (z : Zone) (c : ℤ) : Prop :=
  ∃ u, z.wall u = c ∧ (∀ m < u, z.wall m < c) ∧ ∀ m, u < m → c < z.wall m

lemma ShownOnce.le_resolve_iff {c : ℤ} (h : z.ShownOnce c) (m : ℤ) : m ≤ z.resolve c ↔ z.wall m ≤ c := by
  obtain ⟨u, hshown, hbefore, hafter⟩ := h
  rw [resolve_shown hshown hbefore]
  constructor
  · intro hle
    rcases eq_or_lt_of_le hle with rfl | hlt
    · exact hshown.le
    · exact (hbefore m hlt).le
  · intro hle
    by_contra hlt
    have := hafter m (not_le.1 hlt)
    omega

section LeastDates

variable (hcut : (window.cutoffTime : ℤ) < day)
  (hleast : ∀ m, IsLeast {d | m ≤ z.cutoffAt window d} (z.businessDateOf window m))
include hcut hleast

lemma cutoffAt_le_of_least {d e : ℤ} (h : d < e) : z.cutoffAt window d ≤ z.cutoffAt window e := by
  by_contra hlt
  have hfirst : z.firstAt (cutoffWall window e) ≤ z.cutoffAt window d :=
    (firstAt_le_resolve _).trans (not_le.1 hlt).le
  have hwall := (businessDateOf_le_iff hcut _ d).1 ((hleast _).2 hfirst)
  have hreach := z.le_wall_firstAt (cutoffWall window e)
  have hlater : cutoffWall window d < cutoffWall window e := cutoffWall_lt h
  omega

lemma le_cutoffAt_iff_of_least (m d : ℤ) : m ≤ z.cutoffAt window d ↔ z.businessDateOf window m ≤ d := by
  refine ⟨fun h => (hleast m).2 h, fun h => ?_⟩
  rcases eq_or_lt_of_le h with rfl | hlt
  · exact (hleast m).1
  · exact le_trans (hleast m).1 (cutoffAt_le_of_least hcut hleast hlt)

lemma shownOnce_of_least (d : ℤ) : z.ShownOnce (cutoffWall window d) := by
  have hiff : ∀ m, m ≤ z.cutoffAt window d ↔ z.wall m ≤ cutoffWall window d := fun m =>
    (le_cutoffAt_iff_of_least hcut hleast m d).trans (businessDateOf_le_iff hcut m d)
  have hshown : z.wall (z.firstAt (cutoffWall window d)) = cutoffWall window d :=
    le_antisymm ((hiff _).1 (firstAt_le_resolve _)) (z.le_wall_firstAt _)
  have hcutoff : z.cutoffAt window d = z.firstAt (cutoffWall window d) := by
    rw [cutoffAt, resolve, if_pos hshown]
  refine ⟨_, hshown, fun m hm => wall_lt_of_lt_firstAt hm, fun m hm => ?_⟩
  rw [← hcutoff] at hm
  exact not_le.1 fun hle => not_lt.2 ((hiff m).2 hle) hm

end LeastDates

end Zone

/-- The date of a moment and the cutoffs of the dates agree exactly if the local clock shows every cutoff once. -/
theorem business_date_least_iff (z : Zone) (window : PolicyWindow) (hhour : window.cutoffHour ≤ 23)
    (hminute : window.cutoffMinute ≤ 59) : ((∀ m, IsLeast {d | m ≤ z.cutoffAt window d} (z.businessDateOf window m)) ∧
      (∀ m m', m ≤ m' → z.businessDateOf window m ≤ z.businessDateOf window m') ∧
      ∀ m d, m ≤ z.cutoffAt window d ↔ z.businessDateOf window m ≤ d) ↔
    ∀ d, z.ShownOnce (Zone.cutoffWall window d) := by
  have hcut : (window.cutoffTime : ℤ) < day := by
    simp only [PolicyWindow.cutoffTime, day, seconds]
    omega
  constructor
  · rintro ⟨hleast, -⟩ d
    exact Zone.shownOnce_of_least hcut hleast d
  · intro honce
    have hiff : ∀ m d, m ≤ z.cutoffAt window d ↔ z.businessDateOf window m ≤ d := fun m d =>
      ((honce d).le_resolve_iff m).trans (Zone.businessDateOf_le_iff hcut m d).symm
    refine ⟨fun m => ⟨(hiff m _).2 le_rfl, fun d hd => (hiff m d).1 hd⟩, fun m m' hle => ?_, hiff⟩
    exact (hiff m _).1 (hle.trans ((hiff m' _).2 le_rfl))

namespace Berlin

def hour : ℤ := seconds 3600

def minute : ℤ := seconds 60

def autumn : Zone where
  offset t := if t < hour then 2 * hour else hour
  above t := by
    simp only [hour, day, seconds]
    split_ifs <;> omega
  below t := by
    simp only [hour, day, seconds]
    split_ifs <;> omega

def spring : Zone where
  offset t := if t < hour then hour else 2 * hour
  above t := by
    simp only [hour, day, seconds]
    split_ifs <;> omega
  below t := by
    simp only [hour, day, seconds]
    split_ifs <;> omega

def window (cutoffHour cutoffMinute : ℕ) : PolicyWindow :=
  ⟨"Europe/Berlin", cutoffHour, cutoffMinute, 1, .skipped⟩

lemma autumn_cutoffAt : autumn.cutoffAt (window 2 30) 0 = 30 * minute := by
  apply Zone.resolve_shown
  · decide
  · intro m hm
    simp only [Zone.wall, autumn, Zone.cutoffWall, window, PolicyWindow.cutoffTime, hour, minute, day, seconds] at *
    split_ifs <;> omega

lemma spring_cutoffAt : spring.cutoffAt (window 2 30) 0 = 90 * minute := by
  rw [Zone.cutoffAt, Zone.resolve_leapt (u := hour)]
  · decide
  · decide
  · intro m hm
    simp only [Zone.wall, spring, Zone.cutoffWall, window, PolicyWindow.cutoffTime, hour, day, seconds] at *
    omega

lemma autumn_shownOnce (d : ℤ) : autumn.ShownOnce (Zone.cutoffWall (window 17 0) d) := by
  refine ⟨if d < 0 then d * day + 15 * hour else d * day + 16 * hour, ?_, fun m hm => ?_, fun m hm => ?_⟩
  all_goals
    simp only [Zone.wall, autumn, Zone.cutoffWall, window, PolicyWindow.cutoffTime, hour, day, seconds] at *
    split_ifs at * <;> omega

end Berlin

/-- With the cutoff at 02:30. In autumn 02:10 comes back after 02:45 and has the earlier date, whose cutoff has passed.
In spring 03:10 has the next date, although the cutoff is still to come. -/
theorem business_date_disagrees : (70 * Berlin.minute > Berlin.autumn.cutoffAt (Berlin.window 2 30) 0 ∧
      Berlin.autumn.businessDateOf (Berlin.window 2 30) (70 * Berlin.minute) = 0 ∧
      Berlin.autumn.businessDateOf (Berlin.window 2 30) (45 * Berlin.minute) = 1) ∧
    70 * Berlin.minute ≤ Berlin.spring.cutoffAt (Berlin.window 2 30) 0 ∧
    Berlin.spring.businessDateOf (Berlin.window 2 30) (70 * Berlin.minute) = 1 := by
  rw [Berlin.autumn_cutoffAt, Berlin.spring_cutoffAt]
  decide

theorem business_date_least_iff_berlin :
    Berlin.autumn.ShownOnce (Zone.cutoffWall (Berlin.window 17 0) 0) ∧
      ∀ m, IsLeast {d | m ≤ Berlin.autumn.cutoffAt (Berlin.window 17 0) d}
        (Berlin.autumn.businessDateOf (Berlin.window 17 0) m) :=
  ⟨Berlin.autumn_shownOnce 0,
    ((business_date_least_iff Berlin.autumn (Berlin.window 17 0) (by decide) (by decide)).2
      Berlin.autumn_shownOnce).1⟩

end RelayPay.Intelligence
