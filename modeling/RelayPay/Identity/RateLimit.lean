import Mathlib.Data.List.Basic
import Mathlib.Data.List.Induction
import Mathlib.Data.List.Nodup
import Mathlib.Data.Rat.Floor
import Mathlib.Tactic.Linarith

namespace RelayPay.Identity

structure Tracked (κ : Type) where
  rows : List (κ × List ℚ)
  distinct : (rows.map Prod.fst).Nodup

namespace Tracked

variable {κ : Type} [DecidableEq κ]

def empty : Tracked κ := ⟨[], List.nodup_nil⟩

def momentsIn (key : κ) : List (κ × List ℚ) → List ℚ
  | [] => []
  | row :: rows => if row.1 = key then row.2 else momentsIn key rows

def moments (t : Tracked κ) (key : κ) : List ℚ := momentsIn key t.rows

def storeRows (key : κ) (moments : List ℚ) : List (κ × List ℚ) → List (κ × List ℚ)
  | [] => [(key, moments)]
  | row :: rows => if row.1 = key then (key, moments) :: rows else row :: storeRows key moments rows

lemma storeRows_keys (key : κ) (moments : List ℚ) (rows : List (κ × List ℚ)) :
    (storeRows key moments rows).map Prod.fst =
      if key ∈ rows.map Prod.fst then rows.map Prod.fst else rows.map Prod.fst ++ [key] := by
  induction rows with
  | nil => rfl
  | cons row rows ih =>
    rw [storeRows]
    by_cases h : row.1 = key
    · simp [h]
    · rw [if_neg h, List.map_cons, ih]
      by_cases hmem : key ∈ rows.map Prod.fst <;> simp_all [eq_comm]

def store (t : Tracked κ) (key : κ) (moments : List ℚ) : Tracked κ where
  rows := storeRows key moments t.rows
  distinct := by
    rw [storeRows_keys]
    split_ifs with h
    · exact t.distinct
    · exact List.nodup_append.2 ⟨t.distinct, List.nodup_singleton key, by
        rintro a ha b hb rfl
        exact h (List.mem_singleton.1 hb ▸ ha)⟩

def delete (t : Tracked κ) (keys : List κ) : Tracked κ where
  rows := t.rows.filter fun row => row.1 ∉ keys
  distinct := t.distinct.sublist (List.filter_sublist.map _)

lemma moments_store (t : Tracked κ) (key k : κ) (moments : List ℚ) :
    (t.store key moments).moments k = if k = key then moments else t.moments k := by
  obtain ⟨rows, hdistinct⟩ := t
  simp only [Tracked.moments, store]
  clear hdistinct
  induction rows with
  | nil => simp only [storeRows, momentsIn, eq_comm]
  | cons row rows ih =>
    by_cases hrow : row.1 = key
    · by_cases hk : key = k
      · simp [storeRows, momentsIn, hrow, hk]
      · simp [storeRows, momentsIn, hrow, hk, Ne.symm hk]
    · rw [storeRows, if_neg hrow, momentsIn, momentsIn, ih]
      by_cases hk : row.1 = k
      · rw [if_pos hk, if_pos hk, if_neg (fun h => hrow (hk.trans h))]
      · rw [if_neg hk, if_neg hk]

lemma moments_delete (t : Tracked κ) (keys : List κ) (k : κ) :
    (t.delete keys).moments k = if k ∈ keys then [] else t.moments k := by
  obtain ⟨rows, hdistinct⟩ := t
  simp only [Tracked.moments, delete]
  clear hdistinct
  induction rows with
  | nil => simp [momentsIn]
  | cons row rows ih =>
    by_cases hrow : row.1 ∈ keys
    · rw [List.filter_cons_of_neg (by simpa using hrow), ih, momentsIn]
      by_cases hk : row.1 = k
      · rw [if_pos (hk ▸ hrow), if_pos (hk ▸ hrow)]
      · rw [if_neg hk]
    · rw [List.filter_cons_of_pos (by simpa using hrow), momentsIn, momentsIn, ih]
      by_cases hk : row.1 = k
      · rw [if_pos hk, if_pos hk, if_neg (hk ▸ hrow)]
      · rw [if_neg hk, if_neg hk]

lemma moments_of_mem {t : Tracked κ} {row : κ × List ℚ} (h : row ∈ t.rows) : t.moments row.1 = row.2 := by
  obtain ⟨rows, hdistinct⟩ := t
  simp only [Tracked.moments] at *
  induction rows with
  | nil => cases h
  | cons first rows ih =>
    rw [List.map_cons, List.nodup_cons] at hdistinct
    rw [momentsIn]
    rcases List.mem_cons.1 h with rfl | hmem
    · rw [if_pos rfl]
    · rw [if_neg fun (heq : first.1 = row.1) => hdistinct.1 (heq ▸ List.mem_map_of_mem hmem)]
      exact ih hdistinct.2 hmem

end Tracked

structure RateLimiter where
  limit : ℕ
  window : ℤ

def maxTrackedKeys : ℕ := 10000

inductive Verdict where
  | admitted
  | rateLimited (retryAfter : ℤ)
  | indexError
  deriving DecidableEq

def trunc (x : ℚ) : ℤ := if 0 ≤ x then ⌊x⌋ else ⌈x⌉

variable {κ : Type} [DecidableEq κ] (limiter : RateLimiter)

def stale (cutoff : ℚ) (moments : List ℚ) : Bool := moments.getLast?.all fun last => last ≤ cutoff

def dropExpired (cutoff : ℚ) (tracked : Tracked κ) : Tracked κ :=
  if maxTrackedKeys ≤ tracked.rows.length then
    let expired := (tracked.rows.filter fun row => stale cutoff row.2).map Prod.fst
    tracked.delete (expired.take (expired.length / 2))
  else tracked

def judge (now : ℚ) (events : List ℚ) : Verdict :=
  if limiter.limit ≤ events.length then
    match events with
    | [] => .indexError
    | first :: _ => .rateLimited (max 1 (trunc (limiter.window - (now - first))))
  else .admitted

def checkWith (clean : ℚ → Tracked κ → Tracked κ) (tracked : Tracked κ) (key : κ) (now : ℚ) :
    Verdict × Tracked κ :=
  let cutoff := now - limiter.window
  let cleaned := clean cutoff tracked
  let events := (cleaned.moments key).dropWhile fun moment => moment ≤ cutoff
  match judge limiter now events with
  | .admitted => (.admitted, cleaned.store key (events ++ [now]))
  | verdict => (verdict, cleaned.store key events)

def check : Tracked κ → κ → ℚ → Verdict × Tracked κ := checkWith limiter dropExpired

structure Call (κ : Type) where
  key : κ
  time : ℚ

def historyWith (clean : ℚ → Tracked κ → Tracked κ) (calls : List (Call κ)) :
    Tracked κ × List (Call κ × Verdict) :=
  calls.foldl (fun s c =>
    let r := checkWith limiter clean s.1 c.key c.time
    (r.2, s.2 ++ [(c, r.1)])) (.empty, [])

def verdictWith (clean : ℚ → Tracked κ → Tracked κ) (calls : List (Call κ)) (c : Call κ) : Verdict :=
  (checkWith limiter clean (historyWith limiter clean calls).1 c.key c.time).1

def history : List (Call κ) → Tracked κ × List (Call κ × Verdict) := historyWith limiter dropExpired

def verdict : List (Call κ) → Call κ → Verdict := verdictWith limiter dropExpired

def admittedTimes (key : κ) (log : List (Call κ × Verdict)) : List ℚ :=
  (log.filter fun e => e.1.key = key ∧ e.2 = .admitted).map fun e => e.1.time

def counting (calls : List (Call κ)) (key : κ) (now : ℚ) : List ℚ :=
  (admittedTimes key (history limiter calls).2).filter fun moment => now - limiter.window < moment ∧ moment ≤ now

lemma admittedTimes_append (key : κ) (log log' : List (Call κ × Verdict)) :
    admittedTimes key (log ++ log') = admittedTimes key log ++ admittedTimes key log' := by
  simp [admittedTimes]

lemma admittedTimes_single (key : κ) (c : Call κ) (v : Verdict) :
    admittedTimes key [(c, v)] = if c.key = key ∧ v = .admitted then [c.time] else [] := by
  by_cases h : c.key = key ∧ v = .admitted <;> simp [admittedTimes, h]

lemma historyWith_snoc (clean : ℚ → Tracked κ → Tracked κ) (calls : List (Call κ)) (c : Call κ) :
    historyWith limiter clean (calls ++ [c]) =
      ((checkWith limiter clean (historyWith limiter clean calls).1 c.key c.time).2,
        (historyWith limiter clean calls).2 ++ [(c, verdictWith limiter clean calls c)]) := by
  simp [historyWith, verdictWith]

lemma dropWhile_eq_filter {cutoff : ℚ} {moments : List ℚ} (h : moments.Pairwise (· ≤ ·)) :
    moments.dropWhile (fun moment => moment ≤ cutoff) = moments.filter fun moment => cutoff < moment := by
  induction moments with
  | nil => rfl
  | cons m ms ih =>
    rw [List.pairwise_cons] at h
    by_cases hm : m ≤ cutoff
    · rw [List.dropWhile_cons_of_pos (by simpa using hm), ih h.2,
        List.filter_cons_of_neg (by simpa using hm)]
    · rw [List.dropWhile_cons_of_neg (by simpa using hm), eq_comm, List.filter_eq_self]
      intro a ha
      simp only [decide_eq_true_eq]
      rcases List.mem_cons.1 ha with rfl | ha
      · exact not_le.1 hm
      · exact (not_le.1 hm).trans_le (h.1 a ha)

lemma filter_filter_lt {c c' : ℚ} (h : c ≤ c') (moments : List ℚ) :
    (moments.filter fun m => c < m).filter (fun m => c' < m) = moments.filter fun m => c' < m := by
  rw [List.filter_filter]
  apply List.filter_congr
  intro m _
  by_cases hm : c' < m
  · simp [hm, h.trans_lt hm]
  · simp [hm]

lemma le_of_stale {cutoff : ℚ} {moments : List ℚ} (hsorted : moments.Pairwise (· ≤ ·))
    (h : stale cutoff moments = true) : ∀ m ∈ moments, m ≤ cutoff := by
  intro m hm
  obtain ⟨init, last, rfl⟩ : ∃ init last, moments = init ++ [last] :=
    ⟨_, _, (List.dropLast_append_getLast (List.ne_nil_of_mem hm)).symm⟩
  have hlast : last ≤ cutoff := by simpa [stale] using h
  rcases List.mem_append.1 hm with hinit | hend
  · exact ((List.pairwise_append.1 hsorted).2.2 m hinit last (by simp)).trans hlast
  · rwa [List.mem_singleton.1 hend]

def Harmless (clean : ℚ → Tracked κ → Tracked κ) : Prop :=
  ∀ cutoff tracked key, (∀ k, (tracked.moments k).Pairwise (· ≤ ·)) →
    (clean cutoff tracked).moments key = tracked.moments key ∨
      (clean cutoff tracked).moments key = [] ∧ ∀ m ∈ tracked.moments key, m ≤ cutoff

lemma dropExpired_harmless : Harmless (dropExpired : ℚ → Tracked κ → Tracked κ) := by
  intro cutoff tracked key hsorted
  rw [dropExpired]
  split_ifs with hfull
  · simp only [Tracked.moments_delete]
    split_ifs with hkey
    · obtain ⟨row, hrow, rfl⟩ := List.mem_map.1 (List.mem_of_mem_take hkey)
      obtain ⟨hmem, hstale⟩ := List.mem_filter.1 hrow
      refine Or.inr ⟨rfl, le_of_stale (hsorted row.1) ?_⟩
      rwa [Tracked.moments_of_mem hmem]
    · exact Or.inl rfl
  · exact Or.inl rfl

lemma keep_harmless : Harmless fun _ (tracked : Tracked κ) => tracked := fun _ _ _ _ => Or.inl rfl

structure Remembers (log : List (Call κ × Verdict)) (tracked : Tracked κ) (t : ℚ) : Prop where
  sorted (key : κ) : (tracked.moments key).Pairwise (· ≤ ·)
  past (key : κ) : ∀ m ∈ tracked.moments key, m ≤ t
  counts (key : κ) (cutoff : ℚ) : t - limiter.window ≤ cutoff →
    (tracked.moments key).filter (fun m => cutoff < m) = (admittedTimes key log).filter fun m => cutoff < m
  logSorted (key : κ) : (admittedTimes key log).Pairwise (· ≤ ·)
  logPast (key : κ) : ∀ m ∈ admittedTimes key log, m ≤ t
  few (key : κ) : ((admittedTimes key log).filter fun m => t - limiter.window < m).length ≤ limiter.limit

variable {limiter} {log : List (Call κ × Verdict)} {tracked : Tracked κ} {t now : ℚ}

namespace Remembers

lemma later (h : Remembers limiter log tracked t) (hle : t ≤ now) : Remembers limiter log tracked now where
  sorted := h.sorted
  past key m hm := (h.past key m hm).trans hle
  counts key cutoff hcutoff := h.counts key cutoff (by linarith)
  logSorted := h.logSorted
  logPast key m hm := (h.logPast key m hm).trans hle
  few key := by
    rw [← filter_filter_lt (show t - limiter.window ≤ now - limiter.window by linarith)]
    exact (List.length_filter_le _ _).trans (h.few key)

lemma clean {clean : ℚ → Tracked κ → Tracked κ} (hclean : Harmless clean) (h : Remembers limiter log tracked now) :
    Remembers limiter log (clean (now - limiter.window) tracked) now where
  sorted key := by
    rcases hclean (now - limiter.window) tracked key h.sorted with hsame | ⟨hnone, -⟩
    · rw [hsame]
      exact h.sorted key
    · rw [hnone]
      exact List.Pairwise.nil
  past key m hm := by
    rcases hclean (now - limiter.window) tracked key h.sorted with hsame | ⟨hnone, -⟩
    · rw [hsame] at hm
      exact h.past key m hm
    · rw [hnone] at hm
      cases hm
  counts key cutoff hcutoff := by
    rw [← h.counts key cutoff hcutoff]
    rcases hclean (now - limiter.window) tracked key h.sorted with hsame | ⟨hnone, hold⟩
    · rw [hsame]
    · rw [hnone, List.filter_nil, eq_comm, List.filter_eq_nil_iff]
      intro m hm
      simpa using (hold m hm).trans hcutoff
  logSorted := h.logSorted
  logPast := h.logPast
  few := h.few

lemma events (h : Remembers limiter log tracked now) (key : κ) :
    (tracked.moments key).dropWhile (fun m => m ≤ now - limiter.window) =
      (admittedTimes key log).filter fun m => now - limiter.window < m := by
  rw [dropWhile_eq_filter (h.sorted key), h.counts key _ le_rfl]

lemma refuse (h : Remembers limiter log tracked now) (key : κ) (time : ℚ) {v : Verdict} (hv : v ≠ .admitted) :
    Remembers limiter (log ++ [(⟨key, time⟩, v)])
      (tracked.store key ((tracked.moments key).dropWhile fun m => m ≤ now - limiter.window)) now := by
  have hlog : ∀ k, admittedTimes k (log ++ [(⟨key, time⟩, v)]) = admittedTimes k log := by
    intro k
    rw [admittedTimes_append, admittedTimes_single, if_neg (fun hk => hv hk.2), List.append_nil]
  constructor
  · intro k
    rw [Tracked.moments_store]
    split_ifs with hk
    · exact (h.sorted key).sublist (List.dropWhile_sublist _)
    · exact h.sorted k
  · intro k m hm
    rw [Tracked.moments_store] at hm
    split_ifs at hm with hk
    · exact h.past key m ((List.dropWhile_sublist _).subset hm)
    · exact h.past k m hm
  · intro k cutoff hcutoff
    rw [Tracked.moments_store, hlog]
    split_ifs with hk
    · rw [hk, h.events, filter_filter_lt hcutoff]
    · exact h.counts k cutoff hcutoff
  · simpa only [hlog] using h.logSorted
  · simpa only [hlog] using h.logPast
  · simpa only [hlog] using h.few

lemma record (h : Remembers limiter log tracked now) (key : κ)
    (hfew : ((admittedTimes key log).filter fun m => now - limiter.window < m).length < limiter.limit) :
    Remembers limiter (log ++ [(⟨key, now⟩, .admitted)])
      (tracked.store key ((tracked.moments key).dropWhile (fun m => m ≤ now - limiter.window) ++ [now])) now := by
  have hlog : ∀ k, admittedTimes k (log ++ [(⟨key, now⟩, .admitted)]) =
      admittedTimes k log ++ if key = k then [now] else [] := by
    intro k
    rw [admittedTimes_append, admittedTimes_single]
    simp only [and_true]
  constructor
  · intro k
    rw [Tracked.moments_store]
    split_ifs with hk
    · refine List.pairwise_append.2 ⟨(h.sorted key).sublist (List.dropWhile_sublist _), List.pairwise_singleton _ _, ?_⟩
      intro m hm m' hm'
      rw [List.mem_singleton.1 hm']
      exact h.past key m ((List.dropWhile_sublist _).subset hm)
    · exact h.sorted k
  · intro k m hm
    rw [Tracked.moments_store] at hm
    split_ifs at hm with hk
    · rcases List.mem_append.1 hm with hold | hnew
      · exact h.past key m ((List.dropWhile_sublist _).subset hold)
      · exact (List.mem_singleton.1 hnew).le
    · exact h.past k m hm
  · intro k cutoff hcutoff
    rw [Tracked.moments_store, hlog]
    split_ifs with hk hkey hkey
    · rw [hk, h.events, List.filter_append, List.filter_append, filter_filter_lt hcutoff]
    · exact absurd hk.symm hkey
    · exact absurd hkey.symm hk
    · rw [List.append_nil]
      exact h.counts k cutoff hcutoff
  · intro k
    rw [hlog]
    split_ifs with hk
    · refine List.pairwise_append.2 ⟨h.logSorted k, List.pairwise_singleton _ _, ?_⟩
      intro m hm m' hm'
      rw [List.mem_singleton.1 hm']
      exact h.logPast k m hm
    · rw [List.append_nil]
      exact h.logSorted k
  · intro k m hm
    rw [hlog] at hm
    rcases List.mem_append.1 hm with hold | hnew
    · exact h.logPast k m hold
    · split_ifs at hnew
      · exact (List.mem_singleton.1 hnew).le
      · cases hnew
  · intro k
    rw [hlog, List.filter_append, List.length_append]
    split_ifs with hk
    · subst hk
      have hone := List.length_filter_le (fun m => decide (now - limiter.window < m)) [now]
      rw [List.length_singleton] at hone
      omega
    · exact h.few k

end Remembers

lemma judge_admitted_iff (limiter : RateLimiter) (now : ℚ) (events : List ℚ) :
    judge limiter now events = .admitted ↔ events.length < limiter.limit := by
  unfold judge
  split_ifs with h
  · refine ⟨fun hj => ?_, fun hlt => absurd h (not_le.2 hlt)⟩
    cases events <;> cases hj
  · exact ⟨fun _ => not_le.1 h, fun _ => rfl⟩

variable {clean : ℚ → Tracked κ → Tracked κ}

lemma Remembers.check (hclean : Harmless clean) (h : Remembers limiter log tracked t) (c : Call κ) (hle : t ≤ c.time) :
    (checkWith limiter clean tracked c.key c.time).1 =
      judge limiter c.time ((admittedTimes c.key log).filter fun m => c.time - limiter.window < m) ∧
    Remembers limiter (log ++ [(c, (checkWith limiter clean tracked c.key c.time).1)])
      (checkWith limiter clean tracked c.key c.time).2 c.time := by
  have hcleaned := (h.later hle).clean hclean
  have hevents := hcleaned.events c.key
  simp only [checkWith]
  generalize hverdict : judge limiter c.time (((clean (c.time - limiter.window) tracked).moments c.key).dropWhile
    fun m => m ≤ c.time - limiter.window) = v
  rw [hevents] at hverdict
  cases v with
  | admitted => exact ⟨hverdict.symm, hcleaned.record c.key ((judge_admitted_iff _ _ _).1 hverdict)⟩
  | rateLimited retryAfter => exact ⟨hverdict.symm, hcleaned.refuse c.key c.time (by simp)⟩
  | indexError => exact ⟨hverdict.symm, hcleaned.refuse c.key c.time (by simp)⟩

def Timely (calls : List (Call κ)) : Prop := calls.Pairwise fun c c' => c.time ≤ c'.time

variable {calls : List (Call κ)} {c : Call κ}

omit [DecidableEq κ] in
lemma Timely.snoc (h : Timely (calls ++ [c])) : Timely calls ∧ ∀ c' ∈ calls, c'.time ≤ c.time :=
  ⟨(List.pairwise_append.1 h).1, fun c' hc' => (List.pairwise_append.1 h).2.2 c' hc' c (by simp)⟩

lemma historyWith_remembers (hclean : Harmless clean) (calls : List (Call κ))
    (hclock : Timely calls) (t : ℚ) (hpast : ∀ c ∈ calls, c.time ≤ t) :
    Remembers limiter (historyWith limiter clean calls).2 (historyWith limiter clean calls).1 t := by
  induction calls using List.reverseRecOn generalizing t with
  | nil =>
    constructor <;> simp [historyWith, admittedTimes, Tracked.moments, Tracked.empty, Tracked.momentsIn]
  | append_singleton calls c ih =>
    obtain ⟨hbefore, hle⟩ := hclock.snoc
    rw [historyWith_snoc]
    exact ((ih hbefore c.time hle).check hclean c le_rfl).2.later (hpast c (by simp))

lemma verdictWith_eq (hclean : Harmless clean) (hclock : Timely (calls ++ [c])) :
    verdictWith limiter clean calls c = judge limiter c.time
      ((admittedTimes c.key (historyWith limiter clean calls).2).filter fun m => c.time - limiter.window < m) :=
  ((historyWith_remembers hclean calls hclock.snoc.1 c.time hclock.snoc.2).check hclean c le_rfl).1

lemma historyWith_log {clean' : ℚ → Tracked κ → Tracked κ} (hclean : Harmless clean) (hclean' : Harmless clean')
    (calls : List (Call κ)) (hclock : Timely calls) :
    (historyWith limiter clean calls).2 = (historyWith limiter clean' calls).2 := by
  induction calls using List.reverseRecOn with
  | nil => rfl
  | append_singleton calls c ih =>
    rw [historyWith_snoc, historyWith_snoc, verdictWith_eq hclean hclock, verdictWith_eq hclean' hclock,
      ih hclock.snoc.1]

lemma counting_eq (hclock : Timely (calls ++ [c])) :
    counting limiter calls c.key c.time =
      (admittedTimes c.key (history limiter calls).2).filter fun m => c.time - limiter.window < m := by
  have h : Remembers limiter (history limiter calls).2 (history limiter calls).1 c.time :=
    historyWith_remembers dropExpired_harmless calls hclock.snoc.1 c.time hclock.snoc.2
  apply List.filter_congr
  intro m hm
  simp [h.logPast c.key m hm]

lemma verdict_eq (hclock : Timely (calls ++ [c])) :
    verdict limiter calls c = judge limiter c.time (counting limiter calls c.key c.time) := by
  rw [counting_eq hclock]
  exact verdictWith_eq dropExpired_harmless hclock

lemma admittedTimes_others (key : κ) (calls others : List (Call κ))
    (hothers : ∀ before c after, others = before ++ c :: after → c.key = key →
      verdict limiter (calls ++ before) c ≠ .admitted) :
    admittedTimes key (history limiter (calls ++ others)).2 = admittedTimes key (history limiter calls).2 := by
  induction others using List.reverseRecOn with
  | nil => rw [List.append_nil]
  | append_singleton others c ih =>
    rw [← List.append_assoc, history, historyWith_snoc, admittedTimes_append, admittedTimes_single]
    rw [if_neg, List.append_nil]
    · refine ih fun before c' after heq => hothers before c' (after ++ [c]) ?_
      rw [heq, List.append_assoc, List.cons_append]
    · rintro ⟨hkey, hadmitted⟩
      exact hothers others c [] rfl hkey hadmitted

def untilFree (limiter : RateLimiter) (now first : ℚ) : ℚ := limiter.window - (now - first)

lemma judge_full {first : ℚ} {rest : List ℚ} (h : limiter.limit ≤ (first :: rest).length) :
    judge limiter now (first :: rest) = .rateLimited (max 1 (trunc (untilFree limiter now first))) := by
  unfold judge
  rw [if_pos h]
  rfl

lemma retryAfter_covers_iff {x : ℚ} (hx : 0 < x) : x ≤ (max 1 (trunc x) : ℤ) ↔ x ≤ 1 ∨ ∃ n : ℤ, x = n := by
  have htrunc : trunc x = ⌊x⌋ := if_pos hx.le
  rw [htrunc, Int.cast_max, le_max_iff, Int.cast_one]
  refine or_congr_right ⟨fun h => ⟨⌊x⌋, le_antisymm h (Int.floor_le x)⟩, ?_⟩
  rintro ⟨n, rfl⟩
  rw [Int.floor_intCast]

lemma admitted_after_wait {others : List (Call κ)} {c' : Call κ} {first : ℚ} {rest : List ℚ}
    (hclock : Timely (calls ++ c :: others ++ [c'])) (hcounting : counting limiter calls c.key c.time = first :: rest)
    (hrefused : verdict limiter calls c ≠ .admitted) (hothers : ∀ o ∈ others, o.key ≠ c.key) (hkey : c'.key = c.key) :
    verdict limiter (calls ++ c :: others) c' = .admitted ↔ untilFree limiter c.time first ≤ c'.time - c.time := by
  have hsame : admittedTimes c.key (history limiter (calls ++ c :: others)).2 =
      admittedTimes c.key (history limiter calls).2 := by
    apply admittedTimes_others
    rintro before o after heq ho
    cases before with
    | nil =>
      obtain ⟨rfl, -⟩ := List.cons.inj heq
      rwa [List.append_nil]
    | cons b before =>
      obtain ⟨-, rfl⟩ := List.cons.inj heq
      exact absurd ho (hothers o (by simp))
  have hcalls := List.pairwise_append.1 hclock.snoc.1
  have htimely : Timely (calls ++ [c]) := List.pairwise_append.2
    ⟨hcalls.1, List.pairwise_singleton _ _, fun a ha b hb => hcalls.2.2 a ha b (by simp_all)⟩
  have hlater : c.time ≤ c'.time := hclock.snoc.2 c (by simp)
  have hrem : Remembers limiter (history limiter calls).2 (history limiter calls).1 c.time :=
    historyWith_remembers dropExpired_harmless calls htimely.snoc.1 c.time htimely.snoc.2
  rw [counting_eq htimely] at hcounting
  have hcount : counting limiter (calls ++ c :: others) c'.key c'.time =
      (first :: rest).filter fun m => c'.time - limiter.window < m := by
    rw [counting_eq hclock, hkey, hsame, ← hcounting, filter_filter_lt (by linarith)]
  have hfull : limiter.limit ≤ (first :: rest).length := by
    rw [← hcounting, ← counting_eq htimely]
    rw [verdict_eq htimely, ne_eq, judge_admitted_iff] at hrefused
    exact not_lt.1 hrefused
  have hfew : (first :: rest).length ≤ limiter.limit := by
    rw [← hcounting]
    exact hrem.few c.key
  have hsorted : (first :: rest).Pairwise (· ≤ ·) := by
    rw [← hcounting]
    exact (hrem.logSorted c.key).sublist List.filter_sublist
  rw [verdict_eq hclock, judge_admitted_iff, hcount, untilFree]
  by_cases hfree : first ≤ c'.time - limiter.window
  · refine iff_of_true ?_ (by linarith)
    rw [List.filter_cons_of_neg (by simpa using hfree)]
    have hless := List.length_filter_le (fun m => decide (c'.time - limiter.window < m)) rest
    rw [List.length_cons] at hfew
    omega
  · refine iff_of_false ?_ (by linarith)
    rw [List.filter_eq_self.2]
    · exact not_lt.2 hfull
    · intro m hm
      rw [decide_eq_true_eq]
      rcases List.mem_cons.1 hm with rfl | hm
      · exact not_le.1 hfree
      · exact (not_le.1 hfree).trans_le ((List.pairwise_cons.1 hsorted).1 m hm)

theorem rate_limit (limiter : RateLimiter) (hlimit : 1 ≤ limiter.limit) (calls : List (Call κ)) (c : Call κ)
    (hclock : Timely (calls ++ [c])) :
    (verdict limiter calls c = .admitted ↔ (counting limiter calls c.key c.time).length < limiter.limit) ∧
    verdict limiter calls c = verdictWith limiter (fun _ tracked => tracked) calls c ∧
    (verdict limiter calls c ≠ .admitted → ∃ first r,
      (counting limiter calls c.key c.time).head? = some first ∧ verdict limiter calls c = .rateLimited r ∧
      ((∀ others c', Timely (calls ++ c :: others ++ [c']) → (∀ o ∈ others, o.key ≠ c.key) → c'.key = c.key →
          c.time + r ≤ c'.time → verdict limiter (calls ++ c :: others) c' = .admitted) ↔
        untilFree limiter c.time first ≤ 1 ∨ ∃ n : ℤ, untilFree limiter c.time first = n)) := by
  refine ⟨?_, ?_, fun hrefused => ?_⟩
  · rw [verdict_eq hclock, judge_admitted_iff]
  · rw [verdict, verdictWith_eq dropExpired_harmless hclock, verdictWith_eq keep_harmless hclock,
      historyWith_log dropExpired_harmless keep_harmless calls hclock.snoc.1]
  · have hfull : limiter.limit ≤ (counting limiter calls c.key c.time).length := by
      rw [verdict_eq hclock, ne_eq, judge_admitted_iff] at hrefused
      exact not_lt.1 hrefused
    cases hcounting : counting limiter calls c.key c.time with
    | nil =>
      rw [hcounting, List.length_nil] at hfull
      omega
    | cons first rest =>
      have hpositive : 0 < untilFree limiter c.time first := by
        have hmem : first ∈ counting limiter calls c.key c.time := by simp [hcounting]
        have hlive := (List.mem_filter.1 hmem).2
        rw [decide_eq_true_eq] at hlive
        rw [untilFree]
        linarith
      refine ⟨first, max 1 (trunc (untilFree limiter c.time first)), rfl, ?_, ?_⟩
      · rw [verdict_eq hclock, hcounting]
        exact judge_full (hcounting ▸ hfull)
      rw [← retryAfter_covers_iff hpositive]
      constructor
      · intro hwait
        have hnow : (1 : ℚ) ≤ (max 1 (trunc (untilFree limiter c.time first)) : ℤ) := by
          rw [Int.cast_max, Int.cast_one]
          exact le_max_left _ _
        have htimely : Timely (calls ++ c :: [] ++
            [⟨c.key, c.time + (max 1 (trunc (untilFree limiter c.time first)) : ℤ)⟩]) := by
          refine List.pairwise_append.2 ⟨hclock, List.pairwise_singleton _ _, fun a ha b hb => ?_⟩
          rw [List.mem_singleton.1 hb]
          have hle : a.time ≤ c.time := by
            rcases List.mem_append.1 ha with hbefore | hself
            · exact hclock.snoc.2 a hbefore
            · rw [List.mem_singleton.1 hself]
          simp only
          linarith
        have hadmitted := hwait [] _ htimely (by simp) rfl le_rfl
        rw [admitted_after_wait htimely hcounting hrefused (by simp) rfl] at hadmitted
        simpa using hadmitted
      · intro hcovers others c' htimely hothers hkey hwaited
        rw [admitted_after_wait htimely hcounting hrefused hothers hkey]
        linarith

namespace Login

def gate : RateLimiter := ⟨10, 60⟩

def tenAt (time : ℚ) : List (Call String) := List.replicate 10 ⟨"client", time⟩

lemma timely_tenAt {time : ℚ} (h : time ≤ now) : Timely (tenAt time ++ [⟨"client", now⟩]) := by
  refine List.pairwise_append.2 ⟨List.pairwise_replicate.2 (Or.inr le_rfl), List.pairwise_singleton _ _, ?_⟩
  intro a ha b hb
  rw [List.mem_singleton.1 hb, List.eq_of_mem_replicate ha]
  exact h

end Login

theorem retry_after_short :
    verdict Login.gate (Login.tenAt (1 / 2)) ⟨"client", 10⟩ = .rateLimited 50 ∧
      verdict Login.gate (Login.tenAt (1 / 2) ++ [⟨"client", 10⟩]) ⟨"client", 10 + 50⟩ = .rateLimited 1 := by
  decide +kernel

theorem rate_limit_login :
    verdict Login.gate (Login.tenAt 100) ⟨"client", 100⟩ = .rateLimited 60 ∧
      ∀ others c', Timely (Login.tenAt 100 ++ ⟨"client", 100⟩ :: others ++ [c']) →
        (∀ o ∈ others, o.key ≠ "client") → c'.key = "client" → 100 + 60 ≤ c'.time →
        verdict Login.gate (Login.tenAt 100 ++ ⟨"client", 100⟩ :: others) c' = .admitted := by
  have hrefused : verdict Login.gate (Login.tenAt 100) ⟨"client", 100⟩ = .rateLimited 60 := by decide +kernel
  have hhead : (counting Login.gate (Login.tenAt 100) "client" 100).head? = some 100 := by decide +kernel
  obtain ⟨first, r, hfirst, hr, hiff⟩ := (rate_limit Login.gate (by decide) (Login.tenAt 100) ⟨"client", 100⟩
    (Login.timely_tenAt le_rfl)).2.2 (by rw [hrefused]; simp)
  rw [hhead] at hfirst
  rw [hrefused] at hr
  cases hfirst
  cases hr
  refine ⟨hrefused, hiff.2 (Or.inr ⟨60, ?_⟩)⟩
  simp [untilFree, Login.gate]

end RelayPay.Identity
