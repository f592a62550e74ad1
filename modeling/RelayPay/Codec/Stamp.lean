import Mathlib.Algebra.Order.Ring.Nat
import Mathlib.Tactic.Common

namespace Digits

def write (base : ℕ) (char : ℕ → Char) : (width n : ℕ) → List Char
  | 0, _ => []
  | width + 1, n => write base char width (n / base) ++ [char (n % base)]

def read (base : ℕ) (value : Char → Option ℕ) (acc : ℕ) (text : List Char) : Option ℕ :=
  text.foldlM (fun n c => (value c).map (n * base + ·)) acc

section Base

variable {base : ℕ} {char : ℕ → Char} {value : Char → Option ℕ}

@[simp] lemma length_write (width n : ℕ) : (write base char width n).length = width := by
  induction width generalizing n with
  | zero => rfl
  | succ width ih => simp [write, ih]

lemma write_all {P : Char → Prop} (hbase : 0 < base) (hP : ∀ d < base, P (char d)) (width n : ℕ) :
    ∀ c ∈ write base char width n, P c := by
  induction width generalizing n with
  | zero =>
    rintro c ⟨⟩
  | succ width ih =>
    intro c hc
    rcases List.mem_append.1 hc with hc | hc
    · exact ih _ c hc
    · rw [List.mem_singleton.1 hc]
      exact hP _ (Nat.mod_lt _ hbase)

theorem read_write (hvalue : ∀ d < base, value (char d) = some d) (width n : ℕ) (h : n < base ^ width) :
    read base value 0 (write base char width n) = some n := by
  induction width generalizing n with
  | zero =>
    have hzero : n = 0 := by simpa using h
    rw [hzero]
    rfl
  | succ width ih =>
    have hbase : 0 < base := by
      apply Nat.pos_of_ne_zero
      rintro rfl
      simp at h
    have hhigh : n / base < base ^ width := by
      apply Nat.div_lt_of_lt_mul
      rwa [pow_succ, mul_comm] at h
    have hlow := ih (n / base) hhigh
    rw [read] at hlow
    rw [read, write, List.foldlM_append, hlow]
    simp [hvalue _ (Nat.mod_lt n hbase), Nat.div_add_mod']

end Base

def decimal (d : ℕ) : Char := Char.ofNat (48 + d)

def decimalValue (c : Char) : Option ℕ := if 48 ≤ c.toNat ∧ c.toNat ≤ 57 then some (c.toNat - 48) else none

lemma decimalValue_decimal : ∀ d < 10, decimalValue (decimal d) = some d := by decide

def hex (d : ℕ) : Char := if d < 10 then Char.ofNat (48 + d) else Char.ofNat (87 + d)

def hexValue (c : Char) : Option ℕ :=
  if 48 ≤ c.toNat ∧ c.toNat ≤ 57 then some (c.toNat - 48)
  else if 97 ≤ c.toNat ∧ c.toNat ≤ 102 then some (c.toNat - 87)
  else if 65 ≤ c.toNat ∧ c.toNat ≤ 70 then some (c.toNat - 55)
  else none

lemma hexValue_hex : ∀ d < 16, hexValue (hex d) = some d ∧ hex d ≠ '-' := by decide

end Digits

abbrev Uuid := Fin (2 ^ 128)

namespace Uuid

def text (u : Uuid) : List Char :=
  let digits := Digits.write 16 Digits.hex 32 u.val
  digits.take 8 ++ '-' :: (digits.drop 8).take 4 ++ '-' :: (digits.drop 12).take 4 ++
    '-' :: (digits.drop 16).take 4 ++ '-' :: digits.drop 20

def ofText (text : List Char) : Option Uuid := do
  let digits := text.filter (· ≠ '-')
  guard (digits.length = 32)
  let n ← Digits.read 16 Digits.hexValue 0 digits
  if h : n < 2 ^ 128 then some ⟨n, h⟩ else none

lemma filter_grouped {digits : List Char} (h : ∀ c ∈ digits, c ≠ '-') :
    (digits.take 8 ++ '-' :: (digits.drop 8).take 4 ++ '-' :: (digits.drop 12).take 4 ++
      '-' :: (digits.drop 16).take 4 ++ '-' :: digits.drop 20).filter (· ≠ '-') = digits := by
  have hkeep : ∀ part : List Char, (∀ c ∈ part, c ∈ digits) → part.filter (· ≠ '-') = part := by
    intro part hpart
    exact List.filter_eq_self.2 fun c hc => decide_eq_true (h c (hpart c hc))
  have hgroup : ∀ k, ((digits.drop k).take 4).filter (· ≠ '-') = (digits.drop k).take 4 :=
    fun k => hkeep _ fun c hc => List.mem_of_mem_drop (List.mem_of_mem_take hc)
  have hjoin : ∀ k, (digits.drop k).take 4 ++ digits.drop (k + 4) = digits.drop k := by
    intro k
    rw [← List.drop_drop]
    exact List.take_append_drop 4 (digits.drop k)
  simp only [List.filter_append, List.filter_cons, ne_eq, not_true, decide_false, Bool.false_eq_true, if_false]
  rw [hkeep (digits.take 8) fun c hc => List.mem_of_mem_take hc, hgroup 8, hgroup 12, hgroup 16,
    hkeep (digits.drop 20) fun c hc => List.mem_of_mem_drop hc]
  rw [List.append_assoc, List.append_assoc, List.append_assoc, hjoin 16, hjoin 12, hjoin 8, List.take_append_drop]

theorem ofText_text (u : Uuid) : ofText u.text = some u := by
  have hhex : ∀ c ∈ Digits.write 16 Digits.hex 32 u.val, c ≠ '-' :=
    Digits.write_all (by decide) (fun d hd => (Digits.hexValue_hex d hd).2) 32 u.val
  have hread := Digits.read_write (fun d hd => (Digits.hexValue_hex d hd).1) 32 u.val u.isLt
  rw [ofText, text, filter_grouped hhex, Digits.length_write, hread]
  exact dif_pos u.isLt

end Uuid

structure Offset where
  negative : Bool
  hours : ℕ
  minutes : ℕ
  seconds : ℕ
  microseconds : ℕ
  hours_lt : hours < 24
  minutes_lt : minutes < 60
  seconds_lt : seconds < 60
  microseconds_lt : microseconds < 1000000

def daysInMonth (year month : ℕ) : ℕ :=
  if month = 2 then if year % 4 = 0 ∧ (year % 100 ≠ 0 ∨ year % 400 = 0) then 29 else 28
  else if month = 4 ∨ month = 6 ∨ month = 9 ∨ month = 11 then 30 else 31

structure DateTime where
  year : ℕ
  month : ℕ
  day : ℕ
  hour : ℕ
  minute : ℕ
  second : ℕ
  microsecond : ℕ
  offset : Option Offset
  year_range : 1 ≤ year ∧ year ≤ 9999
  month_range : 1 ≤ month ∧ month ≤ 12
  day_range : 1 ≤ day ∧ day ≤ daysInMonth year month
  hour_lt : hour < 24
  minute_lt : minute < 60
  second_lt : second < 60
  microsecond_lt : microsecond < 1000000

namespace DateTime

def daysBeforeYear (year : ℕ) : ℕ := (year - 1) * 365 + (year - 1) / 4 - (year - 1) / 100 + (year - 1) / 400

def daysBeforeMonth (year month : ℕ) : ℕ := ((List.range month).drop 1).foldl (fun n m => n + daysInMonth year m) 0

def instant (d : DateTime) : ℤ :=
  let days := daysBeforeYear d.year + daysBeforeMonth d.year d.month + (d.day - 1)
  let clock : ℤ := (((days * 24 + d.hour) * 60 + d.minute) * 60 + d.second) * 1000000 + d.microsecond
  match d.offset with
  | none => clock
  | some o =>
    let distance : ℤ := ((o.hours * 60 + o.minutes) * 60 + o.seconds) * 1000000 + o.microseconds
    if o.negative then clock + distance else clock - distance

def number (width n : ℕ) : List Char := Digits.write 10 Digits.decimal width n

def fraction (microseconds : ℕ) : List Char := if microseconds = 0 then [] else '.' :: number 6 microseconds

def offsetText (o : Offset) : List Char :=
  (if o.negative then '-' else '+') :: number 2 o.hours ++ ':' :: number 2 o.minutes ++
    if o.seconds = 0 ∧ o.microseconds = 0 then [] else ':' :: number 2 o.seconds ++ fraction o.microseconds

def isoformat (d : DateTime) : List Char :=
  number 4 d.year ++ '-' :: number 2 d.month ++ '-' :: number 2 d.day ++ 'T' :: number 2 d.hour ++
    ':' :: number 2 d.minute ++ ':' :: number 2 d.second ++ fraction d.microsecond ++ (d.offset.elim [] offsetText)

def readNumber (width : ℕ) (text : List Char) : Option (ℕ × List Char) := do
  guard (width ≤ text.length)
  let n ← Digits.read 10 Digits.decimalValue 0 (text.take width)
  some (n, text.drop width)

def readChar (c : Char) : List Char → Option (List Char)
  | x :: rest => if x = c then some rest else none
  | [] => none

def readFraction (text : List Char) : Option (ℕ × List Char) :=
  match text with
  | '.' :: rest => readNumber 6 rest
  | _ => some (0, text)

def readSign : List Char → Option (Bool × List Char)
  | '+' :: rest => some (false, rest)
  | '-' :: rest => some (true, rest)
  | _ => none

def readSeconds (text : List Char) : Option (ℕ × ℕ × List Char) :=
  match text with
  | ':' :: rest => do
    let (seconds, rest) ← readNumber 2 rest
    let (microseconds, rest) ← readFraction rest
    some (seconds, microseconds, rest)
  | _ => some (0, 0, text)

def readOffset (text : List Char) : Option (Option Offset) :=
  if text = [] then some none
  else do
    let (negative, rest) ← readSign text
    let (hours, rest) ← readNumber 2 rest
    let rest ← readChar ':' rest
    let (minutes, rest) ← readNumber 2 rest
    let (seconds, microseconds, rest) ← readSeconds rest
    guard (rest = [])
    if h : hours < 24 ∧ minutes < 60 ∧ seconds < 60 ∧ microseconds < 1000000 then
      some (some ⟨negative, hours, minutes, seconds, microseconds, h.1, h.2.1, h.2.2.1, h.2.2.2⟩)
    else none

def fromisoformat (text : List Char) : Option DateTime := do
  let (year, rest) ← readNumber 4 text
  let rest ← readChar '-' rest
  let (month, rest) ← readNumber 2 rest
  let rest ← readChar '-' rest
  let (day, rest) ← readNumber 2 rest
  let rest ← readChar 'T' rest
  let (hour, rest) ← readNumber 2 rest
  let rest ← readChar ':' rest
  let (minute, rest) ← readNumber 2 rest
  let rest ← readChar ':' rest
  let (second, rest) ← readNumber 2 rest
  let (microsecond, rest) ← readFraction rest
  let offset ← readOffset rest
  if h : (1 ≤ year ∧ year ≤ 9999) ∧ (1 ≤ month ∧ month ≤ 12) ∧ (1 ≤ day ∧ day ≤ daysInMonth year month) ∧
      hour < 24 ∧ minute < 60 ∧ second < 60 ∧ microsecond < 1000000 then
    some ⟨year, month, day, hour, minute, second, microsecond, offset, h.1, h.2.1, h.2.2.1, h.2.2.2.1, h.2.2.2.2.1,
      h.2.2.2.2.2.1, h.2.2.2.2.2.2⟩
  else none

lemma readNumber_number {width n : ℕ} (h : n < 10 ^ width) (rest : List Char) :
    readNumber width (number width n ++ rest) = some (n, rest) := by
  have hlength : (number width n).length = width := Digits.length_write width n
  have hread := Digits.read_write Digits.decimalValue_decimal width n h
  rw [readNumber, List.take_left' hlength, List.drop_left' hlength, number, hread]
  simp

lemma bind_of_eq {α β : Type} {x : Option α} {a : α} (h : x = some a) (f : α → Option β) : (x >>= f) = f a := by
  rw [h]
  rfl

lemma readChar_self (c : Char) (rest : List Char) : readChar c (c :: rest) = some rest := by
  rw [readChar, if_pos rfl]

lemma readFraction_fraction {n : ℕ} (h : n < 1000000) {rest : List Char} (hrest : ∀ tail, rest ≠ '.' :: tail) :
    readFraction (fraction n ++ rest) = some (n, rest) := by
  by_cases hn : n = 0
  · rw [fraction, if_pos hn, List.nil_append, hn, readFraction]
    exact hrest
  · rw [fraction, if_neg hn, List.cons_append]
    exact readNumber_number h rest

lemma readSeconds_seconds (o : Offset) : readSeconds (if o.seconds = 0 ∧ o.microseconds = 0 then []
    else ':' :: (number 2 o.seconds ++ fraction o.microseconds)) = some (o.seconds, o.microseconds, []) := by
  split
  · next hzero =>
    rw [hzero.1, hzero.2]
    rfl
  · have hseconds : o.seconds < 10 ^ 2 := o.seconds_lt.trans (by decide)
    have hfraction : readFraction (fraction o.microseconds ++ []) = some (o.microseconds, []) := by
      apply readFraction_fraction o.microseconds_lt
      rintro tail ⟨⟩
    rw [List.append_nil] at hfraction
    rw [readSeconds, readNumber_number hseconds]
    simp only [Option.bind_eq_bind, Option.bind_some, hfraction]

lemma readSign_sign (negative : Bool) (rest : List Char) :
    readSign ((if negative then '-' else '+') :: rest) = some (negative, rest) := by
  cases negative <;> rfl

theorem readOffset_offsetText (o : Offset) : readOffset (offsetText o) = some (some o) := by
  have hhours : o.hours < 10 ^ 2 := o.hours_lt.trans (by decide)
  have hminutes : o.minutes < 10 ^ 2 := o.minutes_lt.trans (by decide)
  have hne : offsetText o ≠ [] := by
    rintro ⟨⟩
  rw [readOffset, if_neg hne, offsetText]
  simp only [List.cons_append, List.append_assoc, readSign_sign, readNumber_number hhours, readChar_self,
    readNumber_number hminutes, readSeconds_seconds, Option.bind_eq_bind, Option.bind_some]
  exact dif_pos ⟨o.hours_lt, o.minutes_lt, o.seconds_lt, o.microseconds_lt⟩

theorem fromisoformat_isoformat (d : DateTime) : fromisoformat d.isoformat = some d := by
  have hyear : d.year < 10 ^ 4 := Nat.lt_of_le_of_lt d.year_range.2 (by decide)
  have hmonth : d.month < 10 ^ 2 := Nat.lt_of_le_of_lt d.month_range.2 (by decide)
  have hday : d.day < 10 ^ 2 := by
    have hmax : daysInMonth d.year d.month ≤ 31 := by
      rw [daysInMonth]
      split_ifs <;> omega
    have hle := d.day_range.2
    omega
  have hhour : d.hour < 10 ^ 2 := d.hour_lt.trans (by decide)
  have hminute : d.minute < 10 ^ 2 := d.minute_lt.trans (by decide)
  have hsecond : d.second < 10 ^ 2 := d.second_lt.trans (by decide)
  have hoffset : readOffset (d.offset.elim [] offsetText) = some d.offset := by
    cases d.offset with
    | none => rfl
    | some o => exact readOffset_offsetText o
  have hfraction : readFraction (fraction d.microsecond ++ d.offset.elim [] offsetText) =
      some (d.microsecond, d.offset.elim [] offsetText) := by
    apply readFraction_fraction d.microsecond_lt
    intro tail h
    cases ho : d.offset with
    | none =>
      rw [ho] at h
      cases h
    | some o =>
      rw [ho] at h
      have hhead := congrArg List.head? h
      cases hsign : o.negative <;> simp [offsetText, hsign] at hhead
  rw [fromisoformat, isoformat]
  simp only [List.cons_append, List.append_assoc]
  refine (bind_of_eq (readNumber_number hyear _) _).trans ?_
  refine (bind_of_eq (readChar_self _ _) _).trans ?_
  refine (bind_of_eq (readNumber_number hmonth _) _).trans ?_
  refine (bind_of_eq (readChar_self _ _) _).trans ?_
  refine (bind_of_eq (readNumber_number hday _) _).trans ?_
  refine (bind_of_eq (readChar_self _ _) _).trans ?_
  refine (bind_of_eq (readNumber_number hhour _) _).trans ?_
  refine (bind_of_eq (readChar_self _ _) _).trans ?_
  refine (bind_of_eq (readNumber_number hminute _) _).trans ?_
  refine (bind_of_eq (readChar_self _ _) _).trans ?_
  refine (bind_of_eq (readNumber_number hsecond _) _).trans ?_
  refine (bind_of_eq hfraction _).trans ?_
  refine (bind_of_eq hoffset _).trans ?_
  exact dif_pos ⟨d.year_range, d.month_range, d.day_range, d.hour_lt, d.minute_lt, d.second_lt, d.microsecond_lt⟩

end DateTime
