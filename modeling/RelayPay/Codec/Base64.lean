import Mathlib.Tactic.Common

namespace Base64

def alphabet (v : ℕ) : Char :=
  if v < 26 then Char.ofNat (65 + v)
  else if v < 52 then Char.ofNat (71 + v)
  else if v < 62 then Char.ofNat (v - 4)
  else if v = 62 then '-' else '_'

def value? (c : Char) : Option ℕ :=
  if 65 ≤ c.toNat ∧ c.toNat ≤ 90 then some (c.toNat - 65)
  else if 97 ≤ c.toNat ∧ c.toNat ≤ 122 then some (c.toNat - 71)
  else if 48 ≤ c.toNat ∧ c.toNat ≤ 57 then some (c.toNat + 4)
  else if c = '-' ∨ c = '+' then some 62
  else if c = '_' ∨ c = '/' then some 63
  else none

def groups : List UInt8 → List Char
  | [] => []
  | [a] => [alphabet (a.toNat / 4), alphabet (a.toNat % 4 * 16)]
  | [a, b] => [alphabet (a.toNat / 4), alphabet (a.toNat % 4 * 16 + b.toNat / 16), alphabet (b.toNat % 16 * 4)]
  | a :: b :: c :: rest =>
    alphabet (a.toNat / 4) :: alphabet (a.toNat % 4 * 16 + b.toNat / 16) ::
      alphabet (b.toNat % 16 * 4 + c.toNat / 64) :: alphabet (c.toNat % 64) :: groups rest

def padded (text : List Char) : List Char := text ++ List.replicate ((4 - text.length % 4) % 4) '='

def urlsafeEncode (bytes : List UInt8) : List Char := padded (groups bytes)

def unpadded (text : List Char) : List Char := (text.reverse.dropWhile (· = '=')).reverse

/-- Characters outside the alphabet are passed over; `left` are the bits that wait for the rest of the quad. -/
def read : List Char → (quad left pads : ℕ) → Option (List UInt8)
  | [], quad, _, _ => if quad = 0 then some [] else none
  | c :: cs, quad, left, pads =>
    if c = '=' then
      if 2 ≤ quad then
        if 4 ≤ quad + (pads + 1) then some [] else read cs quad left (pads + 1)
      else read cs quad left pads
    else
      match value? c, quad with
      | none, _ => read cs quad left pads
      | some v, 0 => read cs 1 v 0
      | some v, 1 => (read cs 2 (v % 16) 0).map (UInt8.ofNat (left * 4 + v / 16) :: ·)
      | some v, 2 => (read cs 3 (v % 4) 0).map (UInt8.ofNat (left * 16 + v / 4) :: ·)
      | some v, _ => (read cs 0 0 0).map (UInt8.ofNat (left * 64 + v) :: ·)

def urlsafeDecode (text : List Char) : Option (List UInt8) :=
  if text.all fun c => c.toNat < 128 then read text 0 0 0 else none

lemma value_alphabet : ∀ v < 64, value? (alphabet v) = some v ∧ alphabet v ≠ '=' ∧ alphabet v ≠ '.' ∧
    (alphabet v).toNat < 128 := by
  decide

section Read

variable {v left pads : ℕ} (cs : List Char)

lemma read_first (hv : v < 64) : read (alphabet v :: cs) 0 left pads = read cs 1 v 0 := by
  obtain ⟨hvalue, hpad, -⟩ := value_alphabet v hv
  simp [read, hpad, hvalue]

lemma read_second (hv : v < 64) : read (alphabet v :: cs) 1 left pads =
    (read cs 2 (v % 16) 0).map (UInt8.ofNat (left * 4 + v / 16) :: ·) := by
  obtain ⟨hvalue, hpad, -⟩ := value_alphabet v hv
  simp [read, hpad, hvalue]

lemma read_third (hv : v < 64) : read (alphabet v :: cs) 2 left pads =
    (read cs 3 (v % 4) 0).map (UInt8.ofNat (left * 16 + v / 4) :: ·) := by
  obtain ⟨hvalue, hpad, -⟩ := value_alphabet v hv
  simp [read, hpad, hvalue]

lemma read_fourth (hv : v < 64) : read (alphabet v :: cs) 3 left pads =
    (read cs 0 0 0).map (UInt8.ofNat (left * 64 + v) :: ·) := by
  obtain ⟨hvalue, hpad, -⟩ := value_alphabet v hv
  simp [read, hpad, hvalue]

end Read

lemma ofNat_eq {a : UInt8} {n : ℕ} (h : n = a.toNat) : UInt8.ofNat n = a := by
  rw [h, UInt8.ofNat_toNat]

lemma padded_quad (p q r s : Char) (text : List Char) : padded (p :: q :: r :: s :: text) = p :: q :: r :: s :: padded text := by
  have hlength : (p :: q :: r :: s :: text).length % 4 = text.length % 4 := by
    simp only [List.length_cons]
    omega
  simp only [padded, hlength, List.cons_append]

theorem read_urlsafeEncode (bytes : List UInt8) : read (urlsafeEncode bytes) 0 0 0 = some bytes := by
  induction bytes using groups.induct with
  | case1 => rfl
  | case2 a =>
    have ha := a.toNat_lt
    change read (alphabet _ :: alphabet _ :: ['=', '=']) 0 0 0 = _
    rw [read_first _ (by omega), read_second _ (by omega)]
    simp only [read]
    rw [ofNat_eq (a := a) (by omega)]
    rfl
  | case3 a b =>
    have ha := a.toNat_lt
    have hb := b.toNat_lt
    change read (alphabet _ :: alphabet _ :: alphabet _ :: ['=']) 0 0 0 = _
    rw [read_first _ (by omega), read_second _ (by omega), read_third _ (by omega)]
    simp only [read]
    rw [ofNat_eq (a := a) (by omega), ofNat_eq (a := b) (by omega)]
    rfl
  | case4 a b c rest ih =>
    have ha := a.toNat_lt
    have hb := b.toNat_lt
    have hc := c.toNat_lt
    rw [urlsafeEncode, groups, padded_quad, read_first _ (by omega), read_second _ (by omega), read_third _ (by omega),
      read_fourth _ (by omega)]
    rw [urlsafeEncode] at ih
    rw [ih, ofNat_eq (a := a) (by omega), ofNat_eq (a := b) (by omega), ofNat_eq (a := c) (by omega)]
    rfl

lemma groups_all {P : Char → Prop} (hP : ∀ v < 64, P (alphabet v)) (bytes : List UInt8) : ∀ c ∈ groups bytes, P c := by
  induction bytes using groups.induct with
  | case1 =>
    rintro c ⟨⟩
  | case2 a =>
    have ha := a.toNat_lt
    intro c hc
    simp only [groups, List.mem_cons, List.not_mem_nil, or_false] at hc
    rcases hc with rfl | rfl
    · exact hP _ (by omega)
    · exact hP _ (by omega)
  | case3 a b =>
    have ha := a.toNat_lt
    have hb := b.toNat_lt
    intro c hc
    simp only [groups, List.mem_cons, List.not_mem_nil, or_false] at hc
    rcases hc with rfl | rfl | rfl
    · exact hP _ (by omega)
    · exact hP _ (by omega)
    · exact hP _ (by omega)
  | case4 a b d rest ih =>
    have ha := a.toNat_lt
    have hb := b.toNat_lt
    have hd := d.toNat_lt
    intro c hc
    simp only [groups, List.mem_cons] at hc
    rcases hc with rfl | rfl | rfl | rfl | hc
    · exact hP _ (by omega)
    · exact hP _ (by omega)
    · exact hP _ (by omega)
    · exact hP _ (by omega)
    · exact ih c hc

lemma unpadded_urlsafeEncode (bytes : List UInt8) : unpadded (urlsafeEncode bytes) = groups bytes := by
  have hlast : ∀ c ∈ groups bytes, ¬(c = '=') := groups_all (fun v hv => (value_alphabet v hv).2.1) bytes
  have hstrip : ∀ k (text : List Char), (∀ c ∈ text, ¬(c = '=')) →
      (List.replicate k '=' ++ text).dropWhile (fun c => c = '=') = text := by
    intro k text htext
    induction k with
    | zero =>
      cases text with
      | nil => rfl
      | cons c cs => simp [htext c List.mem_cons_self]
    | succ k ih => simpa [List.replicate_succ, List.dropWhile_cons] using ih
  rw [unpadded, urlsafeEncode, padded, List.reverse_append, List.reverse_replicate,
    hstrip _ _ (fun c hc => hlast c (List.mem_reverse.1 hc)), List.reverse_reverse]

theorem urlsafeDecode_padded (bytes : List UInt8) : urlsafeDecode (padded (groups bytes)) = some bytes := by
  have hascii : ∀ c ∈ padded (groups bytes), c.toNat < 128 := by
    intro c hc
    rcases List.mem_append.1 hc with hc | hc
    · exact groups_all (P := fun c => c.toNat < 128) (fun v hv => (value_alphabet v hv).2.2.2) bytes c hc
    · rw [List.eq_of_mem_replicate hc]
      decide
  rw [urlsafeDecode, if_pos (List.all_eq_true.2 fun c hc => decide_eq_true (hascii c hc))]
  exact read_urlsafeEncode bytes

end Base64
