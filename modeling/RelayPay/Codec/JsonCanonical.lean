import RelayPay.Codec.JsonText

namespace RelayPay.Json

/-- Values of objects, arrays, strings, integers, booleans and null, with each key of an object once. -/
inductive Plain : Json → Prop where
  | null : Plain null
  | bool (b : Bool) : Plain (bool b)
  | int (n : ℤ) : Plain (int n)
  | str (s : String) : Plain (str s)
  | arr {items : List Json} (hitems : ∀ x ∈ items, Plain x) : Plain (arr items)
  | obj {fields : List (String × Json)} (hkeys : (fields.map Prod.fst).Nodup) (hfields : ∀ f ∈ fields, Plain f.2) :
      Plain (obj fields)

mutual

def sorted : Json → Json
  | arr items => arr (sortedItems items)
  | obj fields => obj ((sortedEntries fields).insertionSort fun a b => a.1 ≤ b.1)
  | j => j

def sortedItems : List Json → List Json
  | [] => []
  | j :: js => sorted j :: sortedItems js

def sortedEntries : List (String × Json) → List (String × Json)
  | [] => []
  | (k, j) :: fs => (k, sorted j) :: sortedEntries fs

end

def onValue {α : Type} (f : Json → α) (e : String × Json) : String × α := (e.1, f e.2)

lemma sortedItems_eq (items : List Json) : sortedItems items = items.map sorted := by
  induction items with
  | nil => rfl
  | cons j js ih => rw [sortedItems, ih, List.map_cons]

lemma sortedEntries_eq (fields : List (String × Json)) : sortedEntries fields = fields.map (onValue sorted) := by
  induction fields with
  | nil => rfl
  | cons f fs ih =>
    obtain ⟨k, j⟩ := f
    rw [sortedEntries, ih, List.map_cons]
    rfl

lemma renderItems_eq (items : List Json) : renderItems items = items.map render := by
  induction items with
  | nil => rfl
  | cons j js ih => rw [renderItems, ih, List.map_cons]

lemma renderEntries_eq (fields : List (String × Json)) : renderEntries fields = fields.map (onValue render) := by
  induction fields with
  | nil => rfl
  | cons f fs ih =>
    obtain ⟨k, j⟩ := f
    rw [renderEntries, ih, List.map_cons]
    rfl

lemma isDigit_eq (c : Char) : isDigit c = c.isDigit := by
  rw [isDigit, Char.isDigit, Bool.eq_iff_iff]
  simp [UInt32.le_iff_toNat_le]

lemma digitsValue_toDigits (n : ℕ) : digitsValue (Nat.toDigits 10 n) = n := by
  have hstep : (fun (n : ℕ) (c : Char) => n * 10 + (c.toNat - 48)) = fun n c => 10 * n + (c.toNat - '0'.toNat) := by
    funext m c
    rw [Nat.mul_comm]
    rfl
  rw [digitsValue, hstep]
  exact Nat.ofDigitChars_toDigits (by decide) (by decide)

lemma toDigits_isDigit (n : ℕ) : ∀ c ∈ Nat.toDigits 10 n, isDigit c = true := by
  intro c hc
  rw [isDigit_eq]
  exact Nat.isDigit_of_mem_toDigits (by decide) (by decide) hc

lemma toDigits_head (n : ℕ) (hn : 0 < n) : ∃ c cs, Nat.toDigits 10 n = c :: cs ∧ c ≠ '0' := by
  have hsingle : ∀ n < 10, 0 < n → n.digitChar ≠ '0' := by decide
  induction n using Nat.strong_induction_on with
  | _ n ih =>
    by_cases hsmall : n < 10
    · exact ⟨n.digitChar, [], Nat.toDigits_of_lt_base hsmall, hsingle n hsmall hn⟩
    · obtain ⟨c, cs, hdigits, hc⟩ := ih (n / 10) (by omega) (by omega)
      refine ⟨c, cs ++ [(n % 10).digitChar], ?_, hc⟩
      rw [Nat.toDigits_of_base_le (by decide) (by omega), hdigits]
      rfl

def Ends (rest : List Char) : Prop := ∀ c ∈ rest.head?, c = ',' ∨ c = ']' ∨ c = '\x7d'

section Numbers

variable {rest : List Char}

lemma Ends.notDigit (h : Ends rest) : rest.takeWhile isDigit = [] ∧ rest.dropWhile isDigit = rest := by
  cases rest with
  | nil => exact ⟨rfl, rfl⟩
  | cons c cs =>
    have hc : isDigit c = false := by
      rcases h c rfl with rfl | rfl | rfl <;> rfl
    exact ⟨List.takeWhile_cons_of_neg (by simp [hc]), List.dropWhile_cons_of_neg (by simp [hc])⟩

lemma Ends.readFraction (h : Ends rest) : readFraction rest = (none, rest) := by
  cases rest with
  | nil => rfl
  | cons c cs =>
    rcases h c rfl with rfl | rfl | rfl <;> rfl

lemma Ends.readExponent (h : Ends rest) : readExponent rest = (none, rest) := by
  cases rest with
  | nil => rfl
  | cons c cs =>
    rcases h c rfl with rfl | rfl | rfl <;> rfl

lemma readNatural_toDigits (h : Ends rest) (n : ℕ) : readNatural (Nat.toDigits 10 n ++ rest) = some (n, rest) := by
  by_cases hn : n = 0
  · rw [hn]
    rfl
  · obtain ⟨c, cs, hdigits, hc⟩ := toDigits_head n (by omega)
    have htake : (Nat.toDigits 10 n ++ rest).takeWhile isDigit = Nat.toDigits 10 n := by
      rw [List.takeWhile_append_of_pos (toDigits_isDigit n), h.notDigit.1, List.append_nil]
    have hdrop : (Nat.toDigits 10 n ++ rest).dropWhile isDigit = rest := by
      rw [List.dropWhile_append_of_pos (toDigits_isDigit n), h.notDigit.2]
    rw [readNatural]
    · rw [htake, hdrop, digitsValue_toDigits, if_neg]
      rw [hdigits]
      exact List.cons_ne_nil c cs
    · rw [hdigits]
      rintro tail hzero
      exact hc (List.cons.inj hzero).1

lemma toString_negSucc (m : ℕ) : (toString (Int.negSucc m)).toList = '-' :: Nat.toDigits 10 (m + 1) := by
  change ("-" ++ (m + 1).repr).toList = _
  rw [String.toList_append, Nat.toList_repr]
  rfl

lemma toDigits_cons (m : ℕ) : ∃ c cs, Nat.toDigits 10 m = c :: cs ∧ isDigit c = true := by
  obtain ⟨c, cs, hdigits⟩ := List.exists_cons_of_ne_nil (Nat.toDigits_ne_nil (b := 10) (n := m))
  exact ⟨c, cs, hdigits, toDigits_isDigit m c (hdigits ▸ List.mem_cons_self)⟩

lemma toString_head (n : ℤ) : ∃ c cs, (toString n).toList = c :: cs ∧ (isDigit c = true ∨ c = '-') := by
  cases n with
  | ofNat m =>
    obtain ⟨c, cs, hdigits, hc⟩ := toDigits_cons m
    exact ⟨c, cs, Nat.toList_repr.trans hdigits, .inl hc⟩
  | negSucc m => exact ⟨'-', _, toString_negSucc m, .inr rfl⟩

lemma readNumber_toString (h : Ends rest) (n : ℤ) : readNumber ((toString n).toList ++ rest) = some (int n, rest) := by
  cases n with
  | ofNat m =>
    have htext : (toString (Int.ofNat m)).toList = Nat.toDigits 10 m := Nat.toList_repr
    obtain ⟨c, cs, hdigits, hdigit⟩ := toDigits_cons m
    have hc : c ≠ '-' := by
      rintro rfl
      exact absurd hdigit (by decide)
    have hnatural := readNatural_toDigits h m
    rw [htext]
    rw [hdigits, List.cons_append] at hnatural ⊢
    simp [readNumber, hc, hnatural, h.readFraction, h.readExponent]
  | negSucc m =>
    rw [toString_negSucc, List.cons_append]
    simp only [readNumber, readNatural_toDigits h, Option.bind_eq_bind, Option.bind_some, h.readFraction,
      h.readExponent, and_self, if_true]
    rfl

end Numbers

def joined (close : Char) : List (List Char) → List Char
  | [] => [close]
  | [t] => t ++ [close]
  | t :: ts => t ++ ',' :: joined close ts

lemma joined_cons_cons (close : Char) (t u : List Char) (ts : List (List Char)) :
    joined close (t :: u :: ts) = t ++ ',' :: joined close (u :: ts) := rfl

lemma joined_cons (close : Char) (t : List Char) (ts : List (List Char)) : ∃ more, joined close (t :: ts) = t ++ more := by
  cases ts with
  | nil => exact ⟨_, rfl⟩
  | cons u us => exact ⟨_, rfl⟩

lemma toList_intercalate_close (close : Char) (texts : List String) :
    (",".intercalate texts).toList ++ [close] = joined close (texts.map String.toList) := by
  induction texts with
  | nil => rfl
  | cons t ts ih =>
    cases ts with
    | nil => simp [joined]
    | cons u us =>
      rw [List.map_cons, List.map_cons, joined_cons_cons, ← List.map_cons, ← ih]
      simp [String.toList_intercalate]

def text (j : Json) : List Char := j.render.toList

def fieldText (f : String × Json) : List Char := (quote f.1).toList ++ ':' :: text f.2

lemma text_arr (items : List Json) : text (arr items) = '[' :: joined ']' (items.map text) := by
  rw [text, render, renderItems_eq, String.toList_append, String.toList_append, List.append_assoc]
  change '[' :: ((",".intercalate (items.map render)).toList ++ [']']) = _
  rw [toList_intercalate_close, List.map_map]
  rfl

lemma text_obj (fields : List (String × Json)) : text (obj fields) =
    '\x7b' :: joined '\x7d' ((fields.insertionSort fun a b => a.1 ≤ b.1).map fieldText) := by
  have hsort : (fields.map (onValue render)).insertionSort (fun a b => a.1 ≤ b.1) =
      (fields.insertionSort fun a b => a.1 ≤ b.1).map (onValue render) := by
    symm
    apply List.map_insertionSort
    intro a _ b _
    exact Iff.rfl
  rw [text, render, renderEntries_eq, renderFields, hsort, String.toList_append, String.toList_append,
    List.append_assoc]
  change '\x7b' :: (_ ++ ['\x7d']) = _
  have hfields : ∀ fields : List (String × Json), (fields.map (onValue render)).map
      (String.toList ∘ fun f => quote f.1 ++ ":" ++ f.2) = fields.map fieldText := by
    intro fields
    rw [List.map_map]
    apply List.map_congr_left
    intro f _
    simp [onValue, fieldText, text, String.toList_append]
  rw [toList_intercalate_close, List.map_map, hfields]

lemma ne_of_isDigit {c d : Char} (h : isDigit c = true) (hd : isDigit d = false) : c ≠ d := by
  rintro rfl
  rw [h] at hd
  cases hd

lemma isBlank_of_isDigit {c : Char} (h : isDigit c = true) : isBlank c = false ∧ c ≠ ']' := by
  refine ⟨?_, ne_of_isDigit h rfl⟩
  have hspace : c ≠ ' ' := ne_of_isDigit h rfl
  have htab : c ≠ '\t' := ne_of_isDigit h rfl
  have hline : c ≠ '\n' := ne_of_isDigit h rfl
  have hreturn : c ≠ '\r' := ne_of_isDigit h rfl
  simp [isBlank, hspace, htab, hline, hreturn]

lemma text_head {j : Json} (hj : Plain j) : ∃ c cs, text j = c :: cs ∧ isBlank c = false ∧ c ≠ ']' := by
  cases hj with
  | null => exact ⟨_, _, rfl, rfl, by decide⟩
  | bool b =>
    cases b
    · exact ⟨_, _, rfl, rfl, by decide⟩
    · exact ⟨_, _, rfl, rfl, by decide⟩
  | int n =>
    obtain ⟨c, cs, htext, hc⟩ := toString_head n
    refine ⟨c, cs, htext, ?_⟩
    rcases hc with hc | rfl
    · exact isBlank_of_isDigit hc
    · exact ⟨rfl, by decide⟩
  | str s =>
    refine ⟨'"', _, quote_toList s, rfl, by decide⟩
  | @arr items _ => exact ⟨_, _, text_arr items, rfl, by decide⟩
  | @obj fields _ _ => exact ⟨_, _, text_obj fields, rfl, by decide⟩

lemma skipBlanks_cons {c : Char} (h : isBlank c = false) (cs : List Char) : skipBlanks (c :: cs) = c :: cs :=
  List.dropWhile_cons_of_neg (by simp [h])

lemma readValue_number {c : Char} (hc : isDigit c = true ∨ c = '-') (fuel : ℕ) (cs : List Char) :
    readValue (fuel + 1) (c :: cs) = readNumber (c :: cs) := by
  rcases hc with hc | rfl
  · rw [readValue, skipBlanks_cons (isBlank_of_isDigit hc).1]
    have hquote : c ≠ '"' := ne_of_isDigit hc rfl
    have hbracket : c ≠ '[' := ne_of_isDigit hc rfl
    have hbrace : c ≠ '\x7b' := ne_of_isDigit hc rfl
    have hn : c ≠ 'n' := ne_of_isDigit hc rfl
    have ht : c ≠ 't' := ne_of_isDigit hc rfl
    have hf : c ≠ 'f' := ne_of_isDigit hc rfl
    simp [hquote, hbracket, hbrace, hn, ht, hf]
  · rfl

def Reads (j : Json) : Prop :=
  ∀ (fuel : ℕ) (rest : List Char), (text j).length ≤ fuel → Ends rest →
    readValue fuel (text j ++ rest) = some (j.sorted, rest)

lemma ends_comma (rest : List Char) : Ends (',' :: rest) := by
  rintro c ⟨⟩
  exact .inl rfl

lemma ends_bracket (rest : List Char) : Ends (']' :: rest) := by
  rintro c ⟨⟩
  exact .inr (.inl rfl)

lemma ends_brace (rest : List Char) : Ends ('\x7d' :: rest) := by
  rintro c ⟨⟩
  exact .inr (.inr rfl)

section Item

variable {j : Json} {fuel : ℕ} {rest : List Char}

lemma readItems_last (h : readValue fuel (text j ++ ']' :: rest) = some (j.sorted, ']' :: rest)) :
    readItems (fuel + 1) (text j ++ ']' :: rest) = some ([j.sorted], rest) := by
  rw [readItems, h]
  rfl

lemma readItems_more (h : readValue fuel (text j ++ ',' :: rest) = some (j.sorted, ',' :: rest)) :
    readItems (fuel + 1) (text j ++ ',' :: rest) = (readItems fuel rest).map fun x => (j.sorted :: x.1, x.2) := by
  rw [readItems, h]
  rfl

end Item

lemma readItems_joined (j : Json) (items : List Json) : (∀ x ∈ j :: items, Reads x) → ∀ (fuel : ℕ) (rest : List Char),
    (joined ']' ((j :: items).map text)).length ≤ fuel →
    readItems fuel (joined ']' ((j :: items).map text) ++ rest) = some ((j :: items).map sorted, rest) := by
  induction items generalizing j with
  | nil =>
    intro h fuel rest hfuel
    have hlength : (joined ']' [text j]).length = (text j).length + 1 := by simp [joined]
    obtain ⟨n, rfl⟩ : ∃ n, fuel = n + 1 := ⟨fuel - 1, by simp only [List.map_cons, List.map_nil] at hfuel; omega⟩
    have hread := h j List.mem_cons_self n (']' :: rest) (by simp only [List.map_cons, List.map_nil] at hfuel; omega)
      (ends_bracket rest)
    have hlast := readItems_last hread
    simpa [joined] using hlast
  | cons i items ih =>
    intro h fuel rest hfuel
    rw [List.map_cons, List.map_cons, joined_cons_cons, ← List.map_cons] at hfuel ⊢
    rw [List.length_append, List.length_cons] at hfuel
    obtain ⟨n, rfl⟩ : ∃ n, fuel = n + 1 := ⟨fuel - 1, by omega⟩
    have hread := h j List.mem_cons_self n (',' :: (joined ']' ((i :: items).map text) ++ rest)) (by omega)
      (ends_comma _)
    have hrest := ih i (fun x hx => h x (List.mem_cons_of_mem j hx)) n rest (by omega)
    rw [List.append_assoc, List.cons_append, readItems_more hread, hrest]
    rfl

lemma readFields_joined (f : String × Json) (fields : List (String × Json)) : (∀ x ∈ f :: fields, Reads x.2) →
    ∀ (fuel : ℕ) (rest : List Char), (joined '\x7d' ((f :: fields).map fieldText)).length ≤ fuel →
      readFields fuel (joined '\x7d' ((f :: fields).map fieldText) ++ rest) =
        some ((f :: fields).map (onValue sorted), rest) := by
  have htext : ∀ f : String × Json, (fieldText f).length = (quote f.1).length + (text f.2).length + 1 := by
    intro f
    rw [fieldText, List.length_append, List.length_cons, String.length_toList]
    omega
  induction fields generalizing f with
  | nil =>
    intro h fuel rest hfuel
    have hlength : (joined '\x7d' [fieldText f]).length = (fieldText f).length + 1 := by simp [joined]
    rw [List.map_cons, List.map_nil, hlength, htext] at hfuel
    obtain ⟨n, rfl⟩ : ∃ n, fuel = n + 1 := ⟨fuel - 1, by omega⟩
    have hread := h f List.mem_cons_self n ('\x7d' :: rest) (by omega) (ends_brace rest)
    have hlast : readFields (n + 1) ((quote f.1).toList ++ ':' :: (text f.2 ++ '\x7d' :: rest)) = _ := readFields_last hread
    simpa [joined, fieldText, onValue] using hlast
  | cons g fields ih =>
    intro h fuel rest hfuel
    rw [List.map_cons, List.map_cons, joined_cons_cons, ← List.map_cons] at hfuel ⊢
    rw [List.length_append, List.length_cons, htext] at hfuel
    obtain ⟨n, rfl⟩ : ∃ n, fuel = n + 1 := ⟨fuel - 1, by omega⟩
    have hread := h f List.mem_cons_self n (',' :: (joined '\x7d' ((g :: fields).map fieldText) ++ rest)) (by omega)
      (ends_comma _)
    have hrest := ih g (fun x hx => h x (List.mem_cons_of_mem f hx)) n rest (by omega)
    rw [List.append_assoc, List.cons_append, fieldText, List.append_assoc, List.cons_append,
      readFields_more hread, hrest]
    rfl

lemma readValue_arr {fuel : ℕ} {cs rest : List Char} {items : List Json} (hhead : ∀ tail, skipBlanks cs ≠ ']' :: tail)
    (h : readItems fuel cs = some (items, rest)) : readValue (fuel + 1) ('[' :: cs) = some (arr items, rest) := by
  have hbracket : skipBlanks ('[' :: cs) = '[' :: cs := rfl
  rw [readValue, hbracket]
  simp only [h]
  rfl

theorem reads_of_plain {j : Json} (hj : Plain j) : Reads j := by
  induction hj with
  | null =>
    intro fuel rest hfuel _
    obtain ⟨n, rfl⟩ : ∃ n, fuel = n + 1 := ⟨fuel - 1, by simp [text, render] at hfuel; omega⟩
    rfl
  | bool b =>
    intro fuel rest hfuel _
    cases b with
    | false =>
      obtain ⟨n, rfl⟩ : ∃ n, fuel = n + 1 := ⟨fuel - 1, by simp [text, render] at hfuel; omega⟩
      rfl
    | true =>
      obtain ⟨n, rfl⟩ : ∃ n, fuel = n + 1 := ⟨fuel - 1, by simp [text, render] at hfuel; omega⟩
      rfl
  | int n =>
    intro fuel rest hfuel hrest
    obtain ⟨c, cs, htext, hc⟩ := toString_head n
    have htext' : text (int n) = c :: cs := htext
    obtain ⟨m, rfl⟩ : ∃ m, fuel = m + 1 := ⟨fuel - 1, by rw [htext', List.length_cons] at hfuel; omega⟩
    rw [htext', List.cons_append, readValue_number hc, ← List.cons_append, ← htext, readNumber_toString hrest]
    rfl
  | str s =>
    intro fuel rest hfuel _
    have htext : text (str s) = (quote s).toList := rfl
    obtain ⟨n, rfl⟩ : ∃ n, fuel = n + 1 := ⟨fuel - 1, by rw [htext, quote_toList, List.length_cons] at hfuel; omega⟩
    rw [htext, readValue_quote]
    rfl
  | @arr items hitems ih =>
    intro fuel rest hfuel _
    rw [text_arr, List.length_cons] at hfuel
    obtain ⟨n, rfl⟩ : ∃ n, fuel = n + 1 := ⟨fuel - 1, by omega⟩
    rw [text_arr, List.cons_append, sorted, sortedItems_eq]
    cases items with
    | nil => rfl
    | cons j items =>
      apply readValue_arr ?_ (readItems_joined j items ih n rest (by omega))
      intro tail
      obtain ⟨c, cs, hc, hblank, hclose⟩ := text_head (hitems j List.mem_cons_self)
      obtain ⟨more, hmore⟩ := joined_cons ']' (text j) (items.map text)
      rw [List.map_cons, hmore, hc, List.cons_append, List.cons_append, skipBlanks_cons hblank]
      intro hcons
      exact hclose (List.cons.inj hcons).1
  | @obj fields hkeys hfields ih =>
    intro fuel rest hfuel _
    rw [text_obj, List.length_cons] at hfuel
    obtain ⟨n, rfl⟩ : ∃ n, fuel = n + 1 := ⟨fuel - 1, by omega⟩
    have hsort : (sortedEntries fields).insertionSort (fun a b => a.1 ≤ b.1) =
        (fields.insertionSort fun a b => a.1 ≤ b.1).map (onValue sorted) := by
      rw [sortedEntries_eq]
      symm
      apply List.map_insertionSort
      intro a _ b _
      exact Iff.rfl
    have hmem : ∀ f ∈ fields.insertionSort (fun a b => a.1 ≤ b.1), Reads f.2 := by
      intro f hf
      exact ih f ((List.mem_insertionSort _).1 hf)
    rw [text_obj, List.cons_append, sorted, hsort]
    generalize fields.insertionSort (fun a b => a.1 ≤ b.1) = sortedFields at hmem hfuel
    cases sortedFields with
    | nil => rfl
    | cons f fields =>
      have hread := readFields_joined f fields hmem n rest (by omega)
      obtain ⟨more, hmore⟩ := joined_cons '\x7d' (fieldText f) (fields.map fieldText)
      rw [List.map_cons, hmore, fieldText, List.append_assoc, List.append_assoc] at hread ⊢
      exact readValue_obj hread

theorem loads_canonicalJsonBytes {j : Json} (hj : Plain j) : loads (canonicalJsonBytes j) = some j.sorted := by
  have hread := reads_of_plain hj (j.render.length + 1) [] (by rw [text, String.length_toList]; omega) (by
    rintro c ⟨⟩)
  rw [List.append_nil, text] at hread
  rw [loads, canonicalJsonBytes, decode_encode, Option.bind_some, hread]
  rfl

lemma loads_sortedObject {fields : List (String × Json)} {keys : List String} (hnames : fields.map Prod.fst = keys)
    (hkeys : keys.Pairwise (· < ·)) (hfields : ∀ f ∈ fields, f.2.Plain ∧ f.2.sorted = f.2) :
    loads (canonicalJsonBytes (obj fields)) = some (obj fields) := by
  subst hnames
  have hnodup : (fields.map Prod.fst).Nodup := by
    refine hkeys.imp ?_
    rintro a _ h rfl
    exact String.lt_irrefl a h
  have hsame : fields.map (onValue sorted) = fields := by
    conv_rhs => rw [← List.map_id fields]
    refine List.map_congr_left fun f hf => ?_
    rw [onValue, (hfields f hf).2]
    rfl
  have hsorted : fields.Pairwise fun a b => a.1 ≤ b.1 := by
    refine (List.pairwise_map.1 hkeys).imp ?_
    intro a b h
    exact String.not_lt.1 (String.lt_asymm h)
  rw [loads_canonicalJsonBytes (.obj hnodup fun f hf => (hfields f hf).1), sorted, sortedEntries_eq, hsame,
    hsorted.insertionSort_eq]

end RelayPay.Json
