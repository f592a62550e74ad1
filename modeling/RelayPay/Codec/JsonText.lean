import RelayPay.Canonical
import RelayPay.Codec.Stamp

namespace RelayPay.Json

def isBlank (c : Char) : Bool := c = ' ' || c = '\t' || c = '\n' || c = '\r'

def skipBlanks (text : List Char) : List Char := text.dropWhile isBlank

def readHex (text : List Char) : Option (ℕ × List Char) := do
  guard (4 ≤ text.length)
  let n ← Digits.read 16 Digits.hexValue 0 (text.take 4)
  some (n, text.drop 4)

/-- After `\u`. A pair of surrogates is one character; a lone one is none. -/
def readUnicode (text : List Char) : Option (Char × List Char) :=
  (readHex text).bind fun (n, rest) =>
    if 0xD800 ≤ n ∧ n ≤ 0xDBFF then
      match rest with
      | '\\' :: 'u' :: rest => (readHex rest).bind fun (m, rest) =>
          if 0xDC00 ≤ m ∧ m ≤ 0xDFFF then
            some (Char.ofNat (0x10000 + (n - 0xD800) * 1024 + (m - 0xDC00)), rest)
          else none
      | _ => none
    else if 0xDC00 ≤ n ∧ n ≤ 0xDFFF then none
    else some (Char.ofNat n, rest)

def readEscape : List Char → Option (Char × List Char)
  | '"' :: rest => some ('"', rest)
  | '\\' :: rest => some ('\\', rest)
  | '/' :: rest => some ('/', rest)
  | 'b' :: rest => some (Char.ofNat 8, rest)
  | 'f' :: rest => some (Char.ofNat 12, rest)
  | 'n' :: rest => some ('\n', rest)
  | 'r' :: rest => some ('\r', rest)
  | 't' :: rest => some ('\t', rest)
  | 'u' :: rest => readUnicode rest
  | _ => none

def readChars : ℕ → List Char → Option (List Char × List Char)
  | fuel + 1, c :: rest =>
    if c = '"' then some ([], rest)
    else if c = '\\' then
      (readEscape rest).bind fun x => (readChars fuel x.2).map fun y => (x.1 :: y.1, y.2)
    else if 32 ≤ c.toNat then (readChars fuel rest).map fun y => (c :: y.1, y.2)
    else none
  | _, _ => none

def readString (text : List Char) : Option (String × List Char) :=
  (readChars text.length text).map fun x => (String.ofList x.1, x.2)

def isDigit (c : Char) : Bool := 48 ≤ c.toNat && c.toNat ≤ 57

def digitsValue (text : List Char) : ℕ := text.foldl (fun n c => n * 10 + (c.toNat - 48)) 0

def readFraction (text : List Char) : Option ℚ × List Char :=
  match text with
  | '.' :: rest =>
    let digits := rest.takeWhile isDigit
    if digits = [] then (none, text) else (some (digitsValue digits / 10 ^ digits.length), rest.dropWhile isDigit)
  | _ => (none, text)

def readExponent (text : List Char) : Option ℤ × List Char :=
  match text with
  | c :: rest =>
    if c = 'e' ∨ c = 'E' then
      let (negative, rest') := match rest with
        | '-' :: r => (true, r)
        | '+' :: r => (false, r)
        | r => (false, r)
      let digits := rest'.takeWhile isDigit
      if digits = [] then (none, text)
      else (some (if negative then -digitsValue digits else digitsValue digits), rest'.dropWhile isDigit)
    else (none, text)
  | [] => (none, text)

def readNatural (text : List Char) : Option (ℕ × List Char) :=
  match text with
  | '0' :: rest => some (0, rest)
  | _ =>
    let digits := text.takeWhile isDigit
    if digits = [] then none else some (digitsValue digits, text.dropWhile isDigit)

def readNumber (text : List Char) : Option (Json × List Char) := do
  let (negative, rest) := match text with
    | '-' :: r => (true, r)
    | r => (false, r)
  let (n, rest) ← readNatural rest
  let (fraction, rest) := readFraction rest
  let (exponent, rest) := readExponent rest
  if fraction = none ∧ exponent = none then some (int (if negative then -n else n), rest)
  else
    let q : ℚ := (n + fraction.getD 0) * 10 ^ (exponent.getD 0)
    some (real (if negative then -q else q), rest)

mutual

def readValue : ℕ → List Char → Option (Json × List Char)
  | 0, _ => none
  | fuel + 1, text =>
    match skipBlanks text with
    | '"' :: rest => (readString rest).map fun x => (str x.1, x.2)
    | '[' :: rest =>
      match skipBlanks rest with
      | ']' :: rest => some (arr [], rest)
      | _ => (readItems fuel rest).map fun x => (arr x.1, x.2)
    | '\x7b' :: rest =>
      match skipBlanks rest with
      | '\x7d' :: rest => some (obj [], rest)
      | _ => (readFields fuel rest).map fun x => (obj x.1, x.2)
    | 'n' :: 'u' :: 'l' :: 'l' :: rest => some (null, rest)
    | 't' :: 'r' :: 'u' :: 'e' :: rest => some (bool true, rest)
    | 'f' :: 'a' :: 'l' :: 's' :: 'e' :: rest => some (bool false, rest)
    | text => readNumber text

def readItems : ℕ → List Char → Option (List Json × List Char)
  | 0, _ => none
  | fuel + 1, text => do
    let (item, rest) ← readValue fuel text
    match skipBlanks rest with
    | ',' :: rest => (readItems fuel rest).map fun x => (item :: x.1, x.2)
    | ']' :: rest => some ([item], rest)
    | _ => none

def readFields : ℕ → List Char → Option (List (String × Json) × List Char)
  | 0, _ => none
  | fuel + 1, text =>
    match skipBlanks text with
    | '"' :: rest => do
      let (key, rest) ← readString rest
      match skipBlanks rest with
      | ':' :: rest => do
        let (value, rest) ← readValue fuel rest
        match skipBlanks rest with
        | ',' :: rest => (readFields fuel rest).map fun x => ((key, value) :: x.1, x.2)
        | '\x7d' :: rest => some ([(key, value)], rest)
        | _ => none
      | _ => none
    | _ => none

end

def loads (bytes : Bytes) : Option Json :=
  (String.fromUTF8? ⟨bytes.toArray⟩).bind fun text =>
    (readValue (text.length + 1) text.toList).bind fun x => if skipBlanks x.2 = [] then some x.1 else none

lemma readHex_control (k : ℕ) (hk : k < 32) (rest : List Char) :
    readHex ('0' :: '0' :: hexDigit (k / 16) :: hexDigit (k % 16) :: rest) = some (k, rest) := by
  have hdigits : ∀ k < 32, Digits.read 16 Digits.hexValue 0 ['0', '0', hexDigit (k / 16), hexDigit (k % 16)] =
      some k := by decide
  simp [readHex, hdigits k hk]

lemma readChars_escapeChar (c : Char) (fuel : ℕ) (rest : List Char) :
    readChars (fuel + 1) (escapeChar c ++ rest) = (readChars fuel rest).map fun x => (c :: x.1, x.2) := by
  have hescape : ∀ {x : Char} {text rest : List Char}, readEscape text = some (x, rest) →
      readChars (fuel + 1) ('\\' :: text) = (readChars fuel rest).map fun y => (x :: y.1, y.2) := by
    intro x text rest h
    rw [readChars, if_neg (by decide), if_pos rfl, h]
    rfl
  rw [escapeChar]
  split_ifs with hquote hslash hn hr ht hb hf hcontrol
  · subst hquote
    exact hescape rfl
  · subst hslash
    exact hescape rfl
  · subst hn
    exact hescape rfl
  · subst hr
    exact hescape rfl
  · subst ht
    exact hescape rfl
  · have hc : c = Char.ofNat 8 := by rw [← hb, Char.ofNat_toNat]
    rw [hc]
    exact hescape rfl
  · have hc : c = Char.ofNat 12 := by rw [← hf, Char.ofNat_toNat]
    rw [hc]
    exact hescape rfl
  · apply hescape
    change readUnicode ('0' :: '0' :: hexDigit _ :: hexDigit _ :: rest) = _
    rw [readUnicode, readHex_control c.toNat hcontrol]
    have hlow : ¬(0xD800 ≤ c.toNat ∧ c.toNat ≤ 0xDBFF) := by omega
    have hlow' : ¬(0xDC00 ≤ c.toNat ∧ c.toNat ≤ 0xDFFF) := by omega
    simp only [Option.bind_some, hlow, hlow', if_false, Char.ofNat_toNat]
  · change readChars (fuel + 1) (c :: rest) = _
    rw [readChars, if_neg hquote, if_neg hslash, if_pos (by omega)]

lemma escapeChar_length (c : Char) : 1 ≤ (escapeChar c).length := by
  rw [escapeChar]
  split_ifs <;> simp

lemma readChars_escaped (cs : List Char) : ∀ (fuel : ℕ) (rest : List Char), cs.length < fuel →
    readChars fuel (cs.flatMap escapeChar ++ '"' :: rest) = some (cs, rest) := by
  induction cs with
  | nil =>
    intro fuel rest hfuel
    obtain ⟨n, rfl⟩ : ∃ n, fuel = n + 1 := ⟨fuel - 1, by simp at hfuel; omega⟩
    rfl
  | cons c cs ih =>
    intro fuel rest hfuel
    obtain ⟨n, rfl⟩ : ∃ n, fuel = n + 1 := ⟨fuel - 1, by simp at hfuel; omega⟩
    rw [List.flatMap_cons, List.append_assoc, readChars_escapeChar, ih n rest (by simpa using hfuel)]
    rfl

lemma escaped_length (cs : List Char) : cs.length ≤ (cs.flatMap escapeChar).length := by
  induction cs with
  | nil => exact Nat.le_refl 0
  | cons c cs ih =>
    have hc := escapeChar_length c
    rw [List.flatMap_cons, List.length_append, List.length_cons]
    omega

lemma readString_escaped (s : String) (rest : List Char) :
    readString (s.toList.flatMap escapeChar ++ '"' :: rest) = some (s, rest) := by
  have hlength := escaped_length s.toList
  rw [readString, readChars_escaped s.toList _ rest]
  · rw [Option.map_some, String.ofList_toList]
  · rw [List.length_append, List.length_cons]
    omega

lemma quote_toList (s : String) : (quote s).toList = '"' :: (s.toList.flatMap escapeChar ++ ['"']) := by
  simp [quote, String.toList_append]

lemma readValue_quote (s : String) (fuel : ℕ) (rest : List Char) :
    readValue (fuel + 1) ((quote s).toList ++ rest) = some (str s, rest) := by
  rw [quote_toList, List.cons_append, List.append_assoc]
  change (readString (s.toList.flatMap escapeChar ++ '"' :: rest)).map _ = _
  rw [readString_escaped]
  rfl

section Fields

variable {key : String} {value : Json} {text rest : List Char} {fuel : ℕ}

lemma readFields_more (h : readValue fuel (text ++ ',' :: rest) = some (value, ',' :: rest)) :
    readFields (fuel + 1) ((quote key).toList ++ ':' :: (text ++ ',' :: rest)) =
      (readFields fuel rest).map fun x => ((key, value) :: x.1, x.2) := by
  rw [quote_toList, List.cons_append, List.append_assoc]
  change ((readString (key.toList.flatMap escapeChar ++ '"' :: ':' :: (text ++ ',' :: rest))).bind _) = _
  rw [readString_escaped]
  change ((readValue fuel (text ++ ',' :: rest)).bind _) = _
  rw [h]
  rfl

lemma readFields_last (h : readValue fuel (text ++ '\x7d' :: rest) = some (value, '\x7d' :: rest)) :
    readFields (fuel + 1) ((quote key).toList ++ ':' :: (text ++ '\x7d' :: rest)) = some ([(key, value)], rest) := by
  rw [quote_toList, List.cons_append, List.append_assoc]
  change ((readString (key.toList.flatMap escapeChar ++ '"' :: ':' :: (text ++ '\x7d' :: rest))).bind _) = _
  rw [readString_escaped]
  change ((readValue fuel (text ++ '\x7d' :: rest)).bind _) = _
  rw [h]
  rfl

lemma readValue_obj {fields : List (String × Json)} {rest' : List Char}
    (h : readFields fuel ((quote key).toList ++ rest) = some (fields, rest')) :
    readValue (fuel + 1) ('\x7b' :: ((quote key).toList ++ rest)) = some (obj fields, rest') := by
  rw [quote_toList, List.cons_append] at h ⊢
  change ((readFields fuel ('"' :: (key.toList.flatMap escapeChar ++ ['"'] ++ rest))).map _) = _
  rw [h]
  rfl

end Fields

lemma decode_encode (s : String) : String.fromUTF8? ⟨(encode s).toArray⟩ = some s := by
  have hbytes : (⟨(encode s).toArray⟩ : ByteArray) = s.toByteArray := rfl
  rw [hbytes, String.fromUTF8?, dif_pos s.isValidUTF8]
  rfl

end RelayPay.Json
