import RelayPay.Schema
import RelayPay.Codec.Base64
import RelayPay.Codec.JsonCanonical

/-! Page cursors: a position in a listing, signed, and bound to the filters of the listing. -/

namespace RelayPay.Pagination

structure CursorPosition where
  createdAt : DateTime
  identifier : String

abbrev Filters := List (String × Json)

def filterFingerprint (filters : Filters) : String := (sha256 (canonicalJsonBytes (.obj filters))).hex

def b64encode (value : Bytes) : String := String.ofList (Base64.unpadded (Base64.urlsafeEncode value))

def b64decode (value : String) : Option Bytes := Base64.urlsafeDecode (Base64.padded value.toList)

def invalidCursor : RelayPayError where
  code := "INVALID_CURSOR"
  message := "The pagination cursor is invalid or incompatible with these filters"
  httpStatus := 400

def cursorDocument (position : CursorPosition) (filters : Filters) : Json :=
  .obj [("v", .int 1), ("createdAt", .str (String.ofList position.createdAt.isoformat)),
    ("id", .str position.identifier), ("filters", .str (filterFingerprint filters))]

def splitToken (token : String) : Option (String × String) :=
  match token.toList.dropWhile (· ≠ '.') with
  | _ :: rest => some (String.ofList (token.toList.takeWhile (· ≠ '.')), String.ofList rest)
  | [] => none

def text? : Option Json → Option String
  | some (.str s) => some s
  | _ => none

def readPosition (document : Json) (filters : Filters) : Option CursorPosition :=
  if document.isObject ∧ (document.get? "v").any (·.eqInt 1) ∧
      (document.get? "filters").any (·.eqStr (filterFingerprint filters)) then do
    let createdAt ← text? (document.get? "createdAt")
    let identifier ← text? (document.get? "id")
    let instant ← DateTime.fromisoformat createdAt.toList
    some ⟨instant, identifier⟩
  else none

section Mac

-- `hmac.digest(_, _, "sha256")` of a key and a message
variable (mac : Bytes → Bytes → Bytes) (secret : String)

def encodeCursor (position : CursorPosition) (filters : Filters) : String :=
  let payload := canonicalJsonBytes (cursorDocument position filters)
  let signature := mac (encode secret) payload
  b64encode payload ++ "." ++ b64encode signature

def verified (token : String) : Option Bytes := do
  let (payloadToken, signatureToken) ← splitToken token
  let payload ← b64decode payloadToken
  let signature ← b64decode signatureToken
  if signature = mac (encode secret) payload then some payload else none

def decodeCursor (token : String) (filters : Filters) : Except Error CursorPosition :=
  ((verified mac secret token).bind fun payload =>
    (Json.loads payload).bind fun document => readPosition document filters).elim (.error (.relayPay invalidCursor)) .ok

end Mac

@[simp] lemma b64encode_toList (value : Bytes) : (b64encode value).toList = Base64.groups value := by
  rw [b64encode, String.toList_ofList, Base64.unpadded_urlsafeEncode]

@[simp] lemma b64decode_b64encode (value : Bytes) : b64decode (b64encode value) = some value := by
  rw [b64decode, b64encode_toList, Base64.urlsafeDecode_padded]

lemma groups_noDot (value : Bytes) : ∀ c ∈ Base64.groups value, c ≠ '.' :=
  Base64.groups_all (fun v hv => (Base64.value_alphabet v hv).2.2.1) value

lemma splitToken_dot (payload : Bytes) (signature : String) :
    splitToken (b64encode payload ++ "." ++ signature) = some (b64encode payload, signature) := by
  have htext : (b64encode payload ++ "." ++ signature).toList =
      Base64.groups payload ++ '.' :: signature.toList := by
    simp [String.toList_append]
  have hkeep : ∀ c ∈ Base64.groups payload, decide (c ≠ '.') = true := by
    intro c hc
    simpa using groups_noDot payload c hc
  have hdrop : (Base64.groups payload ++ '.' :: signature.toList).dropWhile (· ≠ '.') = '.' :: signature.toList := by
    rw [List.dropWhile_append_of_pos hkeep]
    rfl
  have htake : (Base64.groups payload ++ '.' :: signature.toList).takeWhile (· ≠ '.') = Base64.groups payload := by
    rw [List.takeWhile_append_of_pos hkeep]
    simp
  rw [splitToken, htext, hdrop, htake]
  simp [← b64encode_toList]

lemma sort_fields (v createdAt identifier filters : Json) :
    [("v", v), ("createdAt", createdAt), ("id", identifier), ("filters", filters)].insertionSort
        (fun a b => a.1 ≤ b.1) =
      [("createdAt", createdAt), ("filters", filters), ("id", identifier), ("v", v)] := by
  have hid : ¬"id" ≤ "filters" := by decide
  have hcreated : "createdAt" ≤ "filters" := by decide
  have hv : ¬"v" ≤ "createdAt" ∧ ¬"v" ≤ "filters" ∧ ¬"v" ≤ "id" := by decide
  simp only [List.insertionSort_cons, List.insertionSort_nil, List.orderedInsert_nil, List.orderedInsert_cons,
    hid, hcreated, hv.1, hv.2.1, hv.2.2, if_true, if_false]

lemma plain_document (position : CursorPosition) (filters : Filters) : (cursorDocument position filters).Plain := by
  have hkeys : ["v", "createdAt", "id", "filters"].Nodup := by decide
  refine .obj hkeys ?_
  intro f hf
  simp only [List.mem_cons, List.not_mem_nil, or_false] at hf
  rcases hf with rfl | rfl | rfl | rfl
  · exact .int 1
  · exact .str _
  · exact .str _
  · exact .str _

lemma loads_document (position : CursorPosition) (filters : Filters) :
    Json.loads (canonicalJsonBytes (cursorDocument position filters)) =
      some (.obj [("createdAt", .str (String.ofList position.createdAt.isoformat)),
        ("filters", .str (filterFingerprint filters)), ("id", .str position.identifier), ("v", .int 1)]) := by
  rw [Json.loads_canonicalJsonBytes (plain_document position filters), cursorDocument, Json.sorted]
  simp only [Json.sortedEntries, sort_fields]
  rfl

lemma readPosition_document (position : CursorPosition) (filters : Filters) :
    readPosition (.obj [("createdAt", .str (String.ofList position.createdAt.isoformat)),
      ("filters", .str (filterFingerprint filters)), ("id", .str position.identifier), ("v", .int 1)]) filters =
      some position := by
  simp [readPosition, Json.isObject, Json.get?, Json.eqInt, Json.eqStr, text?, DateTime.fromisoformat_isoformat]

theorem decodeCursor_encodeCursor (mac : Bytes → Bytes → Bytes) (secret : String) (position : CursorPosition)
    (filters : Filters) :
    decodeCursor mac secret (encodeCursor mac secret position filters) filters = .ok position := by
  have hverified : verified mac secret (encodeCursor mac secret position filters) =
      some (canonicalJsonBytes (cursorDocument position filters)) := by
    simp [verified, encodeCursor, splitToken_dot]
  rw [decodeCursor, hverified, Option.bind_some, loads_document, Option.bind_some, readPosition_document]
  rfl

end RelayPay.Pagination
