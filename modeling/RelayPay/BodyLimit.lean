import Mathlib.Data.List.Basic
import Mathlib.Data.List.Induction
import Mathlib.Data.List.TakeWhile
import Mathlib.Tactic.Ring

/-! The middleware that reads a request body up to a cap and hands it on unchanged. -/

namespace RelayPay.BodyLimit

abbrev Bytes := List UInt8

def ascii (s : String) : Bytes := s.toList.map fun c => UInt8.ofNat c.toNat

inductive Message where
  | request (body : Option Bytes) (moreBody : Option Bool)
  | disconnect
  deriving DecidableEq

def Message.bytes : Message → Bytes
  | .request body _ => body.getD []
  | .disconnect => []

def Message.more : Message → Bool
  | .request _ moreBody => moreBody.getD false
  | .disconnect => false

def blockBytes : ℕ := 64 * 1024

def maxDeclaredDigits : ℕ := 18

def lower (b : UInt8) : UInt8 := if 65 ≤ b ∧ b ≤ 90 then b + 32 else b

def isDigit (b : UInt8) : Bool := 48 ≤ b ∧ b ≤ 57

def numeral (digits : Bytes) : ℕ := digits.foldl (fun n b => n * 10 + (b.toNat - 48)) 0

def contentLengths (headers : List (Bytes × Bytes)) : List Bytes :=
  (headers.filter fun h => h.1.map lower = ascii "content-length").map Prod.snd

def declaredOf (value : Bytes) : ℕ :=
  let stripped := value.dropWhile (· = 48)
  let digits := if stripped = [] then [48] else stripped
  if maxDeclaredDigits < digits.length then 10 ^ maxDeclaredDigits else numeral digits

def declaredLength (headers : List (Bytes × Bytes)) : Option ℕ :=
  match contentLengths headers with
  | [value] => if value ≠ [] ∧ value.all isDigit then some (declaredOf value) else none
  | _ => none

inductive ReadResult where
  | complete (blocks : List Bytes) (rest : List Message)
  | overflow (rest : List Message)
  | disconnected (rest : List Message)
  | waiting

def readLoop (maxBytes : ℕ) (sealed : List Bytes) (pending : Bytes) (total : ℕ) : List Message → ReadResult
  | [] => .waiting
  | .disconnect :: rest => .disconnected rest
  | .request body moreBody :: rest =>
    let chunk := body.getD []
    if maxBytes < total + chunk.length then .overflow rest
    else
      let grown := pending ++ chunk
      let full := blockBytes ≤ grown.length
      let sealed := if full then sealed ++ [grown] else sealed
      let pending := if full then [] else grown
      if moreBody.getD false then readLoop maxBytes sealed pending (total + chunk.length) rest
      else .complete (if pending ≠ [] ∨ sealed = [] then sealed ++ [pending] else sealed) rest

def readBounded (maxBytes : ℕ) (messages : List Message) : ReadResult := readLoop maxBytes [] [] 0 messages

structure Receive where
  queue : List Bytes
  rest : List Message

def replay : Receive → Option (Message × Receive)
  | ⟨body :: queue, rest⟩ => some (.request (some body) (some (queue ≠ [])), ⟨queue, rest⟩)
  | ⟨[], message :: rest⟩ => some (message, ⟨[], rest⟩)
  | ⟨[], []⟩ => none

def receives : ℕ → Receive → Option (List Message × Receive)
  | 0, r => some ([], r)
  | n + 1, r => (replay r).bind fun m => (receives n m.2).map fun ms => (m.1 :: ms.1, ms.2)

inductive ScopeType where
  | http | other
  deriving DecidableEq

structure Scope where
  type : ScopeType
  headers : List (Bytes × Bytes)

structure ErrorResponse where
  status : ℕ
  code : String
  message : String
  maxBytes : Option ℕ
  deriving DecidableEq

def tooLarge (maxBytes : ℕ) : ErrorResponse :=
  ⟨413, "REQUEST_BODY_TOO_LARGE", "Request body exceeds the size limit", some maxBytes⟩

def incomplete : ErrorResponse :=
  ⟨400, "REQUEST_BODY_INCOMPLETE", "The connection closed before the request body completed", none⟩

inductive Outcome where
  | called (receive : Receive)
  | refused (error : ErrorResponse)
  | waiting

def bodyLimitMiddleware (maxBytes : ℕ) (scope : Scope) (messages : List Message) : Outcome :=
  match scope.type with
  | .other => .called ⟨[], messages⟩
  | .http =>
    if (declaredLength scope.headers).any fun declared => maxBytes < declared then .refused (tooLarge maxBytes)
    else
      match readBounded maxBytes messages with
      | .complete blocks rest => .called ⟨blocks, rest⟩
      | .overflow _ => .refused (tooLarge maxBytes)
      | .disconnected _ => .refused incomplete
      | .waiting => .waiting

inductive Ending where
  | completed | disconnected | awaited
  deriving DecidableEq

def bodyOf : List Message → Bytes
  | [] => []
  | .disconnect :: _ => []
  | .request body moreBody :: rest => body.getD [] ++ if moreBody.getD false then bodyOf rest else []

def endingOf : List Message → Ending
  | [] => .awaited
  | .disconnect :: _ => .disconnected
  | .request _ moreBody :: rest => if moreBody.getD false then endingOf rest else .completed

def DeclaresOver (maxBytes : ℕ) (headers : List (Bytes × Bytes)) : Prop :=
  ∃ value, contentLengths headers = [value] ∧ value ≠ [] ∧ value.all isDigit = true ∧ maxBytes < numeral value

lemma numeral_append (digits digits' : Bytes) :
    numeral (digits ++ digits') = numeral digits * 10 ^ digits'.length + numeral digits' := by
  induction digits' using List.reverseRecOn with
  | nil => simp [numeral]
  | append_singleton digits' b ih =>
    have hstep : ∀ ds : Bytes, numeral (ds ++ [b]) = numeral ds * 10 + (b.toNat - 48) := fun ds => by
      simp [numeral]
    rw [← List.append_assoc, hstep, hstep, ih, List.length_append, List.length_singleton, Nat.pow_succ]
    ring

lemma numeral_dropWhile (value : Bytes) : numeral (value.dropWhile (· = 48)) = numeral value := by
  induction value with
  | nil => rfl
  | cons b bs ih =>
    by_cases hb : b = 48
    · rw [List.dropWhile_cons_of_pos (by simpa using hb), ih, ← List.singleton_append, numeral_append, hb]
      simp [numeral]
    · rw [List.dropWhile_cons_of_neg (by simpa using hb)]

lemma pow_le_numeral {b : UInt8} {digits : Bytes} (hdigit : isDigit b = true) (hb : b ≠ 48) :
    10 ^ digits.length ≤ numeral (b :: digits) := by
  rw [← List.singleton_append, numeral_append]
  have hpos : 1 ≤ numeral [b] := by
    simp only [isDigit, decide_eq_true_eq, UInt8.le_iff_toNat_le] at hdigit
    have hne : b.toNat ≠ 48 := fun h => hb (UInt8.toNat_inj.1 h)
    simp only [numeral, List.foldl_cons, List.foldl_nil]
    have : (48 : UInt8).toNat = 48 := rfl
    omega
  exact (Nat.le_mul_of_pos_left _ hpos).trans (Nat.le_add_right _ _)

lemma lt_declaredOf_iff {maxBytes : ℕ} (hmax : maxBytes < 10 ^ maxDeclaredDigits) {value : Bytes}
    (hdigits : value.all isDigit = true) : maxBytes < declaredOf value ↔ maxBytes < numeral value := by
  have hsame := numeral_dropWhile value
  simp only [declaredOf]
  cases hstripped : value.dropWhile (· = 48) with
  | nil =>
    rw [hstripped] at hsame
    rw [← hsame, if_pos rfl, if_neg (by decide)]
    rfl
  | cons b digits =>
    rw [hstripped] at hsame
    rw [if_neg (List.cons_ne_nil _ _)]
    by_cases hlong : maxDeclaredDigits < (b :: digits).length
    · -- too many digits: what is declared in its place and the number are both over the cap
      have hmem : b ∈ value := (List.dropWhile_sublist _).subset (hstripped ▸ List.mem_cons_self)
      have hb : b ≠ 48 := by
        have hhead := List.head_dropWhile_not (fun x : UInt8 => decide (x = 48))
          (show value.dropWhile (fun x => decide (x = 48)) ≠ [] by simp [hstripped])
        simpa [hstripped] using hhead
      have hlarge : 10 ^ digits.length ≤ numeral (b :: digits) :=
        pow_le_numeral (List.all_eq_true.1 hdigits b hmem) hb
      have hpow : 10 ^ maxDeclaredDigits ≤ 10 ^ digits.length := by
        apply Nat.pow_le_pow_right (by decide)
        rw [List.length_cons] at hlong
        omega
      rw [hsame] at hlarge
      rw [if_pos hlong]
      exact iff_of_true hmax (hmax.trans_le (hpow.trans hlarge))
    · rw [if_neg hlong, hsame]

lemma declares_over_iff {maxBytes : ℕ} (hmax : maxBytes < 10 ^ maxDeclaredDigits) (headers : List (Bytes × Bytes)) :
    ((declaredLength headers).any fun declared => maxBytes < declared) = true ↔ DeclaresOver maxBytes headers := by
  unfold declaredLength DeclaresOver
  split
  · next value hvalue =>
    rw [hvalue]
    split_ifs with hwell
    · simp only [Option.any_some, decide_eq_true_eq, lt_declaredOf_iff hmax hwell.2]
      constructor
      · exact fun h => ⟨value, rfl, hwell.1, hwell.2, h⟩
      · rintro ⟨_, heq, -, -, h⟩
        cases heq
        exact h
    · simp only [Option.any_none, Bool.false_eq_true, false_iff]
      rintro ⟨_, heq, hne, hall, -⟩
      cases heq
      exact hwell ⟨hne, hall⟩
  · next hmany =>
    simp only [Option.any_none, Bool.false_eq_true, false_iff]
    rintro ⟨value, heq, -⟩
    exact hmany value heq

inductive ReadResult.Meets (maxBytes : ℕ) (body : Bytes) : Ending → ReadResult → Prop
  | overflow {ending rest} : maxBytes < body.length → Meets maxBytes body ending (.overflow rest)
  | complete {blocks rest} : body.length ≤ maxBytes → blocks ≠ [] → blocks.flatten = body →
      Meets maxBytes body .completed (.complete blocks rest)
  | disconnected {rest} : body.length ≤ maxBytes → Meets maxBytes body .disconnected (.disconnected rest)
  | waiting : body.length ≤ maxBytes → Meets maxBytes body .awaited .waiting

lemma readLoop_meets (maxBytes : ℕ) (sealed : List Bytes) (pending : Bytes) (total : ℕ) (messages : List Message)
    (htotal : total = (sealed.flatten ++ pending).length) (hfits : total ≤ maxBytes) :
    (readLoop maxBytes sealed pending total messages).Meets maxBytes
      (sealed.flatten ++ pending ++ bodyOf messages) (endingOf messages) := by
  induction messages generalizing sealed pending total with
  | nil => exact .waiting (by simpa [bodyOf, ← htotal] using hfits)
  | cons message rest ih =>
    cases message with
    | disconnect => exact .disconnected (by simpa [bodyOf, ← htotal] using hfits)
    | request body moreBody =>
      simp only [readLoop, bodyOf, endingOf]
      generalize hchunk : body.getD [] = chunk
      by_cases hover : maxBytes < total + chunk.length
      · rw [if_pos hover]
        refine .overflow ?_
        rw [← List.append_assoc, List.length_append, List.length_append, ← htotal]
        omega
      · rw [if_neg hover]
        -- sealing moves the bytes between the block list and the next block
        generalize hsealed : (if blockBytes ≤ (pending ++ chunk).length then sealed ++ [pending ++ chunk]
          else sealed) = sealed'
        generalize hpending : (if blockBytes ≤ (pending ++ chunk).length then [] else pending ++ chunk) = pending'
        have hbytes : sealed'.flatten ++ pending' = sealed.flatten ++ pending ++ chunk := by
          rw [← hsealed, ← hpending]
          split_ifs <;> simp
        have hlength : total + chunk.length = (sealed'.flatten ++ pending').length := by
          rw [hbytes, List.length_append, htotal]
        by_cases hmore : moreBody.getD false = true
        · rw [if_pos hmore, if_pos hmore, if_pos hmore, ← List.append_assoc, ← hbytes]
          exact ih sealed' pending' _ hlength (not_lt.1 hover)
        · rw [if_neg hmore, if_neg hmore, if_neg hmore, List.append_nil, ← hbytes]
          refine .complete (by omega) ?_ ?_
          · split_ifs with hlast
            · simp
            · exact fun h => hlast (Or.inr h)
          · split_ifs with hlast
            · simp
            · have hnone : pending' = [] := not_not.1 fun h => hlast (Or.inl h)
              rw [hnone, List.append_nil]

lemma readBounded_meets (maxBytes : ℕ) (messages : List Message) :
    (readBounded maxBytes messages).Meets maxBytes (bodyOf messages) (endingOf messages) :=
  readLoop_meets maxBytes [] [] 0 messages rfl (Nat.zero_le _)

lemma receives_blocks (blocks : List Bytes) (hblocks : blocks ≠ []) (rest : List Message) :
    ∃ messages last, receives blocks.length ⟨blocks, rest⟩ = some (messages ++ [last], ⟨[], rest⟩) ∧
      (∀ m ∈ messages, m.more = true) ∧ last.more = false ∧
      ((messages ++ [last]).map Message.bytes).flatten = blocks.flatten := by
  induction blocks with
  | nil => exact absurd rfl hblocks
  | cons body queue ih =>
    cases queue with
    | nil => exact ⟨[], .request (some body) (some false), rfl, by simp, rfl, by simp [Message.bytes]⟩
    | cons body' queue =>
      obtain ⟨messages, last, hreceives, hmore, hlast, hbytes⟩ := ih (List.cons_ne_nil _ _)
      refine ⟨.request (some body) (some true) :: messages, last, ?_, ?_, hlast, ?_⟩
      · rw [List.length_cons, receives, replay, Option.bind_some, hreceives]
        simp
      · intro m hm
        rcases List.mem_cons.1 hm with rfl | hm
        · rfl
        · exact hmore m hm
      · rw [List.cons_append, List.map_cons, List.flatten_cons, hbytes]
        rfl

inductive Decision where
  | called | refused (error : ErrorResponse) | waiting
  deriving DecidableEq

def Outcome.decision : Outcome → Decision
  | .called _ => .called
  | .refused error => .refused error
  | .waiting => .waiting

def decisionOf (maxBytes : ℕ) (exceeds : Bool) (body : Bytes) (ending : Ending) : Decision :=
  if exceeds ∨ maxBytes < body.length then .refused (tooLarge maxBytes)
  else match ending with
    | .completed => .called
    | .disconnected => .refused incomplete
    | .awaited => .waiting

lemma decision_eq (maxBytes : ℕ) (headers : List (Bytes × Bytes)) (messages : List Message) :
    (bodyLimitMiddleware maxBytes ⟨.http, headers⟩ messages).decision =
      decisionOf maxBytes ((declaredLength headers).any fun declared => maxBytes < declared) (bodyOf messages)
        (endingOf messages) := by
  simp only [bodyLimitMiddleware, decisionOf]
  by_cases hover : ((declaredLength headers).any fun declared => maxBytes < declared) = true
  · simp [hover, Outcome.decision]
  · have hread := readBounded_meets maxBytes messages
    rw [if_neg hover]
    generalize readBounded maxBytes messages = read, endingOf messages = ending at hread ⊢
    cases hread with
    | overflow h => rw [if_pos (Or.inr h), Outcome.decision]
    | complete h => rw [if_neg (by simp [hover, h])]; rfl
    | disconnected h => rw [if_neg (by simp [hover, h])]; rfl
    | waiting h => rw [if_neg (by simp [hover, h])]; rfl

lemma decisionOf_called_iff (maxBytes : ℕ) (exceeds : Bool) (body : Bytes) (ending : Ending) :
    decisionOf maxBytes exceeds body ending = .called ↔
      ¬exceeds = true ∧ ending = .completed ∧ body.length ≤ maxBytes := by
  unfold decisionOf
  split_ifs with h
  · simp only [false_iff]
    rintro ⟨hover, -, hfits⟩
    exact h.elim hover (not_lt.2 hfits)
  · rw [not_or, not_lt] at h
    cases ending <;> simp [h]

lemma called_blocks {maxBytes : ℕ} {headers : List (Bytes × Bytes)} {messages : List Message} {receive : Receive}
    (h : bodyLimitMiddleware maxBytes ⟨.http, headers⟩ messages = .called receive) :
    receive.queue ≠ [] ∧ receive.queue.flatten = bodyOf messages := by
  have hread := readBounded_meets maxBytes messages
  simp only [bodyLimitMiddleware] at h
  split_ifs at h
  generalize readBounded maxBytes messages = read, endingOf messages = ending at h hread
  cases hread with
  | complete _ hne hbytes =>
    cases h
    exact ⟨hne, hbytes⟩
  | overflow | disconnected | waiting => cases h

/-- When the application is called, what it then receives, and that neither depends on how the body is cut. -/
theorem body_limit (maxBytes : ℕ) (hmax : maxBytes < 10 ^ 18) (headers : List (Bytes × Bytes))
    (messages : List Message) : ((∃ receive, bodyLimitMiddleware maxBytes ⟨.http, headers⟩ messages = .called receive) ↔
      ¬DeclaresOver maxBytes headers ∧ endingOf messages = .completed ∧ (bodyOf messages).length ≤ maxBytes) ∧
    (∀ receive, bodyLimitMiddleware maxBytes ⟨.http, headers⟩ messages = .called receive →
      ∃ n received last rest, receives n receive = some (received ++ [last], ⟨[], rest⟩) ∧
        (∀ m ∈ received, m.more = true) ∧ last.more = false ∧
        ((received ++ [last]).map Message.bytes).flatten = bodyOf messages) ∧
    ∀ messages', bodyOf messages' = bodyOf messages → endingOf messages' = endingOf messages →
      (bodyLimitMiddleware maxBytes ⟨.http, headers⟩ messages').decision =
        (bodyLimitMiddleware maxBytes ⟨.http, headers⟩ messages).decision := by
  refine ⟨?_, fun receive hcalled => ?_, fun messages' hbody hending => ?_⟩
  · have hiff := decisionOf_called_iff maxBytes ((declaredLength headers).any fun declared => maxBytes < declared)
      (bodyOf messages) (endingOf messages)
    rw [← decision_eq, declares_over_iff hmax] at hiff
    rw [← hiff]
    constructor
    · rintro ⟨receive, hcalled⟩
      rw [hcalled, Outcome.decision]
    · intro hdecision
      cases houtcome : bodyLimitMiddleware maxBytes ⟨.http, headers⟩ messages with
      | called receive => exact ⟨receive, rfl⟩
      | refused error =>
        rw [houtcome] at hdecision
        cases hdecision
      | waiting =>
        rw [houtcome] at hdecision
        cases hdecision
  · obtain ⟨hne, hbytes⟩ := called_blocks hcalled
    obtain ⟨received, last, hreceives, hmore, hlast, hflatten⟩ := receives_blocks receive.queue hne receive.rest
    exact ⟨_, received, last, receive.rest, hreceives, hmore, hlast, hflatten.trans hbytes⟩
  · rw [decision_eq, decision_eq, hbody, hending]

theorem body_limit_pieces : ∃ receive received last rest,
    bodyLimitMiddleware 8 ⟨.http, [(ascii "Content-Length", ascii "005")]⟩
      [.request (some (ascii "ab")) (some true), .request (some []) (some true), .request (some (ascii "cde")) none] =
        .called receive ∧ (∃ n, receives n receive = some (received ++ [last], ⟨[], rest⟩)) ∧ last.more = false ∧
    ((received ++ [last]).map Message.bytes).flatten = ascii "abcde" := by
  have h := body_limit 8 (by decide) [(ascii "Content-Length", ascii "005")]
    [.request (some (ascii "ab")) (some true), .request (some []) (some true), .request (some (ascii "cde")) none]
  obtain ⟨receive, hcalled⟩ := h.1.2 ⟨by
    rw [← declares_over_iff (by decide)]
    decide +kernel, rfl, by decide⟩
  obtain ⟨n, received, last, rest, hreceives, -, hlast, hbytes⟩ := h.2.1 receive hcalled
  exact ⟨receive, received, last, rest, hcalled, ⟨n, hreceives⟩, hlast, hbytes⟩

end RelayPay.BodyLimit
