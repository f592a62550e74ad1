import RelayPay.Atomic
import RelayPay.ReadCommitted.Script

/-! Runs of the service that can be evaluated. -/

namespace RelayPay

open ReadCommitted

structure Rules where
  providerReply : World → OperationId → Bool → Option Observation → Bool
  providerApplies : World → OperationId → EffectOutcome → Bool
  bankReply : World → AttemptId → Bool → Option Observation → Bool
  bankApplies : World → AttemptId → EffectOutcome → Bool

def Rules.outside (r : Rules) : Outside where
  providerReply w o lookup obs := r.providerReply w o lookup obs = true
  providerApplies w o outcome := r.providerApplies w o outcome = true
  bankReply w k lookup obs := r.bankReply w k lookup obs = true
  bankApplies w k outcome := r.bankApplies w k outcome = true

inductive Call where
  | send
  | answer (obs : Option Observation)

inductive Happening where
  | tick (t : Time)
  | providerApplies (o : OperationId) (outcome : EffectOutcome)
  | bankApplies (k : AttemptId) (outcome : EffectOutcome)

def answeredNow (w : World) (obs : Option Observation) : Bool := obs.all fun x => x.answeredAt = w.now

lemma answeredNow_sound {w : World} {obs : Option Observation} (h : answeredNow w obs = true) : AnsweredNow w obs := by
  rintro x rfl
  simpa [answeredNow] using h

open Local in
def Rules.act (cfg : Service) (r : Rules) : Call → Local → World → Option (Local × World)
  | .send, calling cont prepared e, w =>
    if prepared.alreadySent = false then some (awaiting cont prepared e,
      w.setProvider (w.provider.contact (.mutate prepared.operation prepared.requestBytes)))
    else none
  | .send, payoutCalling rest prepared, w =>
    if prepared.lookupOnly = false then some (payoutAwaiting rest prepared,
      w.setBank (w.bank.contact (.mutate (prepared.payout, prepared.number) prepared.requestBytes)))
    else none
  | .answer obs, awaiting cont prepared e, w =>
    if answeredNow w obs = true ∧ r.providerReply w prepared.operation false obs = true then
      some (answered cont prepared e obs, w)
    else none
  | .answer obs, calling cont prepared e, w =>
    if prepared.alreadySent = true ∧ answeredNow w obs = true ∧
        r.providerReply w prepared.operation true obs = true then
      some (answered cont prepared e obs, w.setProvider (w.provider.contact (.lookup prepared.operation)))
    else none
  | .answer obs, lookingUp cont claim actor, w =>
    if answeredNow w obs = true ∧ r.providerReply w claim.operation true obs = true then
      some (lookedUp cont claim actor obs, w.setProvider (w.provider.contact (.lookup claim.operation)))
    else none
  | .answer obs, payoutAwaiting rest prepared, w =>
    if answeredNow w obs = true ∧ r.bankReply w (prepared.payout, prepared.number) false obs = true then
      some (afterBankReply cfg rest prepared obs, w)
    else none
  | .answer obs, payoutCalling rest prepared, w =>
    if prepared.lookupOnly = true ∧ answeredNow w obs = true ∧
        r.bankReply w (prepared.payout, prepared.number) true obs = true then
      some (afterBankReply cfg rest prepared obs,
        w.setBank (w.bank.contact (.lookup (prepared.payout, prepared.number))))
    else none
  | _, _, _ => none

def Counterparty.effect? {ι : Type} [DecidableEq ι] (c : Counterparty ι) (now : Time) (key : ι)
    (outcome : EffectOutcome) : Option (Counterparty ι) :=
  match c.effects.get key with
  | none =>
    if c.contacts.any fun | .mutate k _ => k = key | .lookup _ => false then
      some { c with effects := c.effects.put key ⟨outcome, now⟩ }
    else none
  | some ⟨.pending, t⟩ => some { c with effects := c.effects.put key ⟨outcome, t⟩ }
  | some _ => none

def Rules.env (r : Rules) : Happening → World → Option World
  | .tick t, w => if w.now ≤ t then some (w.setNow t) else none
  | .providerApplies o outcome, w =>
    if r.providerApplies w o outcome then (w.provider.effect? w.now o outcome).map w.setProvider else none
  | .bankApplies k outcome, w =>
    if r.bankApplies w k outcome then (w.bank.effect? w.now k outcome).map w.setBank else none

lemma Rules.act_sound {cfg : Service} {r : Rules} {x : Call} {l l' : Local} {w w' : World}
    (h : r.act cfg x l w = some (l', w')) : Act cfg r.outside l w l' w' := by
  unfold Rules.act at h
  split at h
  all_goals first
    | cases h
    | (split at h <;> cases h)
  case h_1 hunsent => exact .send hunsent
  case h_2 hunsent => exact .sendPayout hunsent
  case h_3 hreply => exact .receive (answeredNow_sound hreply.1) hreply.2
  case h_4 hreply => exact .lookup hreply.1 (answeredNow_sound hreply.2.1) hreply.2.2
  case h_5 hreply => exact .recover (answeredNow_sound hreply.1) hreply.2
  case h_6 hreply => exact .receivePayout (answeredNow_sound hreply.1) hreply.2
  case h_7 hreply => exact .lookupPayout hreply.1 (answeredNow_sound hreply.2.1) hreply.2.2

lemma Counterparty.effect?_sound {ι : Type} [DecidableEq ι] {c c' : Counterparty ι} {now : Time}
    {key : ι} {outcome : EffectOutcome} (h : c.effect? now key outcome = some c') : c.Applies now key outcome c' := by
  unfold Counterparty.effect? at h
  split at h
  · next hnone =>
    split at h
    · next hsent =>
      cases h
      obtain ⟨x, hx, hkey⟩ := List.any_eq_true.1 hsent
      refine .first ?_ hnone
      cases x with
      | mutate k b =>
        simp only [decide_eq_true_eq] at hkey
        subst hkey
        exact ⟨b, hx⟩
      | lookup k => cases hkey
    · cases h
  · next t hpending =>
    cases h
    exact .settle hpending
  · cases h

lemma Rules.env_sound {r : Rules} {x : Happening} {w w' : World} (h : r.env x w = some w') :
    Environment r.outside w w' := by
  cases x with
  | tick t =>
    simp only [Rules.env] at h
    split at h <;> cases h
    next hle => exact .tick hle
  | providerApplies o outcome =>
    simp only [Rules.env] at h
    split at h
    · next hout =>
      obtain ⟨c, hc, rfl⟩ := Option.map_eq_some_iff.1 h
      exact .providerApplies hout (Counterparty.effect?_sound hc)
    · cases h
  | bankApplies k outcome =>
    simp only [Rules.env] at h
    split at h
    · next hout =>
      obtain ⟨c, hc, rfl⟩ := Option.map_eq_some_iff.1 h
      exact .bankApplies hout (Counterparty.effect?_sound hc)
    · cases h

def player (cfg : Service) (r : Rules) : Player (relaypay cfg r.outside) Call Happening where
  spawn := Local.starts
  act := r.act cfg
  env := r.env
  spawn_sound h := h
  act_sound h := r.act_sound h
  env_sound h := r.env_sound h

/-! The provider and the bank keep to their terms: a 404 to a lookup means no effect, a mutation has its effect within
the grace period, and the bank declines only what it has declined. -/

def providerBody (o : OperationId) (amount : ℤ) : Json :=
  .obj [("accountId", .str "acct"), ("stableKey", .str o.stableKey), ("operationKind", .str o.kind),
    ("reference", .str o.resourcePublicId), ("amount", .int amount), ("currency", .str "INR"),
    ("outcome", .str "SUCCEEDED"), ("declineCode", .null), ("effectId", .str "eff")]

def shopTransfer (n : ℕ) : BankRequest := ⟨"bank", 2000, "ben-ref", "INR", "pot_1", payoutStableKey (1, n)⟩

def bankBody (n : ℕ) (outcome : List (String × Json)) : Json :=
  match (shopTransfer n).json with
  | .obj fields => .obj (fields ++ outcome)
  | j => j

def shopTexts : List (Bytes × Json) := [
  ([1], providerBody (.authorize 1) 10000),
  ([2], providerBody (.capture 1) 10000),
  ([3], providerBody (.refund 1 1) 1000),
  ([4], .obj [("accountId", .str "acct"), ("stableKey", .str (OperationId.authorize 1).stableKey),
    ("outcome", .str "NOT_FOUND")]),
  ([5], bankBody 1 [("outcome", .str "DECLINED"), ("declineCode", .str "ACCOUNT_CLOSED")]),
  ([6], bankBody 2 [("outcome", .str "SUCCEEDED")]),
  (canonicalJsonBytes (shopTransfer 1).json, (shopTransfer 1).json),
  (canonicalJsonBytes (shopTransfer 2).json, (shopTransfer 2).json)]

def shop : Service where
  loads b := (shopTexts.find? fun e => e.1 = b).map Prod.snd
  hmacHex _ _ := "sig"
  providerAccountId := "acct"
  providerSigningSecret := "provider-secret"
  webhookSecret := "webhook-secret"
  webhookReplaySeconds := 300
  bankAccountId := "bank"
  bankSigningSecret := "bank-secret"
  notFoundGraceSeconds := 600
  authHoldSeconds := 3600

def shopWorld : World where
  now := 0
  environment := 1
  customers := [1]
  merchants := .empty
  accounts := [⟨.providerClearing, none⟩]
  beneficiaries := Table.empty.put 1 ⟨true, "ben-ref"⟩
  feeSchedules := [⟨1, 1, 1, 0, ⟨200, 0, 1800, none, none⟩⟩]
  endpointVersions := .empty
  eventRecipients := []
  payments := .empty
  operations := .empty
  records := .empty
  pspEvents := .empty
  journals := []
  balanceTransactions := []
  transactionStamps := .empty
  settlementRuns := .empty
  settlementItems := []
  payouts := .empty
  attemptStamps := .empty
  provider := ⟨.empty, []⟩
  bank := ⟨.empty, []⟩

def withinGrace (w : World) (sent : Option Time) : Bool :=
  sent.any fun s => w.now ≤ s + seconds shop.notFoundGraceSeconds

def shopRules : Rules where
  providerReply w o lookup obs := obs.all fun x =>
    !lookup || x.statusCode ≠ 404 || (w.provider.effects.get o).isNone
  providerApplies w o _ := withinGrace w ((w.operations.get o).bind ProviderOperation.lastSentAt)
  bankReply w k _ obs := obs.all fun x => x.statusCode ≠ 404 &&
    ((shop.loads x.body).all fun r => !hasStr r "outcome" "DECLINED" ||
      (w.bank.effects.get k).any fun e => match e.outcome with | .declined _ => true | _ => false)
  bankApplies w k _ := withinGrace w (((w.payouts.get k.1).bind fun P => P.attempt? k.2).bind
    PayoutAttempt.lastSentAt)

def shopKey (s : String) : KeyedRequest := ⟨⟨s⟩, sha256 []⟩

def signedBy (name : String) (status : ℕ) (body : Bytes) (t : Time) : Option Observation :=
  some ⟨status, body, [(name, "sig")], t⟩

def dispatched (i : ℕ) (o : OperationId) (body : Bytes) : List (Move Local Call Happening) :=
  [.spawn (.dispatch .stop o), .run i, .run i, .act i .send, .env (.providerApplies o .succeeded),
    .act i (.answer (signedBy "x-provider-signature" 200 body 0)), .run i, .run i]

def shopSale : List (Move Local Call Happening) :=
  [.spawn (.command (.createIntent ⟨1, 1, 1, "order-1", 10000⟩) (shopKey "intent")), .run 0,
    .spawn (.command (.authorize 1) (shopKey "authorize")), .run 1] ++
  dispatched 2 (.authorize 1) [1] ++
  [.spawn (.command (.capture 1 none) (shopKey "capture")), .run 3] ++ dispatched 4 (.capture 1) [2] ++
  [.spawn (.settle 1 ⟨"settle"⟩ (sha256 []) false), .run 5,
    .spawn (.command (.refund 1 1 1000) (shopKey "refund")), .run 6] ++
  dispatched 7 (.refund 1 1) [3]

def shopPayout : List (Move Local Call Happening) :=
  [.spawn (.createPayout ⟨1, 1, 1, 2000, ⟨"payout"⟩, sha256 [], .rowLock⟩ false), .run 8,
    .spawn (.payoutBatch 10), .run 9, .run 9, .run 9, .act 9 .send,
    .env (.bankApplies (1, 1) (.declined "ACCOUNT_CLOSED")),
    .act 9 (.answer (signedBy "x-bank-signature" 200 [5] 0)), .run 9]

def shopRetry : List (Move Local Call Happening) :=
  [.spawn (.retryPayout ⟨1, ⟨"retry"⟩, sha256 []⟩), .run 10,
    .spawn (.payoutBatch 10), .run 11, .run 11, .run 11, .act 11 .send,
    .env (.bankApplies (1, 2) .succeeded), .act 11 (.answer (signedBy "x-bank-signature" 200 [6] 0)),
    .run 11]

def shopAfter (ms : List (Move Local Call Happening)) : World × List Local :=
  (player shop shopRules).final ms shopWorld

def shopPlays (ms : List (Move Local Call Happening)) : Bool :=
  ((player shop shopRules).play ms (shopWorld, [])).isSome

variable {ms : List (Move Local Call Happening)}

lemma shop_reach (h : shopPlays ms = true) :
    Reach (relaypay shop shopRules.outside) (.idle shopWorld) (.resting (shopAfter ms).1 (shopAfter ms).2) :=
  Player.final_reach h

lemma shop_result {α : Type} {f : World → Option α} {a : α}
    (h : (((player shop shopRules).play ms (shopWorld, [])).bind fun x => f x.1) = some a) :
    Reach (relaypay shop shopRules.outside) (.idle shopWorld)
      (.resting (shopAfter ms).1 (shopAfter ms).2) ∧ f (shopAfter ms).1 = some a :=
  Player.final_result h

def shopRun : List (Move Local Call Happening) := shopSale ++ shopPayout ++ shopRetry

lemma shopSale_plays : shopPlays shopSale = true := by decide +kernel

lemma shopRun_plays : shopPlays shopRun = true := by decide +kernel

lemma shopWorld_initial : shopWorld.Initial := by
  constructor <;> rfl

end RelayPay
