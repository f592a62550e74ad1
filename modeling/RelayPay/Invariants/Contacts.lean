import RelayPay.Invariants.Payouts
import RelayPay.ReadCommitted.Permits

/-! For each operation and each payout attempt one mutation is sent at most, by the process that recorded the send. -/

namespace RelayPay

open ReadCommitted

def Contact.mutates {ι : Type} [DecidableEq ι] (k : ι) : Contact ι → Bool
  | .mutate k' _ => k' = k
  | .lookup _ => false

def Counterparty.mutations {ι : Type} [DecidableEq ι] (c : Counterparty ι) (k : ι) : ℕ :=
  c.contacts.countP (Contact.mutates k)

lemma Counterparty.mutations_contact {ι : Type} [DecidableEq ι] (c : Counterparty ι) (x : Contact ι)
    (k : ι) : (c.contact x).mutations k = c.mutations k + if x.mutates k then 1 else 0 := by
  simp [mutations, contact, List.countP_append]

lemma Counterparty.Applies.contacts {ι : Type} [DecidableEq ι] {now : Time} {c c' : Counterparty ι}
    {k : ι} {outcome : EffectOutcome} (h : c.Applies now k outcome c') : c'.contacts = c.contacts := by
  cases h <;> rfl

section Steps

variable {cfg : Service} {out : Outside} {l l' : Local} {held : List Key} {ms : List MerchantId}
variable {w w' : World}

lemma Change.counterparties (h : Change cfg l held ms w w') (hl : l ≠ .finished) :
    w'.provider = w.provider ∧ w'.bank = w.bank := by
  cases h with
  | outside hfinished _ => exact absurd hfinished hl
  | finalized => exact ⟨by simp, by simp⟩
  | _ => exact ⟨rfl, rfl⟩

lemma transaction_ne_finished {t : Tx Local} (ht : transaction cfg l = some t) : l ≠ .finished := by
  rintro rfl
  cases ht

lemma Committed.counterparties (h : Committed cfg l w held l' w') {t : Tx Local}
    (ht : transaction cfg l = some t) : w'.provider = w.provider ∧ w'.bank = w.bank := by
  refine h.preserves (I := fun w' => w'.provider = w.provider ∧ w'.bank = w.bank) ?_ ⟨rfl, rfl⟩
  intro keys ms w₁ w₂ hchange hsame
  obtain ⟨hprovider, hbank⟩ := hchange.counterparties (transaction_ne_finished ht)
  exact ⟨hprovider.trans hsame.1, hbank.trans hsame.2⟩

lemma Environment.contacts (h : Environment out w w') :
    w'.provider.contacts = w.provider.contacts ∧ w'.bank.contacts = w.bank.contacts := by
  cases h with
  | providerApplies _ ha => exact ⟨ha.contacts, rfl⟩
  | bankApplies _ ha => exact ⟨rfl, ha.contacts⟩
  | _ => exact ⟨rfl, rfl⟩

end Steps

def Local.sends : Local → Option (OperationId × Bytes)
  | .expecting _ prepared =>
    if prepared.alreadySent then none else some (prepared.operation, prepared.requestBytes)
  | .calling _ prepared _ =>
    if prepared.alreadySent then none else some (prepared.operation, prepared.requestBytes)
  | _ => none

def Local.awaits : Local → Option OperationId
  | .awaiting _ prepared _ => some prepared.operation
  | .answered _ prepared _ _ => if prepared.alreadySent then none else some prepared.operation
  | _ => none

def sendPermits : Permits World Local OperationId where
  holds l := l.sends.map Prod.fst
  issued := World.Sent
  spent w o := w.provider.mutations o

lemma Local.not_carrying {l : Local} (h : l.carries = false) : l.sends = none ∧ l.awaits = none := by
  cases l <;> first | exact ⟨rfl, rfl⟩ | cases h

lemma Local.starts_carries {l : Local} (h : l.starts = true) : l.carries = false := by
  cases l <;> first | rfl | cases h

section Sends

variable {cfg : Service} {out : Outside} {l l' : Local} {held : List Key} {ms : List MerchantId}
variable {w w' : World} {o : OperationId} {op : ProviderOperation} {b : Bytes}

inductive ProviderOperation.Revised (cfg : Service) (l : Local) (now : Time) (o : OperationId)
    (op : ProviderOperation) : ProviderOperation → Prop
  | noted {op'} : op.Notes cfg l now o op' → Revised cfg l now o op op'
  | reviewed {reason evidence actor token expires count} : op.status.terminal = false →
      l.reviews = some (o, reason) →
      Revised cfg l now o op { op.toReview reason evidence actor with
        lookupLeaseToken := token, lookupLeaseExpiresAt := expires, applyFailureCount := count }
  | finalized {evidence c v amount actor} : op.status.terminal = false →
      verdictOf op evidence v.now = .ok (c, v) →
      Revised cfg l now o op (op.finalized o v amount evidence c actor)

def Change.Operation (cfg : Service) (l : Local) (w w' : World) (o : OperationId) : Prop :=
  w'.operations.get o = w.operations.get o ∨
    (w.operations.get o = none ∧ ∃ t, w'.operations.get o = some (newOperation t)) ∨
    ∃ op op', w.operations.get o = some op ∧ op.Revised cfg l w.now o op' ∧ w'.operations.get o = some op'

lemma Change.operation (h : Change cfg l held ms w w') (o : OperationId) : Change.Operation cfg l w w' o := by
  have hput : ∀ {o' op op'}, w'.operations = w.operations.put o' op' → w.operations.get o' = some op →
      op.Revised cfg l w.now o' op' → Change.Operation cfg l w w' o := by
    intro o' op op' hoperations hop hrevised
    rw [Change.Operation, hoperations, Table.get_put]
    split
    · next ho =>
      subst ho
      exact .inr (.inr ⟨op, op', hop, hrevised, rfl⟩)
    · exact .inl rfl
  cases h with
  | @opened o' a a' t _ _ _ hnone _ _ =>
    change (w.operations.put o' (newOperation t)).get o = _ ∨ _
    by_cases ho : o = o'
    · subst ho
      exact .inr (.inl ⟨hnone, t, Table.get_put_self _ _ _⟩)
    · exact .inl (Table.get_put_ne _ _ ho)
  | noted _ hop hnotes => exact hput rfl hop (.noted hnotes)
  | reviewed _ _ _ _ hop hopen hl => exact hput rfl hop (.reviewed hopen hl)
  | @finalized o' op₁ a a' evidence c v amount actor posted _ _ _ _ hop hopen hv _ _ _ =>
    have hoperations := congrArg World.operations (foldl_post posted w)
    exact hput (congrArg (fun t => Table.put t o' (op₁.finalized o' v amount evidence c actor))
      hoperations) hop (.finalized hopen hv)
  | _ => exact .inl rfl

structure ProviderOperation.Armed (op : ProviderOperation) (b : Bytes) : Prop where
  sent : op.lastSentAt.isSome = true
  request : op.requestBytes = some b
  attempt : ∃ t ∈ op.attempts, t.kind = .mutation ∧ t.state = .sent ∧ t.requestSha256 = sha256 b

lemma ProviderOperation.firstSend_armed (op : ProviderOperation) (b : Bytes) (t : Time) : (op.firstSend b t).Armed b :=
  ⟨rfl, rfl, mutationAttempt b t, by simp [firstSend], rfl, rfl, rfl⟩

lemma ProviderOperation.Revised.lastSentAt {now : Time} {op' : ProviderOperation}
    (h : op.Revised cfg l now o op') {t : Time} (ht : op.lastSentAt = some t) : op'.lastSentAt = some t := by
  cases h with
  | noted hnotes =>
    cases hnotes with
    | sent _ _ hnone => simp [ht] at hnone
    | _ => exact ht
  | reviewed => exact ht
  | finalized => exact ht

lemma Change.lastSentAt (h : Change cfg l held ms w w') {t : Time} (hop : w.operations.get o = some op)
    (ht : op.lastSentAt = some t) : ∃ op', w'.operations.get o = some op' ∧ op'.lastSentAt = some t := by
  rcases h.operation o with hsame | ⟨hnone, -⟩ | ⟨op₁, op', hop₁, hrevised, hop'⟩
  · exact ⟨op, hsame.trans hop, ht⟩
  · simp [hop] at hnone
  · rw [hop] at hop₁
    cases hop₁
    exact ⟨op', hop', hrevised.lastSentAt ht⟩

lemma Change.sent (h : Change cfg l held ms w w') (hsent : w.Sent o) : w'.Sent o := by
  obtain ⟨op, hop, hsome⟩ := hsent
  obtain ⟨t, ht⟩ := Option.isSome_iff_exists.1 hsome
  obtain ⟨op', hop', ht'⟩ := h.lastSentAt hop ht
  exact ⟨op', hop', by simp [ht']⟩

lemma ProviderOperation.Revised.armed {now : Time} {op' : ProviderOperation}
    (h : op.Revised cfg l now o op') (hl : l.awaits ≠ some o) (harmed : op.Armed b) : op'.Armed b := by
  obtain ⟨hsent, hrequest, t, ht, hkind⟩ := harmed
  cases h with
  | noted hnotes =>
    cases hnotes with
    | sent _ _ hnone => simp [hnone] at hsent
    | answered hanswered ho hunsent =>
      refine absurd ?_ hl
      simp [hanswered, Local.awaits, ho, hunsent]
    | lookedUp => exact ⟨hsent, hrequest, t, List.mem_append_left _ ht, hkind⟩
    | webhook => exact ⟨hsent, hrequest, t, List.mem_append_left _ ht, hkind⟩
    | leased => exact ⟨hsent, hrequest, t, ht, hkind⟩
    | applyFailed => exact ⟨hsent, hrequest, t, ht, hkind⟩
  | reviewed => exact ⟨hsent, hrequest, t, ht, hkind⟩
  | finalized => exact ⟨hsent, hrequest, t, ht, hkind⟩

lemma Change.armed (h : Change cfg l held ms w w') (hl : l.awaits ≠ some o)
    (harmed : ∃ op, w.operations.get o = some op ∧ op.Armed b) : ∃ op, w'.operations.get o = some op ∧ op.Armed b := by
  obtain ⟨op, hop, harmed⟩ := harmed
  rcases h.operation o with hsame | ⟨hnone, -⟩ | ⟨op₁, op', hop₁, hrevised, hop'⟩
  · exact ⟨op, hsame.trans hop, harmed⟩
  · simp [hop] at hnone
  · rw [hop] at hop₁
    cases hop₁
    exact ⟨op', hop', hrevised.armed hl harmed⟩

lemma Committed.sent (h : Committed cfg l w held l' w') (hsent : w.Sent o) : w'.Sent o :=
  h.preserves Change.sent hsent

lemma Committed.armed (h : Committed cfg l w held l' w') (hl : l.awaits ≠ some o)
    (harmed : ∃ op, w.operations.get o = some op ∧ op.Armed b) : ∃ op, w'.operations.get o = some op ∧ op.Armed b :=
  h.preserves (I := fun w => ∃ op, w.operations.get o = some op ∧ op.Armed b) (fun hchange => hchange.armed hl) harmed

lemma Act.operations (h : Act cfg out l w l' w') : w'.operations = w.operations := by
  cases h <;> rfl

lemma afterBankReply_sends (rest : List PayoutId) (prepared : PreparedAttempt)
    (obs : Option Observation) : (Local.afterBankReply cfg rest prepared obs).sends = none ∧
      (Local.afterBankReply cfg rest prepared obs).awaits = none := by
  unfold Local.afterBankReply
  split <;> exact ⟨rfl, rfl⟩

lemma sends_quiet (h : l'.carries = false) : sendPermits.holds l' = none := by
  simp [sendPermits, (Local.not_carrying h).1]

lemma Committed.sends (h : Committed cfg l w held l' w') {t : Tx Local}
    (ht : transaction cfg l = some t) : sendPermits.Moves l w l' w' := by
  have hspent : ∀ o, sendPermits.spent w' o = sendPermits.spent w o := by
    intro o
    change w'.provider.mutations o = w.provider.mutations o
    rw [(h.counterparties ht).1]
  refine ⟨fun o => h.sent, fun o => ?_⟩
  rw [hspent]
  cases h.handover with
  | quiet hquiet => exact .inl (Permits.none_le (sends_quiet hquiet) _)
  | @prepared cont o' prepared w' hl ho hfirst =>
    cases hsent : prepared.alreadySent with
    | true => exact .inl (Permits.none_le (by simp [sendPermits, Local.sends, hsent]) _)
    | false =>
      obtain ⟨op, t, hop, -, hnone, rfl⟩ := hfirst hsent
      by_cases heq : o = o'
      · subst heq
        refine .inr ⟨?_, ⟨_, Table.get_put_self _ _ _, rfl⟩, ?_⟩
        · rintro ⟨op', hop', hsome⟩
          rw [hop] at hop'
          cases hop'
          simp [hnone] at hsome
        · have hhas := sendPermits.has_le_one (.expecting cont prepared) o
          omega
      · left
        rw [Permits.has, if_neg (by simp [sendPermits, Local.sends, hsent, ho, Ne.symm heq])]
        omega
  | expected hl _ =>
    subst hl
    exact .inl (le_of_eq rfl)
  | recording _ _ => exact .inl (Permits.none_le rfl _)
  | payout _ _ _ => exact .inl (Permits.none_le rfl _)

lemma spent_lookup (o o' : OperationId) :
    sendPermits.spent (w.setProvider (w.provider.contact (.lookup o'))) o = sendPermits.spent w o := by
  refine (w.provider.mutations_contact _ o).trans ?_
  simp [Contact.mutates, sendPermits]

lemma Act.sends (h : Act cfg out l w l' w') : sendPermits.Moves l w l' w' := by
  have hissued : ∀ o, sendPermits.issued w o → sendPermits.issued w' o := by
    rintro o ⟨op, hop, hsome⟩
    exact ⟨op, by rw [h.operations, hop], hsome⟩
  refine ⟨hissued, fun o => .inl ?_⟩
  cases h with
  | @send _ cont prepared e hunsent =>
    have hspent : sendPermits.spent (w.setProvider (w.provider.contact
        (.mutate prepared.operation prepared.requestBytes))) o = sendPermits.spent w o +
          if prepared.operation = o then 1 else 0 := by
      refine (w.provider.mutations_contact _ o).trans ?_
      simp [Contact.mutates, sendPermits]
    rw [hspent, Permits.has_eq_zero (by rfl)]
    by_cases ho : prepared.operation = o
    · have hhas : sendPermits.has (.calling cont prepared e) o = 1 :=
        if_pos (by simp [sendPermits, Local.sends, hunsent, ho])
      rw [hhas, if_pos ho]
      omega
    · rw [if_neg ho]
      omega
  | receive _ _ => exact le_of_eq rfl
  | lookup _ _ _ =>
    rw [spent_lookup]
    exact Permits.none_le rfl _
  | recover _ _ =>
    rw [spent_lookup]
    exact Permits.none_le rfl _
  | sendPayout _ => exact le_of_eq rfl
  | receivePayout _ _ => exact Permits.none_le (by simp [sendPermits, afterBankReply_sends]) _
  | lookupPayout _ _ _ => exact Permits.none_le (by simp [sendPermits, afterBankReply_sends]) _

lemma sendPermits_kept (cfg : Service) (out : Outside) :
    sendPermits.Kept locks (relaypay cfg out) World.Mirrored where
  spawn hl := sends_quiet (Local.starts_carries hl)
  commit _ ht he := (committed ht he).sends ht
  fail l e := sends_quiet (onError_carries l e)
  act _ ha := ha.sends
  env _ he o := by
    constructor
    · rintro ⟨op, hop, hsome⟩
      refine ⟨op, ?_, hsome⟩
      cases he <;> exact hop
    · change Counterparty.mutations _ o = Counterparty.mutations _ o
      rw [Counterparty.mutations, Counterparty.mutations, he.contacts.1]

structure SendsKept (a : World × List Local) : Prop where
  once : sendPermits.Once a
  awaited : ∀ l ∈ a.2, ∀ o, l.awaits = some o → 0 < a.1.provider.mutations o
  armed : ∀ l ∈ a.2, ∀ o b, l.sends = some (o, b) → ∃ op, a.1.operations.get o = some op ∧ op.Armed b

lemma SendsKept.not_awaited {ls : List Local} (h : SendsKept (w, ls)) {x y : Local} (hx : x ∈ ls)
    (hy : y ∈ ls) (hsends : x.sends = some (o, b)) : y.awaits ≠ some o := by
  intro hawaits
  have hspent : 0 < sendPermits.spent w o := h.awaited y hy o hawaits
  have hhas : sendPermits.has x o = 1 := by simp [Permits.has, sendPermits, hsends]
  have hheld := sendPermits.has_le_holders hx o
  have honce := (h.once o).1
  dsimp only at honce
  omega

lemma mutations_mono (h : Act cfg out l w l' w') (o : OperationId) :
    w.provider.mutations o ≤ w'.provider.mutations o := by
  cases h with
  | send | lookup | recover => exact (w.provider.mutations_contact _ o).symm ▸ Nat.le_add_right _ _
  | _ => exact le_rfl

lemma SendsKept.commit {ls : List Local} {i : ℕ} (h : SendsKept (w, ls)) (hi : ls[i]? = some l)
    {t : Tx Local} (ht : transaction cfg l = some t) (hc : Committed cfg l w held l' w') :
    SendsKept (w', ls.set i l') := by
  have hl : l ∈ ls := List.mem_of_getElem? hi
  refine ⟨h.once.moves hi (hc.sends ht), ?_, ?_⟩
  · intro x hx o hawaits
    change 0 < w'.provider.mutations o
    rw [(hc.counterparties ht).1]
    rcases List.mem_or_eq_of_mem_set hx with hold | rfl
    · exact h.awaited x hold o hawaits
    · -- a process comes to wait by its call, not by a commit
      cases hc.handover with
      | quiet hquiet => simp [(Local.not_carrying hquiet).2] at hawaits
      | _ => cases hawaits
  · intro x hx o b hsends
    rcases List.mem_or_eq_of_mem_set hx with hold | rfl
    · exact hc.armed (h.not_awaited hold hl hsends) (h.armed x hold o b hsends)
    · cases hc.handover with
      | quiet hquiet => simp [(Local.not_carrying hquiet).1] at hsends
      | prepared _ ho hfirst =>
        simp only [Local.sends] at hsends
        split at hsends
        · cases hsends
        · next hunsent =>
          obtain ⟨op, t, -, -, -, rfl⟩ := hfirst (by simpa using hunsent)
          cases hsends
          subst ho
          exact ⟨_, Table.get_put_self _ _ _, op.firstSend_armed _ t⟩
      | expected hexpecting _ =>
        subst hexpecting
        exact h.armed _ hl o b hsends
      | _ => cases hsends

lemma SendsKept.act {ls : List Local} {i : ℕ} (h : SendsKept (w, ls)) (hi : ls[i]? = some l)
    (ha : Act cfg out l w l' w') : SendsKept (w', ls.set i l') := by
  have hl : l ∈ ls := List.mem_of_getElem? hi
  refine ⟨h.once.moves hi ha.sends, ?_, ?_⟩
  · intro x hx o hawaits
    rcases List.mem_or_eq_of_mem_set hx with hold | rfl
    · exact (h.awaited x hold o hawaits).trans_le (mutations_mono ha o)
    · cases ha with
      | send =>
        cases hawaits
        refine (w.provider.mutations_contact _ _).symm ▸ ?_
        simp [Contact.mutates]
      | receive =>
        refine h.awaited _ hl o ?_
        simp only [Local.awaits] at hawaits ⊢
        split at hawaits
        · cases hawaits
        · exact hawaits
      | lookup hsent => simp [Local.awaits, hsent] at hawaits
      | receivePayout => simp [afterBankReply_sends] at hawaits
      | lookupPayout => simp [afterBankReply_sends] at hawaits
      | _ => cases hawaits
  · intro x hx o b hsends
    change ∃ op, w'.operations.get o = some op ∧ op.Armed b
    rw [ha.operations]
    rcases List.mem_or_eq_of_mem_set hx with hold | rfl
    · exact h.armed x hold o b hsends
    · cases ha with
      | receivePayout => simp [afterBankReply_sends] at hsends
      | lookupPayout => simp [afterBankReply_sends] at hsends
      | _ => cases hsends

lemma SendsKept.step {a a' : World × List Local} (hstep : AStep locks (relaypay cfg out) a a')
    (hmirrored : a.1.Mirrored) (h : SendsKept a) : SendsKept a' := by
  have honce := h.once.step (sendPermits_kept cfg out) hstep hmirrored
  cases hstep with
  | @spawn w ls l hl =>
    have hquiet := Local.not_carrying (Local.starts_carries hl)
    refine ⟨honce, ?_, ?_⟩
    · intro x hx o hawaits
      rcases List.mem_append.1 hx with hold | hnew
      · exact h.awaited x hold o hawaits
      · simp [List.mem_singleton.1 hnew, hquiet.2] at hawaits
    · intro x hx o b hsends
      rcases List.mem_append.1 hx with hold | hnew
      · exact h.armed x hold o b hsends
      · simp [List.mem_singleton.1 hnew, hquiet.1] at hsends
  | commit hi ht he => exact h.commit hi ht (committed ht he)
  | @fail w ls i l t e hi _ _ =>
    have hquiet := Local.not_carrying (onError_carries l e)
    refine ⟨honce, ?_, ?_⟩
    · intro x hx o hawaits
      rcases List.mem_or_eq_of_mem_set hx with hold | rfl
      · exact h.awaited x hold o hawaits
      · simp [relaypay, hquiet.2] at hawaits
    · intro x hx o b hsends
      rcases List.mem_or_eq_of_mem_set hx with hold | rfl
      · exact h.armed x hold o b hsends
      · simp [relaypay, hquiet.1] at hsends
  | crash =>
    refine ⟨honce, ?_, ?_⟩
    · exact fun x hx => h.awaited x (List.mem_of_mem_eraseIdx hx)
    · exact fun x hx => h.armed x (List.mem_of_mem_eraseIdx hx)
  | act hi ha => exact h.act hi ha
  | @env w ls w' he =>
    refine ⟨honce, ?_, ?_⟩
    · intro x hx o hawaits
      change 0 < w'.provider.mutations o
      rw [Counterparty.mutations, he.contacts.1]
      exact h.awaited x hx o hawaits
    · intro x hx o b hsends
      have hsame : w'.operations = w.operations := by cases he <;> rfl
      change ∃ op, w'.operations.get o = some op ∧ op.Armed b
      rw [hsame]
      exact h.armed x hx o b hsends

lemma areach_sendsKept {a a' : World × List Local} (h : AReach locks (relaypay cfg out) a a')
    (hmirrored : a.1.Mirrored) (h0 : SendsKept a) : SendsKept a' := by
  induction h with
  | refl => exact h0
  | tail hreach hstep ih =>
    exact ih.step hstep (AReach.invariant (relaypay_disciplined cfg out) hreach hmirrored)

lemma World.Initial.sendsKept (hw : w.Initial) : SendsKept (w, []) := by
  refine ⟨fun o => ?_, by simp, by simp⟩
  simp [Permits.holders, sendPermits, Counterparty.mutations, hw.provider]

def Contact.key {ι : Type} : Contact ι → ι
  | .mutate k _ => k
  | .lookup k => k

lemma SendsKept.contact {a a' : World × List Local} (hstep : AStep locks (relaypay cfg out) a a')
    (h : SendsKept a) : a'.1.provider.contacts = a.1.provider.contacts ∨
      ∃ x, a'.1.provider.contacts = a.1.provider.contacts ++ [x] ∧ ∀ o b, x = .mutate o b →
        a.1.provider.mutations o = 0 ∧ ∃ op, a.1.operations.get o = some op ∧ op.Armed b := by
  cases hstep with
  | commit _ ht he => exact .inl (congrArg _ ((committed ht he).counterparties ht).1)
  | env he => exact .inl he.contacts.1
  | @act w ls i l l' w' hi ha =>
    have hl : l ∈ ls := List.mem_of_getElem? hi
    cases ha with
    | @send _ cont prepared e hunsent =>
      refine .inr ⟨_, rfl, ?_⟩
      rintro o b ⟨⟩
      have hsends : (Local.calling cont prepared e).sends =
          some (prepared.operation, prepared.requestBytes) := by simp [Local.sends, hunsent]
      have hhas : sendPermits.has (.calling cont prepared e) prepared.operation = 1 := by
        simp [Permits.has, sendPermits, hsends]
      have hheld := sendPermits.has_le_holders hl prepared.operation
      have honce : sendPermits.holders ls prepared.operation +
        w.provider.mutations prepared.operation ≤ 1 := (h.once prepared.operation).1
      exact ⟨by dsimp only; omega, h.armed _ hl _ _ hsends⟩
    | lookup => exact .inr ⟨_, rfl, fun _ _ hx => by cases hx⟩
    | recover => exact .inr ⟨_, rfl, fun _ _ hx => by cases hx⟩
    | _ => exact .inl rfl
  | _ => exact .inl rfl

lemma Counterparty.lookups_after {ι : Type} [DecidableEq ι] {c : Counterparty ι} {k : ι}
    (h : c.mutations k ≤ 1) {before after : List (Contact ι)}
    (hc : c.contacts = before ++ .mutate k b :: after) : ∀ x ∈ after, x.key = k → x = .lookup k := by
  intro x hx hkey
  cases x with
  | lookup k' =>
    cases hkey
    rfl
  | mutate k' b' =>
    change k' = k at hkey
    subst hkey
    have hone : 0 < after.countP (Contact.mutates k') := by
      rw [List.countP_pos_iff]
      exact ⟨_, hx, by simp [Contact.mutates]⟩
    rw [mutations, hc, List.countP_append, List.countP_cons] at h
    simp only [Contact.mutates, decide_true, if_true] at h
    omega

theorem mutation_sent_once (hw : w.Initial) {c : State} (h : Reach (relaypay cfg out) (.idle w) c) (o : OperationId) :
    c.shared.provider.mutations o ≤ 1 ∧ (∀ c', Step (relaypay cfg out) c c' →
      c'.shared.provider.contacts = c.shared.provider.contacts ∨
      ∃ x, c'.shared.provider.contacts = c.shared.provider.contacts ++ [x] ∧ ∀ b, x = .mutate o b →
        c.shared.provider.mutations o = 0 ∧ ∃ op, c.shared.operations.get o = some op ∧
          op.requestBytes = some b ∧
          ∃ t ∈ op.attempts, t.kind = .mutation ∧ t.state = .sent ∧ t.requestSha256 = sha256 b) ∧
    ∀ before b after, c.shared.provider.contacts = before ++ .mutate o b :: after →
      ∀ x ∈ after, x.key = o → x = .lookup o := by
  have hatomic := h.atomic (relaypay_disciplined cfg out) hw.mirrored
  have hkept := areach_sendsKept hatomic hw.mirrored hw.sendsKept
  have honce : c.shared.provider.mutations o ≤ 1 := by
    have hboth : sendPermits.holders c.locs o + c.shared.provider.mutations o ≤ 1 := (hkept.once o).1
    omega
  refine ⟨honce, fun c' hstep => ?_, fun before b after => Counterparty.lookups_after honce⟩
  rcases h.next (relaypay_disciplined cfg out) hw.mirrored hstep with ⟨hsame, -⟩ | hastep
  · exact .inl (by rw [hsame])
  · rcases hkept.contact hastep with hsame | ⟨x, hx, harmed⟩
    · exact .inl hsame
    · refine .inr ⟨x, hx, fun b hb => ?_⟩
      obtain ⟨hnone, op, hop, hop'⟩ := harmed o b hb
      exact ⟨hnone, op, hop, hop'.request, hop'.attempt⟩

theorem mutation_sent_once_shop : (shopAfter shopSale).1.provider.mutations (.capture 1) = 1 ∧
    (shopAfter shopSale).1.provider.mutations (.capture 1) ≤ 1 ∧
    ∀ before b after, (shopAfter shopSale).1.provider.contacts =
      before ++ .mutate (.capture 1) b :: after →
        ∀ x ∈ after, x.key = .capture 1 → x = .lookup (.capture 1) := by
  obtain ⟨honce, -, hlater⟩ :=
    mutation_sent_once shopWorld_initial (shop_reach shopSale_plays) (.capture 1)
  exact ⟨by decide +kernel, honce, hlater⟩

end Sends

end RelayPay
