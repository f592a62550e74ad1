import RelayPay.Invariants.Operations

/-! What is never taken back: the rows of the books, the walk of a payment, and the answer kept under a key. -/

namespace RelayPay

open ReadCommitted

section Steps

variable {cfg : Service} {l : Local} {held : List Key} {ms : List MerchantId} {w w' : World}

structure World.Extends (w w' : World) : Prop where
  journals : w.journals <+: w'.journals
  balanceTransactions : w.balanceTransactions <+: w'.balanceTransactions
  settlementItems : w.settlementItems <+: w'.settlementItems

lemma World.Extends.refl (w : World) : w.Extends w := ⟨List.prefix_rfl, List.prefix_rfl, List.prefix_rfl⟩

lemma World.Extends.trans {w'' : World} (h : w.Extends w') (h' : w'.Extends w'') : w.Extends w'' :=
  ⟨h.journals.trans h'.journals, h.balanceTransactions.trans h'.balanceTransactions,
    h.settlementItems.trans h'.settlementItems⟩

lemma Change.extends (h : Change cfg l held ms w w') : w.Extends w' := by
  have hkept := World.Extends.refl w
  cases h with
  | finalized =>
    rw [foldl_post]
    exact ⟨List.prefix_append _ _, List.prefix_append _ _, hkept.settlementItems⟩
  | settled => exact ⟨List.prefix_append _ _, List.prefix_append _ _, List.prefix_append _ _⟩
  | payoutSucceeded => exact ⟨List.prefix_append _ _, List.prefix_append _ _, hkept.settlementItems⟩
  | _ => exact ⟨hkept.journals, hkept.balanceTransactions, hkept.settlementItems⟩

def World.Copied (w : World) : Prop :=
  ∀ d r o, w.records.get d = some r → r.operation = some o → ∃ op, w.operations.get o = some op ∧ r.Copies op

lemma IdempotencyRecord.Copies.of_open {r : IdempotencyRecord} {op op' : ProviderOperation} (h : r.Copies op)
    (hopen : op.status.terminal = false) (hopen' : op'.status.terminal = false) : r.Copies op' := by
  refine ⟨h.1.trans (hopen.trans hopen'.symm), fun hterminal => ?_⟩
  rw [hopen'] at hterminal
  cases hterminal

lemma World.Copied.put (h : w.Copied) {o : OperationId} {op op' : ProviderOperation} (hop : w.operations.get o = some op)
    (hrecords : w'.records = w.records) (hoperations : w'.operations = w.operations.put o op')
    (hown : ∀ r : IdempotencyRecord, r.Copies op → r.Copies op') : w'.Copied := by
  intro d r o' hr ho'
  obtain ⟨op₀, hop₀, hcopies⟩ := h d r o' (hrecords ▸ hr) ho'
  rw [hoperations, Table.get_put]
  split
  · next heq =>
    rw [heq, hop] at hop₀
    cases hop₀
    exact ⟨op', rfl, hown r hcopies⟩
  · exact ⟨op₀, hop₀, hcopies⟩

lemma ProviderOperation.Notes.copies {o : OperationId} {op op' : ProviderOperation} {now : Time}
    (h : op.Notes cfg l now o op') {r : IdempotencyRecord} (hr : r.Copies op) : r.Copies op' := by
  cases h <;> exact hr

lemma Change.copied (h : Change cfg l held ms w w') (hw : w.Copied) : w'.Copied := by
  cases h with
  | record _ hnone hcopies =>
    intro d' r' o hr' ho
    rw [World.putRecord_records, Table.get_put] at hr'
    split at hr'
    · cases hr'
      exact hcopies o ho
    · exact hw d' r' o hr' ho
  | opened _ _ _ hop =>
    intro d r o hr ho
    obtain ⟨op, hget, hcopies⟩ := hw d r o hr ho
    exact ⟨op, Table.get_put_new _ hop hget, hcopies⟩
  | noted _ hop hnotes => exact hw.put hop rfl rfl fun r => hnotes.copies
  | reviewed _ _ _ _ hop hopen => exact hw.put hop rfl rfl fun r hr => hr.of_open hopen rfl
  | @finalized o op _ _ _ _ v amount _ _ _ _ _ _ hop hopen =>
    rw [foldl_post]
    intro d r o' hr ho'
    obtain ⟨r₀, hr₀, rfl⟩ := Option.map_eq_some_iff.1 ((Table.get_mapRows _ _ _).symm.trans hr)
    by_cases ho : r₀.operation = some o
    · have hbound := (finalizeRecord_sameBinding o (terminalResponse o amount v) v.now r₀).operation
      obtain rfl : o' = o := Option.some_inj.1 (ho'.symm.trans (hbound.trans ho))
      rw [finalizeRecord, if_pos ho]
      exact ⟨_, Table.get_put_self _ _ _, v.status_terminal.symm, fun _ => ⟨rfl, rfl⟩⟩
    · rw [finalizeRecord, if_neg ho] at ho' ⊢
      obtain ⟨op₀, hop₀, hcopies⟩ := hw d r₀ o' hr₀ ho'
      refine ⟨op₀, (Table.get_put_ne _ _ ?_).trans hop₀, hcopies⟩
      rintro rfl
      exact ho ho'
  | _ => exact hw

lemma Change.terminal_record (h : Change cfg l held ms w w') (hw : w.Copied) {d : KeyDigest} {r : IdempotencyRecord}
    (hr : w.records.get d = some r) (hterminal : r.isTerminal = true) : w'.records.get d = some r := by
  cases h with
  | record _ hnone => exact Table.get_put_new _ hnone hr
  | @finalized o op _ _ _ _ _ _ _ _ _ _ _ _ hop hopen =>
    have hother : r.operation ≠ some o := by
      intro ho
      obtain ⟨op₀, hop₀, hcopies⟩ := hw d r o hr ho
      rw [hop] at hop₀
      cases hop₀
      rw [hcopies.1, hopen] at hterminal
      cases hterminal
    rw [foldl_post]
    refine (Table.get_mapRows _ _ _).trans ?_
    change (w.records.get d).map _ = _
    rw [hr, Option.map_some, finalizeRecord, if_neg hother]
  | _ => exact hr

lemma PaymentIntent.Walked.moves {a a' : PaymentIntent} (h : a.Walked) (h' : a'.Walked)
    (hextends : a.history <+: a'.history) :
    Relation.ReflTransGen (fun s t => isAllowed s t = true) a.status a'.status := by
  obtain ⟨r, hlast, hstatus, -⟩ := h.last
  obtain ⟨r', hlast', hstatus', -⟩ := h'.last
  obtain ⟨before, hbefore⟩ := List.getLast?_eq_some_iff.1 hlast
  obtain ⟨rows, hrows⟩ := hextends
  rw [hbefore, List.append_assoc] at hrows
  have hchain : (r :: rows).IsChain StatusRow.Precedes := (hrows ▸ h'.chain).right_of_append
  have hend : (r :: rows).getLast (List.cons_ne_nil _ _) = r' := by
    rw [← hrows] at hlast'
    simpa [List.getLast?_eq_some_getLast] using hlast'
  rw [← hstatus, ← hstatus']
  exact (List.relationReflTransGen_of_exists_isChain_cons rows hchain hend).lift StatusRow.toStatus
    fun _ _ hstep => hstep.2.1

end Steps

section Runs

variable {cfg : Service} {out : Outside} {w : World} {c c' : State}

/-- What one transaction does, or a call outside one: changes, with the coverage checked where a trigger is queued. -/
def World.Commits (cfg : Service) (v v' : World) : Prop :=
  ∃ l keys ms, Changes cfg l keys ms v v' ∧ ∀ m ∈ ms, v'.reserved m ≤ v'.available m

theorem books_append_only (hw : w.Mirrored) (h : Reach (relaypay cfg out) (.idle w) c)
    (h' : Reach (relaypay cfg out) c c') : c.shared.Extends c'.shared :=
  areach_preserves (I := c.shared.Extends) (fun hchange hI => hI.trans hchange.extends)
    (h.atomic_from (relaypay_disciplined cfg out) hw h') (.refl _)

theorem books_append_only_shop : shopWorld.Extends (shopAfter shopSale).1 :=
  books_append_only shopWorld_initial.mirrored .refl (shop_reach shopSale_plays)

/-- A key keeps its request and its operation. It is answered for good once the operation is decided, and with the answer
that every other key of the operation has. -/
theorem answers_kept (hw : w.Initial) (h : Reach (relaypay cfg out) (.idle w) c) (h' : Reach (relaypay cfg out) c c')
    {d : KeyDigest} {r : IdempotencyRecord} (hr : c.shared.records.get d = some r) :
    ∃ r', c'.shared.records.get d = some r' ∧ r'.fingerprint = r.fingerprint ∧ r'.operation = r.operation ∧
      (r.isTerminal = true → r' = r) ∧ ∀ o, r'.operation = some o → ∃ op, c'.shared.operations.get o = some op ∧
        r'.isTerminal = op.status.terminal ∧ (op.status.terminal = true →
          r'.httpStatus = op.terminalHttpStatus ∧ r'.responseBytes = op.terminalResponseBytes) := by
  have hcopied : ∀ {c}, Reach (relaypay cfg out) (.idle w) c → c.shared.Copied := fun h =>
    reach_preserves Change.copied hw.mirrored (by simp [World.Copied, hw.records]) h
  have hatomic := h.atomic_from (relaypay_disciplined cfg out) hw.mirrored h'
  have hmirrored := (reach_filed hw h).1
  obtain ⟨r', hr', hbound⟩ := (AReach.evolves (relaypay_disciplined cfg out) hatomic hmirrored).records d r hr
  refine ⟨r', hr', hbound.fingerprint, hbound.operation, fun hterminal => ?_, fun o ho =>
    hcopied (h.trans h') d r' o hr' ho⟩
  have hkept := areach_preserves (I := fun w => w.Copied ∧ w.records.get d = some r)
    (fun hchange hI => ⟨hchange.copied hI.1, hchange.terminal_record hI.1 hI.2 hterminal⟩) hatomic ⟨hcopied h, hr⟩
  exact Option.some_inj.1 (hr'.symm.trans hkept.2)

theorem answers_kept_shop : ∃ r op, (shopAfter shopSale).1.records.get ⟨"capture"⟩ = some r ∧
    (shopAfter shopSale).1.operations.get (.capture 1) = some op ∧ r.isTerminal = op.status.terminal := by
  have hbound : ((shopAfter shopSale).1.records.get ⟨"capture"⟩).map IdempotencyRecord.operation =
      some (some (.capture 1)) := by decide +kernel
  obtain ⟨r, hr, ho⟩ := Option.map_eq_some_iff.1 hbound
  obtain ⟨r', hr', -, hsame, -, hcopies⟩ := answers_kept shopWorld_initial (shop_reach shopSale_plays) .refl hr
  obtain ⟨op, hop, hterminal, -⟩ := hcopies _ (hsame.trans ho)
  exact ⟨r', op, hr', hop, hterminal⟩

end Runs

end RelayPay
