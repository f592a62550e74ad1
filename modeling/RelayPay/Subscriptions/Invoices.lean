import RelayPay.Subscriptions.Suppression

/-! A paid invoice is one that an attempt succeeded for, unless a failure is recorded on it later. -/

namespace RelayPay.Subscriptions

open ReadCommitted Txn

namespace RecoveryState

def Paid (s : RecoveryState) (i : InvoiceId) : Prop := ∃ row, s.invoices.get i = some row ∧ row.status = .paid

def Collected (s : RecoveryState) (i : InvoiceId) : Prop :=
  ∃ t ∈ s.attempts, t.invoice = i ∧ t.outcome = .verifiedSucceeded

end RecoveryState

structure Pays (s s' : RecoveryState) : Prop where
  paid : ∀ i, s.Paid i → s'.Paid i
  rows : ∀ i row, s.invoices.get i = some row → ∃ row', s'.invoices.get i = some row'

namespace Pays

variable {s s' s'' : RecoveryState}

lemma of_eq (h : s'.invoices = s.invoices) : Pays s s' := by
  refine ⟨fun i hi => ?_, fun i row hrow => ⟨row, by rw [h, hrow]⟩⟩
  unfold RecoveryState.Paid
  rw [h]
  exact hi

lemma trans (h : Pays s s') (h' : Pays s' s'') : Pays s s'' := by
  refine ⟨fun i hi => h'.paid i (h.paid i hi), fun i row hrow => ?_⟩
  obtain ⟨row', hrow'⟩ := h.rows i row hrow
  exact h'.rows i row' hrow'

end Pays

def paying : Discipline RecoveryState RecoveryKey :=
  rowsAnd Pays (fun _ _ _ => True) (fun _ => .of_eq rfl) (fun _ _ _ h h' => h.trans h') (fun _ _ => trivial)
    (fun _ _ _ _ _ _ => trivial)

def inOrder : Setting RecoveryState RecoveryKey Worker where
  beside _ _ _ _ := True
  allowed s s' := ∀ t, s'.attempts = s.attempts ++ [t] → t.retryOf = none → t.outcome ≠ .verifiedSucceeded →
    ¬s.Paid t.invoice

structure Collects (s : RecoveryState) : Prop where
  owned : Owned s
  paid : ∀ i, s.Paid i ↔ s.Collected i

section Writes

variable {s : RecoveryState} {i : InvoiceId} {loaded new : SubscriptionInvoice}

lemma rows_storeInvoice (s : RecoveryState) (i : InvoiceId) (loaded new : SubscriptionInvoice) {j : InvoiceId}
    {row : SubscriptionInvoice} (h : s.invoices.get j = some row) :
    ∃ row', (s.storeInvoice i loaded new).invoices.get j = some row' := by
  rw [RecoveryState.get_storeInvoice]
  split
  · next hj =>
    rw [← hj, h]
    exact ⟨_, rfl⟩
  · exact ⟨row, h⟩

lemma paid_storeInvoice_of_ne {j : InvoiceId} (hj : j ≠ i) : (s.storeInvoice i loaded new).Paid j ↔ s.Paid j := by
  unfold RecoveryState.Paid
  rw [RecoveryState.get_storeInvoice, if_neg hj]

lemma paid_storeInvoice (hrow : ∃ row, s.invoices.get i = some row) (hnew : new.status = .paid)
    (hloaded : loaded.status = .paid → s.Paid i) : (s.storeInvoice i loaded new).Paid i := by
  obtain ⟨row, hrow⟩ := hrow
  have hget := RecoveryState.get_storeInvoice (s := s) i i loaded new
  rw [if_pos rfl, hrow, Option.map_some] at hget
  refine ⟨_, hget, ?_⟩
  change patched loaded.status new.status row.status = .paid
  by_cases hsame : loaded.status = .paid
  · obtain ⟨row', hrow', hpaid⟩ := hloaded hsame
    rw [hrow] at hrow'
    cases hrow'
    rcases patched_or loaded.status new.status row.status with hp | hp <;> rw [hp] <;> assumption
  · rw [patched_of_ne (by rw [hnew]; exact Ne.symm hsame), hnew]

lemma not_paid_storeInvoice (hpaid : ¬s.Paid i) (hnew : new.status ≠ .paid) : ¬(s.storeInvoice i loaded new).Paid i := by
  rintro ⟨row', hrow', hstatus⟩
  rw [RecoveryState.get_storeInvoice, if_pos rfl] at hrow'
  obtain ⟨row, hrow, rfl⟩ := Option.map_eq_some_iff.1 hrow'
  change patched loaded.status new.status row.status = .paid at hstatus
  rcases patched_or loaded.status new.status row.status with hp | hp
  · exact hpaid ⟨row, hrow, hp ▸ hstatus⟩
  · exact hnew (hp ▸ hstatus)

lemma collected_addAttempt (s : RecoveryState) (t : RecurringPaymentAttempt) (j : InvoiceId) :
    (s.addAttempt t).Collected j ↔ s.Collected j ∨ t.invoice = j ∧ t.outcome = .verifiedSucceeded := by
  simp only [RecoveryState.Collected, RecoveryState.addAttempt, List.mem_append, List.mem_singleton]
  constructor
  · rintro ⟨t', hold | rfl, ht'⟩
    · exact .inl ⟨t', hold, ht'⟩
    · exact .inr ht'
  · rintro (⟨t', hold, ht'⟩ | ht')
    · exact ⟨t', .inl hold, ht'⟩
    · exact ⟨t, .inr rfl, ht'⟩

end Writes

section Effects

variable {D : Discipline RecoveryState RecoveryKey} {locks : List RecoveryKey} {s s' : RecoveryState}

structure Settled (s s' : RecoveryState) : Prop where
  pays : Pays s s'
  paid : (∀ i, s.Paid i ↔ s.Collected i) → ∀ i, s'.Paid i ↔ s'.Collected i

lemma Settled.of_eq (hinvoices : s'.invoices = s.invoices) (hattempts : s'.attempts = s.attempts) : Settled s s' := by
  refine ⟨.of_eq hinvoices, fun h i => ?_⟩
  unfold RecoveryState.Paid RecoveryState.Collected
  rw [hinvoices, hattempts]
  exact h i

lemma settled_attempt {t : RecurringPaymentAttempt} {loaded new : SubscriptionInvoice}
    (hsaw : (paying.assuming fun s => Collects s ∧ True).Saw [] s fun s₀ => s₀.invoices.get t.invoice = some loaded)
    (hsucceeded : t.outcome = .verifiedSucceeded → new.status = .paid)
    (hfailed : t.outcome ≠ .verifiedSucceeded → new = loaded ∨ new.status ≠ .paid ∧ ¬s.Paid t.invoice) :
    Settled s ((s.addAttempt t).storeInvoice t.invoice loaded new) := by
  obtain ⟨s₀, hview, hloaded⟩ := hsaw
  have hpays : Pays s₀ s := hview.1.1
  have hrow := hpays.rows _ _ hloaded
  have hattempts : ∀ j, ((s.addAttempt t).storeInvoice t.invoice loaded new).Collected j ↔
      s.Collected j ∨ t.invoice = j ∧ t.outcome = .verifiedSucceeded := collected_addAttempt s t
  have hothers : ∀ j, j ≠ t.invoice → (((s.addAttempt t).storeInvoice t.invoice loaded new).Paid j ↔ s.Paid j) :=
    fun j hj => paid_storeInvoice_of_ne (s := s.addAttempt t) hj
  by_cases houtcome : t.outcome = .verifiedSucceeded
  · have hpaid : ((s.addAttempt t).storeInvoice t.invoice loaded new).Paid t.invoice :=
      paid_storeInvoice (s := s.addAttempt t) hrow (hsucceeded houtcome) fun hwas => hpays.paid _ ⟨loaded, hloaded, hwas⟩
    refine ⟨⟨fun j hj => ?_, fun j row h => rows_storeInvoice (s.addAttempt t) _ _ _ h⟩, fun h j => ?_⟩
    · by_cases hjt : j = t.invoice
      · rw [hjt]
        exact hpaid
      · exact (hothers j hjt).2 hj
    · rw [hattempts]
      by_cases hjt : j = t.invoice
      · subst hjt
        exact iff_of_true hpaid (.inr ⟨rfl, houtcome⟩)
      · rw [hothers j hjt, h j]
        simp [Ne.symm hjt]
  · have hsame : ∀ j, ((s.addAttempt t).storeInvoice t.invoice loaded new).Paid j ↔ s.Paid j := by
      intro j
      by_cases hjt : j = t.invoice
      · subst hjt
        rcases hfailed houtcome with rfl | ⟨hnew, hunpaid⟩
        · simp [RecoveryState.storeInvoice, RecoveryState.Paid, RecoveryState.addAttempt]
        · exact iff_of_false (not_paid_storeInvoice (s := s.addAttempt t) hunpaid hnew) hunpaid
      · exact hothers j hjt
    refine ⟨⟨fun j hj => (hsame j).2 hj, fun j row h => rows_storeInvoice (s.addAttempt t) _ _ _ h⟩, fun h j => ?_⟩
    rw [hattempts, hsame, h j]
    simp [houtcome]

lemma Settled.trans {s'' : RecoveryState} (h : Settled s s') (h' : Settled s' s'') : Settled s s'' :=
  ⟨h.pays.trans h'.pays, fun hs => h'.paid (h.paid hs)⟩

lemma Ends.settled {x : RecoveryPending} {k : CaseId} (h : Ends D s x k locks s') : Settled (x.own s) s' := by
  cases h with
  | left _ => exact .of_eq rfl rfl
  | closed _ _ _ _ => exact .of_eq rfl rfl

lemma Opens.settled {i : InvoiceId} (h : Opens s locks i s') : Settled s s' ∧ s'.attempts = s.attempts := by
  cases h with
  | no => exact ⟨.of_eq rfl rfl, rfl⟩
  | new _ _ _ _ _ => exact ⟨.of_eq rfl rfl, rfl⟩

lemma Reports.settled (h : Reports (paying.assuming fun s => Collects s ∧ True) s s')
    (hallowed : ∀ t, s'.attempts = s.attempts ++ [t] → t.retryOf = none → t.outcome ≠ .verifiedSucceeded →
      ¬s.Paid t.invoice) : Settled s s' := by
  cases h with
  | no => exact .of_eq rfl rfl
  | @new t loaded new hsaw hretry hstatus =>
    refine settled_attempt hsaw (fun houtcome => ?_) fun houtcome => .inr ⟨?_, hallowed t rfl hretry houtcome⟩
    · rw [hstatus, if_pos houtcome]
    · rw [hstatus, if_neg houtcome]
      exact InvoiceStatus.noConfusion

theorem Effect.settled {l l' : Worker} (h : Effect (paying.assuming fun s => Collects s ∧ True) s l l' locks s')
    (hallowed : inOrder.allowed s s') : Settled s s' := by
  cases h with
  | same _ => exact .of_eq rfl rfl
  | prepared _ _ => exact .of_eq rfl rfl
  | sent _ _ _ _ => exact .of_eq rfl rfl
  | noted _ _ _ _ => exact .of_eq rfl rfl
  | unknown _ _ _ => exact .of_eq rfl rfl
  | @retried x obs _ _ action recovery t invoice invoice' _ _ _ _ hretries hends =>
    have hsettled : Settled s ((s.addAttempt t).storeInvoice t.invoice invoice invoice') := by
      refine settled_attempt ?_ hretries.succeeded fun houtcome => .inl (hretries.failed houtcome)
      rw [hretries.of_invoice]
      exact hretries.invoice_eq
    have hwrites : Settled s (retryWrites x obs action recovery t invoice invoice' s) := by
      rw [hretries.of_invoice] at hsettled
      exact hsettled.trans (.of_eq rfl rfl)
    exact hwrites.trans hends.settled
  | ended _ _ _ hends => exact hends.settled
  | reported hreports hopens =>
    obtain ⟨hsettled, hattempts⟩ := hopens.settled
    refine (hreports.settled fun t ht => ?_).trans hsettled
    exact hallowed t (hattempts.trans ht)

lemma Environment.settled (h : Environment s s') : Settled s s' := by
  cases h with
  | tick _ => exact .of_eq rfl rfl
  | subscription _ => exact .of_eq rfl rfl
  | workflow _ => exact .of_eq rfl rfl
  | @invoice i u amount hfree =>
    have hget : ∀ j, (s.invoices.put i ⟨u, amount, .open_, none⟩).get j =
        if j = i then some ⟨u, amount, .open_, none⟩ else s.invoices.get j := fun j => Table.get_put _ _ _ _
    have hunpaid : ¬s.Paid i := by
      rintro ⟨row, hrow, -⟩
      rw [hfree] at hrow
      cases hrow
    have hsame : ∀ j, (RecoveryState.Paid { s with invoices := s.invoices.put i ⟨u, amount, .open_, none⟩ } j ↔
        s.Paid j) := by
      intro j
      unfold RecoveryState.Paid
      rw [hget]
      split
      · next hj =>
        subst hj
        refine iff_of_false ?_ hunpaid
        rintro ⟨row, ⟨⟩, ⟨⟩⟩
      · rfl
    refine ⟨⟨fun j hj => (hsame j).2 hj, fun j row hrow => ?_⟩, fun h j => (hsame j).trans (h j)⟩
    change ∃ row', (s.invoices.put i ⟨u, amount, .open_, none⟩).get j = some row'
    rw [hget]
    split
    · exact ⟨_, rfl⟩
    · exact ⟨row, hrow⟩

end Effects

theorem paying_relies (texts : Texts) :
    Relies inOrder (fun _ => paying) (recovery texts) Pays Collects (fun _ _ => True) where
  grows_refl _ := .of_eq rfl
  grows_trans := .trans
  spawn _ _ := trivial
  commit {s l t l' y} hs _ ht he hallowed := by
    obtain ⟨s₁, heffect, hown⟩ := commit_effect (rows_of_frame (fun _ _ _ => True) rfl) ht he
    have hallowed' : inOrder.allowed s s₁ := by
      rw [hown] at hallowed
      exact hallowed
    have hsettled : Settled s (y.own s) := by
      rw [hown]
      exact (heffect.settled hallowed').trans (.of_eq rfl rfl)
    have hframed : Framed y.held s (y.own s) := by
      rw [hown]
      exact (heffect.framed hs.owned).onto _
    refine ⟨hsettled.pays, ⟨hframed.keeps_owned hs.owned, hsettled.paid hs.paid⟩, trivial, ?_⟩
    intro m held hother _ _
    exact ⟨hframed.view rfl hother.locks hsettled.pays fun _ _ => trivial, trivial⟩
  fail _ _ := trivial
  act {s l l' s'} hs _ ha _ := by
    cases ha with
    | @send x prepared _ obs _ =>
      have hframed : Framed [] s (s.addSend x.action) := .of_eq rfl rfl rfl
      refine ⟨.of_eq rfl, ⟨hs.owned, hs.paid⟩, trivial, fun m held _ _ _ => ⟨?_, trivial⟩⟩
      exact hframed.view rfl (fun _ _ => List.not_mem_nil) (.of_eq rfl) fun _ _ => trivial
    | lookup obs _ => exact ⟨.of_eq rfl, hs, trivial, fun m held _ _ _ => ⟨paying.view_refl held _, trivial⟩⟩
  env {s s'} hs he _ := by
    obtain ⟨hcases, hactions, hrecords, hattempts, -⟩ := he.same
    have hframed : Framed [] s s' := .of_eq hactions hcases hrecords
    have hsettled : Settled s s' := he.settled
    exact ⟨hsettled.pays, ⟨hframed.keeps_owned hs.owned, hsettled.paid hs.paid⟩, fun m held _ =>
      ⟨hframed.view rfl (fun _ _ => List.not_mem_nil) hsettled.pays fun _ _ => trivial, trivial⟩⟩

lemma collects_start (now : Time) : Collects (.start now) := by
  refine ⟨?_, fun i => iff_of_false ?_ ?_⟩
  · rintro a row ⟨⟩
  · rintro ⟨row, ⟨⟩, -⟩
  · rintro ⟨t, ⟨⟩, -⟩

theorem paid_invoice_final (texts : Texts) (now : Time) {c c' : Config RecoveryState RecoveryKey Error Worker}
    (h : ReachIn inOrder (recovery texts) (.idle (.start now)) c) (h' : ReachIn inOrder (recovery texts) c c') :
    (∀ i, c.shared.Paid i → c'.shared.Paid i) ∧ ∀ i, c'.shared.Paid i ↔ c'.shared.Collected i := by
  have hrelies := paying_relies texts
  refine ⟨(hrelies.later (collects_start now) h h').paid, ?_⟩
  exact (hrelies.reach (collects_start now) (Relation.ReflTransGen.trans h h')).1.paid

namespace Sample

def lateFailure : RecurringPaymentFailed :=
  let event : RecurringPaymentFailed := { failure with eventId := "bev_2", providerAttemptId := "attempt-2" }
  { event with payloadSha256 := sha256 (canonicalJsonBytes event.payload) }

def collected : List (Move Worker RecoveryNetworkObservation Arrival) :=
  opening ++ [.spawn (.preparing retry), .run 1, .act 1 ⟨.succeeded, "APPROVED", []⟩, .run 1]

def invoiceStatus (s : RecoveryState) : Option (InvoiceStatus × Bool) :=
  (s.invoices.get 1).map fun row => (row.status, s.attempts.any fun t => t.invoice = 1 && t.outcome = .verifiedSucceeded)

def clerk : Referee inOrder where
  runs _ _ := true
  rests _ _ := true
  allows s s' := (s'.attempts.drop s.attempts.length).all fun t =>
    t.retryOf.isSome || t.outcome = .verifiedSucceeded ||
      !(s.invoices.get t.invoice).any fun row => row.status = .paid
  runs_sound _ _ := ⟨trivial, trivial⟩
  rests_sound _ := trivial
  allows_sound {s s'} h := by
    rintro t ht hretry houtcome ⟨row, hrow, hpaid⟩
    simp [ht, hretry, houtcome, hrow, hpaid] at h

end Sample

section Samples

open Sample

theorem paid_invoice_failed : ∃ c c' : Config RecoveryState RecoveryKey Error Worker,
    Reach (recovery texts) (.idle (.start 0)) c ∧ Reach (recovery texts) c c' ∧
    invoiceStatus c.shared = some (.paid, true) ∧ invoiceStatus c'.shared = some (.failed, true) := by
  obtain ⟨c, c', h, h', hc, hc'⟩ := Referee.free.stages (player texts) (.start 0) collected
    [.spawn (.consuming lateFailure), .run 2] invoiceStatus invoiceStatus (.paid, true) (.failed, true)
    (by decide +kernel)
  exact ⟨c, c', h.reach, h'.reach, hc, hc'⟩

theorem paid_invoice_final_replayed : ∃ c c' : Config RecoveryState RecoveryKey Error Worker,
    ReachIn inOrder (recovery texts) (.idle (.start 0)) c ∧ ReachIn inOrder (recovery texts) c c' ∧
    c.shared.Paid 1 ∧ c'.shared.Paid 1 ∧ c'.shared.Collected 1 := by
  obtain ⟨c, c', h, h', hc, -⟩ := clerk.stages (player texts) (.start 0) collected
    [.spawn (.consuming failure), .run 2] invoiceStatus invoiceStatus (.paid, true) (.paid, true) (by decide +kernel)
  obtain ⟨row, hrow, hstatus⟩ := Option.map_eq_some_iff.1 hc
  have hpaid : c.shared.Paid 1 := ⟨row, hrow, congrArg Prod.fst hstatus⟩
  obtain ⟨hstays, hiff⟩ := paid_invoice_final texts 0 h h'
  exact ⟨c, c', h, h', hpaid, hstays 1 hpaid, (hiff 1).1 (hstays 1 hpaid)⟩

end Samples

end RelayPay.Subscriptions
