import RelayPay.Connectors.Commerce
import RelayPay.ReadCommitted.Undisturbed

/-! What the events delivered to the commerce store come to; an event locks the link of its payment, not the order. -/

namespace RelayPay.Commerce

open ReadCommitted Txn

structure Grows (s s' : CommerceState) : Prop where
  orders : ∀ o order, s.orders.get o = some order → ∃ order', s'.orders.get o = some order' ∧
    order'.totalAmount = order.totalAmount
  links : ∀ p link, s.links.get p = some link → ∃ link', s'.links.get p = some link' ∧ link'.order = link.order ∧
    link'.linkedAmount = link.linkedAmount

lemma Grows.refl (s : CommerceState) : Grows s s :=
  ⟨fun _ order horder => ⟨order, horder, rfl⟩, fun _ link hlink => ⟨link, hlink, rfl, rfl⟩⟩

lemma Grows.trans {s s' s'' : CommerceState} (h : Grows s s') (h' : Grows s' s'') : Grows s s'' := by
  constructor
  · intro o order horder
    obtain ⟨order', horder', htotal⟩ := h.orders o order horder
    obtain ⟨order'', horder'', htotal'⟩ := h'.orders o order' horder'
    exact ⟨order'', horder'', htotal'.trans htotal⟩
  · intro p link hlink
    obtain ⟨link', hlink', horder, hamount⟩ := h.links p link hlink
    obtain ⟨link'', hlink'', horder', hamount'⟩ := h'.links p link' hlink'
    exact ⟨link'', hlink'', horder'.trans horder, hamount'.trans hamount⟩

def Frame : CommerceKey → CommerceState → CommerceState → Prop
  | .order o, s, s' => ∀ order, s.orders.get o = some order → s'.orders.get o = some order
  | .link p, s, s' => ∀ link, s.links.get p = some link → s'.links.get p = some link

def rowLocks : Discipline CommerceState CommerceKey where
  frame := Frame
  evolves := Grows
  frame_refl k s := by
    cases k with
    | order o => exact fun _ h => h
    | link p => exact fun _ h => h
  frame_trans k s₁ s₂ s₃ h h' := by
    cases k with
    | order o => exact fun order horder => h' order (h order horder)
    | link p => exact fun link hlink => h' link (h link hlink)
  evolves_refl := Grows.refl
  evolves_trans _ _ _ h h' := h.trans h'

namespace CommerceState

variable (s : CommerceState)

def flushed (o : OrderId) (loaded : CommerceOrder) (status : OrderStatus) : CommerceState :=
  if status = loaded.status then s
  else { s with orders := s.orders.update o fun order => { order with status := status } }

def marked (p : LinkedPayment) (link : CommercePaymentLink) (status : LinkStatus) (type : EventType) : CommerceState :=
  (s.putLink p { link with status := status }).deliver p type

end CommerceState

inductive Sets (order : CommerceOrder) (sum : ℤ) : EventType → LinkStatus → OrderStatus → Prop
  | full : sum = order.totalAmount → Sets order sum .paymentCaptured .paid .paid
  | partly : sum ≠ order.totalAmount → Sets order sum .paymentCaptured .paid order.status
  | refund : Sets order sum .refundSucceeded .refunded .refunded

section Effect

variable (D : Discipline CommerceState CommerceKey) (s : CommerceState)

inductive Effect : Caller → List CommerceKey → CommerceState → Prop
  | same {l locks} : Effect l locks s
  | synced {p type id link order sum linkStatus status locks} : .link p ∈ locks →
      (status ≠ order.status → .order link.order ∈ locks) → s.links.get p = some link →
      D.Saw [.link p] s (fun s₀ => s₀.orders.get link.order = some order) →
      D.Saw [.link p] s (fun s₀ => (s₀.putLink p { link with status := .paid }).paid link.order = sum) →
      Sets order sum type linkStatus status →
      Effect (.syncing p type id) locks ((s.flushed link.order order status).marked p link linkStatus type)

def Commits (l : Caller) (t : CommerceTx Caller) : Prop :=
  t.Closes D (fun _ => True) s (fun _ y => Effect D s l y.held (y.own s)) .init

end Effect

section Specs

variable {K : Stillness CommerceState Caller} {l : Caller} {s : CommerceState}

lemma flushed_marked (o : OrderId) (loaded : CommerceOrder) (status : OrderStatus) (p : LinkedPayment)
    (link : CommercePaymentLink) (linkStatus : LinkStatus) (type : EventType) :
    (s.marked p link linkStatus type).flushed o loaded status =
      (s.flushed o loaded status).marked p link linkStatus type := by
  rw [CommerceState.flushed, CommerceState.flushed]
  split <;> rfl

lemma closes_flushOrder {D : Discipline CommerceState CommerceKey} {o : OrderId} {loaded : CommerceOrder}
    {status : OrderStatus} {x : Pending CommerceState CommerceKey Empty}
    {Q : Unit → Pending CommerceState CommerceKey Empty → Prop}
    (h : ∀ y, x.held ⊆ y.held → (status ≠ loaded.status → .order o ∈ y.held) →
      y.own s = (x.own s).flushed o loaded status → Q () y) :
    (flushOrder o loaded status).Closes D (fun _ => True) s Q x := by
  rw [flushOrder, closes_ite]
  constructor
  · intro hsame
    refine h x (fun _ hk => hk) (fun hne => absurd hsame hne) ?_
    rw [CommerceState.flushed, if_pos hsame]
  · intro hne
    refine h _ (fun _ hk => List.mem_cons_of_mem _ hk) (fun _ => List.mem_cons_self) ?_
    rw [CommerceState.flushed, if_neg hne]
    rfl

lemma sync_commits (p : LinkedPayment) (type : EventType) (id : String) :
    Commits (rowLocks.still K l) s (.syncing p type id) (do
      synchronizeEvent p type id
      done .finished) := by
  simp only [Commits, synchronizeEvent, closes_bind, closes_acquire, closes_query, closes_require, implies_true,
    and_true]
  intro s₀ hview₀ link hlink s₁ hview₁ order horder
  have hlink' : s.links.get p = some link := hview₀.2 (.link p) List.mem_cons_self link hlink
  have hsaw : (rowLocks.still K l).Saw [.link p] s fun s₀ => s₀.orders.get link.order = some order :=
    ⟨s₁, hview₁, horder⟩
  cases type with
  | paymentCaptured =>
    simp only [markLink, closes_bind, closes_modify, closes_query]
    intro s₂ hview₂
    have hsum : (rowLocks.still K l).Saw [.link p] s fun s₀ =>
        (s₀.putLink p { link with status := .paid }).paid link.order = _ := ⟨s₂, hview₂, rfl⟩
    rw [closes_ite]
    constructor
    · intro hfull
      refine closes_flushOrder fun y hsub horders hown => ?_
      rw [closes_done, hown]
      change Effect _ _ _ _ ((s.marked p link .paid .paymentCaptured).flushed link.order order .paid)
      rw [flushed_marked]
      exact .synced (hsub List.mem_cons_self) horders hlink' hsaw hsum (.full hfull)
    · intro hpartly
      rw [closes_done, closes_done]
      have heffect : Effect (rowLocks.still K l) s (.syncing p .paymentCaptured id) [.link p]
          ((s.flushed link.order order order.status).marked p link .paid .paymentCaptured) :=
        .synced List.mem_cons_self (fun hne => absurd rfl hne) hlink' hsaw hsum (.partly hpartly)
      rw [CommerceState.flushed, if_pos rfl] at heffect
      exact heffect
  | refundSucceeded =>
    simp only [markLink, closes_bind]
    refine closes_flushOrder fun y hsub horders hown => ?_
    rw [closes_modify, closes_done]
    have hsum : (rowLocks.still K l).Saw [.link p] s fun s₀ =>
        (s₀.putLink p { link with status := .paid }).paid link.order = _ := ⟨s₁, hview₁, rfl⟩
    simp only [Pending.apply, Function.comp_apply, hown]
    exact .synced (hsub List.mem_cons_self) horders hlink' hsaw hsum .refund
  | other text => trivial

end Specs

lemma commerce_effect {K : Stillness CommerceState Caller} {s : CommerceState} {l l' : Caller} {t : CommerceTx Caller}
    {y : Pending CommerceState CommerceKey Empty} (ht : commerce.txn l = some t)
    (h : Eval (rowLocks.still K l) s (t.atCommit commerce.fire []) .init (.ok l') y) :
    Effect (rowLocks.still K l) s l y.held (y.own s) := by
  have hcommits : Commits (rowLocks.still K l) s l t := by
    cases l with
    | syncing p type id =>
      cases ht
      exact sync_commits p type id
    | finished => cases ht
  exact (h.closes (closes_atCommit hcommits)).1 l' rfl

section Rows

variable {s : CommerceState}

lemma flushed_orders (o o' : OrderId) (loaded : CommerceOrder) (status : OrderStatus) :
    (s.flushed o loaded status).orders.get o' =
      if o' = o ∧ status ≠ loaded.status then (s.orders.get o).map fun order => { order with status := status }
      else s.orders.get o' := by
  rw [CommerceState.flushed]
  by_cases hsame : status = loaded.status
  · rw [if_pos hsame, if_neg (fun h => h.2 hsame)]
  · rw [if_neg hsame]
    simp only [Table.get_update, ne_eq, hsame, not_false_eq_true, and_true]

lemma flushed_links (o : OrderId) (loaded : CommerceOrder) (status : OrderStatus) :
    (s.flushed o loaded status).links = s.links ∧ (s.flushed o loaded status).delivered = s.delivered := by
  rw [CommerceState.flushed]
  split
  · exact ⟨rfl, rfl⟩
  · exact ⟨rfl, rfl⟩

lemma marked_links {o : OrderId} {loaded : CommerceOrder} {status : OrderStatus} {p : LinkedPayment}
    {link : CommercePaymentLink} {linkStatus : LinkStatus} {type : EventType} (q : LinkedPayment) :
    ((s.flushed o loaded status).marked p link linkStatus type).links.get q =
      if q = p then some { link with status := linkStatus } else s.links.get q := by
  change Table.get (Table.put _ _ _) q = _
  rw [Table.get_put, (flushed_links _ _ _).1]

lemma Effect.keeps {D : Discipline CommerceState CommerceKey} {l : Caller} {locks : List CommerceKey}
    {s' : CommerceState} (h : Effect D s l locks s') : rowLocks.Keeps locks s s' := by
  cases h with
  | same => exact ⟨.refl s, fun k _ => rowLocks.frame_refl k s⟩
  | @synced p type id link order sum linkStatus status _ hlock horders hlink _ _ _ =>
    have hset : ∀ o, ((s.flushed link.order order status).marked p link linkStatus type).orders.get o =
        (s.flushed link.order order status).orders.get o := fun _ => rfl
    refine ⟨⟨fun o row hrow => ?_, fun q row hrow => ?_⟩, ?_⟩
    · rw [hset, flushed_orders]
      split
      · next hchanged =>
        obtain ⟨rfl, -⟩ := hchanged
        rw [hrow]
        exact ⟨_, rfl, rfl⟩
      · exact ⟨row, hrow, rfl⟩
    · rw [marked_links]
      split
      · next hq =>
        subst hq
        rw [hlink] at hrow
        cases hrow
        exact ⟨_, rfl, rfl, rfl⟩
      · exact ⟨row, hrow, rfl, rfl⟩
    · rintro (o | q) hfree
      · intro row hrow
        rw [hset, flushed_orders, if_neg, hrow]
        rintro ⟨rfl, hne⟩
        exact hfree (horders hne)
      · intro row hrow
        rw [marked_links, if_neg, hrow]
        rintro rfl
        exact hfree hlock

lemma Environment.keeps {s' : CommerceState} (h : Environment s s') : rowLocks.Keeps [] s s' := by
  cases h with
  | createOrder hnone =>
    refine ⟨⟨fun o row hrow => ⟨row, Table.get_put_new _ hnone hrow, rfl⟩, fun q row hrow => ⟨row, hrow, rfl, rfl⟩⟩, ?_⟩
    rintro (o | q) -
    · exact fun row hrow => Table.get_put_new _ hnone hrow
    · exact fun row hrow => hrow
  | linkPayment hnone =>
    refine ⟨⟨fun o row hrow => ⟨row, hrow, rfl⟩, fun q row hrow => ⟨row, Table.get_put_new _ hnone hrow, rfl, rfl⟩⟩, ?_⟩
    rintro (o | q) -
    · exact fun row hrow => hrow
    · exact fun row hrow => Table.get_put_new _ hnone hrow

end Rows

def orderStill : Stillness CommerceState Caller where
  keep l s s' := ∀ p type id, l = .syncing p type id →
    (s'.links.get p).map CommercePaymentLink.order = (s.links.get p).map CommercePaymentLink.order ∧
    ∀ link, s.links.get p = some link → s'.orders.get link.order = s.orders.get link.order ∧
      s'.paid link.order = s.paid link.order
  refl _ _ _ _ _ _ := ⟨rfl, fun _ _ => ⟨rfl, rfl⟩⟩
  trans := by
    intro l s₁ s₂ s₃ h h' p type id hl
    obtain ⟨hlink, hsame⟩ := h p type id hl
    obtain ⟨hlink', hsame'⟩ := h' p type id hl
    refine ⟨hlink'.trans hlink, fun link hget => ?_⟩
    rw [hget] at hlink
    obtain ⟨link₂, hget₂, horder⟩ := Option.map_eq_some_iff.1 hlink
    obtain ⟨ho, hpaid⟩ := hsame link hget
    obtain ⟨ho', hpaid'⟩ := hsame' link₂ hget₂
    rw [horder] at ho' hpaid'
    exact ⟨ho'.trans ho, hpaid'.trans hpaid⟩

def refundsStand (s s' : CommerceState) : Prop :=
  ∀ p link link', s.links.get p = some link → s'.links.get p = some link' → link.status = .refunded →
    link'.status = .refunded

def paidShare (o : OrderId) (link : CommercePaymentLink) : ℤ :=
  if link.order = o ∧ link.status = .paid then link.linkedAmount else 0

def linkShare (o : OrderId) (link : CommercePaymentLink) : ℤ := if link.order = o then link.linkedAmount else 0

section Sums

variable {s : CommerceState} {p : LinkedPayment} {link link' : CommercePaymentLink} {o : OrderId}

lemma paid_putLink (h : s.links.get p = some link) :
    (s.putLink p link').paid o = s.paid o + paidShare o link' - paidShare o link := by
  have htotal := s.links.total_put (fun _ link => paidShare o link) p link'
  rw [h] at htotal
  exact htotal

lemma linked_putLink (h : s.links.get p = some link) (hsame : linkShare o link' = linkShare o link) :
    (s.putLink p link').linked o = s.linked o :=
  Table.total_put_same (f := fun _ link => linkShare o link) h hsame

lemma paidShare_le (h : 0 < link.linkedAmount) : paidShare o link ≤ linkShare o link := by
  rw [paidShare, linkShare]
  split
  · next hpaid => rw [if_pos hpaid.1]
  · split
    · exact h.le
    · exact le_refl 0

lemma paid_le_linked (h : ∀ p link, s.links.get p = some link → 0 < link.linkedAmount) : s.paid o ≤ s.linked o :=
  Table.total_mono fun p link hlink => paidShare_le (h p link hlink)

lemma paid_add_le_linked (h : ∀ p link, s.links.get p = some link → 0 < link.linkedAmount)
    (hlink : s.links.get p = some link) (horder : link.order = o) (hstatus : link.status ≠ .paid) :
    s.paid o + link.linkedAmount ≤ s.linked o := by
  have hsingle : s.links.total (fun q link => if q = p then linkShare o link else paidShare o link) =
      s.paid o + (if p = p then linkShare o link else paidShare o link) - paidShare o link :=
    Table.total_single hlink fun q _ hq => if_neg hq
  have hle : s.links.total (fun q link => if q = p then linkShare o link else paidShare o link) ≤ s.linked o := by
    refine Table.total_mono fun q row hrow => ?_
    split
    · exact le_refl _
    · exact paidShare_le (h q row hrow)
  have hnone : paidShare o link = 0 := if_neg fun hpaid => hstatus hpaid.2
  have hwhole : linkShare o link = link.linkedAmount := if_pos horder
  rw [if_pos rfl, hnone, hwhole] at hsingle
  omega

end Sums

def statusOf (delivered : List (LinkedPayment × EventType)) (p : LinkedPayment) : LinkStatus :=
  if (p, .refundSucceeded) ∈ delivered then .refunded
  else if (p, .paymentCaptured) ∈ delivered then .paid
  else .linked

def RefundedIn (s : CommerceState) (o : OrderId) : Prop :=
  ∃ p link, s.links.get p = some link ∧ link.order = o ∧ link.status = .refunded

structure Settles (s : CommerceState) (o : OrderId) (order : CommerceOrder) : Prop where
  refunded : order.status = .refunded ↔ RefundedIn s o
  paid : ¬RefundedIn s o → (order.status = .paid ↔ s.paid o = order.totalAmount)

structure Synced (s : CommerceState) : Prop where
  owned : ∀ p link, s.links.get p = some link → (s.orders.get link.order).isSome = true
  amounts : ∀ p link, s.links.get p = some link → 0 < link.linkedAmount
  totals : ∀ o order, s.orders.get o = some order → 0 < order.totalAmount
  known : ∀ e ∈ s.delivered, (s.links.get e.1).isSome = true
  marks : ∀ p link, s.links.get p = some link → link.status = statusOf s.delivered p
  bounded : ∀ o order, s.orders.get o = some order → s.linked o ≤ order.totalAmount
  settles : ∀ o order, s.orders.get o = some order → Settles s o order

lemma synced_start : Synced .start where
  owned p link h := by cases h
  amounts p link h := by cases h
  totals o order h := by cases h
  known e he := by cases he
  marks p link h := by cases h
  bounded o order h := by cases h
  settles o order h := by cases h

section Delivery

variable {delivered : List (LinkedPayment × EventType)} {p q : LinkedPayment} {type : EventType}

lemma statusOf_other (h : q ≠ p) : statusOf ((p, type) :: delivered) q = statusOf delivered q := by
  simp [statusOf, h]

lemma statusOf_refund : statusOf ((p, .refundSucceeded) :: delivered) p = .refunded :=
  if_pos List.mem_cons_self

lemma statusOf_capture (h : statusOf delivered p ≠ .refunded) :
    statusOf ((p, .paymentCaptured) :: delivered) p = .paid := by
  have hnone : (p, .refundSucceeded) ∉ delivered := fun hmem => h (if_pos hmem)
  simp [statusOf, hnone]

end Delivery

section Synced

variable {s s' : CommerceState} {o : OrderId} {order : CommerceOrder}

lemma Settles.congr (h : Settles s o order) (hrefunded : RefundedIn s' o ↔ RefundedIn s o)
    (hpaid : s'.paid o = s.paid o) : Settles s' o order := by
  constructor
  · rw [hrefunded]
    exact h.refunded
  · rw [hrefunded, hpaid]
    exact h.paid

lemma refundedIn_congr (h : ∀ q row, row.order = o → row.status = .refunded →
    (s'.links.get q = some row ↔ s.links.get q = some row)) : RefundedIn s' o ↔ RefundedIn s o :=
  exists₂_congr fun q row => and_congr_left fun hrow => h q row hrow.1 hrow.2

lemma sums_eq_zero (h : ∀ p link, s.links.get p = some link → link.order ≠ o) : s.paid o = 0 ∧ s.linked o = 0 := by
  have hzero : ∀ f : CommercePaymentLink → ℤ, (∀ link, link.order ≠ o → f link = 0) →
      s.links.total (fun _ => f) = 0 := by
    intro f hf
    have hcongr := Table.total_congr (t := s.links) (f := fun _ => f) rfl fun p link hlink => hf link (h p link hlink)
    rw [hcongr]
    simp [Table.total]
  exact ⟨hzero _ fun link hne => if_neg fun hpaid => hne hpaid.1, hzero _ fun link hne => if_neg hne⟩

lemma Synced.createOrder (hs : Synced s) (hnone : s.orders.get o = none) (htotal : 0 < order.totalAmount)
    (hopened : order.status = .opened) : Synced (s.putOrder o order) := by
  have hunlinked : ∀ p link, s.links.get p = some link → link.order ≠ o := by
    rintro p link hlink rfl
    have howned := hs.owned p link hlink
    rw [hnone] at howned
    cases howned
  obtain ⟨hpaid, hlinked⟩ := sums_eq_zero hunlinked
  refine ⟨fun p link hlink => ?_, hs.amounts, Table.forall_put hs.totals htotal, hs.known, hs.marks,
    Table.forall_put hs.bounded (hlinked.le.trans htotal.le),
    Table.forall_put (fun o' row hrow => (hs.settles o' row hrow).congr Iff.rfl rfl) ?_⟩
  · change ((s.orders.put o order).get link.order).isSome = true
    rw [Table.get_put_ne _ _ (hunlinked p link hlink)]
    exact hs.owned p link hlink
  · have hnot : ¬RefundedIn (s.putOrder o order) o := by
      rintro ⟨p, link, hlink, horder, -⟩
      exact hunlinked p link hlink horder
    refine ⟨iff_of_false (by rw [hopened]; decide) hnot, fun _ => iff_of_false (by rw [hopened]; decide) ?_⟩
    have hsame : (s.putOrder o order).paid o = s.paid o := rfl
    rw [hsame, hpaid]
    exact htotal.ne

variable {p : LinkedPayment}

lemma Synced.linkPayment {link : CommercePaymentLink} (hs : Synced s)
    (hnone : s.links.get p = none) (horder : s.orders.get link.order = some order) (hamount : 0 < link.linkedAmount)
    (hfits : s.linked link.order + link.linkedAmount ≤ order.totalAmount) (hstatus : link.status = .linked) :
    Synced (s.putLink p link) := by
  have hget : ∀ q, (s.putLink p link).links.get q = if q = p then some link else s.links.get q :=
    fun q => Table.get_put _ _ _ _
  have hpaid : ∀ o, (s.putLink p link).paid o = s.paid o := by
    intro o
    have hshare : paidShare o link = 0 := if_neg (by rw [hstatus]; simp)
    have htotal := Table.total_put_new (t := s.links) (f := fun _ link => paidShare o link) link hnone
    rw [hshare, add_zero] at htotal
    exact htotal
  have hlinked : ∀ o, (s.putLink p link).linked o = s.linked o + linkShare o link :=
    fun o => Table.total_put_new (t := s.links) (f := fun _ link => linkShare o link) link hnone
  have hundelivered : ∀ type, (p, type) ∉ s.delivered := by
    intro type hmem
    have hknown := hs.known _ hmem
    rw [hnone] at hknown
    cases hknown
  refine ⟨Table.forall_put hs.owned ?_, Table.forall_put hs.amounts hamount, hs.totals, fun e he => ?_,
    Table.forall_put hs.marks ?_, fun o row hrow => ?_,
    fun o row hrow => (hs.settles o row hrow).congr (refundedIn_congr fun q row' _ hrefunded => ?_) (hpaid o)⟩
  · change (s.orders.get link.order).isSome = true
    rw [horder]
    rfl
  · rw [hget]
    split
    · rfl
    · exact hs.known e he
  · change link.status = statusOf s.delivered p
    simp [hstatus, statusOf, hundelivered]
  · change s.orders.get o = some row at hrow
    rw [hlinked, linkShare]
    split
    · next ho =>
      subst ho
      rw [horder] at hrow
      cases hrow
      exact hfits
    · rw [add_zero]
      exact hs.bounded o row hrow
  · refine Table.get_written (hget q) ?_ (by simp [hnone])
    rintro rfl
    rw [hstatus] at hrefunded
    cases hrefunded

lemma Synced.env (hs : Synced s) (h : Environment s s') : Synced s' := by
  cases h with
  | createOrder hnone htotal hopened => exact hs.createOrder hnone htotal hopened
  | linkPayment hnone horder hamount hfits hlinked => exact hs.linkPayment hnone horder hamount hfits hlinked

lemma read_current {type : EventType} {id : String} {link : CommercePaymentLink}
    (hlink : s.links.get p = some link) {P : CommerceState → Prop}
    (h : (rowLocks.still orderStill (.syncing p type id)).Saw [.link p] s P) :
    ∃ s₀, P s₀ ∧ s₀.links.get p = some link ∧ s₀.orders.get link.order = s.orders.get link.order ∧
      s₀.paid link.order = s.paid link.order := by
  obtain ⟨s₀, ⟨⟨_, hkeep⟩, hframe⟩, hP⟩ := h
  obtain ⟨hsame, hread⟩ := hkeep p type id rfl
  rw [hlink] at hsame
  obtain ⟨link₀, hlink₀, -⟩ := Option.map_eq_some_iff.1 hsame.symm
  have hlocked : s.links.get p = some link₀ := hframe (.link p) (List.mem_singleton_self _) link₀ hlink₀
  rw [hlink] at hlocked
  cases hlocked
  obtain ⟨horder, hpaid⟩ := hread link hlink₀
  exact ⟨s₀, hP, hlink₀, horder.symm, hpaid.symm⟩

lemma Synced.sync {type : EventType} {link : CommercePaymentLink} {linkStatus : LinkStatus}
    {status : OrderStatus} (hs : Synced s) (hlink : s.links.get p = some link)
    (horder : s.orders.get link.order = some order)
    (hsets : Sets order ((s.putLink p { link with status := .paid }).paid link.order) type linkStatus status)
    (hstand : link.status = .refunded → linkStatus = .refunded) :
    Synced ((s.flushed link.order order status).marked p link linkStatus type) := by
  have hlinks : ∀ q, ((s.flushed link.order order status).marked p link linkStatus type).links.get q =
      if q = p then some { link with status := linkStatus } else s.links.get q := marked_links
  have horders : ∀ o, ((s.flushed link.order order status).marked p link linkStatus type).orders.get o =
      if o = link.order then some { order with status := status } else s.orders.get o := by
    intro o
    change (s.flushed link.order order status).orders.get o = _
    rw [flushed_orders, horder]
    by_cases ho : o = link.order
    · by_cases hsame : status = order.status
      · rw [if_neg (fun h => h.2 hsame), if_pos ho, ho, horder, hsame]
      · rw [if_pos ⟨ho, hsame⟩, if_pos ho]
        rfl
    · rw [if_neg (fun h => ho h.1), if_neg ho]
  have hput : ∀ o, ((s.flushed link.order order status).marked p link linkStatus type).paid o =
      (s.putLink p { link with status := linkStatus }).paid o ∧
      ((s.flushed link.order order status).marked p link linkStatus type).linked o =
        (s.putLink p { link with status := linkStatus }).linked o := by
    intro o
    have hsame := (flushed_links (s := s) link.order order status).1
    constructor
    · simp only [CommerceState.paid, CommerceState.marked, CommerceState.putLink, CommerceState.deliver, hsame]
    · simp only [CommerceState.linked, CommerceState.marked, CommerceState.putLink, CommerceState.deliver, hsame]
  have hdelivered : ((s.flushed link.order order status).marked p link linkStatus type).delivered =
      (p, type) :: s.delivered := by
    change (p, type) :: (s.flushed link.order order status).delivered = _
    rw [(flushed_links _ _ _).2]
  generalize (s.flushed link.order order status).marked p link linkStatus type = s' at hlinks horders hput hdelivered ⊢
  have hlinked : ∀ o, s'.linked o = s.linked o := by
    intro o
    rw [(hput o).2]
    exact linked_putLink hlink rfl
  have hamounts : ∀ q row, s'.links.get q = some row → 0 < row.linkedAmount :=
    Table.forall_written hlinks hs.amounts (hs.amounts p link hlink)
  have hbounded : ∀ o row, s'.orders.get o = some row → s'.linked o ≤ row.totalAmount := by
    simp only [hlinked]
    exact Table.forall_written horders hs.bounded (hs.bounded _ order horder)
  refine ⟨fun q row hrow => ?_, hamounts, Table.forall_written horders hs.totals (hs.totals _ order horder),
    fun e he => ?_, fun q row hrow => ?_, hbounded, fun o row hrow => ?_⟩
  · have howned := Table.forall_written hlinks hs.owned (hs.owned p link hlink) q row hrow
    rw [horders]
    split
    · rfl
    · exact howned
  · rw [hlinks]
    split
    · rfl
    · next hne =>
      rw [hdelivered] at he
      rcases List.mem_cons.1 he with rfl | he
      · exact absurd rfl hne
      · exact hs.known e he
  · rw [hlinks] at hrow
    rw [hdelivered]
    split at hrow
    · next hq =>
      cases hrow
      subst hq
      have hmark := hs.marks q link hlink
      cases hsets with
      | full _ => exact (statusOf_capture fun h => by cases hstand (hmark.trans h)).symm
      | partly _ => exact (statusOf_capture fun h => by cases hstand (hmark.trans h)).symm
      | refund => exact statusOf_refund.symm
    · next hq =>
      rw [statusOf_other hq]
      exact hs.marks q row hrow
  · by_cases ho : o = link.order
    · subst ho
      rw [horders, if_pos rfl] at hrow
      cases hrow
      have hmiss : RefundedIn s' link.order → s'.paid link.order < order.totalAmount := by
        rintro ⟨q, row, hrow, horder', hrefunded⟩
        have hle := paid_add_le_linked hamounts hrow horder' (by rw [hrefunded]; decide)
        have hbound := hbounded link.order { order with status := status } (by rw [horders, if_pos rfl])
        have hpositive := hamounts q row hrow
        change s'.linked link.order ≤ order.totalAmount at hbound
        omega
      cases hsets with
      | full hfull =>
        rw [← (hput _).1] at hfull
        exact ⟨iff_of_false (fun h => by cases h) fun h => (hmiss h).ne hfull, fun _ => iff_of_true rfl hfull⟩
      | partly hpartly =>
        rw [← (hput _).1] at hpartly
        have hsettles := hs.settles link.order order horder
        have hnot : link.status ≠ .refunded := fun h => by cases hstand h
        have hsame : RefundedIn s' link.order ↔ RefundedIn s link.order := by
          refine refundedIn_congr fun q row _ hrefunded => Table.get_written (hlinks q) ?_ ?_
          · rintro rfl
            cases hrefunded
          · rw [hlink]
            rintro ⟨⟩
            exact hnot hrefunded
        -- what was the whole sum before would be the whole sum now
        have hless : s.paid link.order ≠ order.totalAmount := by
          intro hwhole
          have hpaid : (s.putLink p { link with status := .paid }).paid link.order =
              s.paid link.order + paidShare link.order { link with status := .paid } - paidShare link.order link :=
            paid_putLink hlink
          have hshare := paidShare_le (o := link.order) (hs.amounts p link hlink)
          have hnew : paidShare link.order { link with status := .paid } = linkShare link.order link := by
            rw [paidShare, linkShare, if_pos ⟨rfl, rfl⟩, if_pos rfl]
          have hle : s'.paid link.order ≤ s'.linked link.order := paid_le_linked hamounts
          have hbound := hs.bounded link.order order horder
          rw [hlinked, (hput _).1] at hle
          rw [(hput _).1] at hpartly
          omega
        refine ⟨?_, fun hnone => iff_of_false ?_ hpartly⟩
        · rw [hsame]
          exact hsettles.refunded
        · intro hpaid
          exact hless ((hsettles.paid fun h => hnone (hsame.2 h)).1 hpaid)
      | refund =>
        have hin : RefundedIn s' link.order := ⟨p, { link with status := .refunded }, by rw [hlinks, if_pos rfl], rfl, rfl⟩
        exact ⟨iff_of_true rfl hin, fun hnone => absurd hin hnone⟩
    · rw [horders, if_neg ho] at hrow
      refine (hs.settles o row hrow).congr
        (refundedIn_congr fun q row' hrow' _ => Table.get_written (hlinks q) ?_ ?_) ?_
      · rintro rfl
        exact ho hrow'.symm
      · rw [hlink]
        rintro ⟨⟩
        exact ho hrow'.symm
      · have hnone : ∀ st, paidShare o { link with status := st } = 0 := fun st => if_neg fun h => ho h.1.symm
        have hold : paidShare o link = 0 := hnone link.status
        rw [(hput o).1, paid_putLink hlink, hnone, hold]
        omega

lemma Synced.effect {l : Caller} {locks : List CommerceKey} (hs : Synced s)
    (h : Effect (rowLocks.still orderStill l) s l locks s') (hstand : refundsStand s s') : Synced s' := by
  cases h with
  | same => exact hs
  | @synced p type id link order sum linkStatus status _ _ _ hlink horder hsum hsets =>
    obtain ⟨s₀, horder₀, -, hsame, -⟩ := read_current hlink horder
    obtain ⟨s₁, rfl, hlink₁, -, hpaid⟩ := read_current hlink hsum
    rw [hsame] at horder₀
    have hread : (s₁.putLink p { link with status := .paid }).paid link.order =
        (s.putLink p { link with status := .paid }).paid link.order := by
      rw [paid_putLink hlink₁, paid_putLink hlink, hpaid]
    rw [hread] at hsets
    refine hs.sync hlink horder₀ hsets fun hrefunded => ?_
    have hnew : ((s.flushed link.order order status).marked p link linkStatus type).links.get p =
        some { link with status := linkStatus } := Table.get_put_self _ _ _
    exact hstand p link _ hlink hnew hrefunded

end Synced

lemma synced_isolates : Isolates orderStill refundsStand rowLocks commerce Synced where
  commit hs ht he hstand := by
    have h := commerce_effect ht he
    exact ⟨h.keeps, hs.effect h hstand⟩
  act _ ha := ha.elim
  env hs he _ := ⟨he.keeps, hs.env he⟩

inductive Arrival where
  | order (o : OrderId) (total : ℤ)
  | link (p : LinkedPayment) (o : OrderId) (amount : ℤ)

def Arrival.apply (s : CommerceState) : Arrival → Option CommerceState
  | .order o total => if s.orders.get o = none ∧ 0 < total then some (s.putOrder o ⟨total, .opened⟩) else none
  | .link p o amount =>
    (s.orders.get o).bind fun row =>
      if s.links.get p = none ∧ 0 < amount ∧ s.linked o + amount ≤ row.totalAmount then
        some (s.putLink p ⟨o, amount, .linked⟩)
      else none

lemma Arrival.apply_sound {a : Arrival} {s s' : CommerceState} (h : a.apply s = some s') : Environment s s' := by
  cases a with
  | order o total =>
    simp only [Arrival.apply, Option.ite_none_right_eq_some, Option.some.injEq] at h
    obtain ⟨⟨hnone, htotal⟩, rfl⟩ := h
    exact .createOrder hnone htotal rfl
  | link p o amount =>
    obtain ⟨row, hrow, h⟩ := Option.bind_eq_some_iff.1 h
    simp only [Option.ite_none_right_eq_some, Option.some.injEq] at h
    obtain ⟨⟨hnone, hamount, hfits⟩, rfl⟩ := h
    exact .linkPayment hnone hrow hamount hfits rfl

def player : Player commerce Empty Arrival where
  spawn _ := true
  act e := e.elim
  env a s := a.apply s
  spawn_sound _ := trivial
  act_sound {e} := e.elim
  env_sound := Arrival.apply_sound

namespace Shop

def capture (p : LinkedPayment) : Caller := .syncing p .paymentCaptured "evt"
def refund (p : LinkedPayment) : Caller := .syncing p .refundSucceeded "evt"

def opened : List Arrival := [.order 1 100, .link 1 1 50, .link 2 1 50]

def together : List (Tick Caller Empty Arrival) :=
  opened.map .env ++ [.spawn (capture 1), .spawn (capture 2), .start 0, .start 1] ++ List.replicate 5 (.statement 0) ++
    List.replicate 5 (.statement 1) ++ [.finish 0, .finish 1]

def late : List (Tick Caller Empty Arrival) :=
  opened.map .env ++ ([capture 1, refund 1, capture 1].zipIdx.flatMap fun e => [.spawn e.1, .start e.2] ++
    List.replicate (if e.2 = 1 then 6 else 5) (.statement e.2) ++ [.finish e.2])

def order (s : CommerceState) : Option (OrderStatus × ℤ) := (s.orders.get 1).map fun row => (row.status, s.paid 1)

def link (s : CommerceState) : Option (LinkStatus × List (LinkedPayment × EventType)) :=
  (s.links.get 1).map fun row => (row.status, s.delivered)

end Shop

namespace Shop

def stands (s s' : CommerceState) : Bool :=
  s.links.rows.all fun e => decide (e.2.status ≠ .refunded) ||
    (s'.links.get e.1).all fun link => link.status = .refunded

lemma refundsStand_of_stands {s s' : CommerceState} (h : stands s s' = true) : refundsStand s s' := by
  intro p link link' hlink hlink' hrefunded
  have htest := List.all_eq_true.1 h (p, link) (Table.mem_rows.2 hlink)
  simpa [hrefunded, hlink'] using htest

def apart : List (Move Caller Empty Arrival) :=
  opened.map .env ++ [.spawn (capture 1), .run 0, .spawn (capture 2), .run 1, .spawn (refund 2), .run 2]

end Shop

end RelayPay.Commerce
