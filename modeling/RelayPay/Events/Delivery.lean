import RelayPay.Events.Outbox
import RelayPay.ReadCommitted.Rely
import RelayPay.ReadCommitted.Solo

namespace RelayPay.Events

open ReadCommitted Txn

structure Advances (row row' : BusinessEventOutbox) : Prop where
  message : row'.message = row.message
  published : row.publishedAt.isSome = true →
    row'.publishedAt.isSome = true ∧ row'.publishAttempts = row.publishAttempts

lemma Advances.refl (row : BusinessEventOutbox) : Advances row row := ⟨rfl, fun h => ⟨h, rfl⟩⟩

variable {row row' : BusinessEventOutbox}

lemma Advances.trans {row'' : BusinessEventOutbox} (h : Advances row row') (h' : Advances row' row'') :
    Advances row row'' := by
  refine ⟨h'.message.trans h.message, fun hp => ?_⟩
  obtain ⟨hp', hcount⟩ := h.published hp
  obtain ⟨hp'', hcount'⟩ := h'.published hp'
  exact ⟨hp'', hcount'.trans hcount⟩

structure Grows (s s' : EventState) : Prop where
  rows : ∀ r row, s.outbox.get r = some row → ∃ row', s'.outbox.get r = some row' ∧ Advances row row'
  markers : ∀ k m, s.consumed.get k = some m → s'.consumed.get k = some m
  accepted : ∀ m ∈ s.accepted, m ∈ s'.accepted

namespace Grows

variable {s s' s'' : EventState}

lemma of_eq (houtbox : s'.outbox = s.outbox) (hconsumed : s'.consumed = s.consumed)
    (haccepted : ∀ m ∈ s.accepted, m ∈ s'.accepted) : Grows s s' := by
  refine ⟨fun r row hrow => ⟨row, by rw [houtbox, hrow], .refl row⟩, fun k m hm => ?_, haccepted⟩
  rw [hconsumed, hm]

lemma refl (s : EventState) : Grows s s := .of_eq rfl rfl fun _ h => h

lemma trans (h : Grows s s') (h' : Grows s' s'') : Grows s s'' := by
  refine ⟨fun r row hrow => ?_, fun k m hm => h'.markers k m (h.markers k m hm),
    fun m hm => h'.accepted m (h.accepted m hm)⟩
  obtain ⟨row', hrow', hadv⟩ := h.rows r row hrow
  obtain ⟨row'', hrow'', hadv'⟩ := h'.rows r row' hrow'
  exact ⟨row'', hrow'', hadv.trans hadv'⟩

end Grows

def Frame : EventKey → EventState → EventState → Prop
  | .row r, s, s' => s'.outbox.get r = s.outbox.get r
  | .marker k, s, s' => s'.consumed.get k = s.consumed.get k
  | .eventId _, _, _ => True

def rowLocks : Discipline EventState EventKey where
  frame := Frame
  evolves := Grows
  frame_refl k s := by
    cases k with
    | eventId e => trivial
    | _ => rfl
  frame_trans k s₁ s₂ s₃ h h' := by
    cases k with
    | row r => exact Eq.trans h' h
    | marker k => exact Eq.trans h' h
    | eventId e => trivial
  evolves_refl := Grows.refl
  evolves_trans _ _ _ h h' := h.trans h'

section Effect

variable (D : Discipline EventState EventKey) (s : EventState)

inductive Rewrites : Worker → BusinessEventOutbox → BusinessEventOutbox → Prop
  | published {now claim row} : Rewrites (.marking now claim) row (row.published now)
  | postponed {now claim row} (firstByte : Digest → ℕ) :
      Rewrites (.failing now claim) row (row.postponed firstByte now)

def Worker.claim? : Worker → Option ClaimedEvent
  | .publishing _ claim => some claim
  | .marking _ claim => some claim
  | .failing _ claim => some claim
  | _ => none

inductive Effect : Worker → Worker → List EventKey → EventState → Prop
  | same {l locks} : Effect l .finished locks s
  | appended {l r row locks} : .row r ∈ locks → s.outbox.get r = none → row.publishedAt = none →
      Effect l .finished locks (s.putRow r row)
  | claimed {now organisation token r row locks} : .row r ∈ locks → s.outbox.get r = some row →
      row.publishedAt = none → Effect (.claiming now organisation token)
        (.publishing now ⟨r, token, row.message⟩) locks (s.putRow r (row.lease token now))
  | rewritten {l claim row row' locks} : .row claim.row ∈ locks → l.claim? = some claim →
      D.Saw [] s (fun s₀ => s₀.outbox.get claim.row = some row) → Rewrites l row row' →
      Effect l .finished locks (s.updateRow claim.row (BusinessEventOutbox.patch row row'))
  | replayed {d locks} : s.consumed.get d.key = some d.marker → Effect (.consuming d) (.consumed d false) locks s
  | consumed {d locks} : .marker d.key ∈ locks → s.consumed.get d.key = none →
      Effect (.consuming d) (.consumed d true) locks ((s.putMarker d.key d.marker).addEffect d.key d.marker)

def Commits (l : Worker) (t : EventTx Worker) : Prop :=
  t.Closes D (fun _ => True) s (fun l' y => Effect D s l l' y.held (y.own s)) .init

end Effect

section Specs

variable {A : EventState → Prop} {s : EventState} {firstByte : Digest → ℕ}

lemma append_commits (r : RowId) (e : NewBusinessEvent) :
    Commits (rowLocks.assuming A) s (.appending r e) (do
      appendBusinessEvent r e
      done .finished) := by
  simp only [Commits, appendBusinessEvent, closes_bind, closes_query, closes_acquire, closes_ensure, closes_modify,
    closes_done, implies_true, and_true]
  intro s₀ _ s₁ hview hfree s₂ _ _
  have hrow : s.outbox.get r = s₁.outbox.get r := hview.2 (.row r) List.mem_cons_self
  refine .appended (List.mem_cons_of_mem _ List.mem_cons_self) ?_ rfl
  rw [hrow]
  exact Option.isNone_iff_eq_none.1 (Option.isSome_eq_false_iff.1 hfree)

lemma closes_firstDue (organisation : Option OrganisationId) (now : Time) (rs : List RowId) :
    ∀ held, (firstDue organisation now rs).Closes (rowLocks.assuming A) (fun _ => True) s
      (fun found y => y.own = id ∧ ∀ r row, found = some (r, row) → .row r ∈ y.held ∧
        s.outbox.get r = some row ∧ row.publishedAt = none) ⟨id, held, []⟩ := by
  induction rs with
  | nil =>
    intro held
    refine ⟨rfl, ?_⟩
    rintro r row ⟨⟩
  | cons r rest ih =>
    intro held
    simp only [firstDue, closes_bind, closes_attempt, if_true, Bool.false_eq_true, if_false]
    refine ⟨?_, ih held⟩
    rw [closes_query]
    intro s₀ hview
    split
    · next row hfound =>
      obtain ⟨hget, hclaim⟩ := Option.filter_eq_some_iff.1 hfound
      simp only [claimable, Bool.and_eq_true] at hclaim
      refine ⟨rfl, ?_⟩
      rintro _ _ ⟨⟩
      have hrow : s.outbox.get r = s₀.outbox.get r := hview.2 (.row r) List.mem_cons_self
      exact ⟨List.mem_cons_self, hrow.trans hget, Option.isNone_iff_eq_none.1 hclaim.1.1.1⟩
    · exact ih _

lemma claim_commits (now : Time) (organisation : Option OrganisationId) (token : Token) :
    Commits (rowLocks.assuming A) s (.claiming now organisation token) (do
      let claim ← claimEvent now organisation token
      done (claim.elim .finished (.publishing now))) := by
  simp only [Commits, claimEvent, closes_bind, closes_query]
  intro s₀ _
  refine (closes_firstDue organisation now _ []).imp ?_
  rintro found y ⟨hown, hfound⟩
  cases found with
  | none =>
    simp only [closes_done, Option.elim, hown]
    exact .same
  | some e =>
    obtain ⟨hlocked, hrow, hopen⟩ := hfound e.1 e.2 rfl
    simp only [closes_bind, closes_modify, closes_done, Option.elim, Pending.apply_own, Pending.apply_held, hown]
    exact .claimed hlocked hrow hopen

lemma release_commits {l : Worker} {claim : ClaimedEvent} {change : BusinessEventOutbox → BusinessEventOutbox}
    (hclaim : l.claim? = some claim) (hchange : ∀ row, Rewrites l row (change row)) :
    Commits (rowLocks.assuming A) s l (do
      release claim change
      done .finished) := by
  simp only [Commits, release, closes_bind, closes_query]
  intro s₀ hview
  split
  · exact .same
  · next row hrow =>
    refine (closes_ite _ _ _).2 ⟨fun _ => ?_, fun _ => .same⟩
    simp only [closes_bind, closes_acquire, closes_modify, closes_done]
    exact .rewritten List.mem_cons_self hclaim ⟨s₀, hview, hrow⟩ (hchange row)

inductive Consumption (s : EventState) (d : Redelivery) : Bool → Pending EventState EventKey Empty → Prop
  | replay {y} : y.own = id → s.consumed.get d.key = some d.marker → Consumption s d false y
  | first {y} : y.own = (fun s => s.putMarker d.key d.marker) → .marker d.key ∈ y.held →
      s.consumed.get d.key = none → Consumption s d true y

lemma closes_recordConsumption (d : Redelivery) :
    (recordConsumption d).Closes (rowLocks.assuming A) (fun _ => True) s (Consumption s d) .init := by
  simp only [recordConsumption, closes_bind, closes_query]
  intro s₀ hview
  split
  · next m hm =>
    -- a marker that was there is there
    simp only [assertIdenticalReplay, closes_bind, closes_ensure, closes_done, implies_true, and_true]
    rintro rfl
    exact .replay rfl (hview.1.1.markers _ _ hm)
  · -- the race: the insert is made, or the marker of another is read
    have hlater : ∀ x : Pending EventState EventKey Empty, x.own = id → ((do
        let concurrent ← query fun s => s.consumed.get d.key
        let m ← require concurrent .integrity
        assertIdenticalReplay m d
        done false) : EventTx Bool).Closes (rowLocks.assuming A) (fun _ => True) s (Consumption s d) x := by
      intro x hx
      simp only [assertIdenticalReplay, closes_bind, closes_query, closes_require, closes_ensure, closes_done,
        implies_true, and_true, hx]
      intro s₁ hview₁ m hm heq
      subst heq
      exact .replay hx (hview₁.1.1.markers _ _ hm)
    simp only [insertMarker, closes_bind, closes_attempt, closes_query]
    refine ⟨fun s₁ hview₁ => ?_, fun s₁ hview₁ => ?_⟩
    · split
      · exact hlater _ rfl
      · next hnone =>
        have hsame : s.consumed.get d.key = s₁.consumed.get d.key := hview₁.2 (.marker d.key) List.mem_cons_self
        simp only [closes_bind, closes_ensure, closes_modify, closes_done, if_true, implies_true, and_true]
        intro _
        exact .first rfl List.mem_cons_self (hsame.trans hnone)
    · split
      · exact hlater _ rfl
      · simp only [closes_bind, closes_ensure, Bool.false_eq_true, implies_true, and_true, false_implies]

lemma consume_commits (d : Redelivery) :
    Commits (rowLocks.assuming A) s (.consuming d) (do
      let first ← consume d
      done (.consumed d first)) := by
  simp only [Commits, consume, closes_bind]
  refine (closes_recordConsumption d).imp ?_
  intro first y hfound
  cases hfound with
  | replay hown hmarker =>
    simp only [Bool.false_eq_true, if_false, closes_bind, closes_done, hown]
    exact .replayed hmarker
  | first hown hlocked hfree =>
    simp only [if_true, closes_bind, closes_modify, closes_done, Pending.apply_own, Pending.apply_held, hown]
    exact .consumed hlocked hfree

theorem events_commits {l : Worker} {t : EventTx Worker} (h : (events firstByte).txn l = some t) :
    Commits (rowLocks.assuming A) s l t := by
  cases l with
  | appending r e =>
    cases h
    exact append_commits r e
  | claiming now organisation token =>
    cases h
    exact claim_commits now organisation token
  | marking now claim =>
    cases h
    exact release_commits rfl fun _ => .published
  | failing now claim =>
    cases h
    exact release_commits rfl fun _ => .postponed firstByte
  | consuming d =>
    cases h
    exact consume_commits d
  | publishing now claim => cases h
  | consumed d first => cases h
  | finished => cases h

end Specs

structure Sound (s : EventState) : Prop where
  published : ∀ r row, s.outbox.get r = some row → row.publishedAt.isSome = true → row.message ∈ s.accepted
  effects : ∀ k, s.effects.filter (fun e => e.1 = k) = (s.consumed.get k).toList.map fun m => (k, m)

def EventState.Holds (s : EventState) (claim : ClaimedEvent) : Prop :=
  ∃ row, s.outbox.get claim.row = some row ∧ row.message = claim.message

def Stands : Worker → EventState → Prop
  | .publishing _ claim, s => s.Holds claim
  | .marking _ claim, s => s.Holds claim ∧ claim.message ∈ s.accepted
  | .consumed d _, s => s.consumed.get d.key = some d.marker
  | _, _ => True

section Steps

variable {A : EventState → Prop} {s s' : EventState} {l l' : Worker} {locks : List EventKey}

lemma Grows.stands (h : Grows s s') (hl : Stands l s) : Stands l s' := by
  have hholds : ∀ claim, s.Holds claim → s'.Holds claim := by
    rintro claim ⟨row, hrow, hmessage⟩
    obtain ⟨row', hrow', hadv⟩ := h.rows _ _ hrow
    exact ⟨row', hrow', hadv.message.trans hmessage⟩
  cases l with
  | publishing now claim => exact hholds claim hl
  | marking now claim => exact ⟨hholds claim hl.1, h.accepted _ hl.2⟩
  | consumed d first => exact h.markers _ _ hl
  | _ => trivial

lemma patch_publishedAt (row row' current : BusinessEventOutbox) :
    (BusinessEventOutbox.patch row row' current).publishedAt =
      patched row.publishedAt row'.publishedAt current.publishedAt := rfl

lemma patch_message (row row' current : BusinessEventOutbox) :
    (BusinessEventOutbox.patch row row' current).message = current.message := rfl

lemma postponed_publishedAt (firstByte : Digest → ℕ) (now : Time) (row : BusinessEventOutbox) :
    (row.postponed firstByte now).publishedAt = row.publishedAt := by
  -- a plain `rfl` would have the kernel compare the rows, times included
  cases row
  rfl

lemma Rewrites.advances (h : Rewrites l row row') (current : BusinessEventOutbox) :
    Advances current (BusinessEventOutbox.patch row row' current) := by
  refine ⟨rfl, fun hp => ⟨?_, rfl⟩⟩
  rw [patch_publishedAt]
  cases h with
  | @published now =>
    rcases patched_or row.publishedAt (row.published now).publishedAt current.publishedAt with heq | heq
    · rw [heq]
      exact hp
    · rw [heq]
      rfl
  | postponed firstByte =>
    rw [postponed_publishedAt, patched_self]
    exact hp

lemma keeps_putRow {r : RowId} (hlocked : .row r ∈ locks)
    (h : ∀ current, s.outbox.get r = some current → current.publishedAt = none ∧ row.message = current.message) :
    rowLocks.Keeps locks s (s.putRow r row) := by
  have hget : ∀ r', (s.putRow r row).outbox.get r' = if r' = r then some row else s.outbox.get r' :=
    fun r' => Table.get_put _ _ _ _
  refine ⟨⟨fun r' current hcurrent => ?_, fun _ _ hm => hm, fun _ hm => hm⟩, fun key hkey => ?_⟩
  · rw [hget]
    by_cases hr : r' = r
    · subst hr
      obtain ⟨hopen, hmessage⟩ := h current hcurrent
      refine ⟨row, if_pos rfl, hmessage, fun hp => ?_⟩
      rw [hopen] at hp
      cases hp
    · exact ⟨current, by rw [if_neg hr, hcurrent], .refl current⟩
  · cases key with
    | row r' =>
      refine (hget r').trans (if_neg ?_)
      rintro rfl
      exact hkey hlocked
    | marker k => rfl
    | eventId e => trivial

theorem Effect.keeps (h : Effect (rowLocks.assuming A) s l l' locks s') : rowLocks.Keeps locks s s' := by
  cases h with
  | same => exact ⟨.refl s, fun k _ => rowLocks.frame_refl k s⟩
  | appended hlocked hfree _ =>
    refine keeps_putRow hlocked fun current hcurrent => ?_
    rw [hfree] at hcurrent
    cases hcurrent
  | claimed hlocked hrow hopen =>
    refine keeps_putRow hlocked fun current hcurrent => ?_
    rw [hrow] at hcurrent
    cases hcurrent
    exact ⟨hopen, rfl⟩
  | @rewritten _ claim row row' _ hlocked _ _ hrewrites =>
    have hget : ∀ r, (s.updateRow claim.row (BusinessEventOutbox.patch row row')).outbox.get r =
        if r = claim.row then (s.outbox.get claim.row).map (BusinessEventOutbox.patch row row')
        else s.outbox.get r := fun r => Table.get_update _ _ _ _
    refine ⟨⟨fun r current hcurrent => ?_, fun _ _ hm => hm, fun _ hm => hm⟩, fun key hkey => ?_⟩
    · rw [hget]
      by_cases hr : r = claim.row
      · subst hr
        rw [if_pos rfl, hcurrent, Option.map_some]
        exact ⟨_, rfl, hrewrites.advances current⟩
      · exact ⟨current, by rw [if_neg hr, hcurrent], .refl current⟩
    · cases key with
      | row r =>
        refine (hget r).trans (if_neg ?_)
        rintro rfl
        exact hkey hlocked
      | marker k => rfl
      | eventId e => trivial
  | replayed _ => exact ⟨.refl s, fun k _ => rowLocks.frame_refl k s⟩
  | @consumed d _ hlocked hfree =>
    have hget : ∀ k, ((s.putMarker d.key d.marker).addEffect d.key d.marker).consumed.get k =
        if k = d.key then some d.marker else s.consumed.get k := fun k => Table.get_put _ _ _ _
    refine ⟨⟨fun r row hrow => ⟨row, hrow, .refl row⟩, fun k m hm => ?_, fun _ hm => hm⟩, fun key hkey => ?_⟩
    · rw [hget]
      split
      · next hk =>
        rw [hk, hfree] at hm
        cases hm
      · exact hm
    · cases key with
      | row r => rfl
      | marker k =>
        refine (hget k).trans (if_neg ?_)
        rintro rfl
        exact hkey hlocked
      | eventId e => trivial

lemma Sound.of_rows (hs : Sound s) (hconsumed : s'.consumed = s.consumed) (heffects : s'.effects = s.effects)
    (hpublished : ∀ r row, s'.outbox.get r = some row → row.publishedAt.isSome = true → row.message ∈ s'.accepted) :
    Sound s' := by
  refine ⟨hpublished, fun k => ?_⟩
  rw [hconsumed, heffects]
  exact hs.effects k

theorem Effect.sound (h : Effect (rowLocks.assuming A) s l l' locks s') (hs : Sound s) (hl : Stands l s) :
    Sound s' ∧ Stands l' s' := by
  cases h with
  | same => exact ⟨hs, trivial⟩
  | @appended _ r row _ _ _ hopen =>
    refine ⟨hs.of_rows rfl rfl (Table.forall_put hs.published fun hp => ?_), trivial⟩
    rw [hopen] at hp
    cases hp
  | @claimed now _ token r row _ _ hrow hopen =>
    refine ⟨hs.of_rows rfl rfl (Table.forall_put hs.published fun hp => ?_), row.lease token now,
      Table.get_put_self _ _ _, rfl⟩
    change row.publishedAt.isSome = true at hp
    rw [hopen] at hp
    cases hp
  | @rewritten _ claim row row' _ _ hclaim _ hrewrites =>
    refine ⟨hs.of_rows rfl rfl fun r new hnew hp => ?_, trivial⟩
    have hget : (s.updateRow claim.row (BusinessEventOutbox.patch row row')).outbox.get r =
        if r = claim.row then (s.outbox.get claim.row).map (BusinessEventOutbox.patch row row')
        else s.outbox.get r := Table.get_update _ _ _ _
    rw [hget] at hnew
    split at hnew
    · obtain ⟨current, hcurrent, rfl⟩ := Option.map_eq_some_iff.1 hnew
      rw [patch_message]
      cases hrewrites with
      | published =>
        -- the worker that marks has seen its message taken
        cases hclaim
        obtain ⟨⟨held, hheld, hmessage⟩, haccepted⟩ := hl
        rw [hcurrent] at hheld
        cases hheld
        rw [hmessage]
        exact haccepted
      | @postponed now _ _ firstByte =>
        rw [patch_publishedAt, postponed_publishedAt, patched_self] at hp
        exact hs.published _ current hcurrent hp
    · exact hs.published r new hnew hp
  | replayed hmarker => exact ⟨hs, hmarker⟩
  | @consumed d _ _ hfree =>
    refine ⟨⟨hs.published, fun k => ?_⟩, Table.get_put_self _ _ _⟩
    have hget : ((s.putMarker d.key d.marker).addEffect d.key d.marker).consumed.get k =
        if k = d.key then some d.marker else s.consumed.get k := Table.get_put _ _ _ _
    change (s.effects ++ [(d.key, d.marker)]).filter (fun e => e.1 = k) = _
    rw [hget, List.filter_append, hs.effects k]
    by_cases hk : k = d.key
    · subst hk
      simp [hfree]
    · simp [hk, Ne.symm hk]

end Steps

theorem events_relies (firstByte : Digest → ℕ) :
    Relies .free (fun _ => rowLocks) (events firstByte) Grows Sound Stands where
  grows_refl := .refl
  grows_trans := .trans
  spawn {l s} _ hl := by
    cases l with
    | publishing now claim => cases hl
    | marking now claim => cases hl
    | consumed d first => cases hl
    | _ => trivial
  commit {s l t l' y} hs hl ht he _ := by
    have heffect := (he.closes (closes_atCommit (events_commits ht))).1 l' rfl
    obtain ⟨hs', hl'⟩ := heffect.sound hs hl
    have hkeeps := heffect.keeps
    exact ⟨hkeeps.1, hs', hl', guarantees_of_keeps _ _ hkeeps fun m hm => hkeeps.1.stands hm⟩
  fail _ _ := trivial
  act {s l l' s'} hs hl ha _ := by
    have haccept : ∀ m, Grows s (s.accept m) := fun m => .of_eq rfl rfl fun _ h => List.mem_append_left _ h
    have hsound : ∀ m, Sound (s.accept m) := fun m =>
      hs.of_rows rfl rfl fun r row hrow hp => (haccept m).accepted _ (hs.published r row hrow hp)
    have hkeeps : ∀ m, rowLocks.Keeps [] s (s.accept m) := by
      refine fun m => ⟨haccept m, fun key _ => ?_⟩
      cases key with
      | eventId e => trivial
      | _ => rfl
    cases ha with
    | @accepted now claim =>
      refine ⟨haccept _, hsound _, ⟨hl, List.mem_append_right _ (List.mem_singleton.2 rfl)⟩, ?_⟩
      exact guarantees_of_keeps _ _ (hkeeps _) fun m hm => (haccept _).stands hm
    | unheard =>
      exact ⟨haccept _, hsound _, trivial, guarantees_of_keeps _ _ (hkeeps _) fun m hm => (haccept _).stands hm⟩
    | failed =>
      have hsame : rowLocks.Keeps [] s s := ⟨.refl s, fun key _ => rowLocks.frame_refl key s⟩
      exact ⟨.refl s, hs, trivial, guarantees_of_keeps _ _ hsame fun m hm => hm⟩
  env {s s'} hs he _ := by
    cases he with
    | @tick now _ =>
      have hgrows : Grows s { s with now := now } := .of_eq rfl rfl fun _ h => h
      refine ⟨hgrows, ⟨hs.published, hs.effects⟩, fun m held hm => ⟨⟨hgrows, fun key _ => ?_⟩, hgrows.stands hm⟩⟩
      cases key with
      | eventId e => trivial
      | _ => rfl

lemma sound_start (now : Time) : Sound (.start now) := by
  refine ⟨?_, fun k => rfl⟩
  rintro r row ⟨⟩

section Alone

variable {s : EventState} {now : Time}

lemma mem_due {organisation : Option OrganisationId} {r : RowId} : r ∈ due organisation now s ↔
    ∃ row, s.outbox.get r = some row ∧ claimable organisation now row = true := by
  simp only [due, List.mem_map, List.mem_insertionSort, List.mem_filter]
  constructor
  · rintro ⟨⟨r', row⟩, ⟨hmem, hclaim⟩, rfl⟩
    exact ⟨row, Table.mem_rows.1 hmem, hclaim⟩
  · rintro ⟨row, hrow, hclaim⟩
    exact ⟨(r, row), ⟨Table.mem_rows.2 hrow, hclaim⟩, rfl⟩

lemma exec_claimEvent (token : Token) {r : RowId} {rest : List RowId}
    (hdue : due none now s = r :: rest) (hrow : s.outbox.get r = some row) (hclaim : claimable none now row = true) :
    (claimEvent now none token).exec s = .ok (some ⟨r, token, row.message⟩, s.putRow r (row.lease token now)) := by
  have hfound : (s.outbox.get r).filter (claimable none now) = some row := by rw [hrow, Option.filter_some, if_pos hclaim]
  have hfirst : (firstDue none now (due none now s)).exec s = .ok (some (r, row), s) := by
    rw [hdue]
    simp only [firstDue, exec_attempt_bind, if_true, exec_query_bind, hfound]
    rfl
  simp only [claimEvent, exec_query_bind]
  exact exec_bind_ok hfirst _

lemma lease_not_claimable (row : BusinessEventOutbox) (token : Token) (now : Time) :
    claimable none now (row.lease token now) = false := by
  -- for a lease of any length: the kernel would count the microseconds of this one
  have hlength : ∀ n, 0 < n → claimable none now { row with
      leaseToken := some token
      leaseExpiresAt := some (now + n)
      publishAttempts := row.publishAttempts + 1 } = false := by
    intro n hn
    simp only [claimable, Option.all_some, Bool.and_eq_false_iff, decide_eq_false_iff_not]
    exact .inr (Nat.not_le.2 (Nat.lt_add_of_pos_right hn))
  exact hlength (seconds leaseSeconds) (by decide)

lemma reach_claim (firstByte : Digest → ℕ) {r : RowId} (hclaim : claimable none now row = true) (token : Token) :
    ∀ n s, s.outbox.count (fun _ row => claimable none now row) = n → s.outbox.get r = some row → s.now = now →
      ∃ s', Reach (events firstByte) (.idle s) (.resting s' [.publishing now ⟨r, token, row.message⟩]) ∧
        s'.now = now := by
  intro n
  induction n with
  | zero =>
    intro s hcount hrow _
    have hpos : 0 < s.outbox.count fun _ row => claimable none now row := by
      apply List.countP_pos_iff.2
      exact ⟨(r, row), Table.mem_rows.2 hrow, hclaim⟩
    omega
  | succ n ih =>
    intro s hcount hrow hnow
    cases hdue : due none now s with
    | nil =>
      have hmem : r ∈ due none now s := mem_due.2 ⟨row, hrow, hclaim⟩
      rw [hdue] at hmem
      cases hmem
    | cons r₁ rest =>
      obtain ⟨row₁, hrow₁, hclaim₁⟩ : ∃ row₁, s.outbox.get r₁ = some row₁ ∧ claimable none now row₁ = true :=
        mem_due.1 (by rw [hdue]; exact List.mem_cons_self)
      have hexec := exec_claimEvent token hdue hrow₁ hclaim₁
      let s₁ := s.putRow r₁ (row₁.lease token now)
      have hrun : Reach (events firstByte) (.idle s) (.resting s₁ [.publishing now ⟨r₁, token, row₁.message⟩]) := by
        apply Reach.alone (l := .claiming now none token) trivial rfl
        rw [atCommit_empty]
        exact exec_bind_ok hexec _
      by_cases hr : r₁ = r
      · subst hr
        rw [hrow] at hrow₁
        cases hrow₁
        exact ⟨s₁, hrun, hnow⟩
      · -- the publisher that claimed another row is lost, and one row less is due
        have hcount₁ : s₁.outbox.count (fun _ row => claimable none now row) = n := by
          have hput := s.outbox.count_put (fun _ row => claimable none now row) r₁ (row₁.lease token now)
          simp only [hrow₁, Option.any_some, hclaim₁, lease_not_claimable, if_true, Bool.false_eq_true, if_false] at hput
          have hsame : s₁.outbox.count (fun _ row => claimable none now row) =
            (s.outbox.put r₁ (row₁.lease token now)).count fun _ row => claimable none now row := rfl
          omega
        have hrow' : s₁.outbox.get r = some row := (Table.get_put_ne _ _ (Ne.symm hr)).trans hrow
        obtain ⟨s', hreach, hnow'⟩ := ih s₁ hcount₁ hrow' hnow
        refine ⟨s', (hrun.trans ?_).trans hreach, hnow'⟩
        exact Reach.crashes _ _ _

lemma exec_consume_conflict {d : Redelivery} {m : Marker} (hm : s.consumed.get d.key = some m) (hne : m ≠ d.marker) :
    (consume d).exec s = .error replayConflict := by
  have hrecord : (recordConsumption d).exec s = .error replayConflict := by
    simp only [recordConsumption, exec_query_bind, hm, assertIdenticalReplay, exec_ensure_bind, hne, if_false]
  exact exec_bind_error hrecord _

lemma exec_consume_replay {d : Redelivery} (hm : s.consumed.get d.key = some d.marker) :
    (consume d).exec s = .ok (false, s) := by
  have hrecord : (recordConsumption d).exec s = .ok (false, s) := by
    simp only [recordConsumption, exec_query_bind, hm, assertIdenticalReplay, exec_ensure_bind, if_true]
    rfl
  exact exec_bind_ok hrecord _

lemma exec_consume_first {d : Redelivery} (hm : s.consumed.get d.key = none) :
    (consume d).exec s = .ok (true, (s.putMarker d.key d.marker).addEffect d.key d.marker) := by
  have hinsert : (insertMarker d).exec s = .ok (true, s.putMarker d.key d.marker) := by
    simp only [insertMarker, exec_attempt_bind, exec_query_bind, hm, exec_ensure_bind, if_true, exec_modify_bind]
    rfl
  have hrecord : (recordConsumption d).exec s = .ok (true, s.putMarker d.key d.marker) := by
    simp only [recordConsumption, exec_query_bind, hm]
    exact exec_bind_ok hinsert _
  exact exec_bind_ok hrecord _

end Alone

structure Delivers (firstByte : Digest → ℕ) (c c' : Config EventState EventKey Error Worker) : Prop where
  published : ∀ r row, c.shared.outbox.get r = some row → row.publishedAt.isSome = true →
    row.message ∈ c.shared.accepted ∧ ∃ row', c'.shared.outbox.get r = some row' ∧ row'.message = row.message ∧
      row'.publishedAt.isSome = true ∧ row'.publishAttempts = row.publishAttempts
  unpublished : ∀ r row, c.shared.outbox.get r = some row → row.publishedAt = none →
    ∃ t, ∀ now, t ≤ now → claimable none now row = true ∧ ∀ token, ∃ s',
      Reach (events firstByte) c (.resting s' [.publishing now ⟨r, token, row.message⟩]) ∧ s'.now = now
  effects : ∀ k, c.shared.effects.filter (fun e => e.1 = k) = (c.shared.consumed.get k).toList.map fun m => (k, m)
  consumed : ∀ d first, .consumed d first ∈ c.locs →
    c'.shared.effects.filter (fun e => e.1 = d.key) = [(d.key, d.marker)]
  first : ∀ d, c.shared.consumed.get d.key = none → (consume d).exec c.shared =
    .ok (true, (c.shared.putMarker d.key d.marker).addEffect d.key d.marker)
  replayed : ∀ d, c.shared.consumed.get d.key = some d.marker → (consume d).exec c'.shared = .ok (false, c'.shared)
  refused : ∀ d m, c.shared.consumed.get d.key = some m → m ≠ d.marker →
    (consume d).exec c'.shared = .error replayConflict ∧ ∀ first, .consumed d first ∉ c'.locs

lemma claimable_later (hopen : row.publishedAt = none) : ∃ t, ∀ now, t ≤ now → claimable none now row = true := by
  refine ⟨max row.nextAttemptAt (row.leaseExpiresAt.getD 0), fun now hnow => ?_⟩
  obtain ⟨hattempt, hlease⟩ := max_le_iff.1 hnow
  simp only [claimable, hopen, Option.isNone_none, Option.all_none, Bool.and_true, Bool.true_and, Bool.and_eq_true,
    decide_eq_true_eq]
  refine ⟨hattempt, ?_⟩
  cases hexpires : row.leaseExpiresAt with
  | none => rfl
  | some t =>
    rw [hexpires] at hlease
    exact decide_eq_true hlease

theorem outbox_delivers (firstByte : Digest → ℕ) (start : Time) {c c' : Config EventState EventKey Error Worker}
    (h : Reach (events firstByte) (.idle (.start start)) c) (h' : Reach (events firstByte) c c') :
    Delivers firstByte c c' := by
  have hrelies := events_relies firstByte
  have hlater : Grows c.shared c'.shared := hrelies.later (sound_start start) h.free h'.free
  obtain ⟨hsound, hstands⟩ := hrelies.reach (sound_start start) h.free
  obtain ⟨hsound', hstands'⟩ := hrelies.reach (sound_start start) (Reach.free (h.trans h'))
  refine ⟨fun r row hrow hp => ?_, fun r row hrow hopen => ?_, hsound.effects, fun d first hd => ?_,
    fun d hfree => exec_consume_first hfree, fun d hm => exec_consume_replay (hlater.markers _ _ hm),
    fun d m hm hne => ⟨exec_consume_conflict (hlater.markers _ _ hm) hne, fun first hd => ?_⟩⟩
  · obtain ⟨row', hrow', hadv⟩ := hlater.rows r row hrow
    exact ⟨hsound.published r row hrow hp, row', hrow', hadv.message, hadv.published hp⟩
  · obtain ⟨t, ht⟩ := claimable_later hopen
    refine ⟨max t c.shared.now, fun now hnow => ?_⟩
    obtain ⟨hdue, hclock⟩ := max_le_iff.1 hnow
    refine ⟨ht now hdue, fun token => ?_⟩
    -- whoever holds a lock is lost, time passes, and publishers come
    have hcrash : Reach (events firstByte) c (.idle c.shared) := Reach.crashes _ _ _
    have htick : Reach (events firstByte) (.idle c.shared) (.idle { c.shared with now := now }) :=
      .single (.env (.tick hclock))
    obtain ⟨s', hreach, hnow'⟩ := reach_claim firstByte (ht now hdue) token _ { c.shared with now := now } rfl hrow rfl
    exact ⟨s', (hcrash.trans htick).trans hreach, hnow'⟩
  · have hmarker := hlater.markers _ _ (hstands _ hd)
    rw [hsound'.effects, hmarker]
    rfl
  · have hmarker : c'.shared.consumed.get d.key = some d.marker := hstands' _ hd
    rw [hlater.markers _ _ hm] at hmarker
    exact hne (Option.some.inj hmarker)

namespace Sample

inductive Reply where
  | accepted
  | unheard

def player (firstByte : Digest → ℕ) : Player (events firstByte) Reply Time where
  spawn
    | .appending _ _ => true
    | .claiming _ _ _ => true
    | .consuming _ => true
    | _ => false
  act reply l s :=
    match reply, l with
    | .accepted, .publishing now claim => some (.marking now claim, s.accept claim.message)
    | .unheard, .publishing now claim => some (.failing now claim, s.accept claim.message)
    | _, _ => none
  env now s := if s.now ≤ now then some { s with now := now } else none
  spawn_sound {l} h := by
    cases l with
    | publishing now claim => cases h
    | marking now claim => cases h
    | failing now claim => cases h
    | consumed d first => cases h
    | finished => cases h
    | _ => trivial
  act_sound {reply l s l' s'} h := by
    cases l with
    | publishing now claim =>
      cases reply with
      | accepted =>
        cases h
        exact .accepted
      | unheard =>
        cases h
        exact .unheard
    | _ => cases reply <;> cases h
  env_sound {now s s'} h := by
    simp only [Option.ite_none_right_eq_some, Option.some.injEq] at h
    obtain ⟨hnow, rfl⟩ := h
    exact .tick hnow

def event : NewBusinessEvent where
  organisation := 1
  organisationPublicId := "org_1"
  environment := 1
  environmentPublicId := "env_1"
  eventType := "payment.succeeded"
  resourceType := "payment"
  resourceId := "pay_1"
  payload := []
  occurredAt := 0
  eventId := "bev_1"

def delivery : Redelivery := ⟨"billing", "bev_1", 1, 1, sha256 []⟩

def twice : List (Move Worker Reply Time) :=
  [.spawn (.appending 1 event), .run 0, .spawn (.claiming 0 none 7), .run 1, .act 1 .unheard, .run 1,
    .env 60000000, .spawn (.claiming 60000000 none 8), .run 2, .act 2 .accepted, .run 2,
    .spawn (.consuming delivery), .run 3]

def counts (s : EventState) : Option (ℕ × ℕ × ℕ) :=
  (s.outbox.get 1).bind fun row => row.publishedAt.map fun _ =>
    (row.publishAttempts, s.accepted.length, s.effects.length)

end Sample

section Samples

open Sample

theorem outbox_delivers_twice : ∃ c c' : Config EventState EventKey Error Worker,
    Reach (events fun _ => 0) (.idle (.start 0)) c ∧ Reach (events fun _ => 0) c c' ∧
    counts c.shared = some (2, 2, 1) ∧ counts c'.shared = some (2, 2, 1) ∧ Delivers (fun _ => 0) c c' := by
  obtain ⟨c, c', h, h', hc, hc'⟩ := Referee.free.stages (player fun _ => 0) (.start 0) twice
    [.spawn (.consuming delivery), .run 4] counts counts (2, 2, 1) (2, 2, 1) (by decide +kernel)
  exact ⟨c, c', h.reach, h'.reach, hc, hc', outbox_delivers _ 0 h.reach h'.reach⟩

end Samples

end RelayPay.Events
