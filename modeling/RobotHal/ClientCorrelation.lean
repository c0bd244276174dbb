import RobotHal.Client

/-!
Requests and responses of one connection are matched one to one.

The ids in the request table are split into pending, cancelled and completed ones. A block under
the lock moves ids between the three sets or takes them out; none puts an id into two of them. A
future gets what was sent under its own id.
-/

namespace RobotHal.Client

variable {x : ExpectedResponse} {r : RequestState}
variable {expected : ExpectedResponse} {error : HalError} {extra : Option (ℕ × ExpectedResponse)}
  {replies : List ℕ} {j : ℕ}

/-! ### The request table -/

namespace RequestState

variable {r r' : RequestState} {capacity id : ℕ} {issued : List ℕ}

structure Inv (capacity : ℕ) (issued : List ℕ) (r : RequestState) : Prop where
  increasing : issued.Pairwise (· < ·)
  ids : ∀ id ∈ issued, 2 ≤ id
  next : r.nextRequestId = 0 ∨ 2 ≤ r.nextRequestId ∧ ∀ id ∈ issued, id < r.nextRequestId
  pending_issued : ∀ id x, r.pending.lookup id = some x → id ∈ issued
  cancelled_issued : ∀ id x, r.cancelled.lookup id = some x → id ∈ issued
  completed_issued : ∀ id ∈ r.completed, id = 1 ∨ id ∈ issued
  pending_cancelled : ∀ id x, r.pending.lookup id = some x → r.cancelled.lookup id = none
  pending_completed : ∀ id x, r.pending.lookup id = some x → id ∉ r.completed
  cancelled_completed : ∀ id x, r.cancelled.lookup id = some x → id ∉ r.completed
  pending_le : r.pending.entries.length ≤ capacity
  cancelled_le : r.terminal = none → r.cancelled.entries.length ≤ capacity
  order_nodup : r.completedOrder.Nodup
  order_eq : r.completedOrder.toFinset = r.completed
  order_le : r.completedOrder.length ≤ capacity
  terminal : r.terminal.isSome = true → r.pending = ∅

lemma inv_initial (h : 0 < capacity) : Inv capacity [] {} where
  increasing := .nil
  ids _ hid := absurd hid List.not_mem_nil
  next := .inr ⟨le_rfl, fun _ hid => absurd hid List.not_mem_nil⟩
  pending_issued _ _ hx := by simp at hx
  cancelled_issued _ _ hx := by simp at hx
  completed_issued _ hid := .inl (Finset.mem_singleton.mp hid)
  pending_cancelled _ _ hx := by simp at hx
  pending_completed _ _ hx := by simp at hx
  cancelled_completed _ _ hx := by simp at hx
  pending_le := Nat.zero_le _
  cancelled_le _ := Nat.zero_le _
  order_nodup := List.nodup_singleton 1
  order_eq := rfl
  order_le := h
  terminal _ := rfl

lemma begin_eq_ok (h : r.begin capacity expected = .ok (id, r')) :
    r.terminal = none ∧ r.pending.entries.length < capacity ∧ r.nextRequestId ≠ 0 ∧
    id = r.nextRequestId ∧
    r' = { r with
      nextRequestId := (checkedAdd r.nextRequestId 1).getD 0
      pending := r.pending.insert id expected } := by
  unfold begin takeRequestId at h
  split at h
  · cases h
  · rename_i hterm
    split at h
    · cases h
    · rename_i hcap
      split at h
      · cases h
      · rename_i hx
        split at hx
        · cases hx
        · rename_i hne
          cases hx
          cases h
          exact ⟨hterm, Nat.lt_of_not_le hcap, hne, rfl, rfl⟩

lemma Inv.begin (h : Inv capacity issued r) (hb : r.begin capacity expected = .ok (id, r')) :
    Inv capacity (issued ++ [id]) r' := by
  obtain ⟨hterm, hlt, hne, hid, rfl⟩ := begin_eq_ok hb
  obtain ⟨h2, hall⟩ := h.next.resolve_left hne
  have hfresh : id ∉ issued := by
    intro hmem
    have := hall id hmem
    omega
  have hmem : ∀ {j}, j ∈ issued → j ∈ issued ++ [id] := fun hj => List.mem_append_left _ hj
  refine
    { increasing := ?_, ids := ?_, next := ?_, pending_issued := ?_, pending_le := ?_
      pending_cancelled := ?_, pending_completed := ?_
      cancelled_issued := fun j x hx => hmem (h.cancelled_issued j x hx)
      completed_issued := fun j hj => (h.completed_issued j hj).imp_right hmem
      cancelled_completed := h.cancelled_completed
      cancelled_le := h.cancelled_le
      order_nodup := h.order_nodup
      order_eq := h.order_eq
      order_le := h.order_le
      terminal := fun hs => by simp [hterm] at hs }
  · refine List.pairwise_append.mpr ⟨h.increasing, List.pairwise_singleton _ _, ?_⟩
    intro j hj k hk
    rw [List.mem_singleton.mp hk, hid]
    exact hall j hj
  · intro j hj
    rcases List.mem_append.mp hj with hj | hj
    · exact h.ids j hj
    · rw [List.mem_singleton.mp hj, hid]
      exact h2
  · -- the counter goes to zero when it runs out
    cases hc : checkedAdd r.nextRequestId 1 with
    | none => exact .inl rfl
    | some n =>
      obtain ⟨rfl, -⟩ := checkedAdd_eq_some.mp hc
      refine .inr ⟨Nat.le_succ_of_le h2, fun j hj => ?_⟩
      simp only [Option.getD_some]
      rcases List.mem_append.mp hj with hj | hj
      · have := hall j hj
        omega
      · have := List.mem_singleton.mp hj
        omega
  · intro j x hx
    rw [Assoc.lookup_insert_ite] at hx
    split at hx
    · simp [*]
    · exact hmem (h.pending_issued j x hx)
  · intro j x hx
    rcases Assoc.of_lookup_insert hx with ⟨rfl, -⟩ | hx
    · by_contra hc
      obtain ⟨y, hy⟩ := Option.ne_none_iff_exists'.mp hc
      exact hfresh (h.cancelled_issued _ y hy)
    · exact h.pending_cancelled j x hx
  · intro j x hx
    rcases Assoc.of_lookup_insert hx with ⟨rfl, -⟩ | hx
    · -- a new id is not completed yet
      intro hc
      rcases h.completed_issued _ hc with h1 | hc
      · omega
      · exact hfresh hc
    · exact h.pending_completed j x hx
  · rw [Assoc.length_insert]
    split <;> omega

lemma Inv.removePending (h : Inv capacity issued r) (id : ℕ) :
    Inv capacity issued (r.removePending id) := by
  have hsub : ∀ j x, (r.pending.erase id).lookup j = some x → r.pending.lookup j = some x :=
    fun _ _ hx => (Assoc.of_lookup_erase hx).2
  exact
    { h with
      pending_issued := fun j x hx => h.pending_issued j x (hsub j x hx)
      pending_cancelled := fun j x hx => h.pending_cancelled j x (hsub j x hx)
      pending_completed := fun j x hx => h.pending_completed j x (hsub j x hx)
      pending_le := (Assoc.length_erase_le _ _).trans h.pending_le
      terminal := fun ht => by
        simp only [RequestState.removePending, h.terminal ht]
        rfl }

lemma Inv.removeCancelled (h : Inv capacity issued r) (id : ℕ) :
    Inv capacity issued { r with cancelled := r.cancelled.erase id } := by
  have hsub : ∀ j x, (r.cancelled.erase id).lookup j = some x → r.cancelled.lookup j = some x :=
    fun _ _ hx => (Assoc.of_lookup_erase hx).2
  exact
    { h with
      cancelled_issued := fun j x hx => h.cancelled_issued j x (hsub j x hx)
      cancelled_completed := fun j x hx => h.cancelled_completed j x (hsub j x hx)
      pending_cancelled := fun j x hx => by
        rw [Assoc.lookup_erase_ite, h.pending_cancelled j x hx, ite_self]
      cancelled_le := fun ht => (Assoc.length_erase_le _ _).trans (h.cancelled_le ht) }

lemma trim_spec (capacity : ℕ) {order : List ℕ} {completed : Finset ℕ} (hn : order.Nodup)
    (he : order.toFinset = completed) :
    (trim capacity order completed).1.Nodup ∧
    (trim capacity order completed).1.toFinset = (trim capacity order completed).2 ∧
    (trim capacity order completed).1.length ≤ capacity ∧
    (trim capacity order completed).2 ⊆ completed := by
  induction order generalizing completed with
  | nil => exact ⟨hn, he, Nat.zero_le _, Finset.Subset.refl _⟩
  | cons oldest order ih =>
    obtain ⟨hnot, hn'⟩ := List.nodup_cons.mp hn
    rw [trim]
    split
    · -- the oldest is forgotten
      have he' : order.toFinset = completed.erase oldest := by
        rw [← he, List.toFinset_cons, Finset.erase_insert (by simpa using hnot)]
      obtain ⟨h1, h2, h3, h4⟩ := ih hn' he'
      exact ⟨h1, h2, h3, h4.trans (Finset.erase_subset _ _)⟩
    · rename_i hle
      exact ⟨hn, he, Nat.le_of_not_lt hle, Finset.Subset.refl _⟩

lemma Inv.rememberCompleted (h : Inv capacity issued r) (hid : id ∈ issued)
    (hp : r.pending.lookup id = none) (hc : r.cancelled.lookup id = none) :
    Inv capacity issued (r.rememberCompleted id capacity) := by
  have horder : (if id ∈ r.completed then r.completedOrder else r.completedOrder ++ [id]).Nodup ∧
      (if id ∈ r.completed then r.completedOrder else r.completedOrder ++ [id]).toFinset =
        insert id r.completed := by
    split
    · rename_i hmem
      exact ⟨h.order_nodup, by rw [h.order_eq, Finset.insert_eq_of_mem hmem]⟩
    · rename_i hmem
      rw [← h.order_eq, List.mem_toFinset] at hmem
      refine ⟨List.nodup_append.mpr ⟨h.order_nodup, List.nodup_singleton id, ?_⟩, ?_⟩
      · rintro a ha b hb rfl
        exact hmem (List.mem_singleton.mp hb ▸ ha)
      · rw [List.toFinset_append, h.order_eq, List.toFinset_cons, List.toFinset_nil,
          Finset.insert_empty, Finset.union_comm, Finset.insert_eq]
  obtain ⟨h1, h2, h3, h4⟩ := trim_spec capacity horder.1 horder.2
  have hnew : ∀ j ∈ (r.rememberCompleted id capacity).completed, j = id ∨ j ∈ r.completed :=
    fun j hj => Finset.mem_insert.mp (h4 hj)
  exact
    { h with
      completed_issued := fun j hj => (hnew j hj).elim (fun he => .inr (he ▸ hid))
        (h.completed_issued j)
      pending_completed := fun j x hx hj => by
        rcases hnew j hj with rfl | hj
        · exact Option.some_ne_none x (hx.symm.trans hp)
        · exact h.pending_completed j x hx hj
      cancelled_completed := fun j x hx hj => by
        rcases hnew j hj with rfl | hj
        · exact Option.some_ne_none x (hx.symm.trans hc)
        · exact h.cancelled_completed j x hx hj
      order_nodup := h1
      order_eq := h2
      order_le := h3 }

/-- What is cancelled after the connection ended was cancelled or pending before. -/
lemma Inv.beginTermination (h : Inv capacity issued r)
    (hextra : ∀ e ∈ extra, e.1 ∈ issued ∧ e.1 ∉ r.completed)
    (ht : r.beginTermination error extra = some (r', replies)) : Inv capacity issued r' := by
  unfold RequestState.beginTermination at ht
  split at ht
  · cases ht
  cases ht
  have hall : ∀ j x, (((r.pending.entries.map fun e => (e.1, e.2)) ++ extra.toList).foldl
      (fun m e => m.insert e.1 e.2) r.cancelled).lookup j = some x →
      j ∈ issued ∧ j ∉ r.completed := by
    intro j x hx
    rcases Assoc.lookup_foldl_insert hx with hx | hj
    · exact ⟨h.cancelled_issued j x hx, h.cancelled_completed j x hx⟩
    · rw [List.map_append, List.mem_append] at hj
      rcases hj with hj | hj
      · -- it was pending
        obtain ⟨⟨k, y⟩, he, rfl⟩ := List.mem_map.mp hj
        obtain ⟨⟨k', y'⟩, he', heq⟩ := List.mem_map.mp he
        cases heq
        have hy := Assoc.mem_entries_iff.mp he'
        exact ⟨h.pending_issued _ _ hy, h.pending_completed _ _ hy⟩
      · -- it is being cancelled
        obtain ⟨e, he, rfl⟩ := List.mem_map.mp hj
        exact hextra e (by simpa using he)
  exact
    { h with
      pending_issued := fun _ _ hx => by simp at hx
      pending_cancelled := fun _ _ hx => by simp at hx
      pending_completed := fun _ _ hx => by simp at hx
      pending_le := Nat.zero_le _
      cancelled_issued := fun j x hx => (hall j x hx).1
      cancelled_completed := fun j x hx => (hall j x hx).2
      cancelled_le := nofun
      terminal := fun _ => rfl }

lemma Inv.cancel (h : Inv capacity issued r) (id : ℕ) :
    Inv capacity issued (r.cancel id capacity).1 := by
  unfold RequestState.cancel
  split
  · exact h
  rename_i expected hx
  have hrem := h.removePending id
  have hid := h.pending_issued id expected hx
  have hnot := h.pending_completed id expected hx
  dsimp only
  split
  · -- the cancelled ones are too many
    cases ht : (r.removePending id).beginTermination cancelledFull (some (id, expected)) with
    | none => exact hrem
    | some p =>
      refine hrem.beginTermination ?_ ht
      intro e he
      cases he
      exact ⟨hid, hnot⟩
  · rename_i hlt
    have hsub : ∀ j x, (r.cancelled.insert id expected).lookup j = some x →
        j = id ∨ r.cancelled.lookup j = some x :=
      fun _ _ hj => (Assoc.of_lookup_insert hj).imp_left And.left
    exact
      { hrem with
        cancelled_issued := fun j x hj => (hsub j x hj).elim (fun he => he ▸ hid)
          (h.cancelled_issued j x)
        cancelled_completed := fun j x hj => (hsub j x hj).elim (fun he => he ▸ hnot)
          (h.cancelled_completed j x)
        pending_cancelled := fun j x hj => by
          have hne : j ≠ id := by
            rintro rfl
            simp [RequestState.removePending] at hj
          simp only [Assoc.lookup_insert_ite, if_neg hne]
          exact hrem.pending_cancelled j x hj
        cancelled_le := fun _ => by
          have hle : ¬r.cancelled.entries.length ≥ capacity := hlt
          simp only [RequestState.removePending, Assoc.length_insert]
          split <;> omega }

end RequestState

/-! ### Futures and their answers -/

namespace State

variable {β : Type} {capacity id : ℕ} {decode : ExpectedResponse → β → HalResult Unit}
  {s t : State β}

/-- The payload was read under the id and is of the kind that was asked for. -/
def Answer (received : List (ℕ × Option (Payload β))) (id : ℕ) (expected : ExpectedResponse)
    (p : Payload β) : Prop :=
  (id, some p) ∈ received ∧ ∃ body, p = .response expected.kind body

structure FutureOk (received : List (ℕ × Option (Payload β))) (id : ℕ) (f : Future β) : Prop where
  slot : ∀ p, f.slot = some (.ok p) → Answer received id f.expected p
  phase : ∀ p, f.phase = .resolved (.ok p) → Answer received id f.expected p

structure Linked (s : State β) : Prop where
  pending : ∀ id x, s.requests.pending.lookup id = some x →
    ∃ f, s.futures.lookup id = some f ∧ f.expected = x
  replying : ∀ id x p, s.reader = .replying id x p →
    (id, p) ∈ s.received ∧ ∃ f, s.futures.lookup id = some f ∧ f.expected = x
  futures : ∀ id f, s.futures.lookup id = some f → FutureOk s.received id f
  issued : ∀ id f, s.futures.lookup id = some f → id ∈ s.issued
  resolved : ∀ id r, (id, r) ∈ s.resolved →
    ∃ f, s.futures.lookup id = some f ∧ f.phase = .resolved r
  once : (s.resolved.map Prod.fst).Nodup

lemma Answer.mono {received received' : List (ℕ × Option (Payload β))} {p : Payload β}
    (h : Answer received id x p) (hsub : received ⊆ received') : Answer received' id x p :=
  ⟨hsub h.1, h.2⟩

/-- The reader accepts only the kind of response that was asked for. -/
lemma answer_of_result {received : List (ℕ × Option (Payload β))} {payload : Option (Payload β)}
    (hr : (id, payload) ∈ received) {p : Payload β} (h : result decode x payload = .ok p) :
    Answer received id x p := by
  rcases payload with _ | payload
  · cases h
  cases payload with
  | error e =>
    simp only [result] at h
    split at h <;> cases h
  | runtimeEvent event => cases h
  | other body => cases h
  | response kind body =>
    simp only [result, validateResponse] at h
    by_cases hk : kind = x.kind
    · -- the kind that was asked for
      split at h
      · obtain rfl := Except.ok.inj h
        exact ⟨hr, body, by rw [hk]⟩
      · cases h
    · rw [if_neg hk] at h
      cases h

lemma linked_initial : Linked ({} : State β) where
  pending _ _ hx := by simp at hx
  replying _ _ _ hx := by cases hx
  futures _ _ hx := by simp at hx
  issued _ _ hx := by simp at hx
  resolved _ _ hx := absurd hx List.not_mem_nil
  once := .nil

lemma Linked.requests (h : s.Linked)
    (hsub : ∀ id x, r.pending.lookup id = some x → s.requests.pending.lookup id = some x) :
    Linked { s with requests := r } :=
  { h with pending := fun id x hx => h.pending id x (hsub id x hx) }

lemma Linked.reader (h : s.Linked) {reader : Reader β}
    (hr : ∀ id x p, reader ≠ .replying id x p) : Linked { s with reader } :=
  { h with replying := fun id x p hx => absurd hx (hr id x p) }

lemma Linked.modify (h : s.Linked) (id : ℕ) {g : Future β → Future β}
    (hexp : ∀ f, (g f).expected = f.expected)
    (hok : ∀ f, s.futures.lookup id = some f → FutureOk s.received id (g f))
    (hphase : ∀ f r, s.futures.lookup id = some f → f.phase = .resolved r →
      (g f).phase = .resolved r) :
    Linked { s with futures := Assoc.modify s.futures id g } := by
  have hlook : ∀ j f, s.futures.lookup j = some f →
      ∃ f', (Assoc.modify s.futures id g).lookup j = some f' ∧ f'.expected = f.expected ∧
        ∀ r, f.phase = .resolved r → f'.phase = .resolved r := by
    intro j f hf
    rw [Assoc.lookup_modify]
    split
    · rename_i hj
      subst hj
      exact ⟨g f, by rw [hf]; rfl, hexp f, fun r hr => hphase f r hf hr⟩
    · exact ⟨f, hf, rfl, fun _ hr => hr⟩
  have hback : ∀ j f', (Assoc.modify s.futures id g).lookup j = some f' →
      FutureOk s.received j f' ∧ j ∈ s.issued := by
    intro j f' hf'
    rw [Assoc.lookup_modify] at hf'
    split at hf'
    · rename_i hj
      subst hj
      obtain ⟨f, hf, rfl⟩ := Option.map_eq_some_iff.mp hf'
      exact ⟨hok f hf, h.issued j f hf⟩
    · exact ⟨h.futures j f' hf', h.issued j f' hf'⟩
  refine
    { h with
      pending := fun j x hx => ?_, replying := fun j x p hx => ?_
      futures := fun j f hf => (hback j f hf).1
      issued := fun j f hf => (hback j f hf).2
      resolved := fun j r hr => ?_ }
  · obtain ⟨f, hf, rfl⟩ := h.pending j x hx
    obtain ⟨f', hf', he, -⟩ := hlook j f hf
    exact ⟨f', hf', he⟩
  · obtain ⟨hmem, f, hf, rfl⟩ := h.replying j x p hx
    obtain ⟨f', hf', he, -⟩ := hlook j f hf
    exact ⟨hmem, f', hf', he⟩
  · obtain ⟨f, hf, hp⟩ := h.resolved j r hr
    obtain ⟨f', hf', -, hp'⟩ := hlook j f hf
    exact ⟨f', hf', hp' r hp⟩

lemma Linked.send (h : s.Linked) (id : ℕ) (result : HalResult (Payload β))
    (hok : ∀ f p, s.futures.lookup id = some f → result = .ok p →
      Answer s.received id f.expected p) : (s.send id result).Linked := by
  refine h.modify id (fun f => rfl) (fun f hf => ⟨fun p hp => ?_, ?_⟩) (fun f r _ hr => hr)
  · exact hok f p hf (Option.some.inj hp)
  · exact (h.futures id f hf).phase

lemma Linked.setPhase (h : s.Linked) {f : Future β} (phase : Phase β)
    (hf : s.futures.lookup id = some f) (hopen : ∀ r, f.phase ≠ .resolved r)
    (hnew : ∀ r, phase ≠ .resolved r) : (s.setPhase id phase).Linked := by
  refine h.modify id (fun f => rfl) (fun f' hf' => ⟨?_, fun p hp => absurd hp (hnew _)⟩)
    fun f' r hf' hr => ?_
  · exact (h.futures id f' hf').slot
  · obtain rfl := Option.mem_unique hf hf'
    exact absurd hr (hopen r)

lemma Linked.resolve (h : s.Linked) {f : Future β} {result : HalResult (Payload β)}
    (hf : s.futures.lookup id = some f) (hopen : ∀ r, f.phase ≠ .resolved r)
    (hok : ∀ p, result = .ok p → Answer s.received id f.expected p) :
    (s.resolve id result).Linked := by
  have hmod : (s.setPhase id (.resolved result)).Linked := by
    refine h.modify id (fun f => rfl) (fun f' hf' => ⟨?_, fun p hp => ?_⟩) fun f' r hf' hr => ?_
    · exact (h.futures id f' hf').slot
    · obtain rfl := Option.mem_unique hf hf'
      exact hok p (by injection hp)
    · obtain rfl := Option.mem_unique hf hf'
      exact absurd hr (hopen r)
  have hfresh : id ∉ s.resolved.map Prod.fst := by
    intro hmem
    obtain ⟨⟨j, r⟩, hr, rfl⟩ := List.mem_map.mp hmem
    obtain ⟨f', hf', hp⟩ := h.resolved j r hr
    obtain rfl := Option.mem_unique hf hf'
    exact hopen r hp
  refine { hmod with resolved := fun j r hr => ?_, once := ?_ }
  · rcases List.mem_append.mp hr with hr | hr
    · exact hmod.resolved j r hr
    · -- the future that resolves now
      cases List.mem_singleton.mp hr
      refine ⟨{ f with phase := .resolved result }, ?_, rfl⟩
      simp only [State.resolve, State.setPhase, Assoc.lookup_modify, if_true, hf, Option.map_some]
  · simp only [State.resolve, List.map_append, List.map_cons, List.map_nil]
    refine List.nodup_append.mpr ⟨h.once, List.nodup_singleton _, ?_⟩
    rintro a ha b hb rfl
    exact hfresh (List.mem_singleton.mp hb ▸ ha)

lemma pending_of_removePending (h : (r.removePending id).pending.lookup j = some x) :
    r.pending.lookup j = some x :=
  (Assoc.of_lookup_erase h).2

lemma pending_of_beginTermination {r' : RequestState}
    (h : r.beginTermination error extra = some (r', replies)) : r'.pending = ∅ := by
  unfold RequestState.beginTermination at h
  split at h <;> cases h
  rfl

lemma pending_of_cancel (h : (r.cancel id capacity).1.pending.lookup j = some x) :
    r.pending.lookup j = some x := by
  unfold RequestState.cancel at h
  split at h
  · exact h
  dsimp only at h
  split at h
  · rename_i expected _ _
    cases ht : (r.removePending id).beginTermination RequestState.cancelledFull
        (some (id, expected)) with
    | none =>
      rw [ht] at h
      exact pending_of_removePending h
    | some p =>
      rw [ht, Option.getD_some, pending_of_beginTermination ht] at h
      simp at h
  · exact pending_of_removePending h

/-! ### Steps and runs -/

/-- The table is in order and the futures get what is theirs. -/
structure Good (capacity : ℕ) (s : State β) : Prop where
  table : RequestState.Inv capacity s.issued s.requests
  linked : s.Linked

lemma Good.terminate (h : Good capacity s) (error : HalError) :
    Good capacity (s.terminate error) := by
  unfold State.terminate
  split
  · exact h
  · rename_i r replies ht
    refine ⟨h.table.beginTermination (fun e he => by cases he) ht, ?_⟩
    exact
      { h.linked with
        pending := fun id x hx => by
          have hx' : r.pending.lookup id = some x := hx
          rw [pending_of_beginTermination ht] at hx'
          simp at hx' }

lemma Good.announce (h : Good capacity s) (payload : Option (Payload β)) :
    Good capacity (s.announce payload) := by
  have hfail : ∀ e, Good capacity { s with reader := .failing e } :=
    fun e => ⟨h.table, h.linked.reader (by simp)⟩
  have hevent : ∀ events, Good capacity { s with events } :=
    fun _ => ⟨h.table, { h.linked with }⟩
  rcases payload with _ | payload
  · exact hfail _
  cases payload with
  | runtimeEvent event =>
    simp only [State.announce]
    split
    · exact hfail _
    · exact hfail _
    · split
      · exact hfail _
      · exact hevent _
  | error e =>
    simp only [State.announce]
    split
    · exact hevent _
    · exact hfail _
  | response kind body | other body => exact hfail _

lemma Good.correlate (h : Good capacity s) {payload : Option (Payload β)}
    (hr : (id, payload) ∈ s.received) : Good capacity (s.correlate capacity decode id payload) := by
  unfold State.correlate
  split
  · rename_i expected hx
    refine ⟨(h.table.removePending id).rememberCompleted (h.table.pending_issued id expected hx) ?_
      (h.table.pending_cancelled id expected hx), ?_⟩
    · simp [RequestState.removePending]
    · have hl :=
        h.linked.requests (r := (s.requests.removePending id).rememberCompleted id capacity)
        fun j x hj => pending_of_removePending hj
      refine { hl with replying := fun j x p hj => ?_ }
      cases hj
      exact ⟨hr, h.linked.pending id expected hx⟩
  · rename_i expected hp hx
    refine ⟨(h.table.removeCancelled id).rememberCompleted
      (h.table.cancelled_issued id expected hx) hp (by simp), ?_⟩
    have hl := h.linked.requests (r := RequestState.rememberCompleted
      { s.requests with cancelled := s.requests.cancelled.erase id } id capacity)
      fun j x hj => hj
    refine hl.reader fun j x p => ?_
    split <;> simp
  · exact ⟨h.table, h.linked.reader (by simp)⟩

lemma good_request (h : Good capacity s) (expected : ExpectedResponse)
    (hb : s.requests.begin capacity expected = .ok (id, r)) :
    Good capacity { s with
      requests := r, futures := s.futures.insert id { expected }, issued := s.issued ++ [id] } := by
  have htable := h.table.begin hb
  obtain ⟨-, -, hne, hid, rfl⟩ := RequestState.begin_eq_ok hb
  have hfresh : id ∉ s.issued := by
    intro hmem
    have := (h.table.next.resolve_left hne).2 id hmem
    omega
  have hold : ∀ j f, s.futures.lookup j = some f →
      (s.futures.insert id { expected }).lookup j = some f := by
    intro j f hf
    rw [Assoc.lookup_insert_ite, if_neg]
    · exact hf
    · rintro rfl
      exact hfresh (h.linked.issued j f hf)
  refine ⟨htable, ?_⟩
  refine
    { pending := fun j x hx => ?_, replying := fun j x p hx => ?_, futures := fun j f hf => ?_
      issued := fun j f hf => ?_, resolved := fun j r hr => ?_, once := h.linked.once }
  · rcases Assoc.of_lookup_insert hx with ⟨rfl, rfl⟩ | hx
    · exact ⟨{ expected := x }, AList.lookup_insert _, rfl⟩
    · obtain ⟨f, hf, he⟩ := h.linked.pending j x hx
      exact ⟨f, hold j f hf, he⟩
  · obtain ⟨hmem, f, hf, he⟩ := h.linked.replying j x p hx
    exact ⟨hmem, f, hold j f hf, he⟩
  · rcases Assoc.of_lookup_insert hf with ⟨-, rfl⟩ | hf
    · exact ⟨nofun, nofun⟩
    · exact h.linked.futures j f hf
  · rw [Assoc.lookup_insert_ite] at hf
    split at hf
    · simp [*]
    · exact List.mem_append_left _ (h.linked.issued j f hf)
  · obtain ⟨f, hf, hp⟩ := h.linked.resolved j r hr
    exact ⟨f, hold j f hf, hp⟩

theorem good_step (h : Good capacity s) {e : Event β} (hs : s.step capacity decode e = some t) :
    Good capacity t := by
  cases e with
  | request expected =>
    simp only [step] at hs
    split at hs <;> cases hs
    · exact h
    · exact good_request h expected ‹_›
  | refuse id why =>
    simp only [step] at hs
    split at hs <;> cases hs
    rename_i f hf
    refine ⟨h.table.removePending id, ?_⟩
    refine (h.linked.requests fun j x hj => pending_of_removePending hj).resolve hf ?_ ?_
    · simp
    · simp
  | queued id =>
    simp only [step] at hs
    split at hs <;> cases hs
    rename_i f hf
    exact ⟨h.table, h.linked.setPhase .waiting hf (by simp) (by simp)⟩
  | poll id =>
    simp only [step] at hs
    split at hs <;> cases hs
    rename_i result f hf
    refine ⟨h.table, h.linked.resolve hf (by simp) fun p hp => ?_⟩
    exact (h.linked.futures id _ hf).slot p (by rw [hp])
  | drop id =>
    simp only [step] at hs
    split at hs <;> cases hs
    rename_i f hf
    have hl := h.linked.setPhase .dropped hf (by simp) (by simp)
    refine ⟨h.table.cancel id, ?_⟩
    exact { hl with pending := fun j x hj => hl.pending j x (pending_of_cancel hj) }
  | inbound id payload =>
    simp only [step] at hs
    split at hs
    · have h' : Good capacity { s with received := s.received ++ [(id, payload)] } := by
        have hsub : s.received ⊆ s.received ++ [(id, payload)] := List.subset_append_left _ _
        refine ⟨h.table, { h.linked with
          replying := fun j x p hx => ?_, futures := fun j f hf => ?_ }⟩
        · obtain ⟨hmem, hf⟩ := h.linked.replying j x p hx
          exact ⟨hsub hmem, hf⟩
        · have hok := h.linked.futures j f hf
          exact ⟨fun p hp => (hok.slot p hp).mono hsub, fun p hp => (hok.phase p hp).mono hsub⟩
      split at hs
      · cases hs
        exact ⟨h'.table, h'.linked.reader (by simp)⟩
      split at hs <;> cases hs
      · exact h'.announce payload
      · exact h'.correlate (by simp)
    · cases hs
  | broken error =>
    simp only [step] at hs
    split at hs <;> cases hs
    exact ⟨h.table, h.linked.reader (by simp)⟩
  | reply =>
    simp only [step] at hs
    split at hs <;> cases hs
    rename_i id x payload hx
    obtain ⟨hmem, f, hf, rfl⟩ := h.linked.replying id x payload hx
    have hl : (s.send id (result decode f.expected payload)).Linked := by
      refine h.linked.send id _ fun f' p hf' hp => ?_
      obtain rfl := Option.mem_unique hf hf'
      exact answer_of_result hmem hp
    refine ⟨h.table, hl.reader ?_⟩
    intro j x p
    split <;> simp
  | readerFail =>
    simp only [step] at hs
    split at hs <;> cases hs
    have ht := h.terminate ‹_›
    exact ⟨ht.table, ht.linked.reader (by simp)⟩
  | fail error =>
    cases hs
    exact h.terminate error
  | finish =>
    simp only [step] at hs
    split at hs <;> cases hs
    rename_i id error finishing _
    have hl := h.linked.send id (.error error) fun f p _ hp => by cases hp
    exact ⟨h.table, { hl with }⟩

lemma run_good {l : List (Event β)} (hpos : 0 < capacity) (h : Runs capacity decode {} l s) :
    Good capacity s :=
  h.invariant ⟨RequestState.inv_initial hpos, linked_initial⟩ fun _ _ _ hg _ hs => good_step hg hs

lemma terminate_of_terminal {e : HalError} (h : s.requests.terminal = some e) (error : HalError) :
    s.terminate error = s := by
  simp [terminate, RequestState.beginTermination, h]

lemma cancel_of_terminal {e : HalError} (h : r.terminal = some e) (id capacity : ℕ) :
    (r.cancel id capacity).1.terminal = some e := by
  unfold RequestState.cancel
  split
  · exact h
  · dsimp only
    split
    · simp [RequestState.beginTermination, RequestState.removePending, h]
    · exact h

/-- The error a connection ended with stays. -/
lemma terminal_step {e : HalError} {ev : Event β} (h : s.requests.terminal = some e)
    (hs : s.step capacity decode ev = some t) : t.requests.terminal = some e := by
  cases ev with
  | request expected =>
    simp only [step, RequestState.begin, h] at hs
    cases hs
    exact h
  | refuse _ _ | queued _ | poll _ | broken _ | reply | finish =>
    simp only [step] at hs
    split at hs <;> cases hs
    exact h
  | drop id =>
    simp only [step] at hs
    split at hs <;> cases hs
    exact cancel_of_terminal h id capacity
  | inbound id payload =>
    simp only [step, h, Option.isSome_some, if_true] at hs
    split at hs <;> cases hs
    exact h
  | readerFail =>
    simp only [step, terminate_of_terminal h] at hs
    split at hs <;> cases hs
    exact h
  | fail error =>
    cases hs
    rw [terminate_of_terminal h]
    exact h

/-- **Correlation.** In every run of a connection: ids are non-zero and grow; the three sets of ids
are apart and within their bounds; a future resolves at most once, with an error or with a response
that was read under its id and is of the kind asked for; after the end of the connection nothing is
pending and every request, however much later, gets the terminal error. -/
theorem client_correlated (options : ConnectionOptions)
    (decode : ExpectedResponse → β → HalResult Unit) (l : List (Event β)) (s : State β)
    (h : Runs options.pendingCapacity decode {} l s) :
    (s.issued.Pairwise (· < ·) ∧ ∀ id ∈ s.issued, id ≠ 0) ∧
    ((∀ id x, s.requests.pending.lookup id = some x →
        s.requests.cancelled.lookup id = none ∧ id ∉ s.requests.completed) ∧
      ∀ id x, s.requests.cancelled.lookup id = some x → id ∉ s.requests.completed) ∧
    s.requests.pending.entries.length ≤ options.pendingCapacity ∧
    (s.requests.terminal = none →
      s.requests.cancelled.entries.length ≤ options.pendingCapacity ∧
      s.requests.completed.card ≤ options.pendingCapacity) ∧
    (s.requests.completedOrder.Nodup ∧ s.requests.completedOrder.toFinset = s.requests.completed) ∧
    ((s.resolved.map Prod.fst).Nodup ∧
      ∀ id p, (id, .ok p) ∈ s.resolved → ∃ f, s.futures.lookup id = some f ∧
        Answer s.received id f.expected p) ∧
    ∀ e, s.requests.terminal = some e → s.requests.pending = ∅ ∧
      ∀ m u, Runs options.pendingCapacity decode s m u →
        ∀ expected, u.requests.begin options.pendingCapacity expected = .error e := by
  obtain ⟨ht, hl⟩ := run_good options.pos h
  refine ⟨⟨ht.increasing, fun id hid => ?_⟩, ⟨fun id x hx => ?_, ht.cancelled_completed⟩,
    ht.pending_le, fun hn => ⟨ht.cancelled_le hn, ?_⟩, ⟨ht.order_nodup, ht.order_eq⟩,
    ⟨hl.once, fun id p hp => ?_⟩,
    fun e he => ⟨ht.terminal (by simp [he]), fun m u hu expected => ?_⟩⟩
  · have := ht.ids id hid
    omega
  · exact ⟨ht.pending_cancelled id x hx, ht.pending_completed id x hx⟩
  · rw [← ht.order_eq, List.toFinset_card_of_nodup ht.order_nodup]
    exact ht.order_le
  · obtain ⟨f, hf, hphase⟩ := hl.resolved id _ hp
    exact ⟨f, hf, (hl.futures id f hf).phase p hphase⟩
  · have hlater : u.requests.terminal = some e :=
      hu.invariant (I := fun u => u.requests.terminal = some e) he
        fun _ _ _ hi _ hs => terminal_step hi hs
    rw [RequestState.begin, hlater]

/-- Two requests are sent; the first is dropped, the second answered. -/
def exchange : List (Event Unit) :=
  [.request .enumerateSerial, .queued 2, .request .enumerateSerial, .queued 3, .drop 2,
    .inbound 3 (some (.response .enumerateSerial ())), .reply, .poll 3]

theorem client_correlated_exchange : ∃ s : State Unit,
    s.issued = [2, 3] ∧ s.requests.completedOrder = [1, 3] ∧ s.resolved.map Prod.fst = [3] ∧
    s.requests.completed.card ≤ 32 := by
  have hexec : ∃ s ∈ Machine.exec (step 32 fun _ _ => .ok ()) (fun _ _ => True) {} exchange,
      s.issued = [2, 3] ∧ s.requests.completedOrder = [1, 3] ∧ s.resolved.map Prod.fst = [3] ∧
      s.requests.terminal = none := by
    decide +kernel
  obtain ⟨s, hs, hi, ho, hr, hn⟩ := hexec
  have hall := client_correlated {} (fun _ _ => .ok ()) exchange s (Machine.runs_of_exec hs)
  exact ⟨s, hi, ho, hr, (hall.2.2.2.1 hn).2⟩

end State

end RobotHal.Client
