import RobotHal.CanPlaces
import RobotHal.CanRevocation

/-!
Fencing, down to the channel.

A send checks its token behind the lock and queues its batch after it has left the lock, and a
close may give its lease back before the actor has removed the session. What keeps an old batch
from the channel is the order of the actor's work: as long as the session of a queued batch is
still there, every exclusive open that came after it has its admission behind the batch.
-/

namespace RobotHal.CanManager

open CanActor (Actor CanCommand Config Flow Notice admitted answered)

variable {r : ResourceId} {g n e : ℕ} {j : SessionId} {op : OpTask} {a : Actor}
variable {e₀ : ℕ} {l : List SessionId} {id : SessionId} {token : LeaseToken} {ev : Event}

/-! ### The opens that overtake a token -/

/-- An exclusive open on the resource that has been handed to an actor and not returned, or that
has returned a token of a generation after `g`. -/
def State.Later (s : State) (r : ResourceId) (g : ℕ) (j : SessionId) : Prop :=
  (∃ p ∈ s.mgr.pending.lookup j, p.reservation.resourceId = r ∧ p.reservation.mode ≠ .observe ∧
      p.actorEpoch.isSome) ∨
    ∃ t ∈ s.opens.lookup j, t.resource = r ∧ ∃ k ∈ t.activation, k.mode ≠ .observe ∧
      g < k.generation

/-- Some open overtakes. -/
def State.Overtaken (s : State) (r : ResourceId) (g : ℕ) : Prop :=
  (∃ x ∈ s.mgr.pending.entries, s.Later r g x.1) ∨ ∃ x ∈ s.opens.entries, s.Later r g x.1

def Request.isBatch : Request → Bool
  | .sendBatch _ => true
  | _ => false

/-- A batch is queued only if its session is gone from the actor, or no exclusive open has
overtaken its token. -/
def Unfenced (s : State) : Event → Prop
  | .opEnqueue n _ => ∀ op ∈ s.ops.lookup n, op.request.isBatch → ∀ x ∈ op.pc.located,
      ∀ a ∈ s.threads.lookup x.2, (a.sessions.lookup op.session).isSome →
        ¬s.Overtaken x.1 op.token.generation
  | _ => True

instance (s : State) (r : ResourceId) (g : ℕ) (j : SessionId) : Decidable (s.Later r g j) :=
  inferInstanceAs (Decidable (_ ∨ _))

instance (s : State) (r : ResourceId) (g : ℕ) : Decidable (s.Overtaken r g) :=
  inferInstanceAs (Decidable (_ ∨ _))

instance (s : State) : DecidablePred (Unfenced s) := fun e => by
  apply Event.casesOn (motive := fun e => Decidable (Unfenced s e)) e <;> intros <;>
    dsimp only [Unfenced] <;> infer_instance

lemma State.Later.overtaken {s : State} (h : s.Later r g j) : s.Overtaken r g := by
  rcases id h with ⟨p, hp, -⟩ | ⟨t, ht, -⟩
  · exact .inl ⟨⟨j, p⟩, Assoc.mem_entries_iff.mpr hp, h⟩
  · exact .inr ⟨⟨j, t⟩, Assoc.mem_entries_iff.mpr ht, h⟩

/-- The operation uses the token that an open on the resource returned. -/
def OpTask.Under (op : OpTask) (s : State) (r : ResourceId) : Prop :=
  ∃ t, s.opens.lookup op.session = some t ∧ t.resource = r ∧ t.activation = some op.token

/-- Whatever is on its way to a channel is ahead of every open that overtakes it. -/
structure Fenced (s : State) : Prop where
  located : ∀ n op r e, s.ops.lookup n = some op → op.pc.located = some (r, e) →
    op.Under s r ∧ s.ThreadOf e r
  queued : ∀ e a n id frames, s.threads.lookup e = some a → .sendBatch n id frames ∈ a.commands →
    ∃ op, s.ops.lookup n = some op ∧ op.session = id ∧ op.Under s a.resource
  sending : ∀ e a n, s.threads.lookup e = some a → a.sending = some n →
    ∃ op, s.ops.lookup n = some op ∧ op.Under s a.resource ∧
      ∀ j, s.Later a.resource op.token.generation j → j ∈ CanActor.admitted a.commands
  behind : ∀ e a n id frames post, s.threads.lookup e = some a →
    (.sendBatch n id frames :: post) <:+ a.commands → (a.sessions.lookup id).isSome →
    ∀ op, s.ops.lookup n = some op → ∀ j, s.Later a.resource op.token.generation j →
      j ∈ CanActor.admitted post

/-! ### Steps that only work off what is queued -/

namespace Moves

variable {e₀ : ℕ} {l : List SessionId} {s s' : State}

lemma under (h : Moves e₀ l s s') {op' : OpTask} (hs : op.Same op') (hu : op.Under s r) :
    op'.Under s' r := by
  obtain ⟨t, ht, hr, hk⟩ := hu
  obtain ⟨t', ht', hst⟩ := h.opens _ t ht
  exact ⟨t', hs.session ▸ ht', hst.resource.trans hr, by rw [hst.activation, hs.token, hk]⟩

lemma later (h : Moves e₀ l s s') (hl : s'.Later r g j) : s.Later r g j := by
  rcases hl with ⟨p, hp, hr, hm, he⟩ | ⟨t', ht', hr, k, hk, hm, hg⟩
  · obtain ⟨e, he'⟩ := Option.isSome_iff_exists.mp he
    exact .inl ⟨p, h.pending j p e hp he', hr, hm, he⟩
  · rcases h.open_of ht' with ⟨t, ht, hst⟩ | hfresh
    · exact .inr ⟨t, ht, hst.resource ▸ hr, k, hst.activation ▸ hk, hm, hg⟩
    · rw [hfresh.2.2.1] at hk; cases hk

end Moves

namespace Fenced

variable {s s' : State}

lemma under_unanswered (hp : Placed s) (hm : Moves e₀ l s s') (hu : op.Under s r) :
    op.session ∉ l := by
  intro hid
  obtain ⟨t, ht, -, hw⟩ := hp.waits hm hid
  obtain ⟨u, hu, -, hk⟩ := hu
  rw [ht] at hu
  cases hu
  have := (hp.tasks _ t ht).admitted (.inr (by rw [hk]; rfl))
  rw [hw] at this; cases this

/-- Working off what is queued keeps the order. -/
theorem moves (h : Fenced s) (hp : Placed s) (hm : Moves e₀ l s s') : Fenced s' :=
  { located := fun n op' r e hop' hl => by
      obtain ⟨op, hop, hs⟩ := hm.ops.source hop'
      exact (h.located n op r e hop (hs.located _ hl)).imp (hm.under hs) hm.threadOf
    queued := fun e a' n id frames ha' hq => by
      obtain ⟨a, ha, hf⟩ := hm.threads.source ha'
      obtain ⟨op, hop, hid, hu⟩ := h.queued e a n id frames ha (hf.commands.subset hq)
      obtain ⟨op', hop', hs⟩ := hm.ops.get hop
      exact ⟨op', hop', hs.session.trans hid, by rw [hf.resource]; exact hm.under hs hu⟩
    sending := fun e a' n ha' hsend => by
      obtain ⟨a, ha, hf⟩ := hm.threads.source ha'
      rw [hf.resource]
      rcases hf.sending n hsend with ⟨hold, hc⟩ | ⟨id, frames, hc, hsome⟩
      · obtain ⟨op, hop, hu, hlater⟩ := h.sending e a n ha hold
        obtain ⟨op', hop', hs⟩ := hm.ops.get hop
        refine ⟨op', hop', hm.under hs hu, fun j hj => ?_⟩
        rw [hc]
        exact hlater j (hm.later (hs.token ▸ hj))
      · -- the batch has just left the queue
        have hmem : .sendBatch n id frames ∈ a.commands := by rw [hc]; exact List.mem_cons_self
        obtain ⟨op, hop, -, hu⟩ := h.queued e a n id frames ha hmem
        obtain ⟨op', hop', hs⟩ := hm.ops.get hop
        refine ⟨op', hop', hm.under hs hu, fun j hj => ?_⟩
        exact h.behind e a n id frames _ ha (hc ▸ List.suffix_rfl) hsome op hop j
          (hm.later (hs.token ▸ hj))
    behind := fun e a' n id frames post ha' hsuf hsome op' hop' j hj => by
      obtain ⟨a, ha, hf⟩ := hm.threads.source ha'
      obtain ⟨op, hop, hs⟩ := hm.ops.source hop'
      have hsuf' := hsuf.trans hf.commands
      rw [hf.resource, hs.token] at hj
      rcases hf.sessions id hsome with hold | hnew
      · exact h.behind e a n id frames post ha hsuf' hold op hop j (hm.later hj)
      · -- a session that is just being admitted has no batch yet
        split at hnew
        · obtain ⟨op₁, hop₁, hid, hu⟩ :=
            h.queued e a n id frames ha (hsuf'.subset List.mem_cons_self)
          exact absurd (hid ▸ hnew) (under_unanswered hp hm hu)
        · cases hnew }

end Fenced

/-! ### Handing an open to an actor -/

lemma live_of_sending (h : a.sending = some n) : a.isFinished = false := by
  unfold Actor.sending at h
  unfold Actor.isFinished
  split at h <;> simp_all

lemma live_of_suffix {c : CanCommand} {post : List CanCommand} (hd : a.Drained)
    (h : (c :: post) <:+ a.commands) : a.isFinished = false := by
  by_contra hfin
  have hc : a.connected = false := by
    by_contra hc
    exact hfin (live_of_connected (by simpa using hc))
  rw [hd hc] at h
  have := List.suffix_nil.mp h
  cases this

section Handed

variable {s : State} {id : SessionId} {t : OpenTask} {e N : ℕ} {A : Assoc ResourceId ℕ}
  {a' : Actor} {spec : CanActor.ActorSessionSpec}

lemma Handover.under (h : Handover s id t e N A a' spec) (hu : op.Under s r) :
    op.Under (s.handOver id e N A a') r := by
  obtain ⟨u, hu, hr, hk⟩ := hu
  rw [OpTask.Under, h.opens]
  split
  · rename_i hj
    rw [hj, h.task] at hu
    cases hu
    exact ⟨_, rfl, hr, hk⟩
  · exact ⟨u, hu, hr, hk⟩

lemma Handover.later (h : Handover s id t e N A a' spec)
    (hl : (s.handOver id e N A a').Later r g j) :
    s.Later r g j ∨ j = id ∧ t.resource = r := by
  rcases hl with ⟨p, hj, hr, hm, he⟩ | ⟨u, hu, hr, k, hk, hm, hg⟩
  · rcases h.pending hj with ⟨hji, -, hpr⟩ | hj
    · exact .inr ⟨hji, hpr ▸ hr⟩
    · exact .inl (.inl ⟨p, hj, hr, hm, he⟩)
  · rw [Option.mem_def, h.opens] at hu
    split at hu
    · rename_i hji
      cases hu
      exact .inr ⟨hji, hr⟩
    · exact .inl (.inr ⟨u, hu, hr, k, hk, hm, hg⟩)

/-- The open's admission is behind whatever its actor was handed before. -/
theorem Fenced.handed (hf : Fenced s) (hp : Placed s) (h : Handover s id t e N A a' spec) :
    Fenced (s.handOver id e N A a') :=
  { located := fun m op r k hop hl => by
      exact (hf.located m op r k hop hl).imp h.under h.keeps
    queued := fun k b m j frames hb hq => by
      rw [Handover.threads] at hb
      split at hb
      · cases hb
        obtain ⟨a, ha, hq⟩ := h.takes.queued m j frames hq
        obtain ⟨op, hop, hs, hu⟩ := hf.queued e a m j frames ha hq
        exact ⟨op, hop, hs, h.under (h.takes.resource a ha ▸ hu)⟩
      · obtain ⟨op, hop, hs, hu⟩ := hf.queued k b m j frames hb hq
        exact ⟨op, hop, hs, h.under hu⟩
    sending := fun k b m hb hsend => by
      rw [Handover.threads] at hb
      split at hb
      · cases hb
        obtain ⟨a, ha, hsa, hc⟩ := h.takes.sending m hsend
        obtain ⟨op, hop, hu, hlate⟩ := hf.sending e a m ha hsa
        rw [h.takes.resource a ha] at hu hlate
        refine ⟨op, hop, h.under hu, fun i hi => ?_⟩
        rw [hc, CanActor.admitted, List.filterMap_append]
        rcases h.later hi with hi | ⟨rfl, -⟩
        · exact List.mem_append_left _ (hlate i hi)
        · exact List.mem_append_right _ (by simp [CanCommand.admits, h.asks])
      · rename_i hk
        obtain ⟨op, hop, hu, hlate⟩ := hf.sending k b m hb hsend
        refine ⟨op, hop, h.under hu, fun i hi => ?_⟩
        rcases h.later hi with hi | ⟨-, hr⟩
        · exact hlate i hi
        · have := h.other_finished hp hb hk hr.symm
          rw [live_of_sending hsend] at this; cases this
    behind := fun k b m j frames post hb hsuf hsome op hop i hi => by
      rw [Handover.threads] at hb
      split at hb
      · cases hb
        obtain ⟨a, ha, hses, post', hsuf', rfl⟩ := h.takes.behind m j frames post hsuf
        rw [CanActor.admitted, List.filterMap_append]
        rcases h.later hi with hi | ⟨rfl, -⟩
        · rw [← h.takes.resource a ha] at hi
          exact List.mem_append_left _
            (hf.behind e a m j frames post' ha hsuf' (hses ▸ hsome) op hop i hi)
        · exact List.mem_append_right _ (by simp [CanCommand.admits, h.asks])
      · rename_i hk
        rcases h.later hi with hi | ⟨-, hr⟩
        · exact hf.behind k b m j frames post hb hsuf hsome op hop i hi
        · have := h.other_finished hp hb hk hr.symm
          rw [live_of_suffix (hp.threads k b hb).drained hsuf] at this; cases this }

end Handed

/-! ### The other steps -/

namespace Fenced

variable {c : Config} {s s' : State}

lemma calm (h : Fenced s) (hp : Placed s) (hc : Calm s s') : Fenced s' := h.moves hp hc.moves

lemma bump (h : Fenced s) : Fenced { s with mgr := { s.mgr with nextActorEpoch := e } } :=
  ⟨h.located, h.queued, h.sending, h.behind⟩

/-- A reservation becomes a lease: the open has been answered, so no batch in a queue is behind
it. -/
lemma issued (h : Fenced s) (hp : Placed s) (hb : Balanced s) {t : OpenTask} {epoch : ℕ}
    {p : PendingSession} {fresh : LeaseId} (hi : Issue s id t e p fresh token epoch) :
    Fenced (s.issue id t p fresh token epoch) := by
  -- nobody works under a token the open has not returned yet
  have hunder : ∀ (op : OpTask) r, op.Under s r →
      op.Under (s.issue id t p fresh token epoch) r := by
    rintro op r ⟨v, hv, hr, hk⟩
    refine ⟨v, ?_, hr, hk⟩
    rw [hi.opens, if_neg, hv]
    intro hj
    rw [hj, hi.task] at hv
    cases hv
    rw [hi.unissued hp] at hk; cases hk
  -- and the open overtook already when it was handed over
  have hlater : ∀ r g j, (s.issue id t p fresh token epoch).Later r g j → s.Later r g j := by
    rintro r g j (⟨q, hj, hr, hm, he⟩ | ⟨v, hv, hr, k, hk, hm, hg⟩)
    · exact .inl ⟨q, (Issue.pending_of hj).2, hr, hm, he⟩
    · rw [Option.mem_def, hi.opens] at hv
      split at hv
      · rename_i hj
        cases hv
        cases hk
        obtain ⟨u, hu, -, hpr, -⟩ := hb.guarded id p hi.pending
        rw [hi.task] at hu
        cases hu
        have hmode := (CanLeaseTable.commit_ok hb.exclusive hi.granted).1
        exact .inl ⟨p, hj ▸ hi.pending, hpr.trans hr, hmode ▸ hm, by rw [hi.epoch]; rfl⟩
      · exact .inr ⟨v, hv, hr, k, hk, hm, hg⟩
  exact {
    located := fun n op r k hop hl => (h.located n op r k hop hl).imp_left (hunder op r)
    queued := fun k b n j frames hb hq => by
      obtain ⟨op, hop, hj, hu⟩ := h.queued k b n j frames hb hq
      exact ⟨op, hop, hj, hunder op _ hu⟩
    sending := fun k b n hb hsend => by
      obtain ⟨op, hop, hu, hl⟩ := h.sending k b n hb hsend
      exact ⟨op, hop, hunder op _ hu, fun j hj => hl j (hlater _ _ j hj)⟩
    behind := fun k b n j frames post hb hsuf hsome op hop i hi =>
      h.behind k b n j frames post hb hsuf hsome op hop i (hlater _ _ i hi) }

lemma called (h : Fenced s) (hn : s.ops.lookup n = none) (hl : ∀ r e, op.pc.located = some (r, e) →
      op.Under s r ∧ s.ThreadOf e r) : Fenced { s with ops := s.ops.insert n op } := by
  have hold : ∀ k t, s.ops.lookup k = some t → (s.ops.insert n op).lookup k = some t := by
    intro k t hk
    rw [Assoc.lookup_insert_ite, if_neg, hk]
    rintro rfl
    rw [hn] at hk; cases hk
  exact {
    located := fun k t r e hk hkl => by
      rcases Assoc.of_lookup_insert hk with ⟨-, rfl⟩ | hk
      · exact hl r e hkl
      · exact h.located k t r e hk hkl
    queued := fun e a k id frames ha hq => by
      obtain ⟨t, ht, hid, hu⟩ := h.queued e a k id frames ha hq
      exact ⟨t, hold k t ht, hid, hu⟩
    sending := fun e a k ha hsend => by
      obtain ⟨t, ht, hu, hlate⟩ := h.sending e a k ha hsend
      exact ⟨t, hold k t ht, hu, hlate⟩
    behind := fun e a k id frames post ha hsuf hsome t hk j hj => by
      obtain ⟨u, hu, -⟩ := h.queued e a k id frames ha (hsuf.subset List.mem_cons_self)
      rcases Assoc.of_lookup_insert hk with ⟨rfl, -⟩ | hk
      · rw [hn] at hu; cases hu
      · exact h.behind e a k id frames post ha hsuf hsome t hk j hj }

/-- An operation that has found its actor was shown the token of the session. -/
lemma begins (h : Fenced s) (hp : Placed s) (hb : Balanced s) {q : Request} {pc : OpPc}
    (hn : s.ops.lookup n = none)
    (hpc : s.Begins id token q pc) :
    Fenced { s with ops := s.ops.insert n ⟨id, token, q, pc⟩ } := by
  refine h.called hn fun r e hl => ?_
  rcases hpc with ⟨err, rfl⟩ | ⟨x, hx, hv, -, -, rfl⟩
  · cases hl
  · obtain ⟨rfl, rfl⟩ := Prod.mk.inj (Option.some.inj hl)
    obtain rfl := hb.validated hx hv
    obtain ⟨t, ht, hr, hk, -⟩ := hb.committed id x hx
    exact ⟨⟨t, ht, hr, hk⟩, (hp.active id x hx).1⟩

lemma push (h : Fenced s) (ha : s.threads.lookup e = some a) {cmd : CanCommand}
    (hadm : cmd.admits = none)
    (hbatch : ∀ n id frames, cmd = .sendBatch n id frames →
      (∃ op, s.ops.lookup n = some op ∧ op.session = id ∧ op.Under s a.resource) ∧
        ((a.sessions.lookup id).isSome → ∀ op, s.ops.lookup n = some op →
          ∀ j, ¬s.Later a.resource op.token.generation j)) :
    Fenced (s.setThread e { a with commands := a.commands ++ [cmd] }) := by
  have hadmitted : CanActor.admitted (a.commands ++ [cmd]) = CanActor.admitted a.commands := by
    simp [CanActor.admitted, hadm]
  exact {
    located := fun n op r k hop hl =>
      (h.located n op r k hop hl).imp_right fun ht => ht.setThread ha rfl
    queued := fun k b n j frames hb hq => by
      rcases Assoc.of_lookup_insert hb with ⟨rfl, rfl⟩ | hb
      · rcases List.mem_append.mp hq with hq | hq
        · exact h.queued k a n j frames ha hq
        · exact (hbatch n j frames (List.mem_singleton.mp hq).symm).1
      · exact h.queued k b n j frames hb hq
    sending := fun k b n hb hsend => by
      rcases Assoc.of_lookup_insert hb with ⟨rfl, rfl⟩ | hb
      · obtain ⟨op, hop, hu, hlate⟩ := h.sending k a n ha hsend
        exact ⟨op, hop, hu, fun j hj => hadmitted ▸ hlate j hj⟩
      · exact h.sending k b n hb hsend
    behind := fun k b n j frames post hb hsuf hsome op hop i hi => by
      rcases Assoc.of_lookup_insert hb with ⟨rfl, rfl⟩ | hb
      · rcases suffix_push hsuf with ⟨hcmd, -⟩ | ⟨post', hsuf', rfl⟩
        · exact ((hbatch n j frames hcmd.symm).2 hsome op hop i hi).elim
        · rw [CanActor.admitted, List.filterMap_append]
          exact List.mem_append_left _ (h.behind k a n j frames post' ha hsuf' hsome op hop i hi)
      · exact h.behind k b n j frames post hb hsuf hsome op hop i hi }

lemma enqueue (h : Fenced s) (hp : Placed s) {deadline : ℕ} {t : OpTask}
    (hc : Unfenced s (.opEnqueue n deadline)) (hn : s.ops.lookup n = some t)
    (hloc : t.pc.located = some (r, e)) (ha : s.threads.lookup e = some a)
    (hconn : a.connected = true) :
    Fenced ((s.setThread e { a with
      commands := a.commands ++ [t.request.command n t.session deadline] }).setOp n t
        (.awaiting r e .waiting)) := by
  have hadm := command_admits t.request n t.session deadline
  refine (h.push ha hadm fun m j fr hcmd => ?_).calm (hp.push ha hconn hadm)
    (Quiet.toCalm (.setOp hn (by simp [OpPc.located])))
  obtain ⟨hu, b, hb, hbr⟩ := h.located n t r e hn hloc
  obtain rfl : a = b := by rw [ha] at hb; exact Option.some.inj hb
  -- only a batch becomes the command of one
  obtain ⟨frames, hq⟩ : ∃ frames, t.request = .sendBatch frames := by
    cases hq : t.request with
    | sendBatch frames => exact ⟨frames, rfl⟩
    | _ => rw [hq] at hcmd; cases hcmd
  rw [hq] at hcmd
  obtain ⟨rfl, rfl, rfl⟩ := CanCommand.sendBatch.inj hcmd
  refine ⟨⟨t, hn, rfl, hbr ▸ hu⟩, fun hsome op hop i hi => ?_⟩
  rw [hn] at hop
  cases hop
  rw [hbr] at hi
  exact hc t hn (by rw [hq]; rfl) (r, e) hloc a ha hsome hi.overtaken

end Fenced

/-! ### Whole runs -/

section Runs

variable {c : Config} {s s' : State}

/-- **One step** that queues no overtaken batch keeps the order. -/
theorem fenced_step (hb : Balanced s) (hp : Placed s) (h : Fenced s) (hc : Unfenced s ev)
    (hs : step c s ev = some s') : Fenced s' := by
  have hpl {s₁ : State} (hrec : Reconciles s s₁) : Placed s₁ := hp.calm hrec.calm
  have hfen {s₁ : State} (hrec : Reconciles s s₁) : Fenced s₁ := h.calm hp hrec.calm
  cases step_stir hp hb hs with
  | moves hm => exact h.moves hp hm
  | bump _ hrec ht hpc hN =>
    exact (hfen hrec).bump.calm ((hpl hrec).bump hN)
      (@quiet_setPc (.unwinding none _) _ _ fun h => h).toCalm
  | handed _ hrec hover => exact (hfen hrec).handed (hpl hrec) hover
  | issued hrec hi => exact (hfen hrec).issued (hpl hrec) (hrec.balanced hb) hi
  | called hrec hn hpc => exact (hfen hrec).begins (hpl hrec) (hrec.balanced hb) hn hpc
  | queued hn hloc ha hconn => exact h.enqueue hp hc hn hloc ha hconn

lemma fenced_empty : Fenced {} := by
  constructor
  all_goals
    intros
    simp at *

theorem run_fenced {l : List Event} (h : Machine.Runs (step c) Unfenced {} l s) : Fenced s :=
  (h.invariant (I := fun s => (Balanced s ∧ Placed s) ∧ Fenced s)
    ⟨⟨balanced_empty, placed_empty⟩, fenced_empty⟩
    fun _ _ _ ha hc hs => ⟨⟨balanced_step ha.1.1 hs, placed_step ha.1.1 ha.1.2 hs⟩,
      fenced_step ha.1.1 ha.1.2 ha.2 hc hs⟩).2

/-- What the actor of this epoch has passed to its channel. -/
def State.passed (s : State) (e : ℕ) : List (ℕ × CanFrame) :=
  ((s.threads.lookup e).map Actor.passed).getD []

/-- A frame reaches the channel only from the batch its actor is inside. -/
lemma sending_of_passed {x : ℕ × CanFrame} (h : Placed s) (hb : Balanced s)
    (hs : step c s ev = some s') (ha : s.threads.lookup e = some a)
    (hx : x ∈ (s'.passed e).drop (s.passed e).length) : a.sending = some x.1 := by
  have hpa : s.passed e = a.passed := by simp [State.passed, ha]
  -- whoever else touches the thread leaves what it has passed alone
  have hsame {a' : Actor} (ha' : s'.threads.lookup e = some a') (heq : a'.passed = a.passed) :
      a.sending = some x.1 := by
    rw [hpa, State.passed, ha', Option.map_some, Option.getD_some, heq] at hx
    simp at hx
  cases step_stir h hb hs with
  | moves hm =>
    obtain ⟨a', ha', hf⟩ := hm.threads.get ha
    have hpa' : s'.passed e = a'.passed := by simp [State.passed, ha']
    rw [hpa, hpa'] at hx
    exact hf.passed x hx
  | bump _ hr | issued hr | called hr =>
    rw [← hr.spared.threads] at ha
    exact hsame ha rfl
  | @handed _ s₁ id t k N A a' spec _ hr hover =>
    rw [← hr.spared.threads] at ha
    by_cases hk : e = k
    · exact hsame (by rw [Handover.threads, if_pos hk]) (hover.takes.passed a (hk ▸ ha))
    · exact hsame (by rw [Handover.threads, if_neg hk, ha]) rfl
  | @queued n deadline k r t b _ _ hb =>
    by_cases hk : e = k
    · rw [← hk, ha] at hb
      cases hb
      exact hsame ((Assoc.lookup_insert_ite _ _ _ _).trans (if_pos hk)) rfl
    · exact hsame ((Assoc.lookup_insert_ite _ _ _ _).trans (by rw [if_neg hk, ha])) rfl

/-- **Fencing reaches the channel** in every run that queues no overtaken batch: once an open has
returned an exclusive token, a frame that is passed to the channel of its resource was submitted
under a token that is no older. -/
theorem fencing_reaches_channel {l : List Event} {ev : Event} {e : ℕ} {a : Actor}
    {x : ℕ × CanFrame} {j id : SessionId} {t : OpenTask} {token : LeaseToken}
    (h : Machine.Runs (step c) Unfenced {} l s) (hs : step c s ev = some s')
    (ha : s.threads.lookup e = some a) (hx : x ∈ (s'.passed e).drop (s.passed e).length)
    (hj : s.opens.lookup j = some t) (hret : t.pc = .returned (.ok (id, token)))
    (hr : t.resource = a.resource) (hm : token.mode ≠ .observe) :
    ∃ op, s.ops.lookup x.1 = some op ∧ token.generation ≤ op.token.generation := by
  have hp := run_placed h
  obtain ⟨op, hop, -, hlate⟩ := (run_fenced h).sending e a x.1 ha
    (sending_of_passed hp (run_balanced h) hs ha hx)
  refine ⟨op, hop, ?_⟩
  by_contra hlt
  have hact := (hp.tasks j t hj).returned id token hret
  have hlater : s.Later a.resource op.token.generation j :=
    .inr ⟨t, hj, hr, token, hact, hm, by omega⟩
  -- its admission would still be queued, but it has returned
  have hin : j ∈ a.admissions := List.mem_append_right _ (hlate j hlater)
  obtain ⟨u, hu, -, hw⟩ := (hp.threads e a ha).awaited j hin
  rw [hj] at hu
  cases hu
  have := (hp.tasks j t hj).admitted (.inr (by rw [hact]; rfl))
  rw [hw] at this; cases this

end Runs

def frame : CanFrame := .classicData (.standard 1) [0]

/-- A batch of one frame up to the queue of the actor. -/
def checked (n : ℕ) (id : SessionId) (token : LeaseToken) : List Event :=
  [.opCall n id token (.sendBatch [frame]), .opReserve n]

/-- The actor comes to the first command of its queue. -/
def toCommand : List Event :=
  [.actor 1 (.prune (.ok ())), .actor 1 (.clean (.ok ())),
    .actor 1 (.manage 0 (.ok ⟨.active, none, none⟩))]

/-- A control session is closed, another one opened, and its batch is inside the channel. -/
def handover : List Event :=
  firstOpened .observe ⟨"so"⟩ ⟨"o"⟩ ⟨"lo"⟩ ++ joined .control ⟨"s1"⟩ ⟨"a"⟩ ⟨"l1"⟩ ++
    [.closeCall 0 ⟨"s1"⟩ ⟨⟨"l1"⟩, 2, .control⟩] ++ lap 1 0 ++
    [.closeReplied 0, .closeObserve 0, .closeFinish 0] ++
    joined .control ⟨"s2"⟩ ⟨"b"⟩ ⟨"l2"⟩ ++ checked 0 ⟨"s2"⟩ ⟨⟨"l2"⟩, 3, .control⟩ ++
    [.opEnqueue 0 0] ++ toCommand

theorem fencing_reaches_channel_handover : ∃ s s',
    Machine.Runs (step ⟨16, 16, "5s"⟩) Unfenced {} handover s ∧
      step ⟨16, 16, "5s"⟩ s (.actor 1 (.frame (.ok ()))) = some s' ∧
      (0, frame) ∈ (s'.passed 1).drop (s.passed 1).length ∧
      ∃ op, s.ops.lookup 0 = some op ∧ 3 ≤ op.token.generation := by
  have hexec : ∃ s ∈ Machine.exec (step ⟨16, 16, "5s"⟩) Unfenced {} handover,
      ∃ s' ∈ step ⟨16, 16, "5s"⟩ s (.actor 1 (.frame (.ok ()))),
      (0, frame) ∈ (s'.passed 1).drop (s.passed 1).length ∧
      ∃ a ∈ s.threads.lookup 1, ∃ t ∈ s.opens.lookup ⟨"s2"⟩, t.resource = a.resource ∧
        t.pc = .returned (.ok (⟨"s2"⟩, ⟨⟨"l2"⟩, 3, .control⟩)) := by decide
  obtain ⟨s, hs, s', hs', hx, a, ha, t, ht, hr, hpc⟩ := hexec
  have h := Machine.runs_of_exec hs
  exact ⟨s, s', h, hs', hx, fencing_reaches_channel h hs' ha hx ht hpc hr (by decide)⟩

/-- While the actor is inside a batch, a second one is checked, its session's close runs into the
deadline and gives the lease back, and another owner's open is queued before the batch. -/
def overtakenBatch : List Event :=
  firstOpened .control ⟨"s1"⟩ ⟨"a"⟩ ⟨"l1"⟩ ++ checked 0 ⟨"s1"⟩ ⟨⟨"l1"⟩, 1, .control⟩ ++
    ([.opEnqueue 0 0] : List Event) ++ toCommand ++ checked 1 ⟨"s1"⟩ ⟨⟨"l1"⟩, 1, .control⟩ ++
    ([.closeCall 0 ⟨"s1"⟩ ⟨⟨"l1"⟩, 1, .control⟩, .closeDeadline 0, .closeObserve 0,
      .closeFinish 0] : List Event) ++
    requested .control ⟨"s2"⟩ ⟨"b"⟩ ++
    ([.opEnqueue 1 0, .actor 1 (.frame (.ok ())),
      .actor 1 (.manage 0 (.ok ⟨.active, none, none⟩))] : List Event) ++ returned ⟨"s2"⟩ ⟨"l2"⟩ ++
    ([.actor 1 (.manage 0 (.ok ⟨.active, none, none⟩))] : List Event)

/-- The open has returned generation 2, and then the batch under generation 1 reaches the
channel. -/
theorem overtaken_batch_reaches_channel :
    ∃ s ∈ Machine.exec (step ⟨16, 16, "5s"⟩) (fun _ _ => True) {} overtakenBatch,
    ∃ s' ∈ step ⟨16, 16, "5s"⟩ s (.actor 1 (.frame (.ok ()))),
      s.passed 1 = [(0, frame)] ∧ s'.passed 1 = [(0, frame), (1, frame)] ∧
      (s.opens.lookup ⟨"s2"⟩).map OpenTask.pc =
        some (.returned (.ok (⟨"s2"⟩, ⟨⟨"l2"⟩, 2, .control⟩))) ∧
      (s.ops.lookup 1).map OpTask.token = some ⟨⟨"l1"⟩, 1, .control⟩ := by decide

end RobotHal.CanManager
