import RobotHal.CanLeaseTable

/-!
Exclusion on the CAN lease table.

Pending and active leases of a resource are read as one list of holdings. Any two of them
are compatible: different sessions, not both in control, and neither in maintenance. A
commit only moves a holding from one container to another, so `reserve` is the one call
that has anything to check.
-/

namespace RobotHal.CanLeaseTable

variable {l : ResourceLeases} {x : Holding} {s : SessionId} {p : PendingEntry} {e : LeaseEntry}
  {h : List Holding}

/-- A session and the mode it holds, or is about to hold, a resource in. -/
abbrev Holding := SessionId × LeaseMode

def pendingHeld (l : ResourceLeases) : List Holding :=
  l.pending.entries.map fun e => (e.1, e.2.mode)

def observesHeld (l : ResourceLeases) : List Holding :=
  l.observes.entries.map fun e => (e.1, e.2.token.mode)

def slotHeld (slot : Option LeaseEntry) : List Holding :=
  slot.toList.map fun e => (e.sessionId, e.token.mode)

/-- All entries of a resource, pending ones first. -/
def held (l : ResourceLeases) : List Holding :=
  pendingHeld l ++ (observesHeld l ++ (slotHeld l.control ++ slotHeld l.maintenance))

/-- Every active lease sits in the container of its mode, an observer under its session. -/
structure Typed (l : ResourceLeases) : Prop where
  observes : ∀ s e, l.observes.lookup s = some e → e.sessionId = s ∧ e.token.mode = .observe
  control : ∀ e, l.control = some e → e.token.mode = .control
  maintenance : ∀ e, l.maintenance = some e → e.token.mode = .maintenance

def Compatible (a b : Holding) : Prop :=
  a.1 ≠ b.1 ∧ a.2 ≠ .maintenance ∧ b.2 ≠ .maintenance ∧ ¬(a.2 = .control ∧ b.2 = .control)

lemma compatible_comm {a b : Holding} (h : Compatible a b) : Compatible b a :=
  ⟨h.1.symm, h.2.2.1, h.2.1, fun hb => h.2.2.2 ⟨hb.2, hb.1⟩⟩

/-- The leases of a resource exclude each other as they should. -/
structure Exclusive (l : ResourceLeases) : Prop where
  typed : Typed l
  pairwise : (held l).Pairwise Compatible

/-! ### The holdings of the containers -/

/-- The active entries of a resource. -/
def leases (l : ResourceLeases) : List LeaseEntry :=
  l.observes.entries.map Sigma.snd ++ (l.control.toList ++ l.maintenance.toList)

def holding (e : LeaseEntry) : Holding := (e.sessionId, e.token.mode)

lemma held_eq (ht : Typed l) : held l = pendingHeld l ++ (leases l).map holding := by
  have hobs : observesHeld l = (l.observes.entries.map Sigma.snd).map holding := by
    rw [observesHeld, List.map_map]
    refine List.map_congr_left fun ⟨s, e⟩ he => ?_
    rw [← (ht.observes s e (Assoc.mem_entries_iff.mp he)).1]
    rfl
  rw [held, hobs, leases, List.map_append, List.map_append]
  rfl

lemma mem_leases (ht : Typed l) : e ∈ leases l ↔
    l.observes.lookup e.sessionId = some e ∨ l.control = some e ∨ l.maintenance = some e := by
  simp only [leases, List.mem_append, List.mem_map, Option.mem_toList]
  refine or_congr_left ⟨?_, fun h => ⟨⟨_, e⟩, Assoc.mem_entries_iff.mpr h, rfl⟩⟩
  rintro ⟨⟨s, d⟩, hd, rfl⟩
  have hd := Assoc.mem_entries_iff.mp hd
  rwa [(ht.observes s d hd).1]

lemma mem_held (ht : Typed l) : x ∈ held l ↔
    (∃ p, l.pending.lookup x.1 = some p ∧ p.mode = x.2) ∨ ∃ e ∈ leases l, holding e = x := by
  obtain ⟨s, m⟩ := x
  rw [held_eq ht, List.mem_append, List.mem_map, pendingHeld, List.mem_map]
  refine or_congr_left ⟨?_, ?_⟩
  · rintro ⟨⟨k, p⟩, hp, hk⟩
    obtain ⟨rfl, rfl⟩ := Prod.mk.inj hk
    exact ⟨p, Assoc.mem_entries_iff.mp hp, rfl⟩
  · rintro ⟨p, hp, rfl⟩
    exact ⟨⟨s, p⟩, Assoc.mem_entries_iff.mpr hp, rfl⟩

/-! ### Reserving -/

lemma fst_ne_of_not_holds (ht : Typed l) (hs : l.holds s = false) (hx : x ∈ held l) : s ≠ x.1 := by
  rintro rfl
  simp only [ResourceLeases.holds, Bool.or_eq_false_iff, Option.isSome_eq_false_iff,
    Option.isNone_iff_eq_none] at hs
  obtain ⟨⟨⟨hp, ho⟩, hc⟩, hm⟩ := hs
  rcases (mem_held ht).mp hx with ⟨p, h, -⟩ | ⟨e, he, rfl⟩
  · rw [hp] at h; cases h
  · rcases (mem_leases ht).mp he with h | h | h <;> simp_all [holding]

lemma held_eq_nil_of_isEmpty (h : l.isEmpty = true) : held l = [] := by
  simp only [ResourceLeases.isEmpty, Bool.and_eq_true, Option.isNone_iff_eq_none] at h
  obtain ⟨⟨⟨hp, ho⟩, hc⟩, hm⟩ := h
  simp only [Assoc.isEmpty, List.isEmpty_iff] at hp ho
  simp [held, pendingHeld, observesHeld, slotHeld, hp, ho, hc, hm]

lemma mode_ne {mode : LeaseMode} (ht : Typed l) (ho : mode ≠ .observe)
    (hc : mode = .control → l.control = none) (hm : mode = .maintenance → l.maintenance = none)
    (hp : Assoc.any l.pending (fun p => p.mode = mode) = false) (hx : x ∈ held l) : x.2 ≠ mode := by
  rintro rfl
  rcases (mem_held ht).mp hx with ⟨p, h, hmode⟩ | ⟨e, he, rfl⟩
  · have := Assoc.any_eq_false.mp hp _ _ h
    simp [hmode] at this
  · rcases (mem_leases ht).mp he with h | h | h
    · exact ho (ht.observes _ _ h).2
    · rw [hc (ht.control _ h)] at h; cases h
    · rw [hm (ht.maintenance _ h)] at h; cases h

lemma compatible_of_reserve {mode : LeaseMode} (ht : Typed l) (hs : l.holds s = false)
    (hm : l.incompatible mode = false) (hx : x ∈ held l) : Compatible (s, mode) x := by
  have hne := fst_ne_of_not_holds ht hs hx
  cases mode with
  | observe =>
    simp only [ResourceLeases.incompatible, reduceCtorEq, decide_false, Bool.false_and,
      Bool.or_false, Bool.or_eq_false_iff, Option.isSome_eq_false_iff,
      Option.isNone_iff_eq_none] at hm
    exact ⟨hne, by simp, mode_ne ht (by simp) (by simp) (fun _ => hm.1) hm.2 hx, by simp⟩
  | control =>
    simp only [ResourceLeases.incompatible, decide_true, Bool.true_and, Bool.or_eq_false_iff,
      Option.isSome_eq_false_iff, Option.isNone_iff_eq_none] at hm
    obtain ⟨⟨hm, hpm⟩, hc, hpc⟩ := hm
    exact ⟨hne, by simp, mode_ne ht (by simp) (by simp) (fun _ => hm) hpm hx,
      fun h => mode_ne ht (by simp) (fun _ => hc) (by simp) hpc hx h.2⟩
  | maintenance =>
    simp only [ResourceLeases.incompatible, ResourceLeases.hasAnyLease,
      Bool.not_eq_false'] at hm
    rw [held_eq_nil_of_isEmpty hm] at hx
    cases hx

lemma held_reserve (hs : l.holds s = false) :
    held { l with pending := l.pending.insert s p } = (s, p.mode) :: held l := by
  have hp : s ∉ l.pending := by
    simp only [ResourceLeases.holds, Bool.or_eq_false_iff, Option.isSome_eq_false_iff,
      Option.isNone_iff_eq_none] at hs
    exact AList.lookup_eq_none.mp hs.1.1.1
  simp only [held, pendingHeld, observesHeld, AList.entries_insert_of_notMem hp, List.map_cons,
    List.cons_append]

/-! ### Taking a holding out, moving it -/

lemma held_perm_erase_pending (hp : l.pending.lookup s = some p) :
    (held l).Perm ((s, p.mode) :: held { l with pending := l.pending.erase s }) :=
  ((Assoc.entries_perm_erase hp).map fun e => ((e.1, e.2.mode) : Holding)).append_right _

lemma leases_perm_observes (he : l.observes.lookup s = some e) :
    (leases l).Perm (e :: leases { l with observes := l.observes.erase s }) :=
  ((Assoc.entries_perm_erase he).map Sigma.snd).append_right _

lemma leases_perm_control :
    (leases { l with control := some e }).Perm (e :: leases { l with control := none }) :=
  List.perm_middle

lemma leases_perm_maintenance :
    (leases { l with maintenance := some e }).Perm
      (e :: leases { l with maintenance := none }) := by
  unfold leases
  rw [← List.append_assoc, ← List.append_assoc]
  exact List.perm_middle

lemma leases_place {mode : LeaseMode} (hs : l.observes.lookup e.sessionId = none)
    (hc : mode = .control → l.control = none) (hm : mode = .maintenance → l.maintenance = none) :
    (leases (place l mode e)).Perm (e :: leases l) := by
  cases mode with
  | observe =>
    simp only [leases, place, AList.entries_insert_of_notMem (AList.lookup_eq_none.mp hs),
      List.map_cons, List.cons_append]
    exact .rfl
  | control =>
    have := leases_perm_control (l := l) (e := e)
    simp only [← hc rfl] at this
    exact this
  | maintenance =>
    have := leases_perm_maintenance (l := l) (e := e)
    simp only [← hm rfl] at this
    exact this

lemma pairwise_of_perm {h' : List Holding} (hp : h.Perm h') (hh : h.Pairwise Compatible) :
    h'.Pairwise Compatible := hh.perm hp compatible_comm

/-- No two active entries are of one session. -/
lemma Exclusive.nodup (hl : Exclusive l) : ((leases l).map LeaseEntry.sessionId).Nodup := by
  have h := hl.pairwise
  rw [held_eq hl.typed, List.pairwise_append] at h
  exact List.pairwise_map.mpr ((List.pairwise_map.mp h.2.1).imp fun h => h.1)

lemma Typed.erase (ht : Typed l) (s : SessionId) :
    Typed { l with pending := l.pending.erase s } := ⟨ht.observes, ht.control, ht.maintenance⟩

lemma compatible_of_pending (hl : Exclusive l) (hp : l.pending.lookup s = some p)
    (he : e ∈ leases l) : Compatible (s, p.mode) (holding e) := by
  have h := pairwise_of_perm (held_perm_erase_pending hp) hl.pairwise
  refine (List.pairwise_cons.mp h).1 _ ?_
  exact (mem_held (hl.typed.erase s)).mpr (.inr ⟨e, he, rfl⟩)

lemma room_of_pending (hl : Exclusive l) (hp : l.pending.lookup s = some p) :
    l.observes.lookup s = none ∧ (p.mode = .control → l.control = none) ∧
      (p.mode = .maintenance → l.maintenance = none) := by
  have hmem {e : LeaseEntry} := (mem_leases (e := e) hl.typed).mpr
  refine ⟨Option.eq_none_iff_forall_ne_some.mpr fun e he => ?_,
    fun hm => Option.eq_none_iff_forall_ne_some.mpr fun e he => ?_,
    fun hm => Option.eq_none_iff_forall_ne_some.mpr fun e he => ?_⟩
  · have hs := (hl.typed.observes s e he).1
    exact (compatible_of_pending hl hp (hmem (.inl (by rwa [hs])))).1 hs.symm
  · exact (compatible_of_pending hl hp (hmem (.inr (.inl he)))).2.2.2 ⟨hm, hl.typed.control e he⟩
  · exact (compatible_of_pending hl hp (hmem (.inr (.inr he)))).2.2.1 (hl.typed.maintenance e he)

lemma typed_place (ht : Typed l) (s : SessionId) (o : OwnerId) (f : LeaseId) (g : ℕ)
    (mode : LeaseMode) : Typed (place l mode ⟨s, o, ⟨f, g, mode⟩⟩) := by
  cases mode with
  | observe =>
    refine ⟨?_, ht.control, ht.maintenance⟩
    intro q e h
    simp only [place] at h
    rcases Assoc.of_lookup_insert h with ⟨hq, rfl⟩ | h
    · exact ⟨hq.symm, rfl⟩
    · exact ht.observes q e h
  | control =>
    exact ⟨ht.observes, fun e h => by obtain rfl := Option.some.inj h; rfl, ht.maintenance⟩
  | maintenance =>
    exact ⟨ht.observes, ht.control, fun e h => by obtain rfl := Option.some.inj h; rfl⟩

/-! ### Every run -/

lemma exclusive_default : Exclusive {} :=
  ⟨⟨by simp, by simp, by simp⟩, List.Pairwise.nil⟩

lemma exclusive_of_pending (hl : Exclusive l) (hp : l.pending.lookup s = some p) :
    Exclusive { l with pending := l.pending.erase s } :=
  ⟨hl.typed.erase s, (pairwise_of_perm (held_perm_erase_pending hp) hl.pairwise).of_cons⟩

lemma exclusive_of_leases {l' : ResourceLeases} (hl : Exclusive l) (ht : Typed l')
    (hpend : l'.pending = l.pending) (hp : (leases l).Perm (e :: leases l')) : Exclusive l' := by
  have hperm : (held l).Perm (holding e :: held l') := by
    rw [held_eq hl.typed, held_eq ht, pendingHeld, pendingHeld, hpend]
    exact ((hp.map holding).append_left _).trans List.perm_middle
  exact ⟨ht, (pairwise_of_perm hperm hl.pairwise).of_cons⟩

lemma exclusive_commit (hl : Exclusive l) (hp : l.pending.lookup s = some p) (f : LeaseId) (g : ℕ) :
    Exclusive (place { l with pending := l.pending.erase s, lastGeneration := g } p.mode
      ⟨s, p.ownerId, ⟨f, g, p.mode⟩⟩) := by
  obtain ⟨ho, hc, hm⟩ := room_of_pending hl hp
  have ht := hl.typed.erase s
  have ht' := typed_place (l := { l with pending := l.pending.erase s, lastGeneration := g })
    ⟨ht.1, ht.2, ht.3⟩ s p.ownerId f g p.mode
  have hpend : ∀ (l : ResourceLeases) (mode : LeaseMode) (e : LeaseEntry),
      (place l mode e).pending = l.pending := fun l mode e => by cases mode <;> rfl
  refine ⟨ht', pairwise_of_perm ?_ hl.pairwise⟩
  refine (held_perm_erase_pending hp).trans ?_
  rw [held_eq ht', pendingHeld, hpend, held_eq ht]
  have hplace := leases_place (l := { l with pending := l.pending.erase s, lastGeneration := g })
    (e := ⟨s, p.ownerId, ⟨f, g, p.mode⟩⟩) ho hc hm
  exact List.perm_middle.symm.trans ((hplace.map holding).symm.append_left _)

lemma effect_exclusive {l' : ResourceLeases} {c : Call} {a : Answer} (h : Effect l c a l')
    (hl : Exclusive l) : Exclusive l' := by
  have ⟨ho, hc, hm⟩ := hl.typed
  cases h with
  | idle => exact hl
  | reserved r s o mode fresh hs hmode =>
    refine ⟨⟨ho, hc, hm⟩, ?_⟩
    rw [held_reserve hs]
    exact List.pairwise_cons.mpr
      ⟨fun x hx => compatible_of_reserve hl.typed hs hmode hx, hl.pairwise⟩
  | committed v fresh hp => exact exclusive_commit hl hp fresh _
  | exhausted v fresh e hp | cancelled v hp => exact exclusive_of_pending hl hp
  | releasedObserve r s e he =>
    refine exclusive_of_leases hl ⟨?_, hc, hm⟩ rfl (leases_perm_observes he)
    intro q d hq
    exact ho q d (Assoc.of_lookup_erase hq).2
  | releasedControl r e he =>
    have hp := leases_perm_control (l := l) (e := e)
    simp only [← he] at hp
    exact exclusive_of_leases hl ⟨ho, by simp, hm⟩ rfl hp
  | releasedMaintenance r e he =>
    have hp := leases_perm_maintenance (l := l) (e := e)
    simp only [← he] at hp
    exact exclusive_of_leases hl ⟨ho, hc, by simp⟩ rfl hp

lemma run_exclusive (calls : List Call) (r : ResourceId) :
    Exclusive ((Machine.final step {} calls).leasesOf r) :=
  leases_invariant exclusive_default (fun _ _ _ _ => effect_exclusive) calls r

lemma countP_control_le_one (hh : h.Pairwise Compatible) :
    h.countP (fun x => x.2 = .control) ≤ 1 := by
  induction h with
  | nil => simp
  | cons x h ih =>
    obtain ⟨hx, hrest⟩ := List.pairwise_cons.mp hh
    rw [List.countP_cons]
    by_cases hm : x.2 = .control
    · have : h.countP (fun x => x.2 = .control) = 0 := by
        refine List.countP_eq_zero.mpr fun y hy => ?_
        simpa using fun hc => (hx y hy).2.2.2 ⟨hm, hc⟩
      simp [this, hm]
    · simpa [hm] using ih hrest

lemma eq_singleton_of_maintenance (hh : h.Pairwise Compatible) (hx : x ∈ h)
    (hm : x.2 = .maintenance) : h = [x] := by
  obtain ⟨u, v, rfl⟩ := List.append_of_mem hx
  have hh := List.pairwise_cons.mp (pairwise_of_perm List.perm_middle hh)
  have hnil : u ++ v = [] :=
    List.eq_nil_iff_forall_not_mem.mpr fun y hy => (hh.1 y hy).2.1 hm
  obtain ⟨rfl, rfl⟩ := List.append_eq_nil_iff.mp hnil
  rfl

/-- **Exclusion**: after any calls, whatever their arguments, a resource has at most one
controlling entry, a maintenance entry stands alone, and no session appears twice; and an
active lease sits in the container of its mode. -/
theorem run_exclusion (calls : List Call) (r : ResourceId) :
    let l := (Machine.final step {} calls).leasesOf r
    (held l).countP (fun x => x.2 = .control) ≤ 1 ∧
      (∀ x ∈ held l, x.2 = .maintenance → held l = [x]) ∧
      ((held l).map Prod.fst).Nodup ∧ Typed l := by
  intro l
  have hl := run_exclusive calls r
  refine ⟨countP_control_le_one hl.pairwise,
    fun x hx hm => eq_singleton_of_maintenance hl.pairwise hx hm, ?_, hl.typed⟩
  exact List.pairwise_map.mpr (hl.pairwise.imp fun h => h.1)

end RobotHal.CanLeaseTable
