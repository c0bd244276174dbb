import RobotHal.RingIntegrity

/-!
What a reader copies from the shared frame ring.

The header a reader checked is the one the broker wrote, so both read the slots with the same
configuration; a copy is then the content of a pinned slot that carries the numbers of the
lease, and in a sound ring that is the published frame with those numbers.
-/

namespace RobotHal.Ring

open Mem

variable {m : Mem} {r : ReadOnlyMapping} {lease : FrameLease} {frame : CopiedFrame} {c : RingConfig}
  {i : ℕ} {p : Published}

/-! ### The configuration of a reader -/

section Header

variable {sha256 : Vector UInt8 32 → Vector UInt8 32} {d : MappingDescriptor}

/-- A reader of a ring whose header is as it was created has the broker's configuration. -/
lemma config_of_open {name : String} {identity token : Vector UInt8 32} {b : BrokerMapping}
    (hs : (BrokerMapping.create sha256 c name identity token).Steady b)
    (h : ReadOnlyMapping.open sha256 (.inl b.mem) d = .ok r) :
    r.header.config = b.config := by
  rw [hs.config]
  unfold ReadOnlyMapping.open at h
  dsimp only at h
  split at h
  · cases h
  next header hv =>
  obtain rfl := Except.ok.inj h
  have ha := accepted_of_validateHeader hv
  -- each field of the header is the one written at creation
  have hw : Written sha256 c _ (BrokerMapping.create sha256 c name identity token).mem :=
    written_writeHeader
  have hslots := ha.slotCount
  have hpay := ha.payloadCapacity
  have hfmt := ha.format
  have hwidth := ha.width
  have hheight := ha.height
  rw [hs.header.readU64_eq (by simp) (by simp), hw.slotCount] at hslots
  rw [hs.header.readU64_eq (by simp) (by simp), hw.payloadCapacity] at hpay
  rw [hs.header.readU32_eq (by simp) (by simp), hw.format, PixelFormat.tryFrom_raw] at hfmt
  rw [hs.header.readU32_eq (by simp) (by simp), hw.width] at hwidth
  rw [hs.header.readU32_eq (by simp) (by simp), hw.height] at hheight
  have hpf := congrArg PixelFormat.toCamera (Except.ok.inj hfmt)
  rw [PixelFormat.toCamera_ofCamera, PixelFormat.toCamera_ofCamera] at hpf
  exact RingConfig.ext_of (CameraFormat.ext hpf.symm hwidth.symm hheight.symm) hslots.symm hpay.symm

end Header

lemma copyLocked_eq_some (h : (r.copyLocked lease).eval m = .ok (some frame)) :
    lease.slotIndex < r.header.config.slotCount ∧
    (slotState r.header.config lease.slotIndex).eval m = .ok .pinned ∧
    m.readU64 (r.header.config.slotBase lease.slotIndex + slotGenerationField) =
      lease.generation ∧
    m.readU64 (r.header.config.slotBase lease.slotIndex + slotSequenceField) = lease.sequence ∧
    (readMetadata r.header.config lease.slotIndex lease.sequence lease.generation).eval m =
      .ok frame.metadata ∧
    ∃ n, (slotPayloadLength r.header.config lease.slotIndex).eval m = .ok n ∧
      frame.payload = m.read (r.header.config.slotBase lease.slotIndex + slotHeaderBytes) n := by
  unfold ReadOnlyMapping.copyLocked at h
  obtain ⟨t, -, h⟩ := Reader.bind_eq_ok.mp h
  split at h
  · cases h
  split at h
  · cases h
  next hi =>
  obtain ⟨st, hst, h⟩ := Reader.bind_eq_ok.mp h
  split at h
  · cases h
  next hpin =>
  obtain ⟨g, hg, h⟩ := Reader.bind_eq_ok.mp h
  split at h
  · cases h
  next hgen =>
  obtain ⟨q, hq, h⟩ := Reader.bind_eq_ok.mp h
  split at h
  · cases h
  next hseq =>
  obtain ⟨md, hmd, h⟩ := Reader.bind_eq_ok.mp h
  obtain ⟨q', -, h⟩ := Reader.bind_eq_ok.mp h
  split at h
  · cases h
  obtain ⟨g', -, h⟩ := Reader.bind_eq_ok.mp h
  split at h
  · cases h
  obtain ⟨n, hn, h⟩ := Reader.bind_eq_ok.mp h
  obtain ⟨bytes, hbytes, h⟩ := Reader.bind_eq_ok.mp h
  obtain rfl : { metadata := md, payload := bytes } = frame := Option.some.inj (Except.ok.inj h)
  obtain rfl : st = .pinned := by simpa using hpin
  obtain ⟨-, rfl⟩ : _ ∧ g = lease.generation := by simpa using hgen
  obtain rfl : q = lease.sequence := by simpa using hseq
  exact ⟨by omega, hst, Except.ok.inj hg, Except.ok.inj hq, hmd, n, hn, (Except.ok.inj hbytes).symm⟩

lemma mapM_eq_ok {ε ι α : Type} {f : ι → Except ε α} {l : List ι} {l' : List α}
    (h : List.Forall₂ (fun k a => f k = .ok a) l l') : l.mapM f = .ok l' := by
  induction h with
  | nil => rfl
  | cons hk _ ih =>
    rw [List.mapM_cons, hk, ih]
    rfl

lemma readMetadata_of_holds {md : FrameMetadata} {s g : UInt64} (hp : Holds m c i p)
    (h : (readMetadata c i s g).eval m = .ok md) :
    md.planes = p.planes ∧ md.monotonicTimestampNs = p.timestamp := by
  unfold readMetadata at h
  obtain ⟨timestamp, ht, h⟩ := Reader.bind_eq_ok.mp h
  obtain ⟨dropped, -, h⟩ := Reader.bind_eq_ok.mp h
  obtain ⟨payloadLength, -, h⟩ := Reader.bind_eq_ok.mp h
  obtain ⟨planeCount, hcount, h⟩ := Reader.bind_eq_ok.mp h
  split at h
  · cases h
  obtain ⟨planes, hplanes, h⟩ := Reader.bind_eq_ok.mp h
  obtain ⟨u, -, h⟩ := Reader.bind_eq_ok.mp h
  have hcount : planeCount.toNat = p.planes.length := by
    rw [← Except.ok.inj hcount, hp.planeCount]
  have hread : (List.range p.planes.length).mapM (fun k => (readPlane c i k).eval m) =
      .ok p.planes := by
    refine mapM_eq_ok (List.forall₂_iff_get.mpr ⟨by simp, fun k _ hk => ?_⟩)
    simpa using hp.planes k hk
  rw [Reader.eval_mapM, hcount, hread] at hplanes
  obtain rfl := Except.ok.inj hplanes
  have hmd := FrameMetadata.new_eq_ok h
  rw [hmd]
  exact ⟨rfl, (Except.ok.inj ht).symm.trans hp.timestamp⟩

/-- A copy from a sound ring is a published frame with the numbers of the lease. -/
lemma copy_of_sound {b : BrokerMapping} {pub : List Published} {lock unlock : OsResult}
    (h : b.Sound pub) (hcfg : r.header.config = b.config)
    (hc : (r.copy lock unlock lease).eval b.mem = .ok (some frame)) :
    ∃ p ∈ pub, p.key = (lease.sequence, lease.generation) ∧ frame.payload = p.payload ∧
      frame.metadata.planes = p.planes ∧ frame.metadata.monotonicTimestampNs = p.timestamp := by
  unfold ReadOnlyMapping.copy at hc
  split at hc
  · cases hc
  split at hc
  · cases hc
  obtain ⟨hi, hst, hg, hq, hmd, n, hn, hpay⟩ := copyLocked_eq_some (Reader.eval_followedBy hc)
  rw [hcfg] at hi hst hg hq hmd hn hpay
  obtain ⟨p, hp, hh⟩ := h lease.slotIndex hi (.inr hst)
  obtain ⟨hpl, hts⟩ := readMetadata_of_holds hh hmd
  refine ⟨p, hp, ?_, ?_, hpl, hts⟩
  · rw [Published.key, ← hh.sequence, ← hh.generation, hq, hg]
  · rw [hpay, (slotPayloadLength_le hn).1, hh.payloadLength, hh.payload]

/-- **Ring integrity.** In every run in which a copier that fails leaves the frame of the slot
it landed on alone, a frame that any reader copies for a lease is the one committed under the
lease's sequence and generation: same payload, same planes, same timestamp. -/
theorem copied_frame_is_published (sha256 : Vector UInt8 32 → Vector UInt8 32) (c : RingConfig)
    (name : String) (identity token : Vector UInt8 32) (l₁ l₂ : List Call) (s₁ s : System)
    (h₁ : System.Runs (.create sha256 c name identity token) l₁ s₁) (h₂ : System.Runs s₁ l₂ s)
    (hkeys : (s.published.map Published.key).Nodup) (d : MappingDescriptor)
    (r : ReadOnlyMapping) (hr : ReadOnlyMapping.open sha256 (.inl s₁.broker.mem) d = .ok r)
    (lock unlock : OsResult) (lease : FrameLease) (frame : CopiedFrame)
    (hc : (r.copy lock unlock lease).eval s.broker.mem = .ok (some frame)) :
    ∃ p ∈ s.published,
      p.key = (lease.sequence, lease.generation) ∧
      (∀ q ∈ s.published, q.key = (lease.sequence, lease.generation) → q = p) ∧
      frame.payload = p.payload ∧ frame.metadata.planes = p.planes ∧
      frame.metadata.monotonicTimestampNs = p.timestamp := by
  obtain ⟨hsound₁, hsteady₁⟩ :=
    System.run_sound h₁ (BrokerMapping.sound_create sha256 c name identity token)
  obtain ⟨hsound, hsteady⟩ := System.run_sound h₂ hsound₁
  have hcfg : r.header.config = s.broker.config := by
    rw [config_of_open hsteady₁ hr, hsteady.config]
  obtain ⟨p, hp, hkey, hframe⟩ := copy_of_sound hsound hcfg hc
  refine ⟨p, hp, hkey, fun q hq hqkey => ?_, hframe⟩
  exact List.inj_on_of_nodup_map hkeys hq hp (hqkey.trans hkey.symm)

/-! ### Two rings of one-pixel frames -/

def smallFrame (sequence : UInt64) : FrameMetadata where
  format := .yuyv
  width := 1
  height := 1
  sequence
  generation := 1
  monotonicTimestampNs := 123
  droppedCount := 0
  planes := [
    { offset := 0, length := 2, stride := 2, length_ne := by decide, stride_ne := by decide
      end_lt := by decide }]

def fresh : System :=
  .create id smallConfig "/robot-hal-00" (Vector.replicate 32 0) (Vector.replicate 32 0)

def published (sequence : UInt64) (bytes : List UInt8) : Call :=
  .publishWith (smallFrame sequence) (.ofPayload bytes) (.ok ()) (.ok ()) (.ok ())

def leased : Call := .nextFrameLease (.ok ()) (.ok ())

def smallReader : ReadOnlyMapping :=
  { header := { config := smallConfig, identity := Vector.replicate 32 0 }
    expectedGeneration := none }

def smallLease : FrameLease :=
  { identity := Vector.replicate 32 0, slotIndex := 0, sequence := 1, generation := 1 }

theorem copied_frame_is_published_small :
    ∃ p ∈ ((fresh.step (published 1 [7, 9])).step leased).published,
      p.key = (smallLease.sequence, smallLease.generation) ∧ p.payload = [7, 9] := by
  have hspares : fresh.broker.Spares (published 1 [7, 9]) := by
    intro _ _ i hi hst
    obtain rfl : 0 = i := by
      have h0 : fresh.broker.selectWritableSlot = .ok (some 0) := by decide +kernel
      rw [h0] at hi
      exact Option.some.inj (Except.ok.inj hi)
    have hfree : fresh.broker.slotState 0 = .ok .free := by decide +kernel
    rw [hfree] at hst
    cases hst
  let frame : CopiedFrame := { metadata := smallFrame 1, payload := [7, 9] }
  have hc : (smallReader.copy (.ok ()) (.ok ()) smallLease).eval
      ((fresh.step (published 1 [7, 9])).step leased).broker.mem = .ok (some frame) := by
    decide +kernel
  obtain ⟨p, hp, hkey, -, hpay, -⟩ := copied_frame_is_published id smallConfig "/robot-hal-00"
    (Vector.replicate 32 0) (Vector.replicate 32 0) [published 1 [7, 9]] [leased] _ _
    (.snoc .nil hspares rfl) (.snoc .nil trivial rfl) (by decide +kernel) (smallDescriptor 960)
    smallReader (by decide +kernel) (.ok ()) (.ok ()) smallLease frame hc
  exact ⟨p, hp, hkey, hpay.symm⟩

/-- A copier that overwrites its destination and then fails. -/
def spill : Copier where
  run destination := (destination.map fun _ => 255,
    .error (invalid "shared_memory.publish" "simulated native-copy failure"))
  length_run _ := by simp

def spilled : List Call :=
  [published 1 [1, 1], published 2 [2, 2], published 3 [3, 3], published 4 [4, 4],
    .publishWith (smallFrame 5) spill (.ok ()) (.ok ()) (.ok ()), leased, leased, leased, leased]

/-- Four frames are published, a fifth publish fails after its copier ran on the oldest of
them, and the reader that is handed the oldest frame copies what the copier left. -/
theorem failed_publish_corrupts_frame :
    ∃ s, Machine.Runs (fun s c => some (System.step s c)) (fun _ _ => True) fresh spilled s ∧
      (s.published.map Published.key).Nodup ∧
      ReadOnlyMapping.open id (.inl s.broker.mem) (smallDescriptor 960) = .ok smallReader ∧
      s.broker.pinned = some smallLease ∧
      (smallReader.copy (.ok ()) (.ok ()) smallLease).eval s.broker.mem =
        .ok (some { metadata := smallFrame 1, payload := [255, 255] }) ∧
      ∃ p ∈ s.published, p.key = (smallLease.sequence, smallLease.generation) ∧
        p.payload = [1, 1] := by
  exact ⟨spilled.foldl System.step fresh, System.runs_foldl fresh spilled, by decide +kernel⟩

end RobotHal.Ring
