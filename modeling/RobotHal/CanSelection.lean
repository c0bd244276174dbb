import RobotHal.BrokerDispatch

/-!
# Which CAN resource an open selects

The broker selects a descriptor and checks its capabilities before it asks the runtime, which
resolves the selector once more with one capability required. Both take the only descriptor that
matches. They differ in an attach that states no mode: the broker asks for no capability, the
runtime for the one of classic frames.
-/

namespace RobotHal

/-! ### The only match -/

/-- The only element that satisfies `p`; that there is none, or more than one, is an error. -/
def pickOne {ε α : Type} (p : α → Bool) (l : List α) (absent ambiguous : ε) : Except ε α :=
  match l.filter p with
  | [] => .error absent
  | [a] => .ok a
  | _ => .error ambiguous

section PickOne

variable {ε α κ : Type} {p : α → Bool} {l : List α} {absent ambiguous : ε} {a : α}

lemma pickOne_eq_ok : pickOne p l absent ambiguous = .ok a ↔ l.filter p = [a] := by
  unfold pickOne
  rcases l.filter p with _ | ⟨b, _ | ⟨c, rest⟩⟩ <;> simp

lemma pickOne_eq_ok_iff_mem {key : α → κ} (hkeys : (l.map key).Nodup)
    (hsame : ∀ a b, p a = true → p b = true → key a = key b) :
    pickOne p l absent ambiguous = .ok a ↔ a ∈ l ∧ p a = true := by
  rw [pickOne_eq_ok]
  constructor
  · intro h
    have hmem : a ∈ l.filter p := by rw [h]; exact List.mem_singleton_self a
    exact List.mem_filter.mp hmem
  · rintro ⟨hmem, hp⟩
    have hnodup : (l.filter p).Nodup := (hkeys.of_map _).filter _
    refine List.perm_singleton.mp
      ((List.perm_ext_iff_of_nodup hnodup (List.nodup_singleton a)).mpr ?_)
    intro b
    rw [List.mem_filter, List.mem_singleton]
    constructor
    · rintro ⟨hb, hpb⟩
      exact List.inj_on_of_nodup_map hkeys hb hmem (hsame b a hpb hp)
    · rintro rfl
      exact ⟨hmem, hp⟩

end PickOne

/-! ### Descriptors -/

inductive IdentityQuality
  | weak
  | medium
  | strong
deriving DecidableEq

def IdentityQuality.rank : IdentityQuality → ℕ
  | .weak => 0
  | .medium => 1
  | .strong => 2

def IdentityQuality.satisfies (quality minimum : IdentityQuality) : Bool :=
  decide (quality.rank ≥ minimum.rank)

inductive TransportKind
  | serial
  | can
  | usb
  | gpio
  | camera
deriving DecidableEq

/-- The endpoint and the properties of a resource take no part in its selection. -/
structure ResourceDescriptor where
  id : ResourceId
  minimumIdentityQuality : IdentityQuality
  transport : TransportKind
  capabilities : Broker.CapabilitySet

structure ResourceSelector where
  id : ResourceId
  minimumIdentityQuality : IdentityQuality
  transport : TransportKind

def ResourceSelector.selects (selector : ResourceSelector) (descriptor : ResourceDescriptor) :
    Bool :=
  descriptor.id = selector.id && descriptor.transport = selector.transport
    && descriptor.minimumIdentityQuality.satisfies selector.minimumIdentityQuality

def resolveResource (descriptors : List ResourceDescriptor) (selector : ResourceSelector)
    (requiredCapability operation : String) : HalResult ResourceDescriptor :=
  pickOne (fun d => selector.selects d && decide (requiredCapability ∈ d.capabilities)) descriptors
    ((HalError.new "runtime.resource.not_found" .notFound operation false
      "resource selector did not match an enumerated descriptor").withResourceId selector.id)
    ((HalError.new "runtime.resource.ambiguous" .conflict operation false
      "resource selector matched more than one enumerated descriptor").withResourceId selector.id)

/-! ### The runtime -/

def CanManager.requiredCapability : CanOpenConfig → String
  | .configure _ => canConfigureCapability
  | .attach expectation =>
    if expectation.mode = some .fd then canFdCapability else canClassicCapability

/-- The descriptor an open of the runtime is about. -/
def CanManager.resolve (descriptors : List ResourceDescriptor) (selector : ResourceSelector)
    (config : CanOpenConfig) : HalResult ResourceDescriptor :=
  resolveResource descriptors selector (requiredCapability config) "can.open"

/-! ### The broker -/

namespace Broker.CanDispatch

def resourceSelectionError (name : String) (category : ErrorCategory) (message : String)
    (resourceId : ResourceId) : HalError :=
  (HalError.new name category "can.open" false message).withResourceId resourceId

def selectDescriptor (descriptors : List ResourceDescriptor) (selector : ResourceSelector) :
    HalResult ResourceDescriptor :=
  pickOne selector.selects descriptors
    (resourceSelectionError "runtime.resource.not_found" .notFound
      "CAN resource selector did not match an enumerated descriptor" selector.id)
    (resourceSelectionError "runtime.resource.ambiguous" .conflict
      "CAN resource selector matched more than one enumerated descriptor" selector.id)

def modeCapability : CanMode → String
  | .classic => canClassicCapability
  | .fd => canFdCapability

def validateOpenCapabilities (descriptor : ResourceDescriptor) (config : CanOpenConfig)
    (filters : CanFilterSet) : HalResult Unit :=
  let require := fun capability =>
    requireCapability descriptor.capabilities capability descriptor.id
  let validated : HalResult Unit :=
    match config with
    | .attach { mode := some mode, .. } => require (modeCapability mode)
    | .attach { mode := none, .. } => .ok ()
    | .configure config =>
      (require canConfigureCapability).bind fun _ => require (modeCapability config.mode)
  validated.bind fun _ => validateFilterCapabilities filters descriptor.capabilities descriptor.id

/-- The gate of an open: the descriptor it is let through with. -/
def gate (descriptors : List ResourceDescriptor) (selector : ResourceSelector)
    (config : CanOpenConfig) (filters : CanFilterSet) : HalResult ResourceDescriptor := do
  let selected ← selectDescriptor descriptors selector
  validateOpenCapabilities selected config filters
  return selected

end Broker.CanDispatch

/-! ### Agreement -/

section Agreement

open Broker.CanDispatch

variable {descriptors : List ResourceDescriptor} {selector : ResourceSelector}
  {config : CanOpenConfig} {filters : CanFilterSet} {d : ResourceDescriptor}

lemma id_of_selects (h : selector.selects d = true) : d.id = selector.id := by
  simp only [ResourceSelector.selects, Bool.and_eq_true, decide_eq_true_eq] at h
  exact h.1.1

lemma selectDescriptor_eq_ok (hids : (descriptors.map ResourceDescriptor.id).Nodup) :
    selectDescriptor descriptors selector = .ok d ↔ d ∈ descriptors ∧ selector.selects d = true :=
  pickOne_eq_ok_iff_mem hids fun _ _ ha hb => (id_of_selects ha).trans (id_of_selects hb).symm

lemma resolve_eq_ok (hids : (descriptors.map ResourceDescriptor.id).Nodup) :
    CanManager.resolve descriptors selector config = .ok d ↔ d ∈ descriptors
      ∧ selector.selects d = true ∧ CanManager.requiredCapability config ∈ d.capabilities := by
  unfold CanManager.resolve resolveResource
  rw [pickOne_eq_ok_iff_mem hids]
  · simp
  · intro a b ha hb
    simp only [Bool.and_eq_true] at ha hb
    exact (id_of_selects ha.1).trans (id_of_selects hb.1).symm

/-- An attach that states no mode. -/
def CanOpenConfig.Modeless (config : CanOpenConfig) : Prop :=
  ∃ expectation, config = .attach expectation ∧ expectation.mode = none

/-- What the broker asks of the resource of an open. -/
def Broker.CanDispatch.Advertised (d : ResourceDescriptor) (config : CanOpenConfig)
    (filters : CanFilterSet) : Prop :=
  (config.Modeless ∨ CanManager.requiredCapability config ∈ d.capabilities)
    ∧ (∀ x, config = .configure x → modeCapability x.mode ∈ d.capabilities)
    ∧ ((List.any filters fun f => f.classes.error) = true →
      canErrorFramesCapability ∈ d.capabilities)

lemma validateFilterCapabilities_eq_ok {resourceId : ResourceId}
    {capabilities : Broker.CapabilitySet} :
    validateFilterCapabilities filters capabilities resourceId = .ok () ↔
      ((List.any filters fun f => f.classes.error) = true →
        canErrorFramesCapability ∈ capabilities) := by
  unfold validateFilterCapabilities
  split
  · rename_i h
    rw [Broker.requireCapability_eq_ok]
    simp [h]
  · rename_i h
    simp [h]

lemma validateOpenCapabilities_eq_ok :
    validateOpenCapabilities d config filters = .ok () ↔ Advertised d config filters := by
  have hvalidated {x : HalResult Unit} {f : HalResult Unit} {P Q : Prop} (hx : x = .ok () ↔ P)
      (hf : f = .ok () ↔ Q) : (x.bind fun _ => f) = .ok () ↔ P ∧ Q := by
    rw [bind_eq_ok, ← hx, ← hf]
    exact ⟨fun ⟨_, h, h'⟩ => ⟨h, h'⟩, fun ⟨h, h'⟩ => ⟨(), h, h'⟩⟩
  unfold validateOpenCapabilities Advertised
  rw [← and_assoc]
  refine hvalidated ?_ validateFilterCapabilities_eq_ok
  rcases config with ⟨_ | mode, _, _, _, _⟩ | config
  · simp [CanOpenConfig.Modeless]
  · rw [Broker.requireCapability_eq_ok]
    cases mode <;> simp [CanOpenConfig.Modeless, CanManager.requiredCapability, modeCapability]
  · rw [hvalidated Broker.requireCapability_eq_ok Broker.requireCapability_eq_ok]
    simp [CanOpenConfig.Modeless, CanManager.requiredCapability]

lemma gate_eq_ok (hids : (descriptors.map ResourceDescriptor.id).Nodup) :
    gate descriptors selector config filters = .ok d ↔
      (d ∈ descriptors ∧ selector.selects d = true) ∧ Advertised d config filters := by
  rw [← selectDescriptor_eq_ok hids, ← validateOpenCapabilities_eq_ok]
  constructor
  · intro h
    obtain ⟨d', hselect, h⟩ := bind_eq_ok.mp h
    obtain ⟨_, hvalid, h⟩ := bind_eq_ok.mp h
    obtain rfl := Except.ok.inj h
    exact ⟨hselect, hvalid⟩
  · rintro ⟨hselect, hvalid⟩
    exact bind_eq_ok.mpr ⟨d, hselect, bind_eq_ok.mpr ⟨(), hvalid, rfl⟩⟩

/-- **The gate and the runtime.** On distinct ids, what the runtime resolves the broker selects.
What the broker lets through the runtime resolves to the same descriptor, unless the open is an
attach that states no mode and the descriptor does not advertise classic frames. -/
theorem gate_agrees_iff (hids : (descriptors.map ResourceDescriptor.id).Nodup) :
    ((∀ d, gate descriptors selector config filters = .ok d →
        CanManager.resolve descriptors selector config = .ok d)
      ∧ ∀ d, CanManager.resolve descriptors selector config = .ok d →
        selectDescriptor descriptors selector = .ok d)
    ↔ ¬(config.Modeless ∧ ∃ d ∈ descriptors, selector.selects d = true
      ∧ canClassicCapability ∉ d.capabilities
      ∧ ((List.any filters fun f => f.classes.error) = true →
        canErrorFramesCapability ∈ d.capabilities)) := by
  simp only [gate_eq_ok hids, resolve_eq_ok hids, selectDescriptor_eq_ok hids]
  constructor
  · rintro ⟨hgate, -⟩ ⟨hmodeless, d, hd, hselects, hclassic, hfilters⟩
    obtain ⟨expectation, rfl, hmode⟩ := id hmodeless
    obtain ⟨-, -, hrequired⟩ := hgate d ⟨⟨hd, hselects⟩, .inl hmodeless, nofun, hfilters⟩
    simp only [CanManager.requiredCapability, hmode, reduceCtorEq, if_false] at hrequired
    exact hclassic hrequired
  · intro hnot
    refine ⟨?_, fun d h => ⟨h.1, h.2.1⟩⟩
    rintro d ⟨⟨hd, hselects⟩, hmodeless | hrequired, -, hfilters⟩
    · refine ⟨hd, hselects, ?_⟩
      by_contra hmissing
      refine hnot ⟨hmodeless, d, hd, hselects, ?_, hfilters⟩
      obtain ⟨expectation, rfl, hmode⟩ := hmodeless
      simpa only [CanManager.requiredCapability, hmode, reduceCtorEq, if_false] using hmissing
    · exact ⟨hd, hselects, hrequired⟩

theorem gate_agrees_classic :
    ∃ d : ResourceDescriptor, gate [d] ⟨⟨"can0"⟩, .strong, .can⟩ (.attach {}) [] = .ok d
      ∧ CanManager.resolve [d] ⟨⟨"can0"⟩, .strong, .can⟩ (.attach {}) = .ok d := by
  let d : ResourceDescriptor := ⟨⟨"can0"⟩, .strong, .can, [canClassicCapability]⟩
  have hgate : gate [d] ⟨⟨"can0"⟩, .strong, .can⟩ (.attach {}) [] = .ok d := by rfl
  have hids : ([d].map ResourceDescriptor.id).Nodup := List.nodup_singleton _
  refine ⟨d, hgate, ((gate_agrees_iff hids).mpr ?_).1 d hgate⟩
  rintro ⟨-, d', hd, -, hmissing, -⟩
  obtain rfl := List.mem_singleton.mp hd
  exact hmissing (List.mem_singleton_self _)

/-- An adapter for FD frames only, attached to without a mode: the broker lets the open through and
the runtime does not find the resource. -/
theorem gate_disagrees_fd_only :
    ∃ d : ResourceDescriptor, d.transport = .can
      ∧ gate [d] ⟨⟨"can0"⟩, .strong, .can⟩ (.attach {}) [] = .ok d
      ∧ ∃ error, CanManager.resolve [d] ⟨⟨"can0"⟩, .strong, .can⟩ (.attach {}) = .error error
        ∧ error.name = "runtime.resource.not_found" :=
  ⟨⟨⟨"can0"⟩, .strong, .can, [canFdCapability]⟩, rfl, by rfl, _, by rfl, by rfl⟩

end Agreement

end RobotHal
