import AdAway.Vpn.VpnServiceControls
import Mathlib.Data.Finset.Prod

/-!
# The networks the VPN service knows of

`VpnService` registers one callback for each transport it monitors. The platform tells a callback
about single networks: each that becomes available, and each that is lost. The service keeps the
types only, in `availableNetworkTypes`, and stops its worker once the set is empty.

## What the set forgets

Several networks can share a type, so the set stands for the networks only as long as none of them
is lost while another of its type remains. `LastOfItsType` is that condition on an event, and
`availableNetworkTypes_exact_iff` says that it is the exact one.

## Main definitions

* `NetworkType`, `VpnService` — the types, and the fields of the service
* `addNetworkType`, `removeNetworkType` — what the callbacks do
* `Connectivity`, `stepConnectivity` — the service and the networks reported to it

## Main results

* `Connectivity.waitsForNetwork_step` — the service waits only without any type
* `Connectivity.exact_step` — when an event keeps the set right
* `availableNetworkTypes_exact_iff` — in which runs the set is right after every event
-/

namespace AdAway

/-- `VpnService.NetworkType`. -/
inductive NetworkType
  | cellular
  | wifi
  deriving DecidableEq, Repr

/-- The fields of the service. -/
structure VpnService where
  /-- The preference, the worker and the published status. -/
  controls : VpnControls
  availableNetworkTypes : Finset NetworkType
  deriving DecidableEq

namespace VpnService

/-- `VpnService.waitForNetVpn`. -/
def waitForNetVpn (s : VpnService) : VpnService :=
  { s with controls :=
    { s.controls with workerStarted := false, published := some .waitingForNetwork } }

/-- `VpnService.reconnect`. -/
def reconnect (s : VpnService) : VpnService :=
  { s with controls := { s.controls with published := some .reconnecting, workerStarted := true } }

/-- `VpnService.addNetworkType`. -/
def addNetworkType (s : VpnService) (type : NetworkType) : VpnService :=
  let noNetwork := s.availableNetworkTypes = ∅
  let s := { s with availableNetworkTypes := insert type s.availableNetworkTypes }
  if noNetwork then s.reconnect else s

/-- `VpnService.removeNetworkType`. -/
def removeNetworkType (s : VpnService) (type : NetworkType) : VpnService :=
  let s := { s with availableNetworkTypes := s.availableNetworkTypes.erase type }
  if s.availableNetworkTypes = ∅ then s.waitForNetVpn else s.reconnect

/-- `VpnService.initializeNetworkTypes`, with the transports of the active network. -/
def initializeNetworkTypes (s : VpnService) (activeNetwork : Finset NetworkType) : VpnService :=
  { s with availableNetworkTypes := activeNetwork }

@[simp] theorem availableNetworkTypes_addNetworkType (s : VpnService) (type : NetworkType) :
    (s.addNetworkType type).availableNetworkTypes = insert type s.availableNetworkTypes := by
  rw [addNetworkType]
  split <;> rfl

@[simp] theorem availableNetworkTypes_removeNetworkType (s : VpnService) (type : NetworkType) :
    (s.removeNetworkType type).availableNetworkTypes = s.availableNetworkTypes.erase type := by
  rw [removeNetworkType]
  dsimp only
  split <;> rfl

/-- The service is put in `WAITING_FOR_NETWORK`. -/
def Waiting (s : VpnService) : Prop := s.controls.published = some .waitingForNetwork

theorem not_waiting_reconnect (s : VpnService) : ¬ s.reconnect.Waiting := by
  simp [Waiting, reconnect]

/-- The service waits only when no type is available. -/
def WaitsForNetwork (s : VpnService) : Prop := s.Waiting → s.availableNetworkTypes = ∅

theorem WaitsForNetwork.addNetworkType {s : VpnService} (h : s.WaitsForNetwork)
    (type : NetworkType) : (s.addNetworkType type).WaitsForNetwork := by
  intro hwaiting
  rw [VpnService.addNetworkType] at hwaiting
  split at hwaiting
  next => exact absurd hwaiting (not_waiting_reconnect _)
  next hne => exact absurd (h hwaiting) hne

theorem WaitsForNetwork.removeNetworkType (s : VpnService) (type : NetworkType) :
    (s.removeNetworkType type).WaitsForNetwork := by
  intro hwaiting
  rw [availableNetworkTypes_removeNetworkType]
  rw [VpnService.removeNetworkType] at hwaiting
  dsimp only at hwaiting
  split at hwaiting
  next hempty => exact hempty
  next => exact absurd hwaiting (not_waiting_reconnect _)

end VpnService

/-! ### The networks of the device -/

/-- The service, and the networks reported available to its callbacks and not lost since. A network
is known by the callback it is reported to and its identifier. -/
structure Connectivity where
  service : VpnService
  networks : Finset (NetworkType × ℕ)

/-- The calls of a `NetworkTypeCallback`, by its monitored type and the network. -/
inductive NetworkCallback
  | onAvailable (monitoredType : NetworkType) (network : ℕ)
  | onLost (monitoredType : NetworkType) (network : ℕ)
  deriving DecidableEq

/-- One call. -/
def stepConnectivity (s : Connectivity) : NetworkCallback → Option Connectivity
  | .onAvailable type network =>
    some ⟨s.service.addNetworkType type, insert (type, network) s.networks⟩
  | .onLost type network =>
    some ⟨s.service.removeNetworkType type, s.networks.erase (type, network)⟩

/-- Each network is reported lost only after it has been reported available. -/
def LostAfterAvailable (as : List NetworkCallback) : Prop :=
  ∀ before type network after, as = before ++ .onLost type network :: after →
    .onAvailable type network ∈ before

/-- No network is available. -/
def noNetwork (controls : VpnControls) : Connectivity :=
  ⟨VpnService.initializeNetworkTypes ⟨controls, ∅⟩ ∅, ∅⟩

namespace Connectivity

/-- A type is available exactly when some network of it is, and the service waits only without any
network. -/
structure Exact (s : Connectivity) : Prop where
  types : ∀ type, type ∈ s.service.availableNetworkTypes ↔ ∃ network, (type, network) ∈ s.networks
  waits : s.service.Waiting → s.networks = ∅

theorem exact_of_types {s : Connectivity} (hwaits : s.service.WaitsForNetwork)
    (htypes : ∀ type, type ∈ s.service.availableNetworkTypes ↔
      ∃ network, (type, network) ∈ s.networks) : s.Exact := by
  refine ⟨htypes, fun hwaiting => Finset.eq_empty_of_forall_notMem ?_⟩
  rintro ⟨type, network⟩ hmem
  have htype : type ∈ s.service.availableNetworkTypes := (htypes type).mpr ⟨network, hmem⟩
  rw [hwaits hwaiting] at htype
  exact Finset.notMem_empty type htype

theorem waitsForNetwork_step {s t : Connectivity} {c : NetworkCallback}
    (hs : s.service.WaitsForNetwork) (h : stepConnectivity s c = some t) :
    t.service.WaitsForNetwork := by
  cases c with
  | onAvailable type network =>
    obtain rfl := Option.some.inj h
    exact hs.addNetworkType type
  | onLost type network =>
    obtain rfl := Option.some.inj h
    exact VpnService.WaitsForNetwork.removeNetworkType s.service type

end Connectivity

/-- No other network of the type remains when a network is reported lost. -/
def LastOfItsType (s : Connectivity) : NetworkCallback → Prop
  | .onAvailable _ _ => True
  | .onLost type network => ∀ network', (type, network') ∈ s.networks → network' = network

namespace Connectivity

/-- **One event** keeps the set right exactly when it does not lose one of several networks of a
type. -/
theorem exact_step {s t : Connectivity} {c : NetworkCallback} (hwaits : s.service.WaitsForNetwork)
    (hs : s.Exact) (h : stepConnectivity s c = some t) : t.Exact ↔ LastOfItsType s c := by
  have htwaits : t.service.WaitsForNetwork := waitsForNetwork_step hwaits h
  cases c with
  | onAvailable type network =>
    obtain rfl := Option.some.inj h
    refine iff_of_true (exact_of_types htwaits fun type' => ?_) trivial
    simp only [VpnService.availableNetworkTypes_addNetworkType, Finset.mem_insert, hs.types,
      Prod.mk.injEq]
    constructor
    · rintro (rfl | ⟨network', hmem⟩)
      · exact ⟨network, Or.inl ⟨rfl, rfl⟩⟩
      · exact ⟨network', Or.inr hmem⟩
    · rintro ⟨network', ⟨rfl, -⟩ | hmem⟩
      · exact Or.inl rfl
      · exact Or.inr ⟨network', hmem⟩
  | onLost type network =>
    obtain rfl := Option.some.inj h
    constructor
    · intro ht network' hmem'
      by_contra hne
      -- the other network remains, but its type is gone
      have htype : type ∈ (s.service.removeNetworkType type).availableNetworkTypes :=
        (ht.types type).mpr ⟨network', Finset.mem_erase.mpr ⟨by simp [hne], hmem'⟩⟩
      rw [VpnService.availableNetworkTypes_removeNetworkType] at htype
      exact Finset.notMem_erase type _ htype
    · intro hlast
      refine exact_of_types htwaits fun type' => ?_
      simp only [VpnService.availableNetworkTypes_removeNetworkType, Finset.mem_erase, hs.types, ne_eq,
        Prod.mk.injEq, not_and]
      constructor
      · rintro ⟨hne, network', hmem'⟩
        exact ⟨network', fun heq => absurd heq hne, hmem'⟩
      · rintro ⟨network', hne, hmem'⟩
        refine ⟨?_, network', hmem'⟩
        rintro rfl
        exact hne rfl (hlast network' hmem')

end Connectivity

/-- The set is right after every event of the run from `s` along `as`. -/
def ExactAfterEvery (s : Connectivity) (as : List NetworkCallback) : Prop :=
  ∀ before after u, as = before ++ after →
    ActionSystem.run stepConnectivity s before = some u → u.Exact

/-- Every sequence of calls is a run. -/
theorem exists_run_stepConnectivity (s : Connectivity) (as : List NetworkCallback) :
    ∃ u, ActionSystem.run stepConnectivity s as = some u := by
  induction as generalizing s with
  | nil => exact ⟨s, rfl⟩
  | cons c as ih =>
    obtain ⟨t, ht⟩ : ∃ t, stepConnectivity s c = some t := by
      cases c <;> exact ⟨_, rfl⟩
    obtain ⟨u, hu⟩ := ih t
    exact ⟨u, ActionSystem.run_cons_eq_some.mpr ⟨t, ht, hu⟩⟩

/-- The rule of `availableNetworkTypes_exact_iff`, from any state in which the set is right. -/
theorem exactAfterEvery_iff {s : Connectivity} (hwaits : s.service.WaitsForNetwork) (hs : s.Exact)
    (as : List NetworkCallback) :
    ExactAfterEvery s as ↔ ActionSystem.StepsMeet stepConnectivity LastOfItsType s as := by
  obtain ⟨v, hv⟩ := exists_run_stepConnectivity s as
  have hrule : (∀ bs, bs <+: as → ∀ t, ActionSystem.run stepConnectivity s bs = some t → t.Exact) ↔
      ActionSystem.StepsMeet stepConnectivity LastOfItsType s as := by
    refine ActionSystem.stepsMeet_iff_forall_prefix_of (P := Connectivity.Exact)
      (I := fun s => s.service.WaitsForNetwork ∧ s.Exact) (fun s hs => hs.2) ?_ ?_ ⟨hwaits, hs⟩ hv
    · rintro s c t ⟨hwaits, hs⟩ hok ht
      exact ⟨Connectivity.waitsForNetwork_step hwaits ht,
        (Connectivity.exact_step hwaits hs ht).mpr hok⟩
    · rintro s c t ⟨hwaits, hs⟩ ht hexact
      exact (Connectivity.exact_step hwaits hs ht).mp hexact
  rw [← hrule]
  constructor
  · rintro hall before ⟨after, rfl⟩ u hu
    exact hall before after u rfl hu
  · intro hall before after u happ hu
    exact hall before ⟨after, happ.symm⟩ u hu

/-- **The network types after every event.** From a start without network, whatever the service was
doing before, the set of types is right after every event exactly when no network is ever lost while
another one of its type is available. -/
theorem availableNetworkTypes_exact_iff (controls : VpnControls) (as : List NetworkCallback) :
    (∀ before after u, as = before ++ after →
      ActionSystem.run stepConnectivity (noNetwork controls) before = some u →
      (∀ type, type ∈ u.service.availableNetworkTypes ↔
        ∃ network, (type, network) ∈ u.networks) ∧
      (u.service.controls.published = some .waitingForNetwork → u.networks = ∅)) ↔
    ActionSystem.StepsMeet stepConnectivity LastOfItsType (noNetwork controls) as := by
  have hwaits : (noNetwork controls).service.WaitsForNetwork := fun _ => rfl
  have hexact : (noNetwork controls).Exact :=
    Connectivity.exact_of_types hwaits fun type => by
      simp [noNetwork, VpnService.initializeNetworkTypes]
  rw [← exactAfterEvery_iff hwaits hexact]
  constructor
  · intro h before after u happ hu
    obtain ⟨htypes, hwaiting⟩ := h before after u happ hu
    exact ⟨htypes, hwaiting⟩
  · intro h before after u happ hu
    have hu := h before after u happ hu
    exact ⟨hu.types, hu.waits⟩

/-- A handover from one access point to another: the old Wi-Fi network is lost after the new one has
become available. -/
def handover : List NetworkCallback := [.onAvailable .wifi 1, .onAvailable .wifi 2, .onLost .wifi 1]

theorem lostAfterAvailable_handover : LostAfterAvailable handover := by
  intro before type network after happ
  rcases before with _ | ⟨a, _ | ⟨b, _ | ⟨c, before⟩⟩⟩
  · simp [handover] at happ
  · simp [handover] at happ
  · obtain ⟨rfl, rfl, ⟨rfl, rfl⟩, -⟩ := by simpa [handover] using happ
    exact List.mem_cons_self
  · simp [handover] at happ

/-- After the handover the service waits for a network although one is available. -/
theorem not_availableNetworkTypes_exact :
    ¬ ∀ (controls : VpnControls) (as : List NetworkCallback) (u : Connectivity),
      LostAfterAvailable as → ActionSystem.run stepConnectivity (noNetwork controls) as = some u →
      (∀ type, type ∈ u.service.availableNetworkTypes ↔
        ∃ network, (type, network) ∈ u.networks) ∧
      (u.service.controls.published = some .waitingForNetwork → u.networks = ∅) := by
  intro h
  have hlost := h .installed handover _ lostAfterAvailable_handover rfl
  exact absurd (hlost.2 (by decide)) (by decide)

end AdAway
