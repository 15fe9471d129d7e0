/-
The devices that the hub of awdt.cpp knows. Phones announce themselves and computers
answer discovery; an entry that has grown old is dropped when the list is asked for.
-/

import Wdt.SerializationUtil
import Wdt.Lib.Transition
import Mathlib.Data.List.Nodup

namespace Wdt

open List

inductive DeviceKind
  | phone | computer
  deriving DecidableEq

/-- In nanoseconds, like the clock. -/
def DeviceKind.ttl : DeviceKind → Nat
  | phone => 12000000000
  | computer => 35000000000

structure Device where
  name : List Byte
  address : List Byte
  kind : DeviceKind
  sharePort : Int := 0
  shareKey : List Byte := []
  autoAccept : Bool := false
  receives : Bool := false
  seen : Nat

/-- The keys of the source's map are made of the kind and the address. -/
def Device.isAt (kind : DeviceKind) (address : List Byte) (device : Device) : Bool :=
  decide (device.kind = kind ∧ device.address = address)

namespace Hub

variable (devices : List Device)

def find (kind : DeviceKind) (address : List Byte) : Option Device :=
  devices.find? (Device.isAt kind address)

def erase (kind : DeviceKind) (address : List Byte) : List Device :=
  devices.filter (fun device => !device.isAt kind address)

def put (device : Device) : List Device := device :: erase devices device.kind device.address

def phone (address name : List Byte) (sharePort : Int) (shareKey : List Byte) (now : Nat) :
    List Device :=
  let devices := erase devices .computer address
  let receives := ((find devices .phone address).map Device.receives).getD false
  put devices { name, address, kind := .phone, sharePort, shareKey, receives, seen := now }

def computer (address name : List Byte) (autoAccept : Bool) (now : Nat) : List Device :=
  match find devices .phone address with
  | some phone => put devices { phone with receives := true }
  | none => put devices { name, address, kind := .computer, autoAccept, seen := now }

/-- What `json` lists, and what it leaves in the map. -/
def json (now : Nat) : List Device :=
  devices.filter (fun device => decide (now - device.seen ≤ device.kind.ttl))

end Hub

inductive HubEvent
  | announce (address name : List Byte) (sharePort : Int) (shareKey : List Byte)
  | answer (address name : List Byte) (autoAccept : Bool)
  | request

/-- `heard` has the last announcement or answer of each address, with its time. -/
structure HubState where
  devices : List Device := []
  now : Nat := 0
  heard : List Byte → Option (DeviceKind × Nat) := fun _ => none

namespace HubState

def step (state : HubState) (delay : Nat) (event : HubEvent) : HubState :=
  let now := state.now + delay
  match event with
  | .announce address name sharePort shareKey =>
    { devices := Hub.phone state.devices address name sharePort shareKey now
      now
      heard := Function.update state.heard address (some (.phone, now)) }
  | .answer address name autoAccept =>
    { devices := Hub.computer state.devices address name autoAccept now
      now
      heard := Function.update state.heard address (some (.computer, now)) }
  | .request => { state with devices := Hub.json state.devices now, now }

abbrev Runs (allowed : HubState → Nat × HubEvent → Prop) : HubState → Prop :=
  Transition.Path (fun state (delay, event) after => after = state.step delay event) allowed {}

def listed (state : HubState) (delay : Nat) : List (List Byte) :=
  (Hub.json state.devices (state.now + delay)).map Device.address

/-- Whoever was heard within the lifetime is listed, whenever the list is asked for. -/
def ListsHeard (state : HubState) : Prop :=
  ∀ delay address kind time, state.heard address = some (kind, time) →
    state.now + delay - time ≤ kind.ttl → address ∈ state.listed delay

/-- No phone is in the map under the address of a computer that answers. -/
def NoPhone (state : HubState) : Nat × HubEvent → Prop
  | (_, .answer address _ _) => Hub.find state.devices .phone address = none
  | _ => True

variable {state : HubState} {devices : List Device} {device : Device} {address : List Byte}

theorem isAt_iff {kind : DeviceKind} :
    device.isAt kind address = true ↔ device.kind = kind ∧ device.address = address :=
  decide_eq_true_iff

/-! ### Every address once -/

def Once (devices : List Device) : Prop := (devices.map Device.address).Nodup

theorem Once.filter (once : Once devices) (keeps : Device → Bool) : Once (devices.filter keeps) :=
  once.sublist (filter_sublist.map _)

theorem Once.put (once : Once devices) (alike : ∀ other ∈ devices,
    other.address = device.address → other.kind = device.kind) : Once (Hub.put devices device) := by
  refine nodup_cons.mpr ⟨fun member => ?_, once.filter _⟩
  obtain ⟨other, left, same⟩ := mem_map.mp member
  obtain ⟨present, kept⟩ := mem_filter.mp left
  rw [isAt_iff.mpr ⟨alike other present same, same⟩] at kept
  cases kept

theorem Once.step (once : Once state.devices) (delay : Nat) (event : HubEvent) :
    Once (state.step delay event).devices := by
  cases event with
  | announce address name sharePort shareKey =>
    refine (once.filter _).put fun other member same => ?_
    obtain ⟨_, kept⟩ := mem_filter.mp member
    cases isKind : other.kind with
    | phone => rfl
    | computer =>
      rw [isAt_iff.mpr ⟨isKind, same⟩] at kept
      cases kept
  | answer address name autoAccept =>
    simp only [HubState.step, Hub.computer]
    split
    · rename_i phone found
      have isAt := isAt_iff.mp (find?_some found)
      refine once.put fun other member same => ?_
      rw [inj_on_of_nodup_map once member (mem_of_find?_eq_some found) same]
    · rename_i absent
      refine once.put fun other member same => ?_
      cases isKind : other.kind with
      | phone => exact absurd (isAt_iff.mpr ⟨isKind, same⟩) (find?_eq_none.mp absent other member)
      | computer => rfl
  | request => exact once.filter _

/-! ### Whoever was heard -/

/-- The last word of an address is in the map, or it was old when a list was asked for. -/
def Tracks (state : HubState) : Prop :=
  ∀ address kind time, state.heard address = some (kind, time) →
    (∃ device ∈ state.devices, device.address = address ∧ device.kind = kind ∧
      device.seen = time) ∨ kind.ttl < state.now - time

theorem Tracks.put (tracks : Tracks state) {later : Nat} (notEarlier : state.now ≤ later)
    (subset : ∀ other ∈ state.devices, other.address ≠ device.address → other ∈ devices) :
    Tracks
      { devices := Hub.put devices device
        now := later
        heard :=
          Function.update state.heard device.address (some (device.kind, device.seen)) } := by
  intro address kind time heard
  change Function.update _ _ _ address = _ at heard
  by_cases same : address = device.address
  · rw [same, Function.update_self] at heard
    cases heard
    exact .inl ⟨device, mem_cons_self, same.symm, rfl, rfl⟩
  · rw [Function.update_of_ne same] at heard
    rcases tracks address kind time heard with ⟨other, member, rfl, rest⟩ | old
    · refine .inl ⟨other, mem_cons_of_mem _ (mem_filter.mpr ⟨subset other member same, ?_⟩), rfl,
        rest⟩
      simp [Device.isAt, same]
    · exact .inr (by dsimp only; omega)

theorem Tracks.step (tracks : Tracks state) (delay : Nat) (event : HubEvent)
    (allowed : NoPhone state (delay, event)) : Tracks (state.step delay event) := by
  cases event with
  | announce address name sharePort shareKey =>
    refine tracks.put (Nat.le_add_right _ _) fun other member different => ?_
    exact mem_filter.mpr ⟨member, by simp [Device.isAt, different]⟩
  | answer address name autoAccept =>
    have absent : Hub.find state.devices .phone address = none := allowed
    simp only [HubState.step, Hub.computer, absent]
    exact tracks.put (Nat.le_add_right _ _) fun _ member _ => member
  | request =>
    intro address kind time heard
    by_cases fresh : state.now + delay - time ≤ kind.ttl
    · rcases tracks address kind time heard with ⟨device, member, isAt, rfl, rfl⟩ | old
      · exact .inl ⟨device, mem_filter.mpr ⟨member, decide_eq_true fresh⟩, isAt, rfl, rfl⟩
      · omega
    · exact .inr (Nat.lt_of_not_le fresh)

/-- In every run each address is listed once at most; and if no computer answers in it from an
address under which a phone is in the map, whoever was heard in time is listed. -/
theorem hub_lists_heard {allowed : HubState → Nat × HubEvent → Prop} {state : HubState}
    (runs : Runs allowed state) : (∀ delay, (state.listed delay).Nodup) ∧
      ((∀ before event, allowed before event → NoPhone before event) → ListsHeard state) := by
  constructor
  · intro delay
    have once : Once state.devices := by
      refine runs.invariant (fun state : HubState => Once state.devices) List.nodup_nil ?_
      rintro before ⟨delay, event⟩ _ once _ rfl
      exact once.step delay event
    exact once.filter _
  · intro noPhone delay address kind time heard fresh
    have tracks : Tracks state := by
      refine runs.invariant Tracks (by rintro _ _ _ ⟨⟩) ?_
      rintro before ⟨delay, event⟩ _ tracks meets rfl
      exact tracks.step delay event (noPhone _ _ meets)
    rcases tracks address kind time heard with ⟨device, member, isAt, rfl, rfl⟩ | old
    · exact mem_map.mpr ⟨device, mem_filter.mpr ⟨member, decide_eq_true fresh⟩, isAt⟩
    · omega

theorem hub_lists_heard_two :
    let state := (HubState.step {} 0 (.announce [0x61] [] 0 [])).step 5 (.answer [0x62] [] true)
    state.listed 0 = [[0x62], [0x61]] ∧ ListsHeard state := by
  intro state
  have first : Runs NoPhone (HubState.step {} 0 (.announce [0x61] [] 0 [])) :=
    .next .refl (show NoPhone {} (0, .announce [0x61] [] 0 []) from trivial) rfl
  have runs : Runs NoPhone state :=
    .next first (show NoPhone _ (5, .answer [0x62] [] true) from rfl) rfl
  exact ⟨by decide, (hub_lists_heard runs).2 fun _ _ => id⟩

/-- A phone announces itself, and a hundred seconds later a computer answers from its address:
the answer goes to the entry of the phone, which is too old to be listed. -/
theorem answer_behind_old_phone :
    let state := (HubState.step {} 0 (.announce [0x61] [] 0 [])).step 100000000000
      (.answer [0x61] [] true)
    state.heard [0x61] = some (.computer, state.now) ∧ state.listed 0 = [] := by
  decide

end HubState

end Wdt
