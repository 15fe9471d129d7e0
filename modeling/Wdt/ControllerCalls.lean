/-
The calls of WdtResourceController by any number of threads. Every call is cut at the
ends of its critical sections; between them other calls go on. A run is exact when the
global counts are what the namespaces hold, up to what the calls in progress still owe.
-/

import Wdt.Lib.Transition
import Wdt.ResourceController

namespace Wdt

open ResourceController Function List Option NamespaceController Transition

inductive ControllerCall
  | create (role : Role) (wdtNamespace identifier transferId : List Byte)
  | release (role : Role) (wdtNamespace identifier : List Byte)
  | releaseAll (role : Role) (wdtNamespace : List Byte)
  | releaseStale (role : Role) (wdtNamespace : List Byte)
  | register (wdtNamespace : List Byte)
  | deRegister (wdtNamespace : List Byte)
  | shutdown

inductive CallPhase
  /-- counted, but not yet in the namespace -/
  | creating (role : Role) (pointer : Nat) (identifier transferId : List Byte)
  | releasing (role : Role) (pointer : Nat) (identifier : List Byte)
  | releasingAll (role : Role) (pointer : Nat)
  | releasingStale (role : Role) (pointer : Nat)
  | clearingSenders (pointer : Nat)
  | clearingReceivers (pointer : Nat) (senders : Int)
  /-- the global counts are still to be lowered -/
  | settling (pointer : Nat) (amount : Role → Int) (waits : Bool)
  /-- the end of `deRegisterWdtNamespace`, until no other call holds the controller -/
  | waiting (pointer : Nat)
  /-- under the global lock, with the maps still to be released -/
  | shuttingDown (todo : List (Role × Nat))

namespace CallPhase

def isShuttingDown : CallPhase → Bool
  | shuttingDown _ => true
  | _ => false

def pointers : CallPhase → List Nat
  | creating _ pointer _ _ => [pointer]
  | releasing _ pointer _ => [pointer]
  | releasingAll _ pointer => [pointer]
  | releasingStale _ pointer => [pointer]
  | clearingSenders pointer => [pointer]
  | clearingReceivers pointer _ => [pointer]
  | settling pointer _ _ => [pointer]
  | waiting pointer => [pointer]
  | shuttingDown todo => todo.map Prod.snd

/-- Whether the next section has to wait: for the global lock, or for the other holders. -/
def blocked (locked : Bool) (others : List CallPhase) : CallPhase → Bool
  | settling _ _ _ => locked
  | waiting pointer => others.any (fun other => other.pointers.contains pointer)
  | _ => false

end CallPhase

def ControllerCall.start (options : ControllerOptions) (resources : ResourceController) :
    ControllerCall → ResourceController × Option CallPhase
  | create role wdtNamespace identifier transferId =>
    match resources.reserve options role wdtNamespace with
    | (.ok pointer, resources) => (resources, some (.creating role pointer identifier transferId))
    | (.error _, resources) => (resources, none)
  | release role wdtNamespace identifier =>
    (resources, (resources.getNamespaceController wdtNamespace).map
      fun pointer => .releasing role pointer identifier)
  | releaseAll role wdtNamespace =>
    (resources, (resources.getNamespaceController wdtNamespace).map
      fun pointer => .releasingAll role pointer)
  | releaseStale role wdtNamespace =>
    (resources, (resources.getNamespaceController wdtNamespace).map
      fun pointer => .releasingStale role pointer)
  | register wdtNamespace => (resources.registerWdtNamespace wdtNamespace, none)
  | deRegister wdtNamespace =>
    match resources.getNamespaceController wdtNamespace with
    | none => (resources, none)
    | some pointer => (resources.forget wdtNamespace, some (.clearingSenders pointer))
  | shutdown =>
    (resources, some (.shuttingDown (resources.namespaceMap.entries.flatMap
      fun entry => [(.sender, entry.2), (.receiver, entry.2)])))

structure SectionResult where
  resources : ResourceController
  next : Option CallPhase := none
  /-- the checks at the end of `shutdown` -/
  checksHeld : Bool := true

def CallPhase.advance (options : ControllerOptions) (stale : TransferObject → Bool)
    (resources : ResourceController) : CallPhase → SectionResult
  | creating role pointer identifier transferId =>
    match resources.createIn options role pointer identifier transferId with
    | (.ok _, resources) => { resources }
    | (_, resources) => { resources, next := some (settling pointer (only role 1) false) }
  | releasing role pointer identifier =>
    match resources.releaseIn role pointer identifier with
    | none => { resources }
    | some (_, resources) =>
      { resources, next := some (settling pointer (only role 1) false) }
  | releasingAll role pointer =>
    let (released, resources) := resources.releaseAllIn role pointer
    { resources
      next := if 0 < released then some (settling pointer (only role released) false)
        else none }
  | releasingStale role pointer =>
    let (released, resources) := resources.releaseStaleIn role pointer stale
    { resources
      next := if 0 < released then some (settling pointer (only role released) false)
        else none }
  | clearingSenders pointer =>
    let (released, resources) := resources.releaseAllIn .sender pointer
    { resources, next := some (clearingReceivers pointer released) }
  | clearingReceivers pointer senders =>
    let (released, resources) := resources.releaseAllIn .receiver pointer
    { resources
      next := some (settling pointer
        (fun role => only .sender senders role + only .receiver released role) true) }
  | settling pointer amount waits =>
    { resources := resources.adjust (fun role => -amount role)
      next := if waits then some (waiting pointer) else none }
  | waiting _ => { resources }
  | shuttingDown ((role, pointer) :: todo) =>
    let (released, resources) := resources.releaseAllIn role pointer
    { resources := resources.adjust (only role (-released)), next := some (shuttingDown todo) }
  | shuttingDown [] =>
    { resources := resources.forgetAll
      checksHeld := decide (resources.counts .receiver = 0) &&
        decide (resources.counts .sender = 0) }

structure ControllerState where
  resources : ResourceController := {}
  calls : List CallPhase := []
  checksHeld : Bool := true

inductive ControllerLabel
  | start (call : ControllerCall)
  | advance (index : Nat) (stale : TransferObject → Bool)

namespace ControllerState

def locked (state : ControllerState) : Bool := state.calls.any CallPhase.isShuttingDown

def step (options : ControllerOptions) (state : ControllerState) :
    ControllerLabel → Option ControllerState
  | .start call =>
    if state.locked then none
    else
      let (resources, next) := call.start options state.resources
      some { state with resources, calls := state.calls ++ next.toList }
  | .advance index stale =>
    match state.calls[index]? with
    | none => none
    | some phase =>
      let before := state.calls.take index
      let after := state.calls.drop (index + 1)
      if phase.blocked state.locked (before ++ after) then none
      else
        let result := phase.advance options stale state.resources
        some {
          resources := result.resources
          calls := before ++ (result.next.toList ++ after)
          checksHeld := state.checksHeld && result.checksHeld }

end ControllerState

open ControllerState

def CallPhase.releasedMap : CallPhase → Option (Role × Nat)
  | releasingAll role pointer => some (role, pointer)
  | clearingSenders pointer => some (.sender, pointer)
  | clearingReceivers pointer _ => some (.receiver, pointer)
  | shuttingDown (first :: _) => some first
  | _ => none

/-- A created object goes to a namespace that is still registered, and the number of objects
released at once fits an int. -/
def CallPhase.Orderly (resources : ResourceController) (phase : CallPhase) : Prop :=
  (∀ role pointer identifier transferId, phase = .creating role pointer identifier transferId →
    resources.Registered pointer) ∧
  ∀ role pointer, phase.releasedMap = some (role, pointer) →
    (resources.heap pointer).size role ≤ int32Max

/-- What a run of exact counts needs before each section; `shutdown` also needs the
controller for itself. -/
def ControllerState.Orderly (state : ControllerState) : ControllerLabel → Prop
  | .start .shutdown => state.calls = []
  | .start _ => True
  | .advance index _ => ∀ phase, state.calls[index]? = some phase → phase.Orderly state.resources

namespace CallPhase

/-- What the global counts hold beyond the maps because of this call. -/
def pending : CallPhase → Role → Int
  | creating role _ _ _ => only role 1
  | clearingReceivers _ senders => only .sender senders
  | settling _ amount _ => amount
  | _ => fun _ => 0

/-- The call is about to empty this map of a controller that is not registered any more. -/
def Clears (role : Role) (pointer : Nat) : CallPhase → Prop
  | clearingSenders other => other = pointer
  | clearingReceivers other _ => other = pointer ∧ role = .receiver
  | _ => False

/-- A call in progress, other than a shutdown, holds one controller. -/
def Holds (pointer : Nat) (phase : CallPhase) : Prop :=
  phase.pointers = [pointer] ∧ phase.isShuttingDown = false ∧ ∀ role, 0 ≤ phase.pending role

end CallPhase

def owed (calls : List CallPhase) (role : Role) : Int :=
  (calls.map (fun phase => phase.pending role)).sum

theorem owed_append (first second : List CallPhase) (role : Role) :
    owed (first ++ second) role = owed first role + owed second role := by
  unfold owed
  rw [map_append, sum_append]

/-- The counts are exact up to what is owed, and nothing is left behind. -/
structure Exact (options : ControllerOptions) (resources : ResourceController)
    (calls : List CallPhase) : Prop where
  counted : ∀ role, resources.counts role = resources.total role + owed calls role
  fresh : ∀ pointer, resources.allocated ≤ pointer → ∀ role, (resources.heap pointer).size role = 0
  held : ∀ phase ∈ calls, ∃ pointer < resources.allocated, phase.Holds pointer
  orphans : ∀ pointer role, ¬ resources.Registered pointer →
    (resources.heap pointer).size role ≠ 0 → ∃ phase ∈ calls, phase.Clears role pointer
  limited : ∀ role, 0 < options.globalLimits role →
    resources.counts role ≤ options.globalLimits role
  limitedIn : ∀ pointer role, 0 < options.namespaceLimits role →
    ((resources.heap pointer).size role : Int) ≤ options.namespaceLimits role

variable {options : ControllerOptions} {resources changed : ResourceController}
  {calls before after : List CallPhase} {phase : CallPhase} {old new : Option CallPhase}
  {wdtNamespace : List Byte} {pointer : Nat} {role : Role} {amount : Role → Int}
  {controller : NamespaceController}

/-! ### One section -/

theorem Exact.allocated (exact : Exact options resources calls) (member : phase ∈ calls)
    (holds : phase.pointers = [pointer]) : pointer < resources.allocated := by
  obtain ⟨other, allocated, held⟩ := exact.held phase member
  cases holds.symm.trans held.1
  exact allocated

/-- A section changes one controller and the global counts. -/
structure Changes (resources changed : ResourceController) (pointer : Nat)
    (controller : NamespaceController) (amount : Role → Int) : Prop where
  namespaceMap : changed.namespaceMap = resources.namespaceMap
  allocated : changed.allocated = resources.allocated
  counts : ∀ role, changed.counts role = resources.counts role + amount role
  heap : changed.heap = Function.update resources.heap pointer controller

theorem changes_setController :
    Changes resources (resources.setController pointer controller) pointer controller 0 :=
  ⟨rfl, rfl, fun _ => (Int.add_zero _).symm, rfl⟩

theorem changes_adjust :
    Changes resources (resources.adjust amount) pointer (resources.heap pointer) amount :=
  ⟨rfl, rfl, fun _ => rfl, (Function.update_eq_self _ _).symm⟩

theorem changes_nothing : Changes resources resources pointer (resources.heap pointer) 0 :=
  ⟨rfl, rfl, fun _ => (Int.add_zero _).symm, (Function.update_eq_self _ _).symm⟩

theorem Changes.total (changes : Changes resources changed pointer controller amount)
    (held : pointer < resources.allocated) (role : Role) :
    changed.total role + (resources.heap pointer).size role =
      resources.total role + controller.size role := by
  have same : changed.total role = (resources.setController pointer controller).total role := by
    unfold ResourceController.total setController
    rw [changes.allocated, changes.heap]
  rw [same]
  exact total_setController held

/-- What a call had to do before a section and has to do after it, and what that means for the
controller it holds. -/
structure Hands (options : ControllerOptions) (resources : ResourceController)
    (old new : Option CallPhase) (pointer : Nat) (controller : NamespaceController)
    (amount : Role → Int) : Prop where
  held : pointer < resources.allocated
  holds : ∀ later ∈ new, later.Holds pointer
  balanced : ∀ role, (controller.size role : Int) + owed new.toList role =
    (resources.heap pointer).size role + owed old.toList role + amount role
  limited : ∀ role, 0 < options.globalLimits role →
    resources.counts role + amount role ≤ options.globalLimits role
  limitedIn : ∀ role, 0 < options.namespaceLimits role →
    (controller.size role : Int) ≤ options.namespaceLimits role
  clears : ∀ phase ∈ old, ∀ role other, phase.Clears role other → other = pointer
  orphans : ∀ role, ¬ resources.Registered pointer → controller.size role ≠ 0 →
    ((resources.heap pointer).size role ≠ 0 ∧ ∀ phase ∈ old, ¬ phase.Clears role pointer) ∨
      ∃ later ∈ new, later.Clears role pointer

theorem Exact.hand (exact : Exact options resources (before ++ (old.toList ++ after)))
    (changes : Changes resources changed pointer controller amount)
    (hands : Hands options resources old new pointer controller amount) :
    Exact options changed (before ++ (new.toList ++ after)) := by
  have sameSize (other : Nat) (different : other ≠ pointer) (role : Role) :
      (changed.heap other).size role = (resources.heap other).size role := by
    rw [changes.heap, update_of_ne different]
  have newSize (role : Role) : (changed.heap pointer).size role = controller.size role := by
    rw [changes.heap, update_self]
  have sameRegistered (other : Nat) : changed.Registered other ↔ resources.Registered other := by
    unfold Registered
    rw [changes.namespaceMap]
  have replaced {other : CallPhase} (member : other ∈ before ++ (new.toList ++ after)) :
      other ∈ before ++ (old.toList ++ after) ∨ other ∈ new := by
    simp only [mem_append, mem_toList] at member ⊢
    tauto
  have kept {other : CallPhase} (member : other ∈ before ++ (old.toList ++ after))
      (different : other ∉ old) : other ∈ before ++ (new.toList ++ after) := by
    simp only [mem_append, mem_toList] at member ⊢
    tauto
  refine ⟨fun role => ?_, fun other beyond role => ?_, fun other member => ?_,
    fun other role unknown nonempty => ?_, fun role limit => ?_, fun other role limit => ?_⟩
  · have counted := exact.counted role
    have total := changes.total hands.held role
    have balanced := hands.balanced role
    have counts := changes.counts role
    simp only [owed_append] at counted ⊢
    omega
  · have held := hands.held
    rw [changes.allocated] at beyond
    rw [sameSize other (by omega)]
    exact exact.fresh other beyond role
  · rw [changes.allocated]
    rcases replaced member with old | new
    · exact exact.held other old
    · exact ⟨pointer, hands.held, hands.holds other new⟩
  · rw [sameRegistered] at unknown
    by_cases here : other = pointer
    · subst here
      rw [newSize] at nonempty
      rcases hands.orphans role unknown nonempty with ⟨wasNonempty, notOwn⟩ | ⟨later, isNew, clears⟩
      · obtain ⟨clearing, member, clears⟩ := exact.orphans other role unknown wasNonempty
        exact ⟨clearing, kept member (fun isOld => notOwn _ isOld clears), clears⟩
      · exact ⟨later, by simp [mem_def.mp isNew], clears⟩
    · rw [sameSize other here] at nonempty
      obtain ⟨clearing, member, clears⟩ := exact.orphans other role unknown nonempty
      exact ⟨clearing, kept member (fun isOld => here (hands.clears _ isOld role other clears)),
        clears⟩
  · rw [changes.counts]
    exact hands.limited role limit
  · by_cases here : other = pointer
    · rw [here, newSize]
      exact hands.limitedIn role limit
    · rw [sameSize other here]
      exact exact.limitedIn other role limit

theorem Exact.recount (exact : Exact options resources (before ++ (old.toList ++ after)))
    (changes : Changes resources changed pointer (resources.heap pointer) amount)
    (held : pointer < resources.allocated) (holds : ∀ later ∈ new, later.Holds pointer)
    (owes : ∀ role, owed new.toList role = owed old.toList role + amount role)
    (limited : ∀ role, 0 < options.globalLimits role →
      resources.counts role + amount role ≤ options.globalLimits role)
    (clears : ∀ phase ∈ old, ∀ role other, ¬ phase.Clears role other) :
    Exact options changed (before ++ (new.toList ++ after)) :=
  exact.hand changes {
    held, holds, limited
    balanced := fun role => by rw [owes role, Int.add_assoc]
    limitedIn := exact.limitedIn pointer
    clears := fun phase isOld role other clearing => absurd clearing (clears phase isOld role other)
    orphans := fun role _ nonempty =>
      .inl ⟨nonempty, fun phase isOld => clears phase isOld role _⟩ }

theorem Exact.release (exact : Exact options resources (before ++ ((some phase).toList ++ after)))
    (holds : phase.pointers = [pointer]) (released : Int)
    (newHolds : ∀ later ∈ new, later.Holds pointer)
    (owes : ∀ other, owed new.toList other = phase.pending other + only role released other)
    (sizes : ∀ other, (controller.size other : Int) + only role released other =
      (resources.heap pointer).size other) (notNegative : 0 ≤ released)
    (clears : ∀ role other, phase.Clears role other → other = pointer)
    (orphans : ∀ role, controller.size role ≠ 0 → ¬ phase.Clears role pointer ∨
      ∃ later ∈ new, later.Clears role pointer) :
    Exact options (resources.setController pointer controller)
      (before ++ (new.toList ++ after)) := by
  have smaller (other : Role) : controller.size other ≤ (resources.heap pointer).size other := by
    have sized := sizes other
    unfold only at sized
    split at sized <;> omega
  refine exact.hand changes_setController
    ⟨exact.allocated (by simp) holds, newHolds, fun other => ?_,
      fun role limit => ?_, fun other limit => ?_, ?_, fun role _ nonempty => ?_⟩
  · rw [owes other, ← sizes other]
    simp only [owed, toList_some, map_cons, map_nil, sum_cons, sum_nil,
      Pi.zero_apply]
    omega
  · simpa using exact.limited role limit
  · have old := exact.limitedIn pointer other limit
    have new := smaller other
    omega
  · rintro _ ⟨⟩
    exact clears
  · have old := smaller role
    refine (orphans role nonempty).imp (fun notOwn => ⟨by omega, ?_⟩) id
    rintro _ ⟨⟩
    exact notOwn

/-! ### Sections that start a call -/

theorem registered_of_lookup
    (found : resources.getNamespaceController wdtNamespace = some pointer) :
    resources.Registered pointer :=
  List.mem_map.mpr ⟨⟨wdtNamespace, pointer⟩, AList.mem_lookup_iff.mp found, rfl⟩

theorem registered_createNamespaceController
    (absent : resources.getNamespaceController wdtNamespace = none) (pointer : Nat) :
    (resources.createNamespaceController wdtNamespace absent).Registered pointer ↔
      pointer = resources.allocated ∨ resources.Registered pointer := by
  unfold Registered createNamespaceController
  rw [AList.entries_insert_of_notMem (AList.lookup_eq_none.mp absent), map_cons, mem_cons]

theorem Exact.createNamespaceController (exact : Exact options resources calls)
    (absent : resources.getNamespaceController wdtNamespace = none) :
    Exact options (resources.createNamespaceController wdtNamespace absent) calls := by
  have sameSize (pointer : Nat) (role : Role) :
      ((resources.createNamespaceController wdtNamespace absent).heap pointer).size role =
        (resources.heap pointer).size role := by
    change (update resources.heap resources.allocated {} pointer).size role = _
    by_cases new : pointer = resources.allocated
    · rw [new, update_self, exact.fresh _ (Nat.le_refl _)]
      rfl
    · rw [update_of_ne new]
  have sameTotal (role : Role) :
      (resources.createNamespaceController wdtNamespace absent).total role =
        resources.total role := by
    unfold total
    rw [Finset.sum_congr rfl (fun pointer _ => sameSize pointer role)]
    change ∑ pointer ∈ Finset.range (resources.allocated + 1), _ = _
    rw [Finset.sum_range_succ, exact.fresh _ (Nat.le_refl _), Nat.add_zero]
  refine ⟨fun role => ?_, fun pointer beyond role => ?_, fun phase member => ?_,
    fun pointer role unknown nonempty => ?_, exact.limited,
    fun pointer role limit => ?_⟩
  · rw [sameTotal]
    exact exact.counted role
  · rw [sameSize]
    exact exact.fresh pointer (Nat.le_of_succ_le beyond) role
  · obtain ⟨pointer, allocated, holds⟩ := exact.held phase member
    exact ⟨pointer, Nat.lt_succ_of_lt allocated, holds⟩
  · rw [sameSize] at nonempty
    rw [registered_createNamespaceController] at unknown
    exact exact.orphans pointer role (fun known => unknown (.inr known)) nonempty
  · rw [sameSize]
    exact exact.limitedIn pointer role limit

theorem only_nonneg {released : Int} (notNegative : 0 ≤ released) (other : Role) :
    0 ≤ only role released other := by
  unfold only
  split <;> omega

theorem Exact.begin (exact : Exact options resources calls) (held : pointer < resources.allocated)
    (holds : phase.Holds pointer) (owes : phase.pending = 0) :
    Exact options resources (calls ++ [phase]) :=
  @Exact.recount options resources resources calls [] none (some phase) pointer 0
    (by simpa using exact) changes_nothing held
    (by simpa using holds) (by simp [owed, owes]) (by simpa using exact.limited) (by simp)

theorem Exact.reserve (exact : Exact options resources calls) (held : pointer < resources.allocated)
    (quota : resources.hasQuotaInternal options role pointer = true)
    (identifier transferId : List Byte) :
    Exact options (resources.adjust (only role 1))
      (calls ++ [.creating role pointer identifier transferId]) := by
  refine @Exact.recount options resources _ calls [] none (some _) pointer (only role 1)
    (by simpa using exact) changes_adjust held ?_ (by simp [owed, CallPhase.pending])
    (fun other limit => ?_) (by simp)
  · rintro _ ⟨⟩
    exact ⟨rfl, rfl, only_nonneg Int.one_nonneg⟩
  · have old := exact.limited other limit
    unfold only
    split
    · rename_i same
      subst same
      simp only [hasQuotaInternal, limit, decide_true, Bool.and_true, Bool.and_eq_true,
        Bool.not_eq_true', decide_eq_false_iff_not] at quota
      omega
    · omega

theorem registered_or_forgotten
    (found : resources.getNamespaceController wdtNamespace = some pointer)
    {other : Nat} (known : resources.Registered other) :
    other = pointer ∨ (resources.forget wdtNamespace).Registered other := by
  obtain ⟨entry, member, same⟩ := mem_map.mp known
  by_cases sameName : entry.1 = wdtNamespace
  · have looked : resources.namespaceMap.lookup entry.1 = some entry.2 :=
      AList.mem_lookup_iff.mpr member
    unfold getNamespaceController at found
    rw [← sameName, looked] at found
    cases found
    exact .inl same.symm
  · have kept : (resources.namespaceMap.erase wdtNamespace).lookup entry.1 = some entry.2 := by
      rw [AList.lookup_erase_ne sameName]
      exact AList.mem_lookup_iff.mpr member
    exact .inr (mem_map.mpr ⟨entry, AList.mem_lookup_iff.mp kept, same⟩)

theorem Exact.deRegister (exact : Exact options resources calls)
    (found : resources.getNamespaceController wdtNamespace = some pointer) :
    Exact options (resources.forget wdtNamespace) (calls ++ [.clearingSenders pointer]) := by
  have begun : Exact options resources (calls ++ [.clearingSenders pointer]) :=
    exact.begin (resources.known pointer (registered_of_lookup found))
      ⟨rfl, rfl, fun _ => Int.le_refl 0⟩ rfl
  refine { begun with orphans := fun other role unknown nonempty => ?_ }
  by_cases known : resources.Registered other
  · rcases registered_or_forgotten found known with same | still
    · exact ⟨_, mem_append_right _ mem_cons_self, same.symm⟩
    · exact absurd still unknown
  · exact begun.orphans other role known nonempty

theorem Exact.start (exact : Exact options resources calls) (call : ControllerCall)
    (notShutdown : call ≠ .shutdown) :
    Exact options (call.start options resources).1
      (calls ++ (call.start options resources).2.toList) := by
  -- a release looks its namespace up, and ends there if it is not registered
  have lookup (wdtNamespace : List Byte) (phaseOf : Nat → CallPhase)
      (plain : ∀ pointer, (phaseOf pointer).pointers = [pointer] ∧
        (phaseOf pointer).isShuttingDown = false ∧ (phaseOf pointer).pending = 0) :
      Exact options resources
        (calls ++ ((resources.getNamespaceController wdtNamespace).map phaseOf).toList) := by
    cases found : resources.getNamespaceController wdtNamespace with
    | none => simpa using exact
    | some pointer =>
      obtain ⟨holds, notShutdown, owes⟩ := plain pointer
      exact exact.begin (resources.known pointer (registered_of_lookup found))
        ⟨holds, notShutdown, by simp [owes]⟩ owes
  cases call with
  | create role wdtNamespace identifier transferId =>
    dsimp only [ControllerCall.start]
    rcases reserve_cases options resources role wdtNamespace with
      ⟨_, _, refused⟩ | ⟨found, pointer, finds, outcome⟩
    · simpa [refused] using exact
    have foundExact : Exact options found calls ∧ pointer < found.allocated := by
      cases finds with
      | registered known =>
        exact ⟨exact, resources.known pointer (registered_of_lookup known)⟩
      | created absent _ =>
        exact ⟨exact.createNamespaceController absent, Nat.lt_succ_self _⟩
    rcases outcome with ⟨quota, reserved⟩ | ⟨_, refused⟩
    · rw [reserved]
      exact foundExact.1.reserve foundExact.2 quota identifier transferId
    · simpa [refused] using foundExact.1
  | release role wdtNamespace identifier | releaseAll role wdtNamespace
    | releaseStale role wdtNamespace => exact lookup wdtNamespace _ (fun _ => ⟨rfl, rfl, rfl⟩)
  | register wdtNamespace =>
    change Exact options (resources.registerWdtNamespace wdtNamespace) (calls ++ [])
    rw [append_nil]
    unfold registerWdtNamespace
    split
    · exact exact
    · rename_i absent
      exact exact.createNamespaceController absent
  | deRegister wdtNamespace =>
    dsimp only [ControllerCall.start]
    cases found : resources.getNamespaceController wdtNamespace with
    | none => simpa using exact
    | some pointer => exact exact.deRegister found
  | shutdown => exact absurd rfl notShutdown

/-! ### Sections of a call in progress -/

theorem Exact.settle {waits : Bool} (exact : Exact options resources
      (before ++ ((some (CallPhase.settling pointer amount waits)).toList ++ after))) :
    Exact options (resources.adjust (fun role => -amount role))
      (before ++ ((if waits then some (CallPhase.waiting pointer) else none).toList ++ after)) := by
  have own : CallPhase.settling pointer amount waits ∈
      before ++ ((some (CallPhase.settling pointer amount waits)).toList ++ after) := by simp
  refine exact.recount changes_adjust (exact.allocated own rfl) ?_
    (fun role => ?_) (fun role limit => ?_) (by simp [CallPhase.Clears])
  · cases waits <;>
      simp [CallPhase.Holds, CallPhase.pointers, CallPhase.isShuttingDown, CallPhase.pending]
  · cases waits <;> simp [owed, CallPhase.pending]
  · have old := exact.limited role limit
    obtain ⟨_, _, _, _, notNegative⟩ := exact.held _ own
    have amountNotNegative : 0 ≤ amount role := notNegative role
    omega

theorem settling_holds {released : Int} (notNegative : 0 ≤ released) :
    ∀ later ∈ some (CallPhase.settling pointer (only role released) false),
      later.Holds pointer := by
  rintro _ ⟨⟩
  exact ⟨rfl, rfl, only_nonneg notNegative⟩

theorem Exact.creating {identifier transferId : List Byte} (stale : TransferObject → Bool)
    (exact : Exact options resources
      (before ++ ((some (CallPhase.creating role pointer identifier transferId)).toList ++ after)))
    (registered : resources.Registered pointer) :
    Exact options ((CallPhase.creating role pointer identifier transferId).advance options stale
        resources).resources
      (before ++ (((CallPhase.creating role pointer identifier transferId).advance options stale
        resources).next.toList ++ after)) := by
  have held := resources.known pointer registered
  have noLimit (role : Role) (limit : 0 < options.globalLimits role) :
      resources.counts role + (0 : Role → Int) role ≤ options.globalLimits role := by
    simpa using exact.limited role limit
  dsimp only [CallPhase.advance, createIn]
  rcases create_cases (resources.heap pointer) role options.namespaceLimits
    identifier { number := resources.nextObject, transferId := transferId } with
    ⟨controller, created⟩ | ⟨creation, refused, notOk⟩
  · obtain ⟨sizes, below⟩ := create_ok created
    rw [created]
    refine exact.hand ⟨rfl, rfl, fun _ => (Int.add_zero _).symm, rfl⟩
      ⟨held, by simp, fun other => ?_, noLimit, fun other limit => ?_, by simp [CallPhase.Clears],
        fun role unknown => absurd registered unknown⟩
    · rw [sizes other]
      simp [owed, CallPhase.pending, only]
    · have old := exact.limitedIn pointer other limit
      rw [sizes other]
      split
      · rename_i same
        subst same
        omega
      · exact old
  · rw [refused]
    have unchanged : Changes resources { resources.setController pointer (resources.heap pointer)
        with nextObject := resources.nextObject + 1 } pointer (resources.heap pointer) 0 :=
      ⟨rfl, rfl, fun _ => (Int.add_zero _).symm, rfl⟩
    have settles := exact.recount unchanged held (@settling_holds pointer role 1 Int.one_nonneg)
      (by simp [owed, CallPhase.pending]) noLimit (by simp [CallPhase.Clears])
    cases creation with
    | ok made => exact absurd rfl (notOk made)
    | alreadyExists _ | refused _ => exact settles

theorem releaseAll_sizes (fits : controller.size role ≤ int32Max) (other : Role) :
    ((controller.releaseAll role).2.size other : Int) +
      only role (controller.releaseAll role).1 other = controller.size other := by
  rw [releaseAll_size, releaseAll_count fits]
  unfold only
  split
  · rename_i same
    simp [same]
  · simp

theorem releaseAll_nonneg (fits : controller.size role ≤ int32Max) :
    0 ≤ (controller.releaseAll role).1 := by
  rw [releaseAll_count fits]
  exact Int.natCast_nonneg _

theorem Exact.releases {released : Int}
    (exact : Exact options resources (before ++ ((some phase).toList ++ after)))
    (plain : phase.pointers = [pointer] ∧ phase.pending = 0 ∧
      ∀ role other, ¬ phase.Clears role other)
    (sizes : ∀ other, (controller.size other : Int) + only role released other =
      (resources.heap pointer).size other) (notNegative : 0 ≤ released) :
    Exact options (resources.setController pointer controller)
      (before ++ ((if 0 < released then some (CallPhase.settling pointer (only role released) false)
        else none).toList ++ after)) := by
  refine exact.release plain.1 released ?_ (fun other => ?_) sizes notNegative
    (fun role other clears => absurd clears (plain.2.2 role other))
    (fun role _ => .inl (plain.2.2 role pointer))
  · split
    · exact settling_holds notNegative
    · simp
  · rw [plain.2.1]
    split
    · simp [owed, CallPhase.pending]
    · rw [show released = 0 by omega]
      simp [owed, only]

theorem Exact.releasingAll (exact : Exact options resources
      (before ++ ((some (CallPhase.releasingAll role pointer)).toList ++ after)))
    (fits : (resources.heap pointer).size role ≤ int32Max) :
    Exact options (resources.releaseAllIn role pointer).2
      (before ++ ((if 0 < (resources.releaseAllIn role pointer).1 then some (CallPhase.settling
        pointer (only role (resources.releaseAllIn role pointer).1) false) else none).toList ++
          after)) :=
  exact.releases ⟨rfl, rfl, fun _ _ => id⟩ (releaseAll_sizes fits) (releaseAll_nonneg fits)

theorem Exact.clearingSenders (exact : Exact options resources
      (before ++ ((some (CallPhase.clearingSenders pointer)).toList ++ after)))
    (fits : (resources.heap pointer).size .sender ≤ int32Max) :
    Exact options (resources.releaseAllIn .sender pointer).2
      (before ++ ((some (CallPhase.clearingReceivers pointer
        (resources.releaseAllIn .sender pointer).1)).toList ++ after)) := by
  refine exact.release rfl _ ?_ ?_ (releaseAll_sizes fits) (releaseAll_nonneg fits)
    (fun role other same => same.symm) (fun role nonempty => .inr ⟨_, rfl, rfl, ?_⟩)
  · rintro _ ⟨⟩
    exact ⟨rfl, rfl, only_nonneg (releaseAll_nonneg fits)⟩
  · intro other
    exact Int.add_comm _ _
  · cases role with
    | sender => exact absurd (releaseAll_size _) nonempty
    | receiver => rfl

theorem Exact.clearingReceivers {senders : Int} (exact : Exact options resources
      (before ++ ((some (CallPhase.clearingReceivers pointer senders)).toList ++ after)))
    (fits : (resources.heap pointer).size .receiver ≤ int32Max) :
    Exact options (resources.releaseAllIn .receiver pointer).2
      (before ++ ((some (CallPhase.settling pointer (fun role => only .sender senders role +
        only .receiver (resources.releaseAllIn .receiver pointer).1 role) true)).toList ++
          after)) := by
  obtain ⟨_, _, _, _, owes⟩ := exact.held (.clearingReceivers pointer senders) (by simp)
  refine exact.release rfl _ ?_ ?_ (releaseAll_sizes fits) (releaseAll_nonneg fits)
    (fun role other same => same.1.symm) (fun role nonempty => .inl (fun clears => ?_))
  · rintro _ ⟨⟩
    exact ⟨rfl, rfl, fun role =>
      Int.add_nonneg (owes role) (only_nonneg (releaseAll_nonneg fits) role)⟩
  · intro other
    exact Int.add_zero _
  · rw [clears.2] at nonempty
    exact nonempty (releaseAll_size _)

theorem Exact.advance (stale : TransferObject → Bool)
    (exact : Exact options resources (before ++ ((some phase).toList ++ after)))
    (orderly : phase.Orderly resources) :
    Exact options (phase.advance options stale resources).resources
        (before ++ ((phase.advance options stale resources).next.toList ++ after)) ∧
      (phase.advance options stale resources).checksHeld = true := by
  -- a section that finds nothing to do ends the call
  have ends (pointer : Nat) (plain : phase.pointers = [pointer] ∧ phase.pending = 0 ∧
      ∀ role other, ¬ phase.Clears role other) :
      Exact options resources (before ++ ((none : Option CallPhase).toList ++ after)) :=
    exact.recount changes_nothing (exact.allocated (by simp) plain.1) (by simp)
      (by simp [owed, plain.2.1]) (by simpa using exact.limited) (by simpa using plain.2.2)
  cases phase with
  | creating role pointer identifier transferId =>
    refine ⟨exact.creating stale (orderly.1 _ _ _ _ rfl), ?_⟩
    dsimp only [CallPhase.advance]
    split <;> rfl
  | releasing role pointer identifier =>
    dsimp only [CallPhase.advance, releaseIn]
    cases released : (resources.heap pointer).release role identifier with
    | none => exact ⟨ends pointer ⟨rfl, rfl, fun _ _ => id⟩, rfl⟩
    | some result =>
      refine ⟨@Exact.releases _ _ _ _ _ pointer role _ 1 exact
        ⟨rfl, rfl, fun _ _ => id⟩ (fun other => ?_) Int.one_nonneg, rfl⟩
      rw [← release_some released other]
      unfold only
      split <;> simp
  | releasingAll role pointer =>
    have settled := exact.releasingAll (orderly.2 role pointer rfl)
    dsimp only [CallPhase.advance]
    generalize resources.releaseAllIn role pointer = released at settled ⊢
    exact ⟨settled, rfl⟩
  | releasingStale role pointer =>
    have settled := @Exact.releases options resources before after _ pointer role
      ((resources.heap pointer).releaseStale role stale).2
      ((resources.heap pointer).releaseStale role stale).1 exact
      ⟨rfl, rfl, fun _ _ => id⟩ (fun other => ?_) (Int.natCast_nonneg _)
    · simp only [Int.natCast_pos] at settled
      exact ⟨settled, rfl⟩
    · have sizes := @releaseStale_size (resources.heap pointer) role stale other
      unfold only
      rw [← sizes]
      split <;> simp
  | clearingSenders pointer =>
    have cleared := exact.clearingSenders (orderly.2 .sender pointer rfl)
    dsimp only [CallPhase.advance]
    generalize resources.releaseAllIn .sender pointer = released at cleared ⊢
    exact ⟨cleared, rfl⟩
  | clearingReceivers pointer senders =>
    have cleared := exact.clearingReceivers (orderly.2 .receiver pointer rfl)
    dsimp only [CallPhase.advance]
    generalize resources.releaseAllIn .receiver pointer = released at cleared ⊢
    exact ⟨cleared, rfl⟩
  | settling pointer amount waits => exact ⟨exact.settle, rfl⟩
  | waiting pointer => exact ⟨ends pointer ⟨rfl, rfl, fun _ _ => id⟩, rfl⟩
  | shuttingDown todo =>
    obtain ⟨_, _, _, notShutdown, _⟩ := exact.held (.shuttingDown todo) (by simp)
    cases notShutdown

/-- A shutdown that runs alone: what it has passed is empty. -/
structure Emptying (options : ControllerOptions) (resources : ResourceController)
    (todo : List (Role × Nat)) : Prop where
  exact : Exact options resources []
  held : ∀ item ∈ todo, item.2 < resources.allocated
  emptied : ∀ pointer role, resources.Registered pointer → (role, pointer) ∉ todo →
    (resources.heap pointer).size role = 0

theorem Exact.beginShutdown (exact : Exact options resources []) :
    Emptying options resources (resources.namespaceMap.entries.flatMap
      fun entry => [(.sender, entry.2), (.receiver, entry.2)]) := by
  refine ⟨exact, fun item inTodo => ?_, fun pointer role known notTodo => ?_⟩
  · obtain ⟨entry, inMap, isItem⟩ := mem_flatMap.mp inTodo
    have registered := resources.known entry.2 (mem_map_of_mem inMap)
    rcases mem_cons.mp isItem with rfl | second
    · exact registered
    · rw [mem_singleton.mp second]
      exact registered
  · obtain ⟨entry, inMap, same⟩ := mem_map.mp known
    refine absurd (mem_flatMap.mpr ⟨entry, inMap, ?_⟩) notTodo
    rw [same]
    cases role <;> simp

theorem Emptying.next {todo : List (Role × Nat)}
    (emptying : Emptying options resources ((role, pointer) :: todo))
    (fits : (resources.heap pointer).size role ≤ int32Max) :
    Emptying options ((resources.releaseAllIn role pointer).2.adjust
      (only role (-(resources.releaseAllIn role pointer).1))) todo := by
  have held : pointer < resources.allocated := emptying.held _ mem_cons_self
  have settled := (@Exact.settle options _ [] [] pointer _ false
    (@Exact.release options resources [] [] (.releasingAll role pointer)
      (some (.settling pointer (only role _) false)) pointer role _
      (emptying.exact.begin held ⟨rfl, rfl, fun _ => Int.le_refl 0⟩ rfl) rfl _
      (settling_holds (releaseAll_nonneg fits))
      (by simp [owed, CallPhase.pending]) (releaseAll_sizes fits) (releaseAll_nonneg fits)
      (fun _ _ clears => clears.elim) (fun _ _ => .inl id)))
  have sameAmount : only role (-((resources.heap pointer).releaseAll role).1) =
      fun other => -only role ((resources.heap pointer).releaseAll role).1 other := by
    funext other
    unfold only
    split <;> simp
  refine ⟨?_, (forall_mem_cons.mp emptying.held).2,
    fun other which known notTodo => ?_⟩
  · unfold releaseAllIn
    rw [sameAmount]
    exact settled
  · change (update resources.heap pointer ((resources.heap pointer).releaseAll role).2
      other).size which = 0
    by_cases here : other = pointer
    · subst here
      rw [update_self, releaseAll_size]
      split
      · rfl
      · rename_i different
        exact emptying.emptied other which known (by simp [different, notTodo])
    · rw [update_of_ne here]
      exact emptying.emptied other which known (by simp [here, notTodo])

theorem Emptying.ends (emptying : Emptying options resources []) :
    Exact options resources.forgetAll [] ∧ ∀ role, resources.counts role = 0 := by
  have exact := emptying.exact
  have empty (pointer : Nat) (role : Role) : (resources.heap pointer).size role = 0 := by
    by_cases known : resources.Registered pointer
    · exact emptying.emptied pointer role known (by simp)
    · by_contra nonempty
      obtain ⟨clearing, member, _⟩ := exact.orphans pointer role known nonempty
      cases member
  refine ⟨{ exact with orphans := fun _ _ _ nonempty => absurd (empty _ _) nonempty },
    fun role => ?_⟩
  rw [exact.counted role]
  simp [total, empty, owed]

/-! ### Whole runs -/

/-- Either no shutdown is in progress or nothing else is. -/
def ControllerState.Counted (options : ControllerOptions) (state : ControllerState) : Prop :=
  Exact options state.resources state.calls ∨
    ∃ todo, state.calls = [.shuttingDown todo] ∧ Emptying options state.resources todo

theorem ControllerState.Counted.step {state after : ControllerState} {label : ControllerLabel}
    (counted : state.Counted options) (held : state.checksHeld = true)
    (orderly : state.Orderly label) (moves : state.step options label = some after) :
    after.Counted options ∧ after.checksHeld = true := by
  cases label with
  | start call =>
    dsimp only [ControllerState.step] at moves
    split at moves
    · cases moves
    rename_i unlocked
    cases moves
    refine ⟨?_, held⟩
    rcases counted with exact | ⟨todo, alone, _⟩
    · by_cases shutdown : call = .shutdown
      · subst shutdown
        rw [show state.calls = [] from orderly] at exact
        refine .inr ⟨_, ?_, exact.beginShutdown⟩
        rw [show state.calls = [] from orderly]
        rfl
      · exact .inl (exact.start call shutdown)
    · exact absurd (by simp [ControllerState.locked, alone, CallPhase.isShuttingDown]) unlocked
  | advance index stale =>
    dsimp only [ControllerState.step] at moves
    cases found : state.calls[index]? with
    | none => rw [found] at moves; cases moves
    | some phase =>
      rw [found] at moves
      dsimp only at moves
      split at moves
      · cases moves
      cases moves
      have ready := orderly phase found
      rcases counted with exact | ⟨todo, alone, emptying⟩
      · obtain ⟨inside, isPhase⟩ := List.getElem?_eq_some_iff.mp found
        have parts : state.calls =
            state.calls.take index ++ phase :: state.calls.drop (index + 1) := by
          rw [← isPhase, getElem_cons_drop, take_append_drop]
        rw [parts] at exact
        obtain ⟨kept, passed⟩ := exact.advance stale ready
        exact ⟨.inl kept, by rw [held, passed]; rfl⟩
      · rw [alone] at found ⊢
        obtain ⟨rfl, rfl⟩ : index = 0 ∧ phase = .shuttingDown todo := by
          cases index with
          | zero => exact ⟨rfl, (some.inj found).symm⟩
          | succ => cases found
        rw [held]
        cases todo with
        | nil =>
          obtain ⟨ended, zero⟩ := emptying.ends
          refine ⟨.inl ended, ?_⟩
          simp [CallPhase.advance, zero]
        | cons first todo =>
          obtain ⟨role, pointer⟩ := first
          have next := emptying.next (ready.2 role pointer rfl)
          dsimp only [CallPhase.advance]
          generalize state.resources.releaseAllIn role pointer = result at next ⊢
          exact ⟨.inr ⟨todo, rfl, next⟩, rfl⟩

/-- As long as created objects go to registered namespaces and `shutdown` runs alone, the counts
of an idle controller are the sizes of the registered maps, within the limits, and the checks of
`shutdown` pass. -/
theorem counters_exact_when_orderly (options : ControllerOptions) (state : ControllerState)
    (path : Path (fun before label after => before.step options label = some after)
      Orderly {} state) :
    state.checksHeld = true ∧ (state.calls = [] → ∀ role,
      state.resources.counts role = state.resources.registeredTotal role ∧
      (0 < options.globalLimits role → state.resources.counts role ≤ options.globalLimits role) ∧
      ∀ pointer, state.resources.Registered pointer → 0 < options.namespaceLimits role →
        (state.resources.heap pointer).counts role ≤ options.namespaceLimits role) := by
  have initially : Exact options ({} : ControllerState).resources [] :=
    ⟨fun role => rfl, fun pointer _ role => rfl, by simp,
      fun pointer role _ nonempty => absurd rfl nonempty, fun role limit => Int.le_of_lt limit,
      fun pointer role limit => Int.le_of_lt limit⟩
  obtain ⟨counted, held⟩ := path.invariant
    (fun state => state.Counted options ∧ state.checksHeld = true)
    ⟨.inl initially, rfl⟩ (fun _ _ _ both orderly moves => both.1.step both.2 orderly moves)
  refine ⟨held, fun idle role => ?_⟩
  have exact := counted.resolve_right (fun ⟨todo, alone, _⟩ => by rw [idle] at alone; cases alone)
  rw [idle] at exact
  have accounted : state.resources.registeredTotal role = state.resources.total role := by
    refine registeredTotal_eq (fun pointer unknown => ?_)
    by_contra nonempty
    obtain ⟨phase, member, _⟩ := exact.orphans pointer role unknown nonempty
    cases member
  refine ⟨?_, exact.limited role, fun pointer _ limit => ?_⟩
  · rw [accounted, exact.counted role]
    exact Int.add_zero _
  · rw [(state.resources.heap pointer).counted role]
    exact exact.limitedIn pointer role limit

def lenientOptions : ControllerOptions where
  globalLimits := fun _ => 0
  namespaceLimits := fun _ => 0
  strictRegistration := false

theorem counters_exact_after_create : ∃ state : ControllerState, Path
        (fun before label after => ControllerState.step lenientOptions before label = some after)
        Orderly {} state ∧
      state.calls = [] ∧ state.resources.counts .sender = 1 ∧
      state.resources.registeredTotal .sender = 1 := by
  let starts : ControllerLabel := .start (.create .sender [1] [2] [3])
  let goesOn : ControllerLabel := .advance 0 (fun _ => false)
  have started : Path
      (fun before label after => ControllerState.step lenientOptions before label = some after)
      Orderly {} _ :=
    .next .refl (show Orderly {} starts from trivial)
      (show ControllerState.step lenientOptions {} starts = some _ from rfl)
  have path := Path.next started
    (show Orderly _ goesOn from by
      intro phase found
      cases found
      refine ⟨fun role pointer identifier transferId same => ?_, nofun⟩
      cases same
      exact mem_cons_self)
    (show ControllerState.step lenientOptions _ goesOn = some _ from rfl)
  have counted := ((counters_exact_when_orderly lenientOptions _ path).2 rfl .sender).1
  exact ⟨_, path, rfl, rfl, Int.ofNat_inj.mp (counted.symm.trans rfl)⟩

def createThenDeRegister : List ControllerLabel :=
  [.start (.create .sender [1] [2] [3]), .start (.deRegister [1]),
    .advance 1 (fun _ => false), .advance 1 (fun _ => false), .advance 1 (fun _ => false),
    .advance 0 (fun _ => false), .advance 0 (fun _ => false)]

def shutdownWhileCreating : List ControllerLabel :=
  [.start (.create .sender [1] [2] [3]), .start .shutdown,
    .advance 1 (fun _ => false), .advance 1 (fun _ => false), .advance 1 (fun _ => false)]

/-- A namespace that is dropped while a sender is created in it keeps its place in the count for
ever, and a shutdown at that moment fails its check. -/
theorem counters_wrong_after_deRegister : (∃ state : ControllerState, Path
        (fun before label after => ControllerState.step lenientOptions before label = some after)
        (fun _ _ => True) {} state ∧
      state.calls.length = 0 ∧ state.resources.counts .sender = 1 ∧
      state.resources.registeredTotal .sender = 0) ∧
    ∃ state : ControllerState, Path
        (fun before label after => ControllerState.step lenientOptions before label = some after)
        (fun _ _ => True) {} state ∧ state.checksHeld = false := by
  constructor
  · have orphaned : (runsUnder (ControllerState.step lenientOptions) (fun _ _ => true) {}
        createThenDeRegister).map (fun state => (state.calls.length,
          state.resources.counts .sender, state.resources.registeredTotal .sender)) =
        some (0, 1, 0) := by
      decide +kernel
    obtain ⟨state, computed, values⟩ := map_eq_some_iff.mp orphaned
    simp only [Prod.mk.injEq] at values
    exact ⟨state, path_of_run computed, values⟩
  · have failed : (runsUnder (ControllerState.step lenientOptions) (fun _ _ => true) {}
        shutdownWhileCreating).map ControllerState.checksHeld = some false := by
      decide +kernel
    obtain ⟨state, computed, value⟩ := map_eq_some_iff.mp failed
    exact ⟨state, path_of_run computed, value⟩

end Wdt
