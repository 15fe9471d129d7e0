/-
WdtResourceController and the controllers of its namespaces, as the critical sections
that their calls are made of. Senders and receivers are kept alike, so that every
section takes the role it is about.
-/

import Wdt.Protocol
import Wdt.Reporting
import Mathlib.Data.List.AList
import Mathlib.Algebra.BigOperators.Group.Finset.Basic

namespace Wdt

open Function List Option AList

inductive Role
  | sender | receiver
  deriving DecidableEq

structure TransferObject where
  number : Nat
  transferId : List Byte
  deriving DecidableEq

abbrev ObjectMap := AList (fun _ : List Byte => TransferObject)

def ObjectMap.size (objects : ObjectMap) : Nat := objects.entries.length

inductive Creation
  | ok (object : TransferObject)
  | alreadyExists (object : TransferObject)
  | refused (code : ErrorCode)

namespace ObjectMap

variable {objects : ObjectMap} {identifier : List Byte}

theorem size_insert {object : TransferObject} (absent : objects.lookup identifier = none) :
    size (objects.insert identifier object) = objects.size + 1 := by
  unfold size
  rw [entries_insert_of_notMem (lookup_eq_none.mp absent)]
  rfl

theorem size_erase {object : TransferObject} (found : objects.lookup identifier = some object) :
    size (objects.erase identifier) + 1 = objects.size := by
  have member : identifier ∈ objects.entries.keys :=
    mem_keys.mp (lookup_isSome.mp (by rw [found]; rfl))
  obtain ⟨value, before, after, _fresh, whole, erased⟩ := exists_of_kerase member
  unfold size
  change (objects.entries.kerase identifier).length + 1 = _
  rw [erased, whole, length_append, length_append, length_cons]
  omega

def without (objects : ObjectMap) (test : TransferObject → Bool) : ObjectMap :=
  ⟨objects.entries.filter (fun entry => !test entry.2),
    objects.nodupKeys.sublist List.filter_sublist⟩

def staleCount (objects : ObjectMap) (test : TransferObject → Bool) : Nat :=
  (objects.entries.filter (fun entry => test entry.2)).length

theorem size_without (test : TransferObject → Bool) :
    (objects.without test).size + objects.staleCount test = objects.size := by
  unfold size without staleCount
  have parts := length_eq_length_filter_add (l := objects.entries) (fun entry => test entry.2)
  dsimp only
  omega

end ObjectMap

/-! ### Namespaces -/

/-- WdtNamespaceController: the counts are kept beside the maps. -/
structure NamespaceController where
  objects : Role → ObjectMap := fun _ => ∅
  counts : Role → Int := fun _ => 0
  counted : ∀ role, counts role = (objects role).size := by exact fun _ => rfl

namespace NamespaceController

variable (controller : NamespaceController) (role : Role)

def setObjects (objects : ObjectMap) (count : Int) (counted : count = objects.size) :
    NamespaceController where
  objects := Function.update controller.objects role objects
  counts := Function.update controller.counts role count
  counted := by
    intro other
    by_cases same : other = role
    · subst same
      rw [Function.update_self, Function.update_self]
      exact counted
    · rw [Function.update_of_ne same, Function.update_of_ne same]
      exact controller.counted other

def size : Nat := (controller.objects role).size

/-- A limit of zero or less is none. -/
def hasQuota (limits : Role → Int) : Bool :=
  !(decide (limits role ≤ controller.counts role) && decide (0 < limits role))

def create (limits : Role → Int) (identifier : List Byte) (object : TransferObject) :
    Creation × NamespaceController :=
  match absent : (controller.objects role).lookup identifier with
  | some existing => (.alreadyExists existing, controller)
  | none =>
    if controller.hasQuota role limits then
      (.ok object, controller.setObjects role ((controller.objects role).insert identifier object)
          (controller.counts role + 1) (by
            rw [ObjectMap.size_insert absent, controller.counted]
            rfl))
    else (.refused .quotaExceeded, controller)

def release (identifier : List Byte) : Option (TransferObject × NamespaceController) :=
  match found : (controller.objects role).lookup identifier with
  | none => none
  | some object =>
    some (object, controller.setObjects role ((controller.objects role).erase identifier)
        (controller.counts role - 1) (by
          have smaller := ObjectMap.size_erase found
          rw [controller.counted]
          omega))

/-- `releaseAllSenders` and `releaseAllReceivers`: the number released passes through an int. -/
def releaseAll : Int × NamespaceController :=
  (Int.bmod (controller.size role) (2 ^ 32), controller.setObjects role ∅ 0 rfl)

/-- `releaseStaleSenders` and `releaseStaleReceivers`, with the number of erased ids. -/
def releaseStale (stale : TransferObject → Bool) : Nat × NamespaceController :=
  ((controller.objects role).staleCount stale,
    controller.setObjects role ((controller.objects role).without stale)
      (controller.counts role - (controller.objects role).staleCount stale) (by
        have parts := @ObjectMap.size_without (controller.objects role) stale
        rw [controller.counted]
        omega))

/-! #### What the sections do to the sizes -/

variable {controller role} {limits : Role → Int} {identifier : List Byte} {other : Role}
  {object : TransferObject} {after : NamespaceController}

theorem size_setObjects (objects : ObjectMap) (count : Int) (counted : count = objects.size)
    (other : Role) :
    (controller.setObjects role objects count counted).size other =
      if other = role then objects.size else controller.size other := by
  unfold size setObjects
  dsimp only
  by_cases same : other = role
  · subst same
    rw [update_self, if_pos rfl]
  · rw [update_of_ne same, if_neg same]

theorem create_ok
    (created : controller.create role limits identifier object = (.ok object, after)) :
    (∀ other, after.size other = controller.size other + if other = role then 1 else 0) ∧
      (0 < limits role → (controller.size role : Int) < limits role) := by
  unfold create at created
  split at created
  · cases created
  rename_i absent
  split at created
  · rename_i quota
    cases created
    constructor
    · intro other
      rw [size_setObjects]
      split
      · rename_i same
        subst same
        exact ObjectMap.size_insert absent
      · rfl
    · intro limited
      unfold hasQuota at quota
      rw [controller.counted] at quota
      simp only [limited, decide_true, Bool.and_true, Bool.not_eq_true',
        decide_eq_false_iff_not] at quota
      exact Int.not_le.mp quota
  · cases created

theorem create_cases (controller : NamespaceController) (role : Role) (limits : Role → Int)
    (identifier : List Byte) (object : TransferObject) :
    (∃ after, controller.create role limits identifier object = (.ok object, after)) ∨
      ∃ creation, controller.create role limits identifier object = (creation, controller) ∧
        ∀ made, creation ≠ .ok made := by
  unfold create
  split
  · exact .inr ⟨_, rfl, nofun⟩
  · split
    · exact .inl ⟨_, rfl⟩
    · exact .inr ⟨_, rfl, nofun⟩

theorem create_outcome (controller : NamespaceController) (role : Role) (limits : Role → Int)
    (identifier : List Byte) (object : TransferObject) :
    (∃ existing, (controller.objects role).lookup identifier = some existing ∧
      controller.create role limits identifier object = (.alreadyExists existing, controller)) ∨
    (controller.objects role).lookup identifier = none ∧ (controller.hasQuota role limits = false ∧
          controller.create role limits identifier object = (.refused .quotaExceeded, controller) ∨
        controller.hasQuota role limits = true ∧ ∃ count counted,
          controller.create role limits identifier object = (.ok object, controller.setObjects role
            ((controller.objects role).insert identifier object) count counted)) := by
  unfold create
  split
  · rename_i existing taken
    exact .inl ⟨existing, taken, rfl⟩
  rename_i absent
  refine .inr ⟨absent, ?_⟩
  cases controller.hasQuota role limits with
  | false => exact .inl ⟨rfl, rfl⟩
  | true =>
    refine .inr ⟨rfl, controller.counts role + 1, ?_, rfl⟩
    rw [ObjectMap.size_insert absent, controller.counted]
    rfl

theorem release_some (released : controller.release role identifier = some (object, after)) :
    ∀ other, after.size other + (if other = role then 1 else 0) = controller.size other := by
  unfold release at released
  split at released
  · cases released
  rename_i found
  cases released
  intro other
  rw [size_setObjects]
  split
  · rename_i same
    subst same
    exact ObjectMap.size_erase found
  · rfl

theorem releaseAll_size (other : Role) :
    (controller.releaseAll role).2.size other = if other = role then 0 else controller.size other :=
  size_setObjects ∅ 0 rfl other

theorem releaseAll_count (fits : controller.size role ≤ int32Max) :
    (controller.releaseAll role).1 = controller.size role := by
  have bounded : (controller.size role : Int) < 2 ^ 31 := by
    unfold int32Max at fits
    omega
  unfold releaseAll
  rw [Int.bmod_def, Int.emod_eq_of_lt (by omega) (by omega), if_pos (by omega)]

theorem releaseStale_size (stale : TransferObject → Bool) (other : Role) :
    (controller.releaseStale role stale).2.size other +
      (if other = role then (controller.releaseStale role stale).1 else 0) =
      controller.size other := by
  unfold releaseStale
  rw [size_setObjects]
  split
  · rename_i same
    subst same
    exact ObjectMap.size_without stale
  · rfl

end NamespaceController

/-! ### The root -/

structure ControllerOptions where
  globalLimits : Role → Int
  namespaceLimits : Role → Int
  strictRegistration : Bool

/-- WdtResourceController. The namespace controllers are shared pointers: a call may hold one
that the map no longer knows. -/
structure ResourceController where
  namespaceMap : AList (fun _ : List Byte => Nat) := ∅
  heap : Nat → NamespaceController := fun _ => {}
  allocated : Nat := 0
  counts : Role → Int := fun _ => 0
  nextObject : Nat := 0
  /-- the map knows different controllers under different names -/
  distinct : (namespaceMap.entries.map Sigma.snd).Nodup := by exact List.nodup_nil
  known : ∀ pointer ∈ namespaceMap.entries.map Sigma.snd, pointer < allocated := by
    exact nofun

namespace ResourceController

variable (options : ControllerOptions) (resources : ResourceController)

def getNamespaceController (wdtNamespace : List Byte) : Option Nat :=
  resources.namespaceMap.lookup wdtNamespace

def Registered (pointer : Nat) : Prop := pointer ∈ resources.namespaceMap.entries.map Sigma.snd

def setController (pointer : Nat) (controller : NamespaceController) : ResourceController :=
  { resources with heap := Function.update resources.heap pointer controller }

def adjust (amount : Role → Int) : ResourceController :=
  { resources with counts := fun role => resources.counts role + amount role }

def only (role : Role) (amount : Int) : Role → Int :=
  fun other => if other = role then amount else 0

def hasQuotaInternal (role : Role) (pointer : Nat) : Bool :=
  !(decide (options.globalLimits role ≤ resources.counts role) &&
      decide (0 < options.globalLimits role)) &&
    (resources.heap pointer).hasQuota role options.namespaceLimits

/-- A namespace that is not in the map gets a controller of its own. -/
def createNamespaceController (wdtNamespace : List Byte)
    (absent : resources.getNamespaceController wdtNamespace = none) : ResourceController :=
  { resources with
    namespaceMap := resources.namespaceMap.insert wdtNamespace resources.allocated
    heap := Function.update resources.heap resources.allocated {}
    allocated := resources.allocated + 1
    distinct := by
      rw [entries_insert_of_notMem (lookup_eq_none.mp absent), List.map_cons,
        List.nodup_cons]
      exact ⟨fun member => Nat.lt_irrefl _ (resources.known _ member), resources.distinct⟩
    known := by
      rw [entries_insert_of_notMem (lookup_eq_none.mp absent), List.map_cons]
      intro pointer member
      rcases List.mem_cons.mp member with new | old
      · rw [new]
        exact Nat.lt_succ_self _
      · exact Nat.lt_succ_of_lt (resources.known pointer old) }

/-- The first section of `createSender` and `createReceiver`: find or create the namespace and
count the new object, before it exists. -/
def reserve (role : Role) (wdtNamespace : List Byte) : Except ErrorCode Nat × ResourceController :=
  let count (pointer : Nat) (found : ResourceController) :
      Except ErrorCode Nat × ResourceController :=
    if found.hasQuotaInternal options role pointer then
      (.ok pointer, found.adjust (only role 1))
    else (.error .quotaExceeded, found)
  match absent : resources.getNamespaceController wdtNamespace with
  | some pointer => count pointer resources
  | none =>
    if options.strictRegistration then (.error .notFound, resources)
    else
      count resources.allocated (resources.createNamespaceController wdtNamespace absent)

def createIn (role : Role) (pointer : Nat) (identifier transferId : List Byte) :
    Creation × ResourceController :=
  let (creation, controller) := (resources.heap pointer).create role options.namespaceLimits
    identifier { number := resources.nextObject, transferId := transferId }
  (creation,
    { resources.setController pointer controller with nextObject := resources.nextObject + 1 })

def releaseIn (role : Role) (pointer : Nat) (identifier : List Byte) :
    Option (TransferObject × ResourceController) :=
  ((resources.heap pointer).release role identifier).map fun (object, controller) =>
    (object, resources.setController pointer controller)

def releaseAllIn (role : Role) (pointer : Nat) : Int × ResourceController :=
  let (released, controller) := (resources.heap pointer).releaseAll role
  (released, resources.setController pointer controller)

def releaseStaleIn (role : Role) (pointer : Nat) (stale : TransferObject → Bool) :
    Nat × ResourceController :=
  let (released, controller) := (resources.heap pointer).releaseStale role stale
  (released, resources.setController pointer controller)

def registerWdtNamespace (wdtNamespace : List Byte) : ResourceController :=
  match absent : resources.getNamespaceController wdtNamespace with
  | some _ => resources
  | none => resources.createNamespaceController wdtNamespace absent

/-- Forget a namespace; its controller lives on with whoever holds it. -/
def forget (wdtNamespace : List Byte) : ResourceController :=
  { resources with
    namespaceMap := resources.namespaceMap.erase wdtNamespace
    distinct := resources.distinct.sublist ((List.kerase_sublist _ _).map _)
    known := fun pointer member =>
      resources.known pointer (((List.kerase_sublist _ _).map _).subset member) }

def forgetAll : ResourceController :=
  { resources with
    namespaceMap := ∅
    distinct := List.nodup_nil
    known := nofun }

def registeredTotal (role : Role) : Nat :=
  (resources.namespaceMap.entries.map (fun entry => (resources.heap entry.2).size role)).sum

/-! #### Totals -/

def total (role : Role) : Nat :=
  ∑ pointer ∈ Finset.range resources.allocated, (resources.heap pointer).size role

variable {options resources} {role : Role} {pointer : Nat} {controller : NamespaceController}

theorem total_setController (held : pointer < resources.allocated) :
    (resources.setController pointer controller).total role +
      (resources.heap pointer).size role = resources.total role + controller.size role := by
  have member : pointer ∈ Finset.range resources.allocated := Finset.mem_range.mpr held
  have others : ∑ other ∈ (Finset.range resources.allocated).erase pointer,
      (update resources.heap pointer controller other).size role =
      ∑ other ∈ (Finset.range resources.allocated).erase pointer,
        (resources.heap other).size role := by
    refine Finset.sum_congr rfl (fun other inside => ?_)
    rw [update_of_ne (Finset.ne_of_mem_erase inside)]
  unfold total setController
  dsimp only
  rw [← Finset.add_sum_erase _ _ member, ← Finset.add_sum_erase _ _ member, others,
    update_self]
  omega

theorem registeredTotal_eq (orphans : ∀ pointer, ¬ resources.Registered pointer →
    (resources.heap pointer).size role = 0) :
    resources.registeredTotal role = resources.total role := by
  have byPointer : resources.registeredTotal role =
      ((resources.namespaceMap.entries.map Sigma.snd).map
        (fun pointer => (resources.heap pointer).size role)).sum := by
    rw [List.map_map]
    rfl
  rw [byPointer, ← sum_toFinset _ resources.distinct]
  refine Finset.sum_subset (fun pointer member => ?_) (fun pointer _ outside => ?_)
  · exact Finset.mem_range.mpr (resources.known pointer (mem_toFinset.mp member))
  · exact orphans pointer (fun registered => outside (mem_toFinset.mpr registered))

/-! #### Finding a namespace -/

/-- The namespace that `createSender` works with: the registered one, or a new one. -/
inductive Finds (options : ControllerOptions) (resources : ResourceController)
    (wdtNamespace : List Byte) : ResourceController → Nat → Prop
  | registered {pointer : Nat}
      (found : resources.getNamespaceController wdtNamespace = some pointer) :
      Finds options resources wdtNamespace resources pointer
  | created (absent : resources.getNamespaceController wdtNamespace = none)
      (lenient : options.strictRegistration = false) :
      Finds options resources wdtNamespace
        (resources.createNamespaceController wdtNamespace absent) resources.allocated

theorem reserve_cases (options : ControllerOptions) (resources : ResourceController) (role : Role)
    (wdtNamespace : List Byte) :
    (resources.getNamespaceController wdtNamespace = none ∧ options.strictRegistration = true ∧
      resources.reserve options role wdtNamespace = (.error .notFound, resources)) ∨
    ∃ found pointer, Finds options resources wdtNamespace found pointer ∧
      ((found.hasQuotaInternal options role pointer = true ∧
          resources.reserve options role wdtNamespace = (.ok pointer, found.adjust (only role 1))) ∨
        (found.hasQuotaInternal options role pointer = false ∧
          resources.reserve options role wdtNamespace = (.error .quotaExceeded, found))) := by
  unfold reserve
  dsimp only
  split
  · rename_i pointer found
    refine .inr ⟨resources, pointer, .registered found, ?_⟩
    cases resources.hasQuotaInternal options role pointer <;> simp
  rename_i absent
  cases strict : options.strictRegistration with
  | true => exact .inl ⟨absent, rfl, if_pos rfl⟩
  | false =>
    refine .inr ⟨_, resources.allocated, .created absent strict, ?_⟩
    cases (resources.createNamespaceController wdtNamespace absent).hasQuotaInternal
      options role resources.allocated <;> simp

/-! #### What is registered under a key -/

def registered (resources : ResourceController) (role : Role)
    (wdtNamespace identifier : List Byte) : Option TransferObject :=
  (resources.getNamespaceController wdtNamespace).bind fun pointer =>
    ((resources.heap pointer).objects role).lookup identifier

variable {wdtNamespace : List Byte}

theorem getNamespaceController_injective {other : List Byte}
    (first : resources.getNamespaceController wdtNamespace = some pointer)
    (second : resources.getNamespaceController other = some pointer) : other = wdtNamespace :=
  congrArg Sigma.fst (List.inj_on_of_nodup_map resources.distinct (mem_lookup_iff.mp second)
    (mem_lookup_iff.mp first) rfl)

theorem registered_setController
    (found : resources.getNamespaceController wdtNamespace = some pointer) (role : Role)
    (other identifier : List Byte) :
    (resources.setController pointer controller).registered role other identifier =
      if other = wdtNamespace then (controller.objects role).lookup identifier
      else resources.registered role other identifier := by
  change (resources.getNamespaceController other).bind (fun place =>
    ((update resources.heap pointer controller place).objects role).lookup identifier) = _
  by_cases same : other = wdtNamespace
  · simp [same, found]
  rw [if_neg same, registered]
  refine bind_congr (fun place known => ?_)
  have different : place ≠ pointer := by
    rintro rfl
    exact same (getNamespaceController_injective found known)
  rw [update_of_ne different]

theorem registered_newNamespace
    (absent : resources.getNamespaceController wdtNamespace = none) (role : Role)
    (other identifier : List Byte) :
    (resources.createNamespaceController wdtNamespace absent).registered role other identifier =
      resources.registered role other identifier := by
  change ((resources.namespaceMap.insert wdtNamespace resources.allocated).lookup other).bind
    (fun place => ((update resources.heap resources.allocated {} place).objects
      role).lookup identifier) = _
  by_cases same : other = wdtNamespace
  · subst same
    rw [lookup_insert, registered, absent]
    simp
  rw [lookup_insert_ne same]
  refine bind_congr (fun place known => ?_)
  have old := resources.known place (mem_map_of_mem (mem_lookup_iff.mp known))
  rw [update_of_ne (Nat.ne_of_lt old)]

theorem Finds.spec {found : ResourceController}
    (finds : Finds options resources wdtNamespace found pointer) :
    found.getNamespaceController wdtNamespace = some pointer ∧ found.counts = resources.counts ∧
      ∀ role other identifier,
        found.registered role other identifier = resources.registered role other identifier := by
  cases finds with
  | registered known => exact ⟨known, rfl, fun _ _ _ => rfl⟩
  | created absent lenient =>
    exact ⟨lookup_insert _, rfl, registered_newNamespace absent⟩

theorem Finds.keeps {found : ResourceController}
    (finds : Finds options resources wdtNamespace found pointer) (name : List Byte) (old : Nat)
    (known : resources.getNamespaceController name = some old) :
    found.getNamespaceController name = some old := by
  cases finds with
  | registered => exact known
  | created absent =>
    refine (lookup_insert_ne ?_).trans known
    rintro rfl
    cases absent.symm.trans known

theorem registered_setObjects
    (found : resources.getNamespaceController wdtNamespace = some pointer) {objects : ObjectMap}
    {count : Int} {counted : count = objects.size} (other : Role) (name key : List Byte) :
    (resources.setController pointer ((resources.heap pointer).setObjects role objects count
      counted)).registered other name key =
      if other = role ∧ name = wdtNamespace then objects.lookup key
      else resources.registered other name key := by
  rw [registered_setController found]
  by_cases here : name = wdtNamespace
  · subst here
    by_cases sameRole : other = role
    · subst sameRole
      simp [NamespaceController.setObjects]
    · simp [NamespaceController.setObjects, sameRole, registered, found]
  · simp [here]

/-- An attempt to create takes an object number and may leave everything else. -/
def bump (resources : ResourceController) : ResourceController :=
  { resources with nextObject := resources.nextObject + 1 }

theorem createIn_cases (found : resources.getNamespaceController wdtNamespace = some pointer)
    (options : ControllerOptions) (role : Role) (identifier transferId : List Byte) :
    (∃ existing, resources.registered role wdtNamespace identifier = some existing ∧
      resources.createIn options role pointer identifier transferId =
        (.alreadyExists existing, resources.bump)) ∨
    resources.registered role wdtNamespace identifier = none ∧
      ((resources.heap pointer).hasQuota role options.namespaceLimits = false ∧
          resources.createIn options role pointer identifier transferId =
            (.refused .quotaExceeded, resources.bump) ∨
        (resources.heap pointer).hasQuota role options.namespaceLimits = true ∧
          ∃ object created, object.number = resources.nextObject ∧ object.transferId = transferId ∧
            resources.createIn options role pointer identifier transferId = (.ok object, created) ∧
            created.counts = resources.counts ∧ created.nextObject = resources.nextObject + 1 ∧
            created.namespaceMap = resources.namespaceMap ∧
            ∀ other name key, created.registered other name key =
              if other = role ∧ name = wdtNamespace ∧ key = identifier then some object
              else resources.registered other name key) := by
  have unchanged : (resources.setController pointer (resources.heap pointer)).bump =
      resources.bump := by
    simp [setController]
  have key : resources.registered role wdtNamespace identifier =
      ((resources.heap pointer).objects role).lookup identifier := by
    rw [registered, found, bind_some]
  rw [key, createIn]
  rcases (resources.heap pointer).create_outcome role options.namespaceLimits identifier
    { number := resources.nextObject, transferId := transferId } with
    ⟨existing, taken, exists_⟩ | ⟨absent, ⟨quota, refused⟩ | ⟨quota, count, counted, created⟩⟩
  · exact .inl ⟨existing, taken, by rw [exists_]; exact congrArg (Prod.mk _) unchanged⟩
  · exact .inr ⟨absent, .inl ⟨quota, by rw [refused]; exact congrArg (Prod.mk _) unchanged⟩⟩
  · rw [created]
    refine .inr ⟨absent, .inr ⟨quota, _, _, rfl, rfl, rfl, rfl, rfl, rfl,
      fun other name place => (registered_setObjects found other name place).trans ?_⟩⟩
    by_cases same : place = identifier
    · subst same
      simp
    rw [lookup_insert_ne same]
    simp only [same, and_false, if_false]
    split
    · rename_i here
      obtain ⟨rfl, rfl⟩ := here
      rw [registered, found, bind_some]
    · rfl

theorem releaseIn_cases (found : resources.getNamespaceController wdtNamespace = some pointer)
    (role : Role) (identifier : List Byte) :
    (resources.registered role wdtNamespace identifier = none ∧
      resources.releaseIn role pointer identifier = none) ∨
    ∃ object controller, resources.registered role wdtNamespace identifier = some object ∧
      resources.releaseIn role pointer identifier =
        some (object, resources.setController pointer controller) ∧
      controller.counts role = (resources.heap pointer).counts role - 1 ∧
      ∀ other name key, (resources.setController pointer controller).registered other name key =
        if other = role ∧ name = wdtNamespace ∧ key = identifier then none
        else resources.registered other name key := by
  have key : resources.registered role wdtNamespace identifier =
      ((resources.heap pointer).objects role).lookup identifier := by
    rw [registered, found, bind_some]
  rw [key]
  unfold releaseIn NamespaceController.release
  split
  · rename_i absent
    exact .inl ⟨absent, rfl⟩
  rename_i object taken
  refine .inr ⟨object, _, taken, rfl, update_self _ _ _, fun other name place =>
    (registered_setObjects found other name place).trans ?_⟩
  by_cases same : place = identifier
  · subst same
    simp
  rw [lookup_erase_ne same]
  simp only [same, and_false, if_false]
  split
  · rename_i here
    obtain ⟨rfl, rfl⟩ := here
    rw [registered, found, bind_some]
  · rfl

end ResourceController

end Wdt
