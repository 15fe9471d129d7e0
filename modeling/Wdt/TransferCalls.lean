/-
wdtSend and wdtReceiveStart: a sender or receiver is made by the resource controller,
initialised and started; a sender is released by its key when its transfer has ended.
-/

import Wdt.ResourceController
import Wdt.Lib.Transition

namespace Wdt

open Function Option ResourceController Transition

/-! ### The controller's calls, from the first section to the last -/

namespace ResourceController

variable (options : ControllerOptions) (resources : ResourceController) (role : Role)
  (wdtNamespace identifier : List Byte)

def createObject (transferId : List Byte) : Creation × ResourceController :=
  match resources.reserve options role wdtNamespace with
  | (.error code, found) => (.refused code, found)
  | (.ok pointer, reserved) =>
    match reserved.createIn options role pointer identifier transferId with
    | (.ok object, created) => (.ok object, created)
    | (creation, left) => (creation, left.adjust (only role (-1)))

def releaseObject : ResourceController :=
  match resources.getNamespaceController wdtNamespace with
  | none => resources
  | some pointer =>
    match resources.releaseIn role pointer identifier with
    | none => resources
    | some (_, released) => released.adjust (only role (-1))

/-- The namespace is there or made, and there is room for one more object. -/
def Admits : Prop :=
  (resources.getNamespaceController wdtNamespace = none → options.strictRegistration = false) ∧
  (0 < options.globalLimits role → resources.counts role < options.globalLimits role) ∧
  ∀ pointer, resources.getNamespaceController wdtNamespace = some pointer →
    0 < options.namespaceLimits role →
      (resources.heap pointer).counts role < options.namespaceLimits role

def Same (after : ResourceController) : Prop := after.counts = resources.counts ∧ ∀ other name key,
    after.registered other name key = resources.registered other name key

variable {options resources role wdtNamespace identifier}

theorem hasQuotaInternal_iff {pointer : Nat} :
    resources.hasQuotaInternal options role pointer = true ↔
      (0 < options.globalLimits role → resources.counts role < options.globalLimits role) ∧
      (0 < options.namespaceLimits role →
        (resources.heap pointer).counts role < options.namespaceLimits role) := by
  simp only [hasQuotaInternal, NamespaceController.hasQuota, Bool.and_eq_true, Bool.not_eq_true',
    Bool.and_eq_false_iff, decide_eq_false_iff_not, Int.not_le, Int.not_lt]
  omega

theorem Finds.admits_iff {found : ResourceController} {pointer : Nat}
    (finds : Finds options resources wdtNamespace found pointer) :
    found.hasQuotaInternal options role pointer = true ↔
      resources.Admits options role wdtNamespace := by
  rw [hasQuotaInternal_iff, Admits]
  cases finds with
  | registered known => simp [known]
  | created absent lenient =>
    simp [absent, lenient, createNamespaceController]

theorem createObject_cases (options : ControllerOptions) (resources : ResourceController)
    (role : Role) (wdtNamespace identifier transferId : List Byte) :
    (¬ resources.Admits options role wdtNamespace ∧ ∃ code after, code ≠ .ok ∧
      resources.createObject options role wdtNamespace identifier transferId =
        (.refused code, after) ∧ resources.Same after) ∨
    resources.Admits options role wdtNamespace ∧
      ((∃ existing, resources.registered role wdtNamespace identifier = some existing ∧
          resources.createObject options role wdtNamespace identifier transferId =
            (.alreadyExists existing, resources.bump)) ∨
        resources.registered role wdtNamespace identifier = none ∧ ∃ object after,
          resources.createObject options role wdtNamespace identifier transferId =
            (.ok object, after) ∧ object.transferId = transferId ∧
          after.counts = (resources.adjust (only role 1)).counts ∧
          ∀ other name key, after.registered other name key =
            if other = role ∧ name = wdtNamespace ∧ key = identifier then some object
            else resources.registered other name key) := by
  unfold createObject
  rcases reserve_cases options resources role wdtNamespace with
    ⟨absent, strict, refused⟩ | ⟨found, pointer, finds, outcome⟩
  · refine .inl ⟨fun admits => ?_, .notFound, resources, by decide, by rw [refused], rfl,
      fun _ _ _ => rfl⟩
    rw [admits.1 absent] at strict
    cases strict
  obtain ⟨known, sameCounts, sameRegistered⟩ := finds.spec
  rw [← finds.admits_iff]
  rcases outcome with ⟨quota, reserved⟩ | ⟨noQuota, refused⟩
  · refine .inr ⟨quota, ?_⟩
    rw [reserved]
    dsimp only
    have knownReserved : (found.adjust (only role 1)).getNamespaceController wdtNamespace =
        some pointer := known
    have room : ((found.adjust (only role 1)).heap pointer).hasQuota role
        options.namespaceLimits = true := (Bool.and_eq_true _ _ ▸ quota).2
    rcases createIn_cases knownReserved options role identifier transferId with
      ⟨existing, taken, exists_⟩ | ⟨free, ⟨noRoom, _⟩ | ⟨_, object, after, _, sameId, created,
        counts, _, _, registered⟩⟩
    · have isRegistered : resources.registered role wdtNamespace identifier = some existing :=
        (sameRegistered _ _ _).symm.trans taken
      refine .inl ⟨existing, isRegistered, ?_⟩
      rw [exists_]
      cases finds with
      | registered _ =>
        have restored : (fun other => resources.counts other + only role 1 other +
            only role (-1) other) = resources.counts :=
          funext fun other => by unfold only; split <;> omega
        exact congrArg (fun counts => (Creation.alreadyExists existing,
          { resources.bump with counts })) restored
      | created absent _ =>
        rw [ResourceController.registered, absent] at isRegistered
        cases isRegistered
    · rw [room] at noRoom
      cases noRoom
    · refine .inr ⟨(sameRegistered _ _ _).symm.trans free, object, after, by rw [created],
        sameId, ?_, fun other name key => ?_⟩
      · rw [counts]
        simp [adjust, sameCounts]
      · rw [registered]
        exact if_congr Iff.rfl rfl (sameRegistered other name key)
  · refine .inl ⟨by rw [noQuota]; decide, .quotaExceeded, found, by decide, by rw [refused],
      sameCounts, sameRegistered⟩

theorem releaseObject_registered {object : TransferObject}
    (taken : resources.registered role wdtNamespace identifier = some object) :
    (resources.releaseObject role wdtNamespace identifier).counts =
      (resources.adjust (only role (-1))).counts ∧
    (∀ other name key, (resources.releaseObject role wdtNamespace identifier).registered other name
      key = if other = role ∧ name = wdtNamespace ∧ key = identifier then none
        else resources.registered other name key) ∧
    (resources.Admits options role wdtNamespace →
      (resources.releaseObject role wdtNamespace identifier).Admits options role wdtNamespace) := by
  obtain ⟨pointer, found, _⟩ := bind_eq_some_iff.mp taken
  rcases releaseIn_cases found role identifier with
    ⟨free, _⟩ | ⟨_, controller, _, released, counts, registered⟩
  · rw [free] at taken
    cases taken
  have result : resources.releaseObject role wdtNamespace identifier =
      (resources.setController pointer controller).adjust (only role (-1)) := by
    simp only [releaseObject, found, released]
  rw [result]
  refine ⟨rfl, registered, fun ⟨lenient, global, inNamespace⟩ => ⟨lenient, fun limit => ?_,
    fun other known limit => ?_⟩⟩
  · change resources.counts role + only role (-1) role < _
    simp only [only, if_true]
    omega
  · obtain rfl : pointer = other := some.inj (found.symm.trans known)
    have before := inNamespace pointer found limit
    change (update resources.heap pointer controller pointer).counts role < _
    rw [update_self, counts]
    omega

end ResourceController

/-! ### The calls of Wdt -/

structure CallRequest where
  errorCode : ErrorCode := .ok
  wdtNamespace : List Byte
  hostName : List Byte
  destIdentifier : List Byte := []
  transferId : List Byte
  directory : List Byte
  ports : List Nat
  protocolVersion : Int

namespace CallRequest

variable (req : CallRequest)

def getSenderIdentifier : List Byte :=
  if req.destIdentifier = [] then req.hostName else req.destIdentifier

def validateTransferRequest : ErrorCode :=
  if req.errorCode ≠ .ok then req.errorCode
  else if req.directory = [] ∨ req.protocolVersion < 0 ∨ req.ports = [] then .invalidRequest
  else .ok

/-- `Sender::init`; `none` is a failed WDT_CHECK. The negotiated version is not negative. -/
def initSender : Option ErrorCode :=
  if req.protocolVersion ≤ 0 then none
  else if req.validateTransferRequest ≠ .ok then some req.validateTransferRequest
  else if req.hostName = [] then some .invalidRequest
  else some .ok

/-- `Receiver::init`, with what the log, the key and the ports lead to. -/
def initReceiver (environment : Option ErrorCode) : Option ErrorCode :=
  if req.validateTransferRequest ≠ .ok then some req.validateTransferRequest
  else if req.protocolVersion ≤ 0 then none
  else environment

def Complete : Prop := req.directory ≠ [] ∧ req.ports ≠ []

/-- A call with such a version never returns, whatever else the request has. -/
def SendsOrStops : Prop := req.protocolVersion ≤ 0 ∨ req.Complete ∧ req.hostName ≠ []

def ReceivesOrStops (environment : Option ErrorCode) : Prop :=
  0 ≤ req.protocolVersion ∧ req.Complete ∧
    (req.protocolVersion = 0 ∨ environment = none ∨ environment = some .ok)

theorem initSender_ok_iff (valid : req.errorCode = .ok) :
    (∀ code, req.initSender = some code → code = .ok) ↔ req.SendsOrStops := by
  by_cases stops : req.protocolVersion ≤ 0
  · simp [initSender, SendsOrStops, stops]
  have kept : ¬ req.protocolVersion < 0 := by omega
  simp only [initSender, SendsOrStops, Complete, validateTransferRequest, valid, stops, kept,
    ne_eq, not_true_eq_false, if_false, false_or]
  by_cases directory : req.directory = [] <;> by_cases ports : req.ports = [] <;>
    by_cases host : req.hostName = [] <;> simp [directory, ports, host]

theorem initReceiver_ok_iff (valid : req.errorCode = .ok) (environment : Option ErrorCode) :
    (∀ code, req.initReceiver environment = some code → code = .ok) ↔
      req.ReceivesOrStops environment := by
  simp only [initReceiver, ReceivesOrStops, Complete, validateTransferRequest, valid, ne_eq,
    not_true_eq_false, if_false]
  rcases lt_trichotomy req.protocolVersion 0 with negative | zero | positive
  · simp [negative, not_le.mpr negative]
  · by_cases directory : req.directory = [] <;> by_cases ports : req.ports = [] <;>
      simp [directory, ports, zero]
  · have kept : ¬ req.protocolVersion < 0 := by omega
    by_cases directory : req.directory = [] <;> by_cases ports : req.ports = [] <;>
      cases environment <;>
      simp [directory, ports, kept, not_le.mpr positive, le_of_lt positive, ne_of_gt positive]

end CallRequest

def Creation.toExcept : Creation → Except ErrorCode TransferObject
  | .ok object => .ok object
  | .alreadyExists _ => .error .alreadyExists
  | .refused code => .error code

namespace ResourceController

variable (options : ControllerOptions) (resources : ResourceController) (req : CallRequest)
  (terminateExistingOne : Bool)

def createWdtSender : Except ErrorCode TransferObject × ResourceController :=
  if req.errorCode ≠ .ok then (.error req.errorCode, resources)
  else
    match resources.createObject options .sender req.wdtNamespace req.getSenderIdentifier
        req.transferId with
    | (.alreadyExists existing, left) =>
      if terminateExistingOne then
        if existing.transferId = req.transferId then (.error .alreadyExists, left)
        else
          let (creation, after) :=
            (left.releaseObject .sender req.wdtNamespace req.getSenderIdentifier).createObject
              options .sender req.wdtNamespace req.getSenderIdentifier req.transferId
          (creation.toExcept, after)
      else (.error .alreadyExists, left)
    | (creation, after) => (creation.toExcept, after)

def wdtSend (transferCode : ErrorCode) : Option (ErrorCode × ResourceController) :=
  match resources.createWdtSender options req terminateExistingOne with
  | (.error code, after) => some (code, after)
  | (.ok _, created) =>
    req.initSender.map fun code =>
      if code ≠ .ok then (code, created)
      else
        (transferCode, created.releaseObject .sender req.wdtNamespace req.getSenderIdentifier)

/-- `transferAsync` returns OK whenever it returns. -/
def wdtReceiveStart (wdtNamespace identifier : List Byte) (environment : Option ErrorCode) :
    Option (ErrorCode × ResourceController) :=
  if req.errorCode ≠ .ok then some (req.errorCode, resources)
  else
    match resources.createObject options .receiver wdtNamespace identifier req.transferId with
    | (.ok _, created) => (req.initReceiver environment).map fun code => (code, created)
    | (.alreadyExists _, left) => some (.alreadyExists, left)
    | (.refused code, after) => some (code, after)

/-- The senders are those of before, but for one that was replaced. -/
def KeepsSenders (after : ResourceController) : Prop :=
  let key := req.getSenderIdentifier
  (after.counts .sender = resources.counts .sender ∧ ∀ name other,
    after.registered .sender name other = resources.registered .sender name other) ∨
  (∃ replaced, resources.registered .sender req.wdtNamespace key = some replaced ∧
    terminateExistingOne = true ∧ replaced.transferId ≠ req.transferId) ∧
  after.counts .sender = resources.counts .sender - 1 ∧ ∀ name other,
    after.registered .sender name other = if name = req.wdtNamespace ∧ other = key then none
      else resources.registered .sender name other

/-- A sender is made for the request: nothing is in its place, or what is there is replaced. -/
def AdmitsSender : Prop :=
  req.errorCode = .ok ∧ resources.Admits options .sender req.wdtNamespace ∧
    ∀ existing, resources.registered .sender req.wdtNamespace req.getSenderIdentifier =
      some existing → terminateExistingOne = true ∧ existing.transferId ≠ req.transferId

variable {options resources req}

theorem createWdtSender_cases (terminateExistingOne : Bool) :
    (¬ resources.AdmitsSender options req terminateExistingOne ∧ ∃ code after,
      resources.createWdtSender options req terminateExistingOne = (.error code, after) ∧
      resources.Same after) ∨
    resources.AdmitsSender options req terminateExistingOne ∧ ∃ object after,
      resources.createWdtSender options req terminateExistingOne = (.ok object, after) ∧
      object.transferId = req.transferId ∧
      after.counts .sender = resources.counts .sender +
        (if (resources.registered .sender req.wdtNamespace req.getSenderIdentifier).isSome then 0
          else 1) ∧
      ∀ other name key, after.registered other name key =
        if other = .sender ∧ name = req.wdtNamespace ∧ key = req.getSenderIdentifier then
          some object
        else resources.registered other name key := by
  unfold createWdtSender AdmitsSender
  by_cases valid : req.errorCode = .ok
  · rw [if_neg (not_not.mpr valid)]
    rcases createObject_cases options resources .sender req.wdtNamespace req.getSenderIdentifier
      req.transferId with ⟨refused, code, after, _, result, same⟩ |
        ⟨admits, ⟨existing, taken, result⟩ |
          ⟨free, object, after, result, sameId, counts, registered⟩⟩
    · exact .inl ⟨fun both => refused both.2.1, code, after, by rw [result]; rfl, same⟩
    · rw [result]
      by_cases replaces : terminateExistingOne = true ∧ existing.transferId ≠ req.transferId
      · have takenBump : resources.bump.registered .sender req.wdtNamespace
            req.getSenderIdentifier = some existing := taken
        obtain ⟨counts, registered, admitsAgain⟩ := @releaseObject_registered options _ _ _ _ _
          takenBump
        rcases createObject_cases options (resources.bump.releaseObject .sender req.wdtNamespace
          req.getSenderIdentifier) .sender req.wdtNamespace req.getSenderIdentifier req.transferId
          with ⟨refused, _⟩ | ⟨_, ⟨other, takenAgain, _⟩ |
            ⟨_, object, after, again, sameId, countsAgain, registeredAgain⟩⟩
        · exact absurd (admitsAgain admits) refused
        · rw [registered] at takenAgain
          simp at takenAgain
        · refine .inr ⟨⟨valid, admits, fun other isExisting => ?_⟩, object, after, ?_, sameId, ?_,
            fun other name key => ?_⟩
          · rw [taken] at isExisting
            cases isExisting
            exact replaces
          · simp only [replaces.1, if_true, if_neg replaces.2, again]
            rfl
          · rw [countsAgain, taken]
            change _ + only Role.sender 1 .sender = _
            rw [counts]
            simp [adjust, only, bump]
          · rw [registeredAgain, registered]
            split <;> rfl
      · refine .inl ⟨fun both => replaces (both.2.2 existing taken), .alreadyExists,
          resources.bump, ?_, rfl, fun _ _ _ => rfl⟩
        cases terminateExistingOne with
        | false => rfl
        | true => simp [not_not.mp (fun different => replaces ⟨rfl, different⟩)]
    · refine .inr ⟨⟨valid, admits, fun existing taken => ?_⟩, object, after, by rw [result]; rfl,
        sameId, ?_, registered⟩
      · rw [free] at taken
        cases taken
      · rw [counts, free]
        simp [adjust, only]
  · exact .inl ⟨fun both => valid both.1, req.errorCode, resources, if_pos valid, rfl,
      fun _ _ _ => rfl⟩

theorem wdtSend_keeps_iff (terminateExistingOne : Bool) (transferCode : ErrorCode) :
    (∀ code after, resources.wdtSend options req terminateExistingOne transferCode =
      some (code, after) → resources.KeepsSenders req terminateExistingOne after) ↔
      (resources.AdmitsSender options req terminateExistingOne → req.SendsOrStops) := by
  unfold wdtSend
  rcases @createWdtSender_cases options resources req terminateExistingOne with
    ⟨refused, code, after, result, counts, registered⟩ |
      ⟨admits, object, created, result, sameId, counts, registered⟩
  · rw [result]
    refine iff_of_true (fun _ _ returns => ?_) (fun admits => absurd admits refused)
    cases returns
    exact .inl ⟨congrFun counts _, fun name other => registered _ name other⟩
  rw [result]
  simp only [admits, forall_const, ← req.initSender_ok_iff admits.1]
  refine ⟨fun keeps code init => by_contra fun failed => ?_, fun works code after returns => ?_⟩
  · -- the new sender stays registered, and no sender of before has its transfer id
    have kept := keeps code created (by rw [init]; simp [failed])
    have own : created.registered .sender req.wdtNamespace req.getSenderIdentifier =
        some object := by rw [registered, if_pos ⟨rfl, rfl, rfl⟩]
    rcases kept with ⟨_, same⟩ | ⟨_, _, gone⟩
    · have before := (same _ _).symm.trans own
      exact (admits.2.2 object before).2 sameId
    · rw [gone, if_pos ⟨rfl, rfl⟩] at own
      cases own
  · obtain ⟨initCode, init, result⟩ := map_eq_some_iff.mp returns
    rw [works initCode init] at result
    have own : created.registered .sender req.wdtNamespace req.getSenderIdentifier =
        some object := by rw [registered, if_pos ⟨rfl, rfl, rfl⟩]
    obtain ⟨countsAfter, registeredAfter, _⟩ := @releaseObject_registered options _ _ _ _ _ own
    obtain rfl : created.releaseObject .sender req.wdtNamespace req.getSenderIdentifier = after :=
      (Prod.mk.inj result).2
    have countAfter : (created.releaseObject .sender req.wdtNamespace
        req.getSenderIdentifier).counts .sender = created.counts .sender - 1 := by
      rw [countsAfter]
      rfl
    have registeredSenders (name other : List Byte) : (created.releaseObject .sender
        req.wdtNamespace req.getSenderIdentifier).registered .sender name other =
          if name = req.wdtNamespace ∧ other = req.getSenderIdentifier then none
          else resources.registered .sender name other := by
      simp only [registeredAfter, registered, true_and]
      split <;> rfl
    cases taken : resources.registered .sender req.wdtNamespace req.getSenderIdentifier with
    | some replaced =>
      rw [taken] at counts
      exact .inr ⟨⟨replaced, taken, admits.2.2 replaced taken⟩,
        by rw [countAfter, counts]; simp, registeredSenders⟩
    | none =>
      rw [taken] at counts
      refine .inl ⟨by rw [countAfter, counts]; simp, fun name other => ?_⟩
      rw [registeredSenders]
      split
      case isTrue same => rw [same.1, same.2, taken]
      case isFalse => rfl

theorem wdtReceiveStart_keeps_iff (wdtNamespace identifier : List Byte)
    (environment : Option ErrorCode) :
    (∀ code after, resources.wdtReceiveStart options req wdtNamespace identifier environment =
      some (code, after) → code ≠ .ok → after.counts .receiver = resources.counts .receiver ∧
        ∀ name other, after.registered .receiver name other =
          resources.registered .receiver name other) ↔
      (req.errorCode = .ok → resources.Admits options .receiver wdtNamespace →
        resources.registered .receiver wdtNamespace identifier = none →
        req.ReceivesOrStops environment) := by
  unfold wdtReceiveStart
  by_cases valid : req.errorCode = .ok
  · simp only [valid, forall_const, ← req.initReceiver_ok_iff valid]
    rcases createObject_cases options resources .receiver wdtNamespace identifier
      req.transferId with ⟨refused, code, left, _, result, counts, registered⟩ |
        ⟨admits, ⟨existing, taken, result⟩ | ⟨free, object, created, result, _, _, registered⟩⟩
    · rw [result]
      refine iff_of_true (fun _ _ returns _ => ?_) (fun admits => absurd admits refused)
      cases returns
      exact ⟨congrFun counts _, registered _⟩
    · rw [result, taken]
      refine iff_of_true (fun _ _ returns _ => ?_) (fun _ free => nomatch free)
      cases returns
      exact ⟨rfl, fun _ _ => rfl⟩
    · rw [result]
      simp only [admits, free, forall_const]
      refine ⟨fun keeps code init => by_contra fun failed => ?_,
        fun works code after returns failed => ?_⟩
      · have kept := (keeps code created (by rw [init]; rfl) failed).2 wdtNamespace identifier
        rw [registered, if_pos ⟨rfl, rfl, rfl⟩, free] at kept
        cases kept
      · obtain ⟨initCode, init, result⟩ := map_eq_some_iff.mp returns
        cases result
        exact absurd (works code init) failed
  · rw [if_pos valid]
    refine iff_of_true (fun _ _ returns _ => ?_) (fun ok => absurd ok valid)
    cases returns
    exact ⟨rfl, fun _ _ => rfl⟩

end ResourceController

/-- A start that fails leaves the registered transfers and their number alone exactly when the
object made for it can be initialised. -/
theorem failed_starts_leak_nothing_iff (options : ControllerOptions)
    (resources : ResourceController) (req : CallRequest) (terminateExistingOne : Bool)
    (transferCode : ErrorCode) (wdtNamespace identifier : List Byte)
    (environment : Option ErrorCode) :
    ((∀ code after, resources.wdtSend options req terminateExistingOne transferCode =
        some (code, after) → resources.KeepsSenders req terminateExistingOne after) ↔
      (resources.AdmitsSender options req terminateExistingOne → req.SendsOrStops)) ∧
    ((∀ code after, resources.wdtReceiveStart options req wdtNamespace identifier environment =
        some (code, after) → code ≠ .ok → after.counts .receiver = resources.counts .receiver ∧
          ∀ name other, after.registered .receiver name other =
            resources.registered .receiver name other) ↔
      (req.errorCode = .ok → resources.Admits options .receiver wdtNamespace →
        resources.registered .receiver wdtNamespace identifier = none →
        req.ReceivesOrStops environment)) :=
  ⟨ResourceController.wdtSend_keeps_iff terminateExistingOne transferCode,
    ResourceController.wdtReceiveStart_keeps_iff wdtNamespace identifier environment⟩

def oneOfEach : ControllerOptions where
  globalLimits := fun _ => 1
  namespaceLimits := fun _ => 0
  strictRegistration := false

def sampleRequest : CallRequest where
  wdtNamespace := [1]
  hostName := [2]
  transferId := [3]
  directory := [4]
  ports := [22356]
  protocolVersion := 32

/-- One request without a directory uses up the quota, for senders and for receivers. -/
theorem quota_used_up_by_failed_starts :
    (∃ after, ResourceController.wdtSend oneOfEach {} { sampleRequest with directory := [] } false
        .ok = some (.invalidRequest, after) ∧ after.counts .sender = 1 ∧
      (after.wdtSend oneOfEach { sampleRequest with hostName := [5] } false .ok).map Prod.fst =
        some .quotaExceeded) ∧
    ∃ after, ResourceController.wdtReceiveStart oneOfEach {}
        { sampleRequest with directory := [] } [1] [6] (some .ok) = some (.invalidRequest, after) ∧
      after.counts .receiver = 1 ∧
      (after.wdtReceiveStart oneOfEach sampleRequest [1] [7] (some .ok)).map Prod.fst =
        some .quotaExceeded := by
  refine ⟨⟨_, rfl, ?_, ?_⟩, ⟨_, rfl, ?_, ?_⟩⟩ <;> decide +kernel

/-! ### Sends in parallel -/

structure SendCall extends CallRequest where
  terminateExistingOne : Bool := false

/-- Where a call of `wdtSend` is, between the sections under a lock. A release is that of the
call's own sender at its end or, without one, the replacement in `createWdtSender`. -/
inductive SendPhase
  | idle
  | reserving (again : Bool)
  | creating (again : Bool) (pointer : Nat)
  | undoing (replaces : Bool)
  | running (own : TransferObject)
  | finding (own : Option TransferObject)
  | releasing (own : Option TransferObject) (pointer : Nat)
  | settling (own : Option TransferObject)
  | ended
  deriving DecidableEq

namespace SendPhase

/-- The sender of a call that has not released it yet. -/
def own : SendPhase → Option TransferObject
  | running own => some own
  | finding own | releasing own _ => own
  | _ => none

def pointer : SendPhase → Option Nat
  | creating _ pointer | releasing _ pointer => some pointer
  | _ => none

def released (own : Option TransferObject) : SendPhase :=
  if own.isSome then ended else reserving true

end SendPhase

/-- The calls so far, and for each release at the end of one what it was to remove and what it
has removed. -/
structure SendSystem where
  resources : ResourceController := {}
  phases : Nat → SendPhase := fun _ => .idle
  releases : List (TransferObject × Option TransferObject) := []

namespace SendSystem

variable (options : ControllerOptions) (calls : Nat → SendCall) (system : SendSystem)

def moveTo (i : Nat) (phase : SendPhase) (resources : ResourceController) : SendSystem :=
  { system with resources, phases := Function.update system.phases i phase }

def logRelease (own removed : Option TransferObject) : SendSystem :=
  { system with releases := system.releases ++ own.toList.map fun own => (own, removed) }

/-- Call `i` goes on. The process is over when `Sender::init` fails its check. -/
def step (i : Nat) : Option SendSystem :=
  let call := calls i
  let resources := system.resources
  match system.phases i with
  | .idle =>
    some (system.moveTo i (if call.errorCode ≠ .ok then .ended else .reserving false) resources)
  | .reserving again =>
    match resources.reserve options .sender call.wdtNamespace with
    | (.error _, found) => some (system.moveTo i .ended found)
    | (.ok pointer, reserved) => some (system.moveTo i (.creating again pointer) reserved)
  | .creating again pointer =>
    match resources.createIn options .sender pointer call.getSenderIdentifier call.transferId with
    | (.ok object, created) =>
      call.initSender.map fun code =>
        system.moveTo i (if code = .ok then .running object else .ended) created
    | (.alreadyExists existing, left) =>
      some (system.moveTo i (.undoing (!again && call.terminateExistingOne &&
        decide (existing.transferId ≠ call.transferId))) left)
    | (.refused _, left) => some (system.moveTo i (.undoing false) left)
  | .undoing replaces =>
    some (system.moveTo i (if replaces then .finding none else .ended)
      (resources.adjust (ResourceController.only .sender (-1))))
  | .running own => some (system.moveTo i (.finding (some own)) resources)
  | .finding own =>
    match resources.getNamespaceController call.wdtNamespace with
    | none => some ((system.logRelease own none).moveTo i (.released own) resources)
    | some pointer => some (system.moveTo i (.releasing own pointer) resources)
  | .releasing own pointer =>
    match resources.releaseIn .sender pointer call.getSenderIdentifier with
    | none => some ((system.logRelease own none).moveTo i (.released own) resources)
    | some (removed, released) =>
      some ((system.logRelease own (some removed)).moveTo i (.settling own) released)
  | .settling own =>
    some (system.moveTo i (.released own) (resources.adjust (ResourceController.only .sender (-1))))
  | .ended => none

def underKey (resources : ResourceController) (call : SendCall) : Option TransferObject :=
  resources.registered .sender call.wdtNamespace call.getSenderIdentifier

/-- What a call replaces is not the sender of another call that has not come to its end. -/
def ReplacesUnowned (i : Nat) : Prop :=
  ∀ pointer, system.phases i = .releasing none pointer → ∀ j own, (system.phases j).own = some own →
    underKey system.resources (calls i) ≠ some own

/-- A call that has a sender has it under its key, where no other call has one. -/
structure Orderly (calls : Nat → SendCall) (system : SendSystem) : Prop where
  own : ∀ i own, (system.phases i).own = some own → underKey system.resources (calls i) = some own
  apart : ∀ i j, (system.phases i).own.isSome = true → (system.phases j).own.isSome = true →
    (calls i).wdtNamespace = (calls j).wdtNamespace →
    (calls i).getSenderIdentifier = (calls j).getSenderIdentifier → i = j
  pointer : ∀ i pointer, (system.phases i).pointer = some pointer →
    system.resources.getNamespaceController (calls i).wdtNamespace = some pointer
  releases : ∀ release ∈ system.releases, release.2 = some release.1

variable {options calls system} {i : Nat} {phase : SendPhase} {resources : ResourceController}

theorem Orderly.moveTo (orderly : system.Orderly calls)
    (kept : ∀ j own, j ≠ i → (system.phases j).own = some own →
      underKey resources (calls j) = some own)
    (ownKept : ∀ own, phase.own = some own → underKey resources (calls i) = some own ∧
      ((system.phases i).own.isSome = true ∨ underKey system.resources (calls i) = none))
    (namespaces : ∀ name pointer, system.resources.getNamespaceController name = some pointer →
      resources.getNamespaceController name = some pointer)
    (known : ∀ pointer, phase.pointer = some pointer →
      resources.getNamespaceController (calls i).wdtNamespace = some pointer) :
    (system.moveTo i phase resources).Orderly calls := by
  have free (j : Nat) (other : j ≠ i) (owns : phase.own.isSome = true)
      (ownsToo : (system.phases j).own.isSome = true)
      (sameNamespace : (calls i).wdtNamespace = (calls j).wdtNamespace)
      (sameKey : (calls i).getSenderIdentifier = (calls j).getSenderIdentifier) : False := by
    obtain ⟨own, isOwn⟩ := isSome_iff_exists.mp owns
    obtain ⟨ownToo, isOwnToo⟩ := isSome_iff_exists.mp ownsToo
    rcases (ownKept own isOwn).2 with before | none
    · exact other (orderly.apart i j before ownsToo sameNamespace sameKey).symm
    have taken := orderly.own j ownToo isOwnToo
    rw [underKey, ← sameNamespace, ← sameKey] at taken
    rw [underKey, taken] at none
    cases none
  refine ⟨(forall_update_iff _ fun j (phase : SendPhase) => ∀ own, phase.own = some own →
      underKey resources (calls j) = some own).mpr
        ⟨fun own isOwn => (ownKept own isOwn).1, fun j other own => kept j own other⟩, ?_,
    (forall_update_iff _ fun j (phase : SendPhase) => ∀ pointer, phase.pointer =
      some pointer → resources.getNamespaceController (calls j).wdtNamespace = some pointer).mpr
        ⟨known, fun j _ pointer isPointer => namespaces _ _ (orderly.pointer j pointer isPointer)⟩,
    orderly.releases⟩
  intro j k owns ownsToo sameNamespace sameKey
  simp only [SendSystem.moveTo, update_apply] at owns ownsToo
  by_cases first : j = i <;> by_cases second : k = i
  · rw [first, second]
  · rw [if_pos first] at owns
    rw [if_neg second] at ownsToo
    subst first
    exact (free k second owns ownsToo sameNamespace sameKey).elim
  · rw [if_neg first] at owns
    rw [if_pos second] at ownsToo
    subst second
    exact (free j first ownsToo owns sameNamespace.symm sameKey.symm).elim
  · rw [if_neg first] at owns
    rw [if_neg second] at ownsToo
    exact orderly.apart j k owns ownsToo sameNamespace sameKey

theorem Orderly.rest (orderly : system.Orderly calls)
    (same : ∀ role name key, resources.registered role name key =
      system.resources.registered role name key)
    (owns : ∀ own, phase.own = some own → (system.phases i).own = some own)
    (namespaces : ∀ name pointer, system.resources.getNamespaceController name = some pointer →
      resources.getNamespaceController name = some pointer)
    (known : ∀ pointer, phase.pointer = some pointer →
      resources.getNamespaceController (calls i).wdtNamespace = some pointer) :
    (system.moveTo i phase resources).Orderly calls :=
  orderly.moveTo (fun j own _ isOwn => (same _ _ _).trans (orderly.own j own isOwn))
    (fun own isOwn => ⟨(same _ _ _).trans (orderly.own i own (owns own isOwn)),
      .inl (by rw [owns own isOwn]; rfl)⟩) namespaces known

theorem Orderly.logRelease (orderly : system.Orderly calls) {own removed : Option TransferObject}
    (removes : ∀ object, own = some object → removed = some object) :
    (system.logRelease own removed).Orderly calls where
  __ := orderly
  releases := fun release member => by
    rcases List.mem_append.mp member with before | new
    · exact orderly.releases release before
    cases own with
    | none => cases new
    | some object =>
      rw [List.mem_singleton.mp new]
      exact removes object rfl

@[simp]
theorem released_own (own : Option TransferObject) :
    (SendPhase.released own).own = none ∧ (SendPhase.released own).pointer = none := by
  cases own <;> exact ⟨rfl, rfl⟩

section

variable (orderly : system.Orderly calls)

include orderly

theorem Orderly.releasing
    (allowed : system.ReplacesUnowned calls i) {own : Option TransferObject} {pointer : Nat}
    (stands : system.phases i = .releasing own pointer) {after : SendSystem}
    (moves : step options calls system i = some after) : after.Orderly calls := by
  have known := orderly.pointer i pointer (by rw [stands]; rfl)
  have ownKept (object : TransferObject) (isOwn : own = some object) :
      underKey system.resources (calls i) = some object :=
    orderly.own i object (by rw [stands]; exact isOwn)
  simp only [step, stands] at moves
  rcases releaseIn_cases known .sender (calls i).getSenderIdentifier with
    ⟨none, result⟩ | ⟨removed, controller, taken, result, _, registered⟩ <;>
    rw [result] at moves <;> cases moves
  · refine (orderly.logRelease fun object isOwn => ?_).rest (fun _ _ _ => rfl) (by simp)
      (fun _ _ => id) (by simp)
    cases none.symm.trans (ownKept object isOwn)
  refine (orderly.logRelease fun object isOwn => taken.symm.trans (ownKept object isOwn)).moveTo
    (fun j object other isOwn => ?_) nofun (fun _ _ => id) nofun
  change (system.phases j).own = some object at isOwn
  rw [underKey, registered, if_neg]
  · exact orderly.own j object isOwn
  · rintro ⟨_, sameNamespace, sameKey⟩
    cases own with
    | some own =>
      exact other (orderly.apart j i (by rw [isOwn]; rfl) (by rw [stands]; rfl) sameNamespace
        sameKey)
    | none =>
      have same := orderly.own j object isOwn
      rw [underKey, sameNamespace, sameKey] at same
      exact allowed pointer stands j object isOwn same

theorem Orderly.reserving {again : Bool}
    (stands : system.phases i = .reserving again) {after : SendSystem}
    (moves : step options calls system i = some after) : after.Orderly calls := by
  simp only [step, stands] at moves
  rcases reserve_cases options system.resources .sender (calls i).wdtNamespace
    with ⟨_, _, result⟩ | ⟨found, pointer, finds, outcome⟩
  · rw [result] at moves
    cases moves
    exact orderly.rest (fun _ _ _ => rfl) nofun (fun _ _ => id) nofun
  obtain ⟨known, _, same⟩ := finds.spec
  rcases outcome with ⟨_, result⟩ | ⟨_, result⟩ <;> rw [result] at moves <;> cases moves
  · refine orderly.rest same nofun finds.keeps fun other isPointer => ?_
    cases isPointer
    exact known
  · exact orderly.rest same nofun finds.keeps nofun

theorem Orderly.creating {again : Bool} {pointer : Nat}
    (stands : system.phases i = .creating again pointer) {after : SendSystem}
    (moves : step options calls system i = some after) : after.Orderly calls := by
  have known := orderly.pointer i pointer (by rw [stands]; rfl)
  simp only [step, stands] at moves
  rcases createIn_cases known options .sender (calls i).getSenderIdentifier
    (calls i).transferId with ⟨existing, _, result⟩ | ⟨free, ⟨_, result⟩ |
      ⟨_, object, created, _, _, result, _, _, sameMap, registered⟩⟩ <;> rw [result] at moves
  · cases moves
    exact orderly.rest (fun _ _ _ => rfl) nofun (fun _ _ => id) nofun
  · cases moves
    exact orderly.rest (fun _ _ _ => rfl) nofun (fun _ _ => id) nofun
  · obtain ⟨code, _, rfl⟩ := map_eq_some_iff.mp moves
    refine orderly.moveTo (fun j own other isOwn => ?_) (fun own isOwn => ?_)
      (fun name pointer found => ?_) (fun _ isPointer => ?_)
    · rw [underKey, registered, if_neg]
      · exact orderly.own j own isOwn
      · rintro ⟨_, sameNamespace, sameKey⟩
        have taken := orderly.own j own isOwn
        rw [underKey, sameNamespace, sameKey, free] at taken
        cases taken
    · split at isOwn <;> cases isOwn
      exact ⟨by rw [underKey, registered, if_pos ⟨rfl, rfl, rfl⟩], .inr free⟩
    · rw [getNamespaceController, sameMap]
      exact found
    · split at isPointer <;> cases isPointer

theorem Orderly.step (allowed : system.ReplacesUnowned calls i) {after : SendSystem}
    (moves : SendSystem.step options calls system i = some after) : after.Orderly calls := by
  have same (phase : SendPhase) (owns : ∀ own, phase.own = some own →
      (system.phases i).own = some own) (known : phase.pointer = none)
      (amount : Role → Int) : (system.moveTo i phase (system.resources.adjust amount)).Orderly
        calls :=
    orderly.rest (fun _ _ _ => rfl) owns (fun _ _ => id) (by simp [known])
  cases stands : system.phases i with
  | reserving again => exact orderly.reserving stands moves
  | creating again pointer => exact orderly.creating stands moves
  | releasing own pointer => exact orderly.releasing allowed stands moves
  | ended =>
    simp only [SendSystem.step, stands] at moves
    cases moves
  | idle =>
    simp only [SendSystem.step, stands] at moves
    cases moves
    exact orderly.rest (fun _ _ _ => rfl) (by split <;> exact nofun) (fun _ _ => id)
      (by split <;> exact nofun)
  | undoing replaces =>
    simp only [SendSystem.step, stands] at moves
    cases moves
    exact same _ (by cases replaces <;> exact nofun) (by cases replaces <;> rfl) _
  | running own =>
    simp only [SendSystem.step, stands] at moves
    cases moves
    exact orderly.rest (fun _ _ _ => rfl) (by rw [stands]; exact fun _ => id)
      (fun _ _ => id) nofun
  | settling own =>
    simp only [SendSystem.step, stands] at moves
    cases moves
    exact same _ (by simp) (by simp) _
  | finding own =>
    simp only [SendSystem.step, stands] at moves
    split at moves <;> cases moves
    · rename_i absent
      refine (orderly.logRelease fun object isOwn => ?_).rest (fun _ _ _ => rfl) (by simp)
        (fun _ _ => id) (by simp)
      have registered := orderly.own i object (by rw [stands]; exact isOwn)
      rw [underKey, ResourceController.registered, absent] at registered
      cases registered
    · rename_i pointer known
      refine orderly.rest (fun _ _ _ => rfl) (by rw [stands]; exact fun _ => id)
        (fun _ _ => id) fun other isPointer => ?_
      cases isPointer
      exact known

end

/-- In every run in which no call replaces the sender of another one that has not come to its end,
each release at the end of a call removes the call's own sender, and the sender of a running call
is registered. -/
theorem send_calls_release_own
    (path : Path (fun before i after => step options calls before i = some after)
      (ReplacesUnowned calls) {} system) :
    (∀ release ∈ system.releases, release.2 = some release.1) ∧
    ∀ i own, system.phases i = .running own →
      underKey system.resources (calls i) = some own := by
  have orderly : system.Orderly calls := path.invariant (Orderly calls) ⟨nofun, nofun, nofun, nofun⟩
      fun _ _ _ orderly allowed moves => orderly.step allowed moves
  exact ⟨orderly.releases, fun i own runs => orderly.own i own (by rw [runs]; rfl)⟩

def noLimits : ControllerOptions := { oneOfEach with globalLimits := fun _ => 0 }

def sampleCalls (i : Nat) : SendCall :=
  { sampleRequest with transferId := [i.toUInt8], terminateExistingOne := true }

theorem send_calls_release_own_one : ∃ system, Path
        (fun before i after => step noLimits sampleCalls before i = some after)
        (ReplacesUnowned sampleCalls) {} system ∧ system.releases.length = 1 ∧
      ∀ release ∈ system.releases, release.2 = some release.1 := by
  have computed : (runsUnder (step noLimits sampleCalls)
      (fun system i => match system.phases i with
        | .releasing none _ => false
        | _ => true) {}
      (List.replicate 7 0)).map (fun system => system.releases.length) = some 1 := by
    decide +kernel
  obtain ⟨system, ran, released⟩ := map_eq_some_iff.mp computed
  have path : Path
      (fun before i after => step noLimits sampleCalls before i = some after)
      (ReplacesUnowned sampleCalls) {} system :=
    path_of_runsUnder (fun _ _ _ => id)
      (fun _ _ test pointer stands => by simp [stands] at test) .refl ran
  exact ⟨system, path, released, (send_calls_release_own path).1⟩

/-- The first call ends behind the replacement, releases its key and so unregisters the sender of
the second call, which is running. -/
theorem ended_call_releases_other : ∃ system, Path
        (fun before i after => step noLimits sampleCalls before i = some after)
        (fun _ _ => True) {} system ∧
      ∃ first second, system.releases = [(first, some second)] ∧ first ≠ second ∧
        system.phases 1 = .running second ∧
        underKey system.resources (sampleCalls 1) = none := by
  have computed : (runsUnder (step noLimits sampleCalls) (fun _ _ => true) {}
      (List.replicate 3 0 ++ List.replicate 9 1 ++ List.replicate 3 0)).map
      (fun system => (system.releases, system.phases 1,
        underKey system.resources (sampleCalls 1))) =
      some ([({ number := 0, transferId := [0] }, some { number := 2, transferId := [1] })],
        .running { number := 2, transferId := [1] }, none) := by
    decide +kernel
  obtain ⟨system, ran, values⟩ := map_eq_some_iff.mp computed
  simp only [Prod.mk.injEq] at values
  exact ⟨system, path_of_run ran, _, _, values.1, by decide, values.2⟩

end SendSystem

end Wdt
