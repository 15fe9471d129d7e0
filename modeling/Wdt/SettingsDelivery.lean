/-
SETTINGS from end to end. The sender encodes up to one constant and writes up to
another when it asks for the chunk list; the receiver waits for a third number of
bytes and decodes up to a fourth. What the receiver then takes for the settings.
-/

import Wdt.Segmentation

namespace Wdt

open List Memory

/-- `buf` is the content of the thread's buffer before: with `sendFileChunks` the message is
sent with what follows it there, or only in part. -/
def sendSettings (version : Nat) (settings : Settings) (buf : Memory Byte) : List Byte :=
  let message := settingsMessage version settings
  let toWrite := if settings.sendFileChunks then kMinBufLength else message.length
  (buf.store 0 message).read 0 toWrite

/-- The versions, timeouts and transfer ids that a sender can have. -/
structure Settings.InRange (version : Nat) (settings : Settings) : Prop where
  versionSmall : version ≤ int32Max
  flags : settingsFlagVersion ≤ version
  readTimeout : settings.readTimeoutMillis ≤ int32Max
  writeTimeout : settings.writeTimeoutMillis ≤ int32Max
  transferId : settings.transferId.length ≤ kMaxTransferIdLength

theorem varU64_length_of_int32 {value : Nat} (small : value ≤ int32Max) :
    (varU64 value).length ≤ 5 := by
  have bound : int32Max = 2147483647 := rfl
  exact varU64_length_le_of_lt (by norm_num; omega)

theorem settingsFields_fit {version : Nat} {settings : Settings} (small : version ≤ int32Max)
    (readTimeout : settings.readTimeoutMillis ≤ int32Max)
    (writeTimeout : settings.writeTimeoutMillis ≤ int32Max)
    (transferId : settings.transferId.length ≤ kMaxTransferIdLength) :
    (settingsCmd :: varU64 version ++ settingsFields version settings).length ≤ kMaxSettings := by
  have longest : kMaxTransferIdLength = 1024 ∧ kMaxSettings = 1056 := ⟨rfl, rfl⟩
  have versionLength := varU64_length_of_int32 small
  have readLength := varU64_length_of_int32 readTimeout
  have writeLength := varU64_length_of_int32 writeTimeout
  have countLength : (varU64 settings.transferId.length).length ≤ 2 :=
    varU64_length_le_of_lt (by norm_num; omega)
  have flag : (if settingsFlagVersion ≤ version then [settings.toFlags] else []).length ≤ 1 := by
    split <;> simp
  unfold settingsFields
  simp only [length_append, length_cons]
  omega

theorem Settings.InRange.honest {version : Nat} {settings : Settings}
    (inRange : settings.InRange version) : settings.Honest version where
  __ := inRange
  fits := settingsFields_fit inRange.versionSmall inRange.readTimeout inRange.writeTimeout
    inRange.transferId

def settingsHead (version : Nat) (settings : Settings) : List Byte :=
  settingsCmd :: varU64 version ++ (varU64 settings.readTimeoutMillis ++
    (varU64 settings.writeTimeoutMillis ++ varU64 settings.transferId.length))

theorem settingsHead_length_le (version : Nat) (settings : Settings) :
    (settingsHead version settings).length ≤ 37 := by
  have versionLength := varU64_length_le version
  have readLength := varU64_length_le settings.readTimeoutMillis
  have writeLength := varU64_length_le settings.writeTimeoutMillis
  have countLength := varU64_length_le settings.transferId.length
  unfold settingsHead
  simp only [length_append, length_cons]
  omega

theorem settingsMessage_head {version : Nat} {settings : Settings}
    (honest : settings.Honest version) :
    settingsMessage version settings =
      settingsHead version settings ++ (settings.transferId ++ [settings.toFlags]) := by
  rw [settingsMessage_eq honest]
  unfold settingsFields settingsHead
  rw [if_pos honest.flags]
  simp only [cons_append, append_assoc]

/-! ### What the receiver takes for the settings -/

namespace ReceiverThread

variable {config : ReceiverConfig} {thread : ReceiverThread} {version : Nat} {settings : Settings}

theorem negotiateVersion_accepts (supported : 10 ≤ version)
    (older : version ≤ thread.threadProtocolVersion) :
    thread.negotiateVersion version = .go { thread with threadProtocolVersion := version } := by
  unfold negotiateVersion
  by_cases same : version = thread.threadProtocolVersion
  · rw [if_pos same, same]
  have negotiated : negotiateProtocol version thread.threadProtocolVersion = version := by
    unfold negotiateProtocol
    rw [if_neg (by omega)]
    exact Nat.min_eq_right older
  rw [if_neg same]
  rw [negotiated, if_neg (by omega), if_neg (not_not.mpr rfl)]

theorem processSettingsCmd_reads {fields : List Byte} {received : Settings}
    (versionSmall : version ≤ int32Max) (supported : 10 ≤ version)
    (older : version ≤ thread.threadProtocolVersion) (off : thread.off = thread.oldOffset + 1)
    (decodes : (decodeSettings version).Reads fields received)
    (fits : (settingsCmd :: varU64 version ++ fields).length ≤ kMaxSettings)
    (content : thread.buf.read thread.oldOffset (settingsCmd :: varU64 version ++ fields).length =
      settingsCmd :: varU64 version ++ fields) :
    ∃ after, (thread.processSettingsCmd config).settle = .ok after ∧
      (after.1.trace = thread.trace ++ if config.transferId = received.transferId then
        [ReceiverEvent.acceptedSettings version version received] else []) ∧
      (config.transferId = received.transferId → after.1.footerType =
        if received.enableChecksum then .checksumFooter else .noFooter) := by
  have longest : kMaxVersion = 10 ∧ kMaxSettings = 1056 := ⟨rfl, rfl⟩
  have number := varU64_length_le version
  simp only [cons_append, length_cons, length_append] at fits
  have shape : [settingsCmd] ++ (varU64 version ++ fields) =
      settingsCmd :: varU64 version ++ fields := rfl
  rw [← shape] at content
  obtain ⟨_, behindCmd⟩ := read_split content
  change thread.buf.read (thread.oldOffset + 1) _ = _ at behindCmd
  rw [← off] at behindCmd
  obtain ⟨versionField, settingsField⟩ := read_split behindCmd
  have decodedVersion := decodeUpTo_reads (decodeInt32C_reads versionSmall) thread
    (thread.oldOffset + kMaxVersion) versionField (by omega)
  have decodedSettings := decodeUpTo_reads decodes
    { thread with
      off := thread.off + (varU64 version).length
      threadProtocolVersion := version }
    (thread.oldOffset + kMaxVersion + kMaxSettings) settingsField (by dsimp only; omega)
  have accepted := @negotiateVersion_accepts
    { thread with off := thread.off + (varU64 version).length } version supported older
  unfold processSettingsCmd decodeVersion
  rw [decodedVersion]
  dsimp only
  rw [accepted, Outcome.go_bind]
  rw [decodedSettings]
  dsimp only
  by_cases sameId : config.transferId = received.transferId
  · rw [if_neg (not_not.mpr sameId), if_pos sameId]
    by_cases chunks : received.sendFileChunks = true
    · rw [if_pos chunks]
      exact ⟨_, rfl, rfl, fun _ => rfl⟩
    · rw [if_neg chunks]
      exact ⟨_, rfl, rfl, fun _ => rfl⟩
  · rw [if_pos sameId, if_neg sameId, append_nil]
    exact ⟨_, rfl, rfl, fun same => absurd same sameId⟩

theorem processSettingsCmd_decodes (honest : settings.Honest version)
    (older : version ≤ thread.threadProtocolVersion) (off : thread.off = thread.oldOffset + 1)
    (content : thread.buf.read thread.oldOffset (settingsMessage version settings).length =
      settingsMessage version settings) :
    ∃ after, (thread.processSettingsCmd config).settle = .ok after ∧
      after.1.trace = thread.trace ++ if config.transferId = settings.transferId then
        [ReceiverEvent.acceptedSettings version version settings] else [] := by
  have supported : 12 ≤ version := honest.flags
  rw [settingsMessage_eq honest] at content
  obtain ⟨after, answered, trace, _⟩ := @processSettingsCmd_reads config thread version
    (settingsFields version settings) settings honest.versionSmall (by omega) older off
    (decodeSettings_reads honest) honest.fits content
  exact ⟨after, answered, trace⟩

/-- The thread is at the front of what a sender wrote. -/
structure AwaitsSettings (config : ReceiverConfig) (version : Nat) (wire : List Byte)
    (thread : ReceiverThread) : Prop where
  receiving : Receiving config thread wire
  room : thread.off + kMinBufLength ≤ config.bufSize
  older : version ≤ thread.threadProtocolVersion
  enough : kMinBufLength ≤ wire.length

/-- The next command is SETTINGS, and these are the settings the thread decodes and accepts. -/
def ReceivesSettings (config : ReceiverConfig) (version : Nat) (settings : Settings)
    (thread : ReceiverThread) : Prop :=
  ∃ mid after, thread.readNextCmd config = .go (mid, .processSettingsCmd) ∧
    (mid.processSettingsCmd config).settle = .ok after ∧
    after.1.trace = mid.trace ++ [ReceiverEvent.acceptedSettings version version settings]

theorem sendSettings_short (short : (settingsMessage version settings).length ≤ kMinBufLength)
    (buf : Memory Byte) :
    ∃ filler, sendSettings version settings buf = settingsMessage version settings ++ filler := by
  unfold sendSettings
  dsimp only
  by_cases chunks : settings.sendFileChunks = true
  · rw [if_pos chunks, read_store_longer _ _ _ short]
    exact ⟨_, rfl⟩
  · rw [if_neg chunks, read_store]
    exact ⟨[], (append_nil _).symm⟩

theorem short_settings_received {wire rest : List Byte} (honest : settings.Honest version)
    (sameId : config.transferId = settings.transferId)
    (short : (settingsMessage version settings).length ≤ kMinBufLength)
    (shape : wire = settingsMessage version settings ++ rest)
    (awaits : AwaitsSettings config version wire thread) :
    thread.ReceivesSettings config version settings := by
  obtain ⟨receiving, room, older, enough⟩ := awaits
  have behindCmd :
      wire = settingsCmd :: (varU64 version ++ settingsFields version settings ++ rest) := by
    rw [shape, settingsMessage_eq honest]
    simp only [cons_append, append_assoc]
  rw [behindCmd] at receiving enough
  obtain ⟨mid, dispatched, inCommand, reception, _⟩ :=
    readNextCmd_dispatches receiving room enough rfl
  have sameVersion : mid.threadProtocolVersion = thread.threadProtocolVersion :=
    congrArg Reception.version reception
  rw [← behindCmd, shape] at inCommand
  have content : mid.buf.read mid.oldOffset (settingsMessage version settings).length =
      settingsMessage version settings := by
    have received := inCommand.enough
    exact inCommand.window.front (by omega)
  obtain ⟨after, answered, trace⟩ := @processSettingsCmd_decodes config mid version settings honest
    (by rw [sameVersion]; exact older) inCommand.off content
  rw [if_pos sameId] at trace
  exact ⟨mid, after, dispatched, answered, trace⟩

/-! ### Longer messages -/

def filledWith (stale : Byte) : Memory Byte := fun _ => stale

theorem read_filledWith (stale : Byte) (start count : Nat) :
    (filledWith stale).read start count = List.replicate count stale := by
  induction count generalizing start with
  | zero => rfl
  | succ count ih =>
    rw [Memory.read, ih]
    rfl

/-- A byte that stands for the other value of `enableChecksum`. -/
def staleFlags (settings : Settings) : Byte :=
  if settings.enableChecksum then 0 else 1

theorem stale_settings (inRange : settings.InRange version)
    (long : kMinBufLength < (settingsMessage version settings).length) :
    ∃ other : Settings, other.Honest version ∧ other ≠ settings ∧
      ((filledWith (staleFlags settings)).store 0
        ((settingsMessage version settings).take kMinBufLength)).read 0
          (settingsMessage version other).length = settingsMessage version other := by
  have least : kMinBufLength = 256 := rfl
  have head := settingsHead_length_le version settings
  have message := settingsMessage_head inRange.honest
  have length := congrArg length message
  simp only [length_append, length_singleton] at length
  -- the received part of the transfer id, and what follows it in the buffer
  obtain ⟨received, counted⟩ :
      ∃ received, kMinBufLength = (settingsHead version settings).length + received :=
    ⟨kMinBufLength - (settingsHead version settings).length, by omega⟩
  let other : Settings :=
    { readTimeoutMillis := settings.readTimeoutMillis
      writeTimeoutMillis := settings.writeTimeoutMillis
      transferId := settings.transferId.take received ++
        replicate (settings.transferId.length - received) (staleFlags settings)
      enableChecksum := !settings.enableChecksum }
  have sameLength : other.transferId.length = settings.transferId.length := by
    rw [length_append, length_take, length_replicate]
    omega
  have otherHonest : other.Honest version := Settings.InRange.honest
    { inRange with transferId := by rw [sameLength]; exact inRange.transferId }
  have flags : other.toFlags = staleFlags settings := by
    unfold Settings.toFlags staleFlags
    cases h : settings.enableChecksum with
    | true | false => simp [other, h]
  have sameHead : settingsHead version other = settingsHead version settings := by
    unfold settingsHead
    rw [sameLength]
  have otherMessage : settingsMessage version other =
      (settingsMessage version settings).take kMinBufLength ++
        replicate ((settingsMessage version settings).length - kMinBufLength)
          (staleFlags settings) := by
    have front : (settingsMessage version settings).take kMinBufLength =
        settingsHead version settings ++ settings.transferId.take received := by
      rw [message, counted, take_length_add_append, take_append_of_le_length (by omega)]
    have behind : (settingsMessage version settings).length - kMinBufLength =
        settings.transferId.length - received + 1 := by
      omega
    rw [settingsMessage_head otherHonest, sameHead, flags, front, behind, replicate_succ']
    simp only [other, append_assoc]
  have otherLength : (settingsMessage version other).length =
      (settingsMessage version settings).length := by
    rw [otherMessage, length_append, length_take, length_replicate]
    omega
  refine ⟨other, otherHonest, ?_, ?_⟩
  · intro same
    have checksum := congrArg Settings.enableChecksum same
    change (!settings.enableChecksum) = settings.enableChecksum at checksum
    cases h : settings.enableChecksum with
    | true | false => simp [h] at checksum
  · have taken :
        ((settingsMessage version settings).take kMinBufLength).length = kMinBufLength := by
      rw [length_take]
      omega
    rw [otherLength, read_store_longer _ _ _ (by rw [taken]; omega), taken, read_filledWith,
      otherMessage]

/-- A thread whose buffer holds one stale byte everywhere; a first piece arrives by itself. -/
def cutThread (version : Nat) (stale : Byte) (first : List Byte) (rest : List Segment) :
    ReceiverThread where
  buf := filledWith stale
  connection := { segments := { bytes := first } :: rest }
  threadProtocolVersion := version

/-- In the state function of SETTINGS, with the first piece in the buffer. -/
def cutCommand (version : Nat) (stale : Byte) (first : List Byte) (rest : List Segment) :
    ReceiverThread :=
  { cutThread version stale first rest with
    buf := (filledWith stale).store 0 first
    connection := { segments := rest, delivered := first }
    numRead := first.length
    off := 1 }

theorem cutThread_dispatches {stale : Byte} {fields : List Byte} {rest : List Segment}
    (enough : kMinBufLength ≤ (settingsCmd :: fields).length)
    (fits : (settingsCmd :: fields).length ≤ config.bufSize) :
    (cutThread version stale (settingsCmd :: fields) rest).readNextCmd config =
      .go (cutCommand version stale (settingsCmd :: fields) rest, .processSettingsCmd) := by
  have least : kMinBufLength = 256 := rfl
  have first : (cutThread version stale (settingsCmd :: fields) rest).socketRead 0 config.bufSize =
      (((settingsCmd :: fields).length : Int),
        (cutThread version stale (settingsCmd :: fields) rest).withReads
          ((filledWith stale).store 0 (settingsCmd :: fields))
          { segments := rest, delivered := settingsCmd :: fields }) := by
    unfold socketRead cutThread
    dsimp only
    rw [take_of_length_le fits, drop_eq_nil_of_le fits]
    rfl
  have read := readAtLeast_once 0 config.bufSize kMinBufLength 0 (by omega) (by omega) (by omega)
    first
  change ((cutThread version stale (settingsCmd :: fields) rest).readAtLeast 0
    (config.bufSize - (0 : Nat)) kMinBufLength (0 : Nat)).bind _ = _
  rw [show (config.bufSize : Int) - ((0 : Nat) : Int) = config.bufSize by omega, read,
    Outcome.go_bind, Nat.zero_add]
  dsimp only
  rw [if_neg (by omega)]
  rfl

theorem cut_settings_not_received {rest : List Segment} (inRange : settings.InRange version)
    (long : kMinBufLength < (settingsMessage version settings).length) :
    ¬ (cutThread version (staleFlags settings)
      ((settingsMessage version settings).take kMinBufLength) rest).ReceivesSettings config version
        settings := by
  have least : kMinBufLength = 256 := rfl
  have bufSize := config.bufSize_ge
  obtain ⟨other, otherHonest, different, content⟩ := stale_settings inRange long
  obtain ⟨fields, shape⟩ : ∃ fields,
      (settingsMessage version settings).take kMinBufLength = settingsCmd :: fields := by
    rw [settingsMessage_eq inRange.honest]
    exact ⟨_, rfl⟩
  have taken : ((settingsMessage version settings).take kMinBufLength).length = kMinBufLength := by
    rw [length_take]
    omega
  rw [shape] at content taken ⊢
  have dispatches := @cutThread_dispatches config version (staleFlags settings) fields rest
    taken.ge (by rw [taken]; omega)
  rintro ⟨mid, after, dispatched, answered, trace⟩
  rw [dispatches] at dispatched
  cases dispatched
  obtain ⟨actual, actualAnswer, actualTrace⟩ := @processSettingsCmd_decodes config
    (cutCommand version (staleFlags settings) (settingsCmd :: fields) rest) version other
    otherHonest
    (le_refl _) rfl content
  rw [actualAnswer] at answered
  cases answered
  rw [actualTrace] at trace
  have events := append_cancel_left trace
  by_cases sameId : config.transferId = other.transferId
  · rw [if_pos sameId] at events
    cases events
    exact different rfl
  · rw [if_neg sameId] at events
    cases events

theorem cutThread_awaits {stale : Byte} {first second : List Byte} {rest : List Segment}
    (pieces : rest = if second = [] then [] else [{ bytes := second }])
    (enough : kMinBufLength ≤ first.length) :
    AwaitsSettings config version (first ++ second) (cutThread version stale first rest) := by
  have least : kMinBufLength = 256 := rfl
  have bufSize := config.bufSize_ge
  have nonempty : first ≠ [] := ne_nil_of_length_pos (by omega)
  have arrives : ((cutThread version stale first rest).connection.segments.map
      Segment.bytes).flatten = first ++ second := by
    unfold cutThread
    rw [map_cons, flatten_cons, pieces]
    by_cases ended : second = []
    · rw [if_pos ended, ended]
      rfl
    · rw [if_neg ended, map_singleton, flatten_singleton]
  refine ⟨⟨⟨⟨rfl, ?_, ?_, rfl⟩, Nat.zero_le _, ?_⟩, le_refl _⟩, ?_, le_refl _, ?_⟩
  · intro segment member
    rcases mem_cons.mp member with rfl | later
    · rfl
    rw [pieces] at later
    split at later
    · cases later
    · cases mem_singleton.mp later
      rfl
  · intro segment member
    rcases mem_cons.mp member with rfl | later
    · exact nonempty
    rw [pieces] at later
    split at later
    · cases later
    · rename_i more
      cases mem_singleton.mp later
      exact more
  · exact arrives
  · change 0 + kMinBufLength ≤ config.bufSize
    omega
  · rw [length_append]
    omega

theorem sendSettings_long (long : kMinBufLength < (settingsMessage version settings).length)
    (buf : Memory Byte) :
    sendSettings version settings buf = (settingsMessage version settings).take kMinBufLength ++
      if settings.sendFileChunks then [] else
        (settingsMessage version settings).drop kMinBufLength := by
  have written := read_store buf 0 (settingsMessage version settings)
  unfold sendSettings
  dsimp only
  by_cases chunks : settings.sendFileChunks = true
  · rw [if_pos chunks, if_pos chunks, append_nil,
      ← read_take _ _ (Nat.le_of_lt long), written]
  · rw [if_neg chunks, if_neg chunks, written, take_append_drop]

theorem long_settings_cut (inRange : settings.InRange version)
    (long : kMinBufLength < (settingsMessage version settings).length) (buf : Memory Byte) :
    ∃ thread, AwaitsSettings config version (sendSettings version settings buf ++ []) thread ∧
      ¬ thread.ReceivesSettings config version settings := by
  have wire := sendSettings_long long buf
  generalize (if settings.sendFileChunks then [] else
    (settingsMessage version settings).drop kMinBufLength) = second at wire
  have awaits := @cutThread_awaits config version (staleFlags settings)
    ((settingsMessage version settings).take kMinBufLength) second _ rfl (by
      rw [length_take]
      omega)
  rw [← wire, ← append_nil (sendSettings version settings buf)] at awaits
  exact ⟨_, awaits, cut_settings_not_received inRange long⟩

/-- The settings arrive whole, however the stream is cut, just when the message has at most 256
bytes. -/
theorem settings_delivered_iff_message_short (inRange : settings.InRange version)
    (sameId : config.transferId = settings.transferId) :
    (∀ (buf : Memory Byte) (more : List Byte), (settings.sendFileChunks = true → more = []) →
      ∀ thread, AwaitsSettings config version (sendSettings version settings buf ++ more) thread →
        thread.ReceivesSettings config version settings) ↔
      (settingsMessage version settings).length ≤ kMinBufLength := by
  constructor
  · intro delivered
    by_contra tooLong
    obtain ⟨thread, awaits, lost⟩ := @long_settings_cut config version settings inRange
      (not_le.mp tooLong) (filledWith 0)
    exact lost (delivered (filledWith 0) [] (fun _ => rfl) thread awaits)
  · intro short buf more _ thread awaits
    obtain ⟨filler, shape⟩ := sendSettings_short short buf
    exact @short_settings_received config thread version settings _ (filler ++ more)
      inRange.honest sameId short (by rw [shape, append_assoc]) awaits

def namedSettings (length : Nat) (sendFileChunks : Bool) : Settings where
  readTimeoutMillis := 5000
  writeTimeoutMillis := 5000
  transferId := List.replicate length 0x69
  enableChecksum := true
  sendFileChunks := sendFileChunks

theorem namedSettings_inRange {length : Nat} (allowed : length ≤ kMaxTransferIdLength)
    (sendFileChunks : Bool) : (namedSettings length sendFileChunks).InRange 32 where
  versionSmall := by decide
  flags := by decide
  readTimeout := by
    change 5000 ≤ int32Max
    decide
  writeTimeout := by
    change 5000 ≤ int32Max
    decide
  transferId := by
    change (replicate length _).length ≤ kMaxTransferIdLength
    rw [length_replicate]
    exact allowed

def namedConfig (length : Nat) : ReceiverConfig :=
  { sampleConfig with transferId := List.replicate length 0x69 }

theorem settings_delivered_iff_message_short_sample :
    (settingsMessage 32 (namedSettings 36 true)).length ≤ kMinBufLength ∧
    ∀ (buf : Memory Byte) (more : List Byte), (true = true → more = []) →
      ∀ thread, AwaitsSettings (namedConfig 36) 32 (sendSettings 32 (namedSettings 36 true) buf ++
          more) thread →
        thread.ReceivesSettings (namedConfig 36) 32 (namedSettings 36 true) := by
  have short : (settingsMessage 32 (namedSettings 36 true)).length ≤ kMinBufLength := by decide
  exact ⟨short,
    (settings_delivered_iff_message_short (namedSettings_inRange (by decide) true) rfl).mpr short⟩

/-- With an id of 300 bytes and the chunk list asked for, the last 53 bytes of the message are
never sent; without it they may still be on their way when the receiver decodes. -/
theorem long_transfer_id_not_delivered :
    (settingsMessage 32 (namedSettings 300 true)).length = 309 ∧
      ∀ chunks, ∃ thread,
        AwaitsSettings (namedConfig 300) 32 (sendSettings 32 (namedSettings 300 chunks)
          (filledWith 0) ++ []) thread ∧
        ¬ thread.ReceivesSettings (namedConfig 300) 32 (namedSettings 300 chunks) := by
  refine ⟨by decide +kernel, ?_⟩
  intro chunks
  have long : kMinBufLength < (settingsMessage 32 (namedSettings 300 chunks)).length := by
    cases chunks with
    | true | false => decide +kernel
  exact long_settings_cut (namedSettings_inRange (by decide) chunks) long (filledWith 0)

end ReceiverThread

end Wdt
