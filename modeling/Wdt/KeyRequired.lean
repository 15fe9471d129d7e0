/-
What a receiver with a key gets from an arbitrary peer. The socket of a receiver accepts
peers that do not encrypt: a connection whose first byte is not ENCRYPTION_CMD turns the
encryption off, for this connection and all later ones. As long as no connection begins
like that, every byte that the socket gives out was decrypted with the key, and so was
every command byte of a thread whose window stays with the stream.
-/

import Wdt.WdtSocket
import Wdt.PeerSafety

namespace Wdt

open Transition List Option ReadSocket

abbrev Trace := List (WirePart × List Byte)

variable {ω : Type}

def recordAnswer (trace : Trace) (part : WirePart) (nbyte : Nat) :
    RawAnswer × ω → RawAnswer × (ω × Trace)
  | (.bytes data, next) =>
    (.bytes data,
      (next, if data.take nbyte = [] then trace else trace ++ [(part, data.take nbyte)]))
  | (answer, next) => (answer, (next, trace))

def Network.traced (network : Network ω) : Network (ω × Trace) where
  receive world part nbyte := recordAnswer world.2 part nbyte (network.receive world.1 part nbyte)

/-- What a stream says when it is decrypted: the context, once an IV has come, and the data. -/
structure Decryption where
  context : Option CipherContext := none
  plaintext : List Byte := []

namespace Decryption

def startWith (decryption : Decryption) (iv : List Byte) : Decryption :=
  if size : iv.length = kAESBlockSize then { decryption with context := some { iv := ⟨iv, size⟩ } }
  else decryption

variable (cipher : Cipher) (params : EncryptionParams) (spare : Byte)

def next (decryption : Decryption) : WirePart × List Byte → Decryption
  | (.settings, bytes) =>
    if bytes.length = kEncryptionCmdLen - 1 then
      match (decodeEncryptionSettings (bytes ++ [spare])).1 with
      | some (_, iv, _) => decryption.startWith iv
      | none => decryption
    else decryption
  | (.iv, bytes) => decryption.startWith bytes
  | (.data, bytes) =>
    match decryption.context with
    | some context =>
      { context := some ((cipher.decrypt params).after context bytes)
        plaintext := decryption.plaintext ++ (cipher.decrypt params).output context bytes }
    | none => decryption
  | (.tag, _) => decryption
  | (.plain, _) => decryption

end Decryption

def decrypted (cipher : Cipher) (params : EncryptionParams) (spare : Byte) (trace : Trace) :
    Decryption :=
  trace.foldl (Decryption.next cipher params spare) {}

/-- The first byte of the connection is ENCRYPTION_CMD, if one has come. -/
def BeginsEncrypted : Trace → Prop
  | (_, first :: _) :: _ => first = encryptionCmd
  | _ => True

instance : (trace : Trace) → Decidable (BeginsEncrypted trace)
  | (_, first :: _) :: _ => inferInstanceAs (Decidable (first = encryptionCmd))
  | [] => inferInstanceAs (Decidable True)
  | (_, []) :: _ => inferInstanceAs (Decidable True)

/-- What was read from a connection, and what the socket gave to its caller. -/
structure ServedConnection where
  trace : Trace
  spare : Byte
  returned : List Byte

/-- A receiving socket over all its connections: the one that is open, what its reads gave,
and the earlier ones. -/
structure ServerSession (ω : Type) where
  socket : ReadSocket (ω × Trace)
  returned : List Byte := []
  past : List ServedConnection := []

inductive ServerEvent (ω : Type)
  | read (nbyte : Nat)
  | finalizeReads
  /-- the connection is closed and the next one accepted -/
  | accept (world : ω) (spare : Byte)

namespace ServerSession

variable (network : Network ω) (cipher : Cipher) (params : EncryptionParams)

/-- `ServerSocket` turns the support of unencrypted peers on. -/
def start (ivChangeInterval : Nat) (spare : Byte) (iv : AesBlock) (world : ω) :
    ServerSession ω where
  socket := {
    encryptionParams := some params
    ivChangeInterval
    supportUnencryptedPeer := true
    spare
    decryptor := { iv }
    world := (world, []) }

variable (session : ServerSession ω)

def connections : List ServedConnection :=
  session.past ++ [{
    trace := session.socket.world.2
    spare := session.socket.spare
    returned := session.returned }]

def next : ServerEvent ω → Option (ServerSession ω)
  | .read nbyte =>
    if nbyte = 0 ∨ session.socket.readsFinalized then none
    else
      let (ret, socket) := session.socket.read network.traced cipher nbyte
      some { session with socket, returned := session.returned ++ ret.bytes }
  | .finalizeReads =>
    some { session with socket := (session.socket.finalizeReads network.traced cipher).2 }
  | .accept world spare =>
    some {
      socket := { session.socket.closeConnection with world := (world, []), spare }
      past := session.connections }

def Step (event : ServerEvent ω) (after : ServerSession ω) : Prop :=
  session.next network cipher event = some after

end ServerSession

/-! ### Reads that decrypt -/

variable {network : Network ω} {cipher : Cipher} {params : EncryptionParams}
  {socket : ReadSocket (ω × Trace)} {given : List Byte}

def Retryable (code : ErrorCode) : Prop := code = .ok ∨ code = .wdtTimeout

def grown (trace : Trace) (part : WirePart) (got : List Byte) : Trace :=
  if got = [] then trace else trace ++ [(part, got)]

theorem readInternal_traced (part : WirePart) (nbyte : Nat) (socket : ReadSocket (ω × Trace)) :
    ∃ got world code, (readInternal network.traced part nbyte socket).1.bytes = got ∧
      (readInternal network.traced part nbyte socket).2 =
        { socket with
          world := (world, grown socket.world.2 part got)
          readErrorCode := code } ∧
      got.length ≤ nbyte ∧ (got = [] → code = .wdtTimeout ∨ code = .socketReadError) ∧
      (got ≠ [] → code = .ok) := by
  unfold readInternal
  by_cases nothing : nbyte = 0
  · rw [if_pos nothing]
    exact ⟨[], socket.world.1, .socketReadError, rfl, rfl, by simp⟩
  have traced : network.traced.receive socket.world part nbyte =
      recordAnswer socket.world.2 part nbyte (network.receive socket.world.1 part nbyte) := rfl
  rw [if_neg nothing, traced]
  obtain ⟨answer, world⟩ := network.receive socket.world.1 part nbyte
  cases answer with
  | timedOut => exact ⟨[], world, .wdtTimeout, rfl, rfl, by simp⟩
  | failed => exact ⟨[], world, .socketReadError, rfl, rfl, by simp⟩
  | bytes data =>
    by_cases silent : data.take nbyte = []
    · refine ⟨[], world, .socketReadError, ?_, ?_, by simp⟩ <;>
        simp only [recordAnswer, if_pos silent] <;> rfl
    · refine ⟨data.take nbyte, world, .ok, ?_, ?_, by simp [silent]⟩ <;>
        simp only [recordAnswer, grown, if_neg silent] <;> rfl

/-- The socket decrypts with the key, and stands where the decryption of its trace stands. -/
structure Tracks (cipher : Cipher) (params : EncryptionParams) (socket : ReadSocket (ω × Trace))
    (given : List Byte) : Prop where
  keyed : socket.encryptionParams = some params
  started : socket.encryptionSettingsRead = true
  position : decrypted cipher params socket.spare socket.world.2 =
    { context := some socket.decryptor, plaintext := given }
  encrypted : ∀ item ∈ socket.world.2, item.1 ≠ .plain

theorem decrypted_snoc (cipher : Cipher) (params : EncryptionParams) (spare : Byte)
    (trace : Trace) (item : WirePart × List Byte) :
    decrypted cipher params spare (trace ++ [item]) =
      (decrypted cipher params spare trace).next cipher params spare item := by
  unfold decrypted
  rw [foldl_append]
  rfl

theorem encrypted_grown {trace : Trace} (encrypted : ∀ item ∈ trace, item.1 ≠ .plain)
    (part : WirePart) (notPlain : part ≠ .plain) (got : List Byte) :
    ∀ item ∈ grown trace part got, item.1 ≠ .plain := by
  unfold grown
  split
  · exact encrypted
  · simp only [forall_mem_append, forall_mem_singleton]
    exact ⟨encrypted, notPlain⟩

section

variable (tracks : Tracks cipher params socket given)

include tracks

theorem Tracks.reads (part : WirePart) (notPlain : part ≠ .plain) (got : List Byte)
    {further : List Byte} {decryptor : CipherContext} (world : ω) (code : ErrorCode)
    (silent : got = [] → decryptor = socket.decryptor ∧ further = given)
    (spoke : got ≠ [] → Decryption.next cipher params socket.spare
        { context := some socket.decryptor, plaintext := given } (part, got) =
      { context := some decryptor, plaintext := further }) :
    Tracks cipher params
      { socket with
        world := (world, grown socket.world.2 part got)
        readErrorCode := code
        decryptor } further where
  __ := tracks
  position := by
    unfold grown
    split
    · rename_i nothing
      rw [(silent nothing).1, (silent nothing).2]
      exact tracks.position
    · rename_i some_bytes
      rw [decrypted_snoc, tracks.position]
      exact spoke some_bytes
  encrypted := encrypted_grown tracks.encrypted part notPlain got

theorem Tracks.withCode (code : ErrorCode) : Tracks cipher params (socket.failWith code) given :=
  { tracks with }

theorem Tracks.counted (total : Nat) :
    Tracks cipher params { socket with totalRead := total } given :=
  { tracks with }

theorem readAndDecrypt_tracks (nbyte : Nat) :
    Tracks cipher params (socket.readAndDecrypt network.traced cipher params nbyte).2
      (given ++ (socket.readAndDecrypt network.traced cipher params nbyte).1.bytes) := by
  obtain ⟨got, world, code, returned, moved, _⟩ := @readInternal_traced _ network .data nbyte socket
  generalize called : readInternal network.traced .data nbyte socket = result
    at returned moved
  obtain ⟨ret, after⟩ := result
  dsimp only at returned moved
  unfold readAndDecrypt
  rw [called]
  dsimp only
  rw [returned, moved]
  by_cases silent : got = []
  · rw [if_pos silent]
    rw [returned, silent, append_nil]
    exact tracks.reads .data nofun [] world code (fun _ => ⟨rfl, rfl⟩)
      (fun spoke => absurd rfl spoke)
  · rw [if_neg silent]
    exact tracks.reads .data nofun got world code (fun nothing => absurd nothing silent)
      (fun _ => rfl)

end

section

variable (tracks : Tracks cipher params socket given)

include tracks

theorem readAndCount_tracks (nbyte : Nat) :
    Tracks cipher params (socket.readAndCount network.traced cipher params nbyte).2
      (given ++ (socket.readAndCount network.traced cipher params nbyte).1.bytes) :=
  (readAndDecrypt_tracks tracks nbyte).counted _

theorem readEncryptionTag_tracks :
    Tracks cipher params (socket.readEncryptionTag network.traced params).2 given ∧
      ((socket.readEncryptionTag network.traced params).1 = none →
        (socket.readEncryptionTag network.traced params).2.readErrorCode = .encryptionError) := by
  obtain ⟨got, world, code, returned, moved, _⟩ :=
    @readInternal_traced _ network .tag (encryptionTypeToTagLen params.type) socket
  have tracksAfter := tracks.reads .tag nofun got world code (fun _ => ⟨rfl, rfl⟩) (fun _ => rfl)
  unfold readEncryptionTag
  dsimp only
  rw [moved]
  split
  · exact ⟨tracksAfter.withCode _, fun _ => rfl⟩
  · exact ⟨tracksAfter, nofun⟩

theorem checkAndChangeDecryptionIv_tracks
    {tag : List Byte} (verified : cipher.finish params socket.decryptor tag = true) :
    Tracks cipher params
      (socket.checkAndChangeDecryptionIv network.traced cipher params tag).2 given := by
  unfold checkAndChangeDecryptionIv
  split
  · obtain ⟨got, world, code, returned, moved, _⟩ :=
      @readInternal_traced _ network .iv kAESBlockSize socket
    generalize called : readInternal network.traced .iv kAESBlockSize socket = result
      at returned moved
    obtain ⟨ret, after⟩ := result
    dsimp only at returned moved
    subst moved
    dsimp only
    subst returned
    by_cases whole : ret.bytes.length = kAESBlockSize
    · rw [dif_pos whole, if_pos verified]
      refine tracks.reads .iv nofun _ world code (fun nothing => ?_) (fun _ => dif_pos whole)
      rw [nothing] at whole
      exact absurd whole (by decide)
    · rw [dif_neg whole]
      exact tracks.reads .iv nofun _ world code (fun _ => ⟨rfl, rfl⟩) (fun _ => dif_neg whole)
  · exact tracks

theorem readTagAndIv_tracks :
    Tracks cipher params (socket.readTagAndIv network.traced cipher params).2 given ∧
      ((socket.readTagAndIv network.traced cipher params).1 = false →
        (socket.readTagAndIv network.traced cipher params).2.readErrorCode =
          .encryptionError) := by
  obtain ⟨tracksTag, failedTag⟩ := @readEncryptionTag_tracks _ network _ _ _ _ tracks
  unfold readTagAndIv
  generalize readEncryptionTag network.traced params socket = result
    at tracksTag failedTag
  obtain ⟨tag, atTag⟩ := result
  cases tag with
  | none => exact ⟨tracksTag, fun _ => failedTag rfl⟩
  | some tag =>
    dsimp only at tracksTag ⊢
    by_cases verified : cipher.verifyTag params atTag.decryptor tag = true
    · rw [if_pos verified]
      have tracksIv := @checkAndChangeDecryptionIv_tracks _ network _ _ _ _ tracksTag _ verified
      generalize checkAndChangeDecryptionIv network.traced cipher params tag atTag =
        result at tracksIv
      obtain ⟨changed, atData⟩ := result
      cases changed with
      | true => exact ⟨tracksIv, nofun⟩
      | false => exact ⟨tracksIv.withCode _, fun _ => rfl⟩
    · rw [if_neg verified]
      exact ⟨tracksTag.withCode _, fun _ => rfl⟩

end

/-- A call gives a part of what was decrypted; a part is lost only with an error after which
nothing is read. -/
def Gives (cipher : Cipher) (params : EncryptionParams) (given : List Byte) (ret : ReadReturn)
    (after : ReadSocket (ω × Trace)) : Prop :=
  ∃ kept, Tracks cipher params after (given ++ kept) ∧ ret.bytes <+: kept ∧
    (Retryable after.readErrorCode → ret.bytes = kept)

variable {ret : ReadReturn} {after : ReadSocket (ω × Trace)}

theorem Gives.all (tracks : Tracks cipher params after (given ++ ret.bytes)) :
    Gives cipher params given ret after :=
  ⟨ret.bytes, tracks, List.prefix_refl _, fun _ => rfl⟩

/-- A chunk gives all that was decrypted, or it is lost with an error after which nothing is
read. -/
def GivesChunk (cipher : Cipher) (params : EncryptionParams) (given : List Byte)
    (ret : ReadReturn) (after : ReadSocket (ω × Trace)) : Prop :=
  Tracks cipher params after (given ++ ret.bytes) ∨
    (ret.bytes = [] ∧ ¬ Retryable after.readErrorCode ∧
      ∃ kept, Tracks cipher params after (given ++ kept))

variable {numRead : List Byte}

theorem readRest_tracks (tracks : Tracks cipher params socket (given ++ numRead)) (nbyte : Nat) :
    Tracks cipher params (socket.readRest network.traced cipher params nbyte numRead).2
      (given ++ (socket.readRest network.traced cipher params nbyte numRead).1.bytes) := by
  have counted := @readAndCount_tracks _ network _ _ _ _ tracks (nbyte - numRead.length)
  unfold readRest
  generalize readAndCount network.traced cipher params (nbyte - numRead.length)
    socket = result at counted
  obtain ⟨ret, after⟩ := result
  dsimp only at counted ⊢
  rw [append_assoc] at counted
  by_cases silent : ret.bytes = []
  · rw [if_pos silent]
    rw [silent, append_nil] at counted
    rw [ReadReturn.bytes_orElse silent]
    exact counted
  · rw [if_neg silent]
    exact counted

theorem readAcrossTag_tracks (tracks : Tracks cipher params socket (given ++ numRead))
    (nbyte : Nat) :
    GivesChunk cipher params given
      (socket.readAcrossTag network.traced cipher params nbyte numRead).1
      (socket.readAcrossTag network.traced cipher params nbyte numRead).2 := by
  obtain ⟨tracksTag, failedTag⟩ := @readTagAndIv_tracks _ network _ _ _ _ tracks
  unfold readAcrossTag
  generalize readTagAndIv network.traced cipher params socket = result
    at tracksTag failedTag
  obtain ⟨passed, atData⟩ := result
  cases passed with
  | true => exact .inl (readRest_tracks tracksTag nbyte)
  | false =>
    have code : atData.readErrorCode = .encryptionError := failedTag rfl
    refine .inr ⟨rfl, ?_, numRead, tracksTag⟩
    rintro (isOk | isTimeout)
    · exact absurd (code.symm.trans isOk) nofun
    · exact absurd (code.symm.trans isTimeout) nofun

theorem readAndDecryptWithTag_tracks (tracks : Tracks cipher params socket given) (nbyte : Nat) :
    GivesChunk cipher params given
      (socket.readAndDecryptWithTag network.traced cipher params nbyte).1
      (socket.readAndDecryptWithTag network.traced cipher params nbyte).2 := by
  have atStart : Tracks cipher params socket (given ++ []) := by
    rw [append_nil]
    exact tracks
  unfold readAndDecryptWithTag
  dsimp only
  split
  · split
    · have counted := @readAndCount_tracks _ network _ _ _ _ tracks
        (computeNextTagOffset socket.totalRead socket.readTagInterval)
      split
      · exact .inl counted
      · exact readAcrossTag_tracks counted nbyte
    · exact readAcrossTag_tracks atStart nbyte
  · exact .inl (readRest_tracks atStart nbyte)

theorem GivesChunk.ends (chunk : GivesChunk cipher params (given ++ numRead) ret after) :
    Gives cipher params given (some (numRead ++ ret.bytes)) after := by
  rcases chunk with tracks | ⟨nothing, stopped, kept, tracks⟩
  · rw [append_assoc] at tracks
    exact Gives.all tracks
  rw [append_assoc] at tracks
  refine ⟨numRead ++ kept, tracks, ?_, fun retryable => absurd retryable stopped⟩
  rw [nothing]
  exact (prefix_append_right_inj _).mpr nil_prefix

variable {nbyte : Nat}

theorem readChunks_tracks {rounds : Nat} (tracks : Tracks cipher params socket (given ++ numRead)) :
    Gives cipher params given
      (socket.readChunks network.traced cipher params rounds nbyte numRead).1
      (socket.readChunks network.traced cipher params rounds nbyte numRead).2 := by
  induction rounds generalizing socket numRead with
  | zero => exact Gives.all tracks
  | succ rounds ih =>
    unfold readChunks
    split
    · dsimp only
      have chunk := @readAndDecryptWithTag_tracks _ network _ _ _ _ tracks
        (min (nbyte - numRead.length) socket.readTagInterval)
      generalize readAndDecryptWithTag network.traced cipher params
        (min (nbyte - numRead.length) socket.readTagInterval) socket = result at chunk
      obtain ⟨ret, after⟩ := result
      have ended := chunk.ends
      by_cases silent : ret.bytes = []
      · rw [if_pos silent]
        unfold Gives at ended ⊢
        rw [ReadReturn.bytes_orElse silent]
        rw [silent, append_nil] at ended
        exact ended
      rw [if_neg silent]
      split
      · exact ended
      rcases chunk with tracksChunk | ⟨nothing, _⟩
      · rw [append_assoc] at tracksChunk
        exact ih tracksChunk
      · exact absurd nothing silent
    · exact Gives.all tracks

theorem readEncrypted_tracks (tracks : Tracks cipher params socket given) (nbyte : Nat) :
    Gives cipher params given (socket.readEncrypted network.traced cipher params nbyte).1
      (socket.readEncrypted network.traced cipher params nbyte).2 := by
  unfold readEncrypted
  split
  · exact Gives.all (readAndDecrypt_tracks tracks nbyte)
  · apply readChunks_tracks
    rw [append_nil]
    exact tracks

/-! ### The settings -/

/-- Before the settings, and after settings that were not accepted. -/
structure NotStarted (params : EncryptionParams) (socket : ReadSocket (ω × Trace)) : Prop where
  keyed : socket.encryptionParams = some params
  notRead : socket.encryptionSettingsRead = false
  fresh : socket.readsFinalized = false → Retryable socket.readErrorCode → socket.world.2 = []
  encrypted : ∀ item ∈ socket.world.2, item.1 ≠ .plain

theorem not_retryable {code : ErrorCode} (notOk : code ≠ .ok) (notTimeout : code ≠ .wdtTimeout) :
    ¬ Retryable code :=
  fun retryable => retryable.elim notOk notTimeout

theorem acceptEncryptionSettings_cases (settings : Nat × List Byte × Nat)
    (socket : ReadSocket (ω × Trace)) :
    (∃ (size : settings.2.1.length = kAESBlockSize) (interval : Nat),
        acceptEncryptionSettings params settings socket =
          { socket with
            readTagInterval := interval
            decryptor := { iv := ⟨settings.2.1, size⟩ }
            encryptionSettingsRead := true }) ∨
      ∃ (interval : Nat) (code : ErrorCode), (code = .protocolError ∨ code = .encryptionError) ∧
          acceptEncryptionSettings params settings socket =
            { socket with readTagInterval := interval, readErrorCode := code } := by
  obtain ⟨type, iv, interval⟩ := settings
  unfold acceptEncryptionSettings
  dsimp only
  by_cases mismatch : type % 2 ^ 32 ≠ params.type.toNat
  · rw [if_pos mismatch]
    exact .inr ⟨interval, .protocolError, .inl rfl, rfl⟩
  rw [if_neg mismatch]
  by_cases untagged : 0 < interval ∧ encryptionTypeToTagLen params.type = 0
  · rw [if_pos untagged]
    exact .inr ⟨interval, .protocolError, .inl rfl, rfl⟩
  rw [if_neg untagged]
  by_cases size : iv.length = kAESBlockSize
  · rw [dif_pos size]
    exact .inl ⟨size, interval, rfl⟩
  · rw [dif_neg size]
    exact .inr ⟨interval, .encryptionError, .inr rfl, rfl⟩

/-- How the settings end: started, not started, or with a first byte that is not the
command. -/
inductive SettingsOutcome (cipher : Cipher) (params : EncryptionParams) (cmd : Byte)
    (after : ReadSocket (ω × Trace)) : Prop
  | started (tracks : Tracks cipher params after []) (clean : after.readErrorCode = .ok)
  | notStarted (notStarted : NotStarted params after) (failed : after.readErrorCode ≠ .ok)
      (expected : after.readErrorCode ≠ .unexpectedCmdError)
  | unexpected (notStarted : NotStarted params after) (other : cmd ≠ encryptionCmd)
      (trace : after.world.2 = [(.settings, [cmd])])
      (code : after.readErrorCode = .unexpectedCmdError)

theorem readSettingsFields_tracked (keyed : socket.encryptionParams = some params)
    (notRead : socket.encryptionSettingsRead = false) {cmd : Byte}
    (trace : socket.world.2 = [(.settings, [cmd])]) :
    SettingsOutcome cipher params cmd
      (readSettingsFields network.traced params socket) := by
  obtain ⟨fields, world, code, returned, moved, _, _, okCode⟩ :=
    @readInternal_traced _ network .settings (kEncryptionCmdLen - 1) socket
  have noPlain : ∀ item ∈ grown socket.world.2 .settings fields, item.1 ≠ .plain :=
    encrypted_grown (by simp [trace]) .settings nofun fields
  have refused : ∀ (interval : Nat) (code : ErrorCode), code ≠ .ok → code ≠ .wdtTimeout →
      code ≠ .unexpectedCmdError → SettingsOutcome cipher params cmd
        { socket with
          world := (world, grown socket.world.2 .settings fields)
          readErrorCode := code
          readTagInterval := interval } := by
    intro interval code notOk notTimeout expected
    refine .notStarted ⟨keyed, notRead, fun _ retryable => ?_, noPlain⟩ notOk expected
    exact absurd retryable (not_retryable notOk notTimeout)
  unfold readSettingsFields
  dsimp only
  rw [returned, moved]
  by_cases whole : fields.length = kEncryptionCmdLen - 1
  · have some_fields : fields ≠ [] := by
      intro nothing
      rw [nothing] at whole
      exact absurd whole (by decide)
    rw [if_neg (fun differs => differs whole)]
    cases decodes : (decodeEncryptionSettings (fields ++ [socket.spare])).1 with
    | none => exact refused _ .protocolError nofun nofun nofun
    | some settings =>
      dsimp only
      rcases acceptEncryptionSettings_cases settings _ with
        ⟨size, interval, accepted⟩ | ⟨interval, code, failure, declined⟩
      · rw [accepted]
        refine .started ⟨keyed, rfl, ?_, noPlain⟩ (okCode some_fields)
        rw [grown, if_neg some_fields, trace, decrypted_snoc]
        unfold Decryption.next
        dsimp only
        rw [if_pos whole, decodes]
        exact dif_pos size
      · rw [declined]
        rcases failure with rfl | rfl <;> exact refused _ _ nofun nofun nofun
  · rw [if_pos whole]
    exact refused _ .socketReadError nofun nofun nofun

theorem readEncryptionSettingsOnce_tracked (notStarted : NotStarted params socket)
    (unfinished : socket.readsFinalized = false) (retryable : Retryable socket.readErrorCode) :
    SettingsOutcome cipher params (socket.readEncryptionSettingsOnce network.traced).1
      (socket.readEncryptionSettingsOnce network.traced).2 := by
  have noTrace := notStarted.fresh unfinished retryable
  obtain ⟨first, world, code, returned, moved, short, failCode, _⟩ :=
    @readInternal_traced _ network .settings 1 socket
  rw [noTrace] at moved
  unfold readEncryptionSettingsOnce
  rw [notStarted.keyed]
  dsimp only
  rw [if_neg (by rw [notStarted.notRead]; exact Bool.false_ne_true), returned, moved]
  cases first with
  | nil =>
    have failed : code ≠ .ok ∧ code ≠ .unexpectedCmdError := by
      rcases failCode rfl with rfl | rfl <;> exact ⟨nofun, nofun⟩
    refine .notStarted ?_ failed.1 failed.2
    exact { notStarted with
      fresh := fun _ _ => rfl
      encrypted := forall_mem_nil _ }
  | cons cmd rest =>
    have alone : rest = [] := by
      rw [length_cons] at short
      exact eq_nil_of_length_eq_zero (by omega)
    subst alone
    dsimp only
    by_cases other : cmd ≠ encryptionCmd
    · rw [if_pos other]
      refine .unexpected ?_ other rfl rfl
      exact { notStarted with
        fresh := fun _ retryable => absurd retryable (not_retryable nofun nofun)
        encrypted := encrypted_grown (by simp) .settings nofun [cmd] }
    · rw [if_neg other]
      exact @readSettingsFields_tracked _ network cipher params
        { socket with world := (world, [(.settings, [cmd])]), readErrorCode := code }
        notStarted.keyed notStarted.notRead cmd rfl

/-! ### Read calls -/

/-- The socket has its key, and gave out what the stream says when decrypted with it. -/
def Keyed (cipher : Cipher) (params : EncryptionParams) (socket : ReadSocket (ω × Trace))
    (returned : List Byte) : Prop :=
  (NotStarted params socket ∧ returned = []) ∨
    ∃ kept, Tracks cipher params socket kept ∧ returned <+: kept ∧
      (socket.readsFinalized = false → Retryable socket.readErrorCode → returned = kept)

/-- The socket has lost its key to a connection that did not begin with ENCRYPTION_CMD. -/
def Fallen (socket : ReadSocket (ω × Trace)) : Prop := socket.encryptionParams = none ∧
    ∃ first rest, first ≠ encryptionCmd ∧ socket.world.2 = (.settings, [first]) :: rest

variable {returned : List Byte}

theorem Gives.keyed (gives : Gives cipher params returned ret after) :
    Keyed cipher params after (returned ++ ret.bytes) := by
  obtain ⟨kept, tracks, front, whole⟩ := gives
  exact .inr ⟨returned ++ kept, tracks, (prefix_append_right_inj _).mpr front,
    fun _ retryable => congrArg (returned ++ ·) (whole retryable)⟩

theorem readUnencrypted_falls (fallen : Fallen socket) :
    Fallen (socket.readUnencrypted network.traced nbyte numRead).2 := by
  obtain ⟨got, world, code, _, moved, _⟩ :=
    @readInternal_traced _ network .plain (nbyte - numRead.length) socket
  obtain ⟨keyless, first, rest, other, trace⟩ := fallen
  have falls : Fallen (readInternal network.traced .plain (nbyte - numRead.length)
      socket).2 := by
    rw [moved]
    refine ⟨keyless, first, ?_⟩
    unfold grown
    split
    · exact ⟨rest, other, trace⟩
    · exact ⟨rest ++ [(.plain, got)], other, by rw [trace]; rfl⟩
  unfold readUnencrypted
  dsimp only
  split <;> exact falls

theorem read_falls (fallen : Fallen socket) :
    Fallen (socket.read network.traced cipher nbyte).2 := by
  have settled : ReadSocket.readEncryptionSettingsOnce network.traced (socket.failWith .ok) =
      (0, socket.failWith .ok) := by
    unfold ReadSocket.readEncryptionSettingsOnce
    have keyless : (socket.failWith .ok).encryptionParams = none := fallen.1
    rw [keyless]
  unfold ReadSocket.read
  split
  · exact fallen
  rw [settled]
  dsimp only
  have clean : (socket.failWith .ok).readErrorCode = .ok := rfl
  have keyless : (socket.failWith .ok).encryptionParams = none := fallen.1
  rw [clean, if_neg (fun both => nomatch both.2), if_neg (fun differs => differs rfl), keyless]
  exact readUnencrypted_falls fallen

section

variable (keyed : Keyed cipher params socket returned)

include keyed

theorem read_keyed (unfinished : socket.readsFinalized = false) :
    Keyed cipher params (socket.read network.traced cipher nbyte).2
        (returned ++ (socket.read network.traced cipher nbyte).1.bytes) ∨
      Fallen (socket.read network.traced cipher nbyte).2 := by
  by_cases retryable : Retryable socket.readErrorCode
  · have open_socket : ¬ (socket.readErrorCode ≠ .ok ∧ socket.readErrorCode ≠ .wdtTimeout) :=
      fun both => retryable.elim both.1 both.2
    unfold ReadSocket.read
    rw [if_neg open_socket]
    rcases keyed with ⟨notStarted, rfl⟩ | ⟨kept, tracks, _, whole⟩
    · have ready : NotStarted params (socket.failWith .ok) :=
        { notStarted with fresh := fun _ _ => notStarted.fresh unfinished retryable }
      have outcome := @readEncryptionSettingsOnce_tracked _ network cipher _ _ ready unfinished
        (.inl rfl)
      generalize ReadSocket.readEncryptionSettingsOnce network.traced (socket.failWith .ok) =
        result at outcome
      obtain ⟨cmd, after⟩ := result
      dsimp only at outcome ⊢
      cases outcome with
      | started tracks clean =>
        rw [clean, if_neg (fun both => nomatch both.2), if_neg (fun differs => differs rfl),
          tracks.keyed]
        exact .inl (readEncrypted_tracks tracks nbyte).keyed
      | notStarted stays failed expected =>
        rw [if_neg (fun both => expected both.2), if_pos failed]
        exact .inl (.inl ⟨stays, rfl⟩)
      | unexpected stays other trace code =>
        by_cases support : after.supportUnencryptedPeer = true
        · rw [if_pos ⟨support, code⟩]
          exact .inr (readUnencrypted_falls ⟨rfl, cmd, [], other, trace⟩)
        have failed : after.readErrorCode ≠ .ok := by
          rw [code]
          exact nofun
        rw [if_neg (fun both => support both.1), if_pos failed]
        exact .inl (.inl ⟨stays, rfl⟩)
    · rw [← whole unfinished retryable] at tracks
      have settled : ReadSocket.readEncryptionSettingsOnce network.traced (socket.failWith .ok) =
          (0, socket.failWith .ok) := by
        unfold ReadSocket.readEncryptionSettingsOnce
        rw [(tracks.withCode .ok).keyed]
        dsimp only
        rw [if_pos (tracks.withCode .ok).started]
      have clean : (socket.failWith .ok).readErrorCode = .ok := rfl
      rw [settled]
      dsimp only
      rw [clean, if_neg (fun both => nomatch both.2), if_neg (fun differs => differs rfl),
        (tracks.withCode .ok).keyed]
      exact .inl (readEncrypted_tracks (tracks.withCode .ok) nbyte).keyed
  · have refused : socket.read network.traced cipher nbyte = (none, socket) :=
      if_pos ⟨fun isOk => retryable (.inl isOk), fun isTimeout => retryable (.inr isTimeout)⟩
    rw [refused]
    left
    change Keyed cipher params socket (returned ++ [])
    rw [append_nil]
    exact keyed

theorem Keyed.hasKey : socket.encryptionParams = some params := by
  rcases keyed with ⟨notStarted, _⟩ | ⟨_, tracks, _⟩
  · exact notStarted.keyed
  · exact tracks.keyed

theorem finalizeReads_keyed :
    Keyed cipher params (socket.finalizeReads network.traced cipher).2 returned := by
  unfold finalizeReads
  rw [keyed.hasKey]
  dsimp only
  by_cases tagless : encryptionTypeToTagLen params.type = 0
  · rw [if_pos tagless]
    rcases keyed with ⟨notStarted, nothing⟩ | ⟨kept, tracks, front, _⟩
    · exact .inl ⟨{ notStarted with fresh := nofun }, nothing⟩
    · exact .inr ⟨kept, { tracks with }, front, nofun⟩
  rw [if_neg tagless]
  rcases keyed with ⟨notStarted, nothing⟩ | ⟨kept, tracks, front, _⟩
  · obtain ⟨got, world, code, _, moved, _⟩ :=
      @readInternal_traced _ network .tag (encryptionTypeToTagLen params.type) socket
    have stays : ∀ code, NotStarted params
        { socket with
          world := (world, grown socket.world.2 .tag got)
          readErrorCode := code
          readsFinalized := true } :=
      fun _ => ⟨notStarted.keyed, notStarted.notRead, nofun,
        encrypted_grown notStarted.encrypted .tag nofun got⟩
    unfold readEncryptionTag
    dsimp only
    rw [moved]
    split
    · exact .inl ⟨stays .encryptionError, nothing⟩
    · exact .inl ⟨stays code, nothing⟩
  · obtain ⟨tracksTag, _⟩ := @readEncryptionTag_tracks _ network _ _ _ _ tracks
    exact .inr ⟨kept, { tracksTag with }, front, nofun⟩

theorem Keyed.decrypted :
    returned <+: (decrypted cipher params socket.spare socket.world.2).plaintext ∧
      ∀ item ∈ socket.world.2, item.1 ≠ .plain := by
  rcases keyed with ⟨notStarted, nothing⟩ | ⟨kept, tracks, front, _⟩
  · rw [nothing]
    refine ⟨?_, notStarted.encrypted⟩
    exact List.nil_prefix
  · rw [tracks.position]
    exact ⟨front, tracks.encrypted⟩

theorem Keyed.accept (world : ω) (spare : Byte) :
    Keyed cipher params { socket.closeConnection with world := (world, []), spare } [] :=
  .inl ⟨⟨keyed.hasKey, rfl, fun _ _ => rfl, List.forall_mem_nil _⟩, rfl⟩

end

/-! ### All connections of a receiver -/

namespace ServerSession

/-- The bytes that the socket gave out on this connection are decrypted with the key, and none
was read without decryption. -/
def Decrypted (cipher : Cipher) (params : EncryptionParams) (connection : ServedConnection) :
    Prop :=
  connection.returned <+: (decrypted cipher params connection.spare connection.trace).plaintext ∧
    ∀ item ∈ connection.trace, item.1 ≠ .plain

variable {session after : ServerSession ω}

/-- The invariant: all is decrypted, or some connection has begun with another byte. -/
def Guarded (cipher : Cipher) (params : EncryptionParams) (session : ServerSession ω) : Prop :=
  (Keyed cipher params session.socket session.returned ∧
      ∀ connection ∈ session.past, Decrypted cipher params connection) ∨
    Fallen session.socket ∨
    ∃ connection ∈ session.past, ¬ BeginsEncrypted connection.trace

theorem fallen_begins (fallen : Fallen socket) : ¬ BeginsEncrypted socket.world.2 := by
  obtain ⟨_, first, rest, other, trace⟩ := fallen
  rw [trace]
  exact other

theorem guarded_step {event : ServerEvent ω} (guarded : Guarded cipher params session)
    (moves : Step network cipher session event after) : Guarded cipher params after := by
  cases event with
  | read nbyte =>
    unfold Step next at moves
    dsimp only at moves
    split at moves
    · cases moves
    rename_i guard
    have unfinished : session.socket.readsFinalized = false :=
      Bool.eq_false_iff.mpr (fun finished => guard (.inr finished))
    obtain rfl := some.inj moves
    rcases guarded with ⟨keyed, past⟩ | fallen | bad
    · rcases read_keyed keyed unfinished with stays | falls
      · exact .inl ⟨stays, past⟩
      · exact .inr (.inl falls)
    · exact .inr (.inl (read_falls fallen))
    · exact .inr (.inr bad)
  | finalizeReads =>
    obtain rfl := some.inj moves
    rcases guarded with ⟨keyed, past⟩ | fallen | bad
    · exact .inl ⟨finalizeReads_keyed keyed, past⟩
    · refine .inr (.inl ?_)
      unfold ReadSocket.finalizeReads
      rw [fallen.1]
      exact ⟨rfl, fallen.2⟩
    · exact .inr (.inr bad)
  | accept world spare =>
    obtain rfl := some.inj moves
    rcases guarded with ⟨keyed, past⟩ | fallen | ⟨connection, among, other⟩
    · refine .inl ⟨keyed.accept world spare, ?_⟩
      intro connection among
      rcases mem_append.mp among with earlier | last
      · exact past connection earlier
      · rw [mem_singleton.mp last]
        exact keyed.decrypted
    · exact .inr (.inr ⟨_, mem_append_right _ (mem_singleton_self _),
        fallen_begins fallen⟩)
    · exact .inr (.inr ⟨connection, mem_append_left _ among, other⟩)

theorem connections_decrypted {ivChangeInterval : Nat} {spare : Byte} {iv : AesBlock} {world : ω}
    (path : Path (Step network cipher) (fun _ _ => True)
      (start params ivChangeInterval spare iv world) session)
    (encrypted : ∀ connection ∈ session.connections, BeginsEncrypted connection.trace) :
    ∀ connection ∈ session.connections, Decrypted cipher params connection := by
  have guarded : Guarded cipher params session := path.invariant (Guarded cipher params)
    (.inl ⟨.inl ⟨⟨rfl, rfl, fun _ _ => rfl, forall_mem_nil _⟩, rfl⟩, forall_mem_nil _⟩)
    (fun _ _ _ guarded _ moves => guarded_step guarded moves)
  rcases guarded with ⟨keyed, past⟩ | fallen | ⟨connection, among, other⟩
  · intro connection among
    rcases mem_append.mp among with earlier | last
    · exact past connection earlier
    · rw [mem_singleton.mp last]
      exact keyed.decrypted
  · exact absurd (encrypted _ (mem_append_right _ (mem_singleton_self _)))
      (fallen_begins fallen)
  · exact absurd (encrypted connection (mem_append_left _ among)) other

end ServerSession

/-! ### A receiver thread that reads through the socket -/

structure ServedReceiver (ω : Type) where
  session : ServerSession ω
  receiver : ReceiverAnswer

namespace ServedReceiver

def next (config : ReceiverConfig) (network : Network ω) (cipher : Cipher)
    (served : ServedReceiver ω) (round : ReceiverAnswers × List (ServerEvent ω)) :
    Option (ServedReceiver ω) :=
  match ReceiverThread.step config round.1 served.receiver,
      runsUnder (ServerSession.next network cipher) (fun _ _ => true) served.session round.2 with
  | .ok receiver, some session =>
    -- what the socket gives out on a connection is what its reader gets into the buffer
    if receiver.1.connection.delivered = session.returned then some { session, receiver }
    else none
  | _, _ => none

def Step (config : ReceiverConfig) (network : Network ω) (cipher : Cipher)
    (served : ServedReceiver ω) (round : ReceiverAnswers × List (ServerEvent ω))
    (after : ServedReceiver ω) : Prop :=
  served.next config network cipher round = some after

def plaintext (cipher : Cipher) (params : EncryptionParams) (served : ServedReceiver ω) :
    List Byte :=
  (decrypted cipher params served.session.socket.spare served.session.socket.world.2).plaintext

variable {config : ReceiverConfig} {served after : ServedReceiver ω}
  {round : ReceiverAnswers × List (ServerEvent ω)}

theorem step_parts (moves : Step config network cipher served round after) :
    ReceiverThread.step config round.1 served.receiver = .ok after.receiver ∧
      runsUnder (ServerSession.next network cipher) (fun _ _ => true) served.session round.2 =
        some after.session ∧
      after.receiver.1.connection.delivered = after.session.returned := by
  unfold Step next at moves
  split at moves
  · obtain ⟨same, moved⟩ := ite_none_right_eq_some.mp moves
    cases moved
    exact ⟨‹_›, ‹_›, same⟩
  · cases moves

/-- As long as all connections begin with ENCRYPTION_CMD, what the thread gets into its buffer is
decrypted with the key. In guarded rounds each command that it dispatches is the byte of the
decryption behind those that it has consumed. -/
theorem key_required {ivChangeInterval : Nat} {spare : Byte} {iv : AesBlock} {world : ω}
    {thread : ReceiverThread} (fresh : thread.connection = {})
    (path : Path (Step config network cipher) (fun _ _ => True)
      ⟨.start params ivChangeInterval spare iv world, (thread, .listen)⟩ served)
    (encrypted : ∀ connection ∈ served.session.connections, BeginsEncrypted connection.trace) :
    (∀ connection ∈ served.session.connections,
      ServerSession.Decrypted cipher params connection) ∧
    served.receiver.1.connection.delivered <+: served.plaintext cipher params ∧
    (Path (Step config network cipher)
        (fun served _ => ReceiverThread.Guarded config served.receiver)
        ⟨.start params ivChangeInterval spare iv world, (thread, .listen)⟩ served →
      ∀ command, served.receiver.2.command = some command →
        served.receiver.1.connection.consumed ++ [command] <+:
          served.plaintext cipher params) := by
  obtain ⟨sessionPath, same⟩ := path.invariant (fun served =>
      Path (ServerSession.Step network cipher) (fun _ _ => True)
        (.start params ivChangeInterval spare iv world) served.session ∧
      served.receiver.1.connection.delivered = served.session.returned)
    ⟨.refl, congrArg Connection.delivered fresh⟩
    (fun _ _ _ before _ moves => ⟨path_of_runsUnder (fun _ _ _ => id) (fun _ _ _ => trivial)
      before.1 (step_parts moves).2.1, (step_parts moves).2.2⟩)
  have all := ServerSession.connections_decrypted sessionPath encrypted
  have delivered : served.receiver.1.connection.delivered <+: served.plaintext cipher params := by
    rw [same]
    exact (all _ (mem_append_right _ (mem_singleton_self _))).1
  refine ⟨all, delivered, fun guarded command dispatches => ?_⟩
  have sound : ReceiverThread.Sound config served.receiver := guarded.invariant
    (fun served => ReceiverThread.Sound config served.receiver) (ReceiverThread.sound_listen fresh)
    (fun _ _ _ sound guarded moves => sound.step guarded (step_parts moves).1)
  obtain ⟨dispatched, read⟩ := ReceiverThread.WindowSound.dispatched sound.window dispatches
  have enough : (kMinBufLength : Int) ≤ served.receiver.1.numRead := dispatched.enough
  have least : kMinBufLength = 256 := rfl
  refine IsPrefix.trans ?_ delivered
  rw [← show _ = served.receiver.1.connection.delivered from dispatched.holds,
    show served.receiver.1.numRead.toNat = 1 + (served.receiver.1.numRead.toNat - 1) by omega,
    Memory.read_add, ← append_assoc, ← read]
  exact List.prefix_append _ _

def sampleParams : EncryptionParams := { type := .aes128Gcm, secret := zeroBlock }

abbrev Arrivals := List (List Byte)

def arrivals : Network Arrivals where
  receive sent _ nbyte :=
    match sent with
    | [] => (.bytes [], [])
    | bytes :: rest =>
      (.bytes (bytes.take nbyte),
        if (bytes.drop nbyte).isEmpty then rest else bytes.drop nbyte :: rest)

def sampleStart (sent : Arrivals) (buf : Memory Byte) : ServedReceiver Arrivals where
  session := .start sampleParams 0 0 zeroBlock sent
  receiver := ({ sampleThread with buf }, .listen)

/-- The rounds of the thread, each with the sizes of its reads. -/
def sampleRun (test : ServedReceiver Arrivals → Bool) (sent : Arrivals) (buf : Memory Byte)
    (plain : Arrivals) (rounds : List (List Nat)) : Option (ServedReceiver Arrivals) :=
  runsUnder (next sampleConfig arrivals shiftCipher) (fun served _ => test served)
    (sampleStart sent buf) (rounds.map fun reads =>
      ({ firstAccept := .connected { segments := plain.map fun bytes => { bytes } } },
        reads.map .read))

theorem path_of_sampleRun {test : ServedReceiver Arrivals → Bool}
    {allowed : ServedReceiver Arrivals → Prop}
    (meets : ∀ served, test served = true → allowed served) {sent plain : Arrivals}
    {buf : Memory Byte} {rounds : List (List Nat)} {served : ServedReceiver Arrivals}
    (ran : sampleRun test sent buf plain rounds = some served) :
    Path (Step sampleConfig arrivals shiftCipher) (fun served _ => allowed served)
      (sampleStart sent buf) served :=
  path_of_runsUnder (fun _ _ _ => id) (fun served _ => meets served) .refl ran

def plainTransfer : List Byte := sampleSettings ++ sampleFile ++ sampleDone

def encryptedBytes (plain : List Byte) : List Byte :=
  encryptionCmd :: encryptionFields .aes128Gcm zeroBlock 0 ++ plain.map (· + 1)

theorem key_required_sample : ∃ served,
    Path (Step sampleConfig arrivals shiftCipher) (fun _ _ => True)
      (sampleStart [encryptedBytes plainTransfer] (fun _ => 0)) served ∧
    served.receiver.2 = .processSettingsCmd ∧
    [settingsCmd] <+: served.plaintext shiftCipher sampleParams := by
  have computed : (sampleRun (fun served =>
      decide (ReceiverThread.Guarded sampleConfig served.receiver)) [encryptedBytes plainTransfer]
      (fun _ => 0) [plainTransfer] [[], [], [8192]]).any (fun served =>
        decide (served.receiver.2 = .processSettingsCmd ∧
          served.receiver.1.connection.consumed = [] ∧
          ∀ connection ∈ served.session.connections, BeginsEncrypted connection.trace)) = true := by
    decide +kernel
  obtain ⟨served, ran, holds⟩ := any_eq_true _ _ |>.mp computed
  obtain ⟨state, nothing, encrypted⟩ := of_decide_eq_true holds
  have path := @path_of_sampleRun _ (fun _ => True) (fun _ _ => trivial) _ _ _ _ _ ran
  have guarded := path_of_sampleRun (fun _ => of_decide_eq_true) ran
  have dispatched := (key_required rfl path encrypted).2.2 guarded settingsCmd (by rw [state]; rfl)
  rw [nothing] at dispatched
  exact ⟨served, path, state, dispatched⟩

/-- A header of more than 256 bytes. -/
def longHeader : List Byte :=
  let fields := headerFields 32
    { fileName := samplePath 251
      seqId := 1
      fileSize := 2
      dataSize := 2 }
  [fileCmd, 0] ++ leBytes 2 (4 + fields.length) ++ fields

def longStream : List Byte := longHeader ++ List.replicate 400 0

/-- A peer that encrypts nothing: the socket of a receiver with a key gives its bytes out as
they are, and the receiver thread that reads them writes the file. And a peer that encrypts a
header of which 256 bytes arrive first: the thread goes on behind them with what an earlier
transfer has left in the buffer, and dispatches a byte that nobody has sent. -/
theorem unencrypted_peer_writes :
    (∃ served, Path (Step sampleConfig arrivals shiftCipher) (fun _ _ => True)
        (sampleStart [plainTransfer] (fun _ => 0)) served ∧
      (∃ connection ∈ served.session.connections,
        ¬ ServerSession.Decrypted shiftCipher sampleParams connection) ∧
      ReceiverEvent.file (.wrote [0x61] 0 [0x78]) ∈ served.receiver.1.trace) ∧
    ∃ served, Path (Step sampleConfig arrivals shiftCipher) (fun _ _ => True)
        (sampleStart [encryptedBytes (longStream.take 256), (longStream.drop 256).map (· + 1)]
          (Memory.store (fun _ => doneCmd) 0 longHeader)) served ∧
      (∀ connection ∈ served.session.connections, BeginsEncrypted connection.trace) ∧
      served.receiver.2.command = some doneCmd ∧
      doneCmd ∉ served.plaintext shiftCipher sampleParams := by
  have written : (sampleRun (fun _ => true) [plainTransfer] (fun _ => 0) [plainTransfer]
      [[], [], [8192], [], [], []]).any (fun served =>
        decide ((∃ connection ∈ served.session.connections, ∃ item ∈ connection.trace,
            item.1 = .plain) ∧
          ReceiverEvent.file (.wrote [0x61] 0 [0x78]) ∈ served.receiver.1.trace)) = true := by
    decide +kernel
  have dispatched : (sampleRun (fun _ => true)
      [encryptedBytes (longStream.take 256), (longStream.drop 256).map (· + 1)]
      (Memory.store (fun _ => doneCmd) 0 longHeader) [longStream.take 256, longStream.drop 256]
      [[], [], [8192], [8192], []]).any (fun served =>
        decide ((∀ connection ∈ served.session.connections, BeginsEncrypted connection.trace) ∧
          served.receiver.2.command = some doneCmd ∧
          doneCmd ∉ served.plaintext shiftCipher sampleParams)) = true := by
    decide +kernel
  constructor
  · obtain ⟨served, ran, holds⟩ := any_eq_true _ _ |>.mp written
    obtain ⟨⟨connection, among, item, inTrace, isPlain⟩, wrote⟩ := of_decide_eq_true holds
    exact ⟨served, path_of_sampleRun (fun _ _ => trivial) ran,
      ⟨connection, among, fun allDecrypted => allDecrypted.2 item inTrace isPlain⟩, wrote⟩
  · obtain ⟨served, ran, holds⟩ := any_eq_true _ _ |>.mp dispatched
    exact ⟨served, path_of_sampleRun (fun _ _ => trivial) ran, of_decide_eq_true holds⟩

end ServedReceiver

end Wdt
