/-
A connection between the two halves of a socket. The writer's calls happen at any time,
also while a read call waits: a turn is what the writer does until a raw read ends, and
how that read ends. The link notes each raw read, and for each byte what its writer put
it for and what its reader took it for.
-/

import Wdt.EncryptedFraming

namespace Wdt

open List Framing

/-- The calls of a writing half; a write has at least one byte. -/
inductive WriterCall
  | write (first : Byte) (rest : List Byte)
  | finalizeWrites

inductive RawArrival
  /-- so many of the bytes that are there and asked for; none there is a timeout -/
  | took (count : Nat)
  | closed
  | timedOut
  | failed

structure Turn where
  calls : List WriterCall := []
  arrival : RawArrival

structure RawRead where
  part : WirePart
  asked : Nat
  got : Nat

/-- `turns` is the schedule of the read call that is going on; when it is used up, nothing
arrives any more before the timeout. -/
structure Link where
  writer : WriteSocket
  plaintext : List Byte := []
  put : Wire := []
  taken : Wire := []
  turns : List Turn := []
  rawReads : List RawRead := []

namespace Link

variable (cipher : Cipher) (link : Link)

/-- A socket whose writes are finalized is not written to. -/
def perform (call : WriterCall) : Link :=
  if link.writer.writesFinalized then link
  else
    match call with
    | .write first rest =>
      let (out, writer) := link.writer.write cipher (first :: rest)
      { link with writer, plaintext := link.plaintext ++ first :: rest, put := link.put ++ out }
    | .finalizeWrites =>
      let (out, writer) := link.writer.finalizeWrites cipher
      { link with writer, put := link.put ++ out }

def performAll (calls : List WriterCall) : Link := calls.foldl (perform cipher) link

def note (part : WirePart) (asked got : Nat) : Link :=
  { link with rawReads := link.rawReads ++ [{ part, asked, got }] }

def ahead : List Byte := (link.put.drop link.taken.length).map Prod.snd

def receive (part : WirePart) (nbyte : Nat) : RawAnswer × Link :=
  match link.turns with
  | [] => (.timedOut, link.note part nbyte 0)
  | turn :: turns =>
    let link := performAll cipher { link with turns } turn.calls
    match turn.arrival with
    | .took count =>
      let data := link.ahead.take (min count nbyte)
      if data = [] then (.timedOut, link.note part nbyte 0)
      else
        (.bytes data,
          { link.note part nbyte data.length with
            taken := link.taken ++ labelled part data })
    | .closed => (.bytes [], link.note part nbyte 0)
    | .timedOut => (.timedOut, link.note part nbyte 0)
    | .failed => (.failed, link.note part nbyte 0)

def network : Network Link where
  receive := receive cipher

/-- What is left of the schedule of a read call happens after it. -/
def settle : Link :=
  { performAll cipher link (link.turns.flatMap Turn.calls) with turns := [] }

/-- What a call makes of the data written so far and of the end of the writes. -/
def progress : List Byte × Bool → WriterCall → List Byte × Bool
  | (plaintext, true), _ => (plaintext, true)
  | (plaintext, false), .write first rest => (plaintext ++ first :: rest, false)
  | (plaintext, false), .finalizeWrites => (plaintext, true)

/-- The data written by the end of the read call that is going on, and whether the writes are
finalized by then. -/
def outlook : List Byte × Bool :=
  (link.turns.flatMap Turn.calls).foldl progress (link.plaintext, link.writer.writesFinalized)

end Link

/-! ### The writer's side of the link -/

variable {framing : Framing}

def Framing.wire (framing : Framing) (plaintext : List Byte) (finalized : Bool) : Wire :=
  if plaintext = [] then []
  else
    framing.framed plaintext ++
      if finalized then framing.finalTag (framing.after plaintext) else []

namespace Link

structure Sound (framing : Framing) (link : Link) : Prop where
  put : link.put = framing.wire link.plaintext link.writer.writesFinalized
  fresh : link.writer.writesFinalized = false → link.plaintext = [] →
    FreshWriter framing link.writer
  started : link.writer.writesFinalized = false → link.plaintext ≠ [] →
    WriterAt framing link.writer (framing.after link.plaintext)

theorem framed_append (framing : Framing) (left right : List Byte) :
    framing.framed (left ++ right) =
      framing.framed left ++ framing.stream.output (framing.after left) right := by
  unfold framed Framing.after
  rw [Transducer.output_append, append_assoc]

theorem wire_open {plaintext : List Byte} (some_data : plaintext ≠ []) :
    framing.wire plaintext false = framing.framed plaintext := by
  unfold wire
  rw [if_neg some_data]
  exact append_nil _

theorem wire_finalized {plaintext : List Byte} (some_data : plaintext ≠ []) :
    framing.wire plaintext true =
      framing.framed plaintext ++ framing.finalTag (framing.after plaintext) := by
  unfold wire
  rw [if_neg some_data]
  rfl

variable {link : Link}

theorem Sound.write (sound : link.Sound framing) (opened : link.writer.writesFinalized = false)
    (first : Byte) (rest : List Byte) :
    (link.perform framing.cipher (.write first rest)).Sound framing ∧
      (link.perform framing.cipher (.write first rest)).plaintext =
        link.plaintext ++ first :: rest ∧
      (link.perform framing.cipher (.write first rest)).writer.writesFinalized = false := by
  have longer : link.plaintext ++ first :: rest ≠ [] :=
    append_ne_nil_of_right_ne_nil _ (cons_ne_nil _ _)
  have unfolded : link.perform framing.cipher (.write first rest) =
      { link with
        writer := (link.writer.write framing.cipher (first :: rest)).2
        plaintext := link.plaintext ++ first :: rest
        put := link.put ++ (link.writer.write framing.cipher (first :: rest)).1 } := by
    unfold perform
    rw [opened]
    rfl
  rw [unfolded]
  have put := sound.put
  rw [opened] at put
  obtain ⟨bytes, started⟩ :
      link.put ++ (link.writer.write framing.cipher (first :: rest)).1 =
        framing.framed (link.plaintext ++ first :: rest) ∧
      WriterAt framing (link.writer.write framing.cipher (first :: rest)).2
        (framing.after (link.plaintext ++ first :: rest)) := by
    by_cases none_yet : link.plaintext = []
    · obtain ⟨bytes, started⟩ := write_first (sound.fresh opened none_yet) (first :: rest)
      rw [put, bytes, none_yet]
      exact ⟨rfl, started⟩
    · obtain ⟨bytes, started⟩ :=
        write_stream (sound.started opened none_yet) (first :: rest)
      rw [put, bytes, wire_open none_yet, framed_append]
      refine ⟨rfl, ?_⟩
      rw [Framing.after, Transducer.after_append]
      exact started
  refine ⟨⟨?_, fun _ impossible => absurd impossible longer, fun _ _ => started⟩, rfl,
    started.unfinished⟩
  change link.put ++ _ = framing.wire (link.plaintext ++ first :: rest) _
  rw [started.unfinished, wire_open longer, bytes]

theorem finalizeWrites_finalized (cipher : Cipher) (socket : WriteSocket) :
    (socket.finalizeWrites cipher).2 = { socket with writesFinalized := true } := by
  unfold WriteSocket.finalizeWrites
  split
  · rfl
  · split
    · rfl
    · rfl

theorem Sound.finalize (sound : link.Sound framing) (opened : link.writer.writesFinalized = false) :
    (link.perform framing.cipher .finalizeWrites).Sound framing ∧
      (link.perform framing.cipher .finalizeWrites).plaintext = link.plaintext ∧
      (link.perform framing.cipher .finalizeWrites).writer.writesFinalized = true := by
  have unfolded : link.perform framing.cipher .finalizeWrites =
      { link with
        writer := { link.writer with writesFinalized := true }
        put := link.put ++ (link.writer.finalizeWrites framing.cipher).1 } := by
    unfold perform
    rw [opened]
    dsimp only
    rw [finalizeWrites_finalized]
    rfl
  rw [unfolded]
  have put := sound.put
  rw [opened] at put
  refine ⟨⟨?_, fun impossible => absurd impossible.symm Bool.false_ne_true,
    fun impossible => absurd impossible.symm Bool.false_ne_true⟩, rfl, rfl⟩
  change link.put ++ _ = framing.wire link.plaintext true
  by_cases none_yet : link.plaintext = []
  · rw [finalizeWrites_fresh (sound.fresh opened none_yet), put, none_yet]
    rfl
  · rw [finalizeWrites_tag (sound.started opened none_yet), put, wire_open none_yet,
      wire_finalized none_yet]

theorem Sound.perform (sound : link.Sound framing) (call : WriterCall) :
    (link.perform framing.cipher call).Sound framing ∧
      ((link.perform framing.cipher call).plaintext,
          (link.perform framing.cipher call).writer.writesFinalized) =
        progress (link.plaintext, link.writer.writesFinalized) call := by
  cases opened : link.writer.writesFinalized with
  | true =>
    have unfolded : link.perform framing.cipher call = link := if_pos opened
    rw [unfolded, opened]
    exact ⟨sound, rfl⟩
  | false =>
    cases call with
    | write first rest =>
      obtain ⟨stays, longer, unfinished⟩ := sound.write opened first rest
      rw [longer, unfinished]
      exact ⟨stays, rfl⟩
    | finalizeWrites =>
      obtain ⟨stays, same, finalized⟩ := sound.finalize opened
      rw [same, finalized]
      exact ⟨stays, rfl⟩

theorem perform_keeps (cipher : Cipher) (link : Link) (call : WriterCall) :
    (link.perform cipher call).taken = link.taken ∧
      (link.perform cipher call).rawReads = link.rawReads ∧
      (link.perform cipher call).turns = link.turns := by
  unfold perform
  split
  · exact ⟨rfl, rfl, rfl⟩
  · cases call with
    | write first rest | finalizeWrites => exact ⟨rfl, rfl, rfl⟩

theorem performAll_keeps (cipher : Cipher) (link : Link) (calls : List WriterCall) :
    (link.performAll cipher calls).taken = link.taken ∧
      (link.performAll cipher calls).rawReads = link.rawReads ∧
      (link.performAll cipher calls).turns = link.turns := by
  unfold performAll
  induction calls generalizing link with
  | nil => exact ⟨rfl, rfl, rfl⟩
  | cons call calls ih =>
    obtain ⟨taken, rawReads, turns⟩ := ih (link.perform cipher call)
    obtain ⟨takenOnce, rawReadsOnce, turnsOnce⟩ := perform_keeps cipher link call
    exact ⟨taken.trans takenOnce, rawReads.trans rawReadsOnce, turns.trans turnsOnce⟩

theorem Sound.performAll (sound : link.Sound framing) (calls : List WriterCall) :
    (link.performAll framing.cipher calls).Sound framing ∧
      ((link.performAll framing.cipher calls).plaintext,
          (link.performAll framing.cipher calls).writer.writesFinalized) =
        calls.foldl progress (link.plaintext, link.writer.writesFinalized) := by
  unfold Link.performAll
  induction calls generalizing link with
  | nil => exact ⟨sound, rfl⟩
  | cons call calls ih =>
    obtain ⟨stays, once⟩ := sound.perform call
    rw [foldl_cons, foldl_cons, ← once]
    exact ih stays

theorem progress_grows (status : List Byte × Bool) (call : WriterCall) :
    status.1 <+: (progress status call).1 := by
  obtain ⟨plaintext, finalized⟩ := status
  cases finalized with
  | true => exact prefix_refl _
  | false =>
    cases call with
    | write first rest => exact prefix_append _ _
    | finalizeWrites => exact prefix_refl _

theorem progressAll_grows (status : List Byte × Bool) (calls : List WriterCall) :
    status.1 <+: (calls.foldl progress status).1 := by
  induction calls generalizing status with
  | nil => exact prefix_refl _
  | cons call calls ih => exact (progress_grows status call).trans (ih _)

theorem progressAll_finalized (plaintext : List Byte) (calls : List WriterCall) :
    calls.foldl progress (plaintext, true) = (plaintext, true) := by
  induction calls with
  | nil => rfl
  | cons call calls ih =>
    exact ih

theorem outlook_of_finalized (finalized : link.writer.writesFinalized = true) :
    link.outlook = (link.plaintext, true) := by
  unfold outlook
  rw [finalized, progressAll_finalized]

/-! ### A raw read -/

/-- What a raw read does: bytes of the wire are taken, or none. -/
structure RawStep (framing : Framing) (before after : Link) (part : WirePart) (nbyte : Nat)
    (got : List Byte) : Prop where
  sound : after.Sound framing
  grows : before.plaintext <+: after.plaintext
  stays : before.writer.writesFinalized = true → after.writer.writesFinalized = true
  outlook : after.outlook = before.outlook
  noted : after.rawReads = before.rawReads ++ [{ part, asked := nbyte, got := got.length }]
  taken : after.taken = before.taken ++ labelled part got
  within : got.length ≤ nbyte
  next : got <+: (after.put.drop before.taken.length).map Prod.snd

theorem Sound.advance (sound : link.Sound framing) {turn : Turn} {turns : List Turn}
    (schedule : link.turns = turn :: turns) {arrived : Link}
    (arrives : arrived = Link.performAll framing.cipher { link with turns } turn.calls) :
    arrived.Sound framing ∧ link.plaintext <+: arrived.plaintext ∧
      (link.writer.writesFinalized = true → arrived.writer.writesFinalized = true) ∧
      arrived.outlook = link.outlook ∧ arrived.taken = link.taken ∧
      arrived.rawReads = link.rawReads := by
  have base : ({ link with turns } : Link).Sound framing := { sound with }
  obtain ⟨stays, status⟩ := base.performAll turn.calls
  obtain ⟨taken, rawReads, kept⟩ := performAll_keeps framing.cipher { link with turns } turn.calls
  rw [← arrives] at stays status taken rawReads kept
  have grows := progressAll_grows (link.plaintext, link.writer.writesFinalized) turn.calls
  have first := congrArg Prod.fst status
  rw [← first] at grows
  refine ⟨stays, grows, ?_, ?_, taken, rawReads⟩
  · intro finalized
    rw [finalized, progressAll_finalized] at status
    exact congrArg Prod.snd status
  · unfold Link.outlook
    rw [kept, schedule, status]
    rw [flatMap_cons, foldl_append]

theorem Sound.silent {before arrived : Link} (stays : arrived.Sound framing)
    (grows : before.plaintext <+: arrived.plaintext)
    (finalized : before.writer.writesFinalized = true → arrived.writer.writesFinalized = true)
    (outlook : arrived.outlook = before.outlook) (taken : arrived.taken = before.taken)
    (rawReads : arrived.rawReads = before.rawReads) (part : WirePart) (nbyte : Nat) :
    RawStep framing before (arrived.note part nbyte 0) part nbyte [] := {
  sound := { stays with }
  grows := grows
  stays := finalized
  outlook := outlook
  noted := congrArg (· ++ [_]) rawReads
  taken := taken.trans (List.append_nil _).symm
  within := Nat.zero_le _
  next := List.nil_prefix }

theorem Sound.receive (sound : link.Sound framing) (part : WirePart) (nbyte : Nat) :
    ∃ got, RawStep framing link (link.receive framing.cipher part nbyte).2 part nbyte got ∧
      if got = [] then
        (link.receive framing.cipher part nbyte).1 = .bytes [] ∨
          (link.receive framing.cipher part nbyte).1 = .timedOut ∨
          (link.receive framing.cipher part nbyte).1 = .failed
      else (link.receive framing.cipher part nbyte).1 = .bytes got := by
  unfold Link.receive
  cases schedule : link.turns with
  | nil =>
    exact ⟨[], sound.silent (prefix_refl _) id rfl rfl rfl part nbyte, .inr (.inl rfl)⟩
  | cons turn turns =>
    dsimp only
    generalize arrives : Link.performAll framing.cipher { link with turns } turn.calls = arrived
    obtain ⟨stays, grows, finalized, outlook, taken, rawReads⟩ :=
      sound.advance schedule arrives.symm
    have silent := stays.silent grows finalized outlook taken rawReads part nbyte
    cases turn.arrival with
    | closed => exact ⟨[], silent, .inl rfl⟩
    | timedOut => exact ⟨[], silent, .inr (.inl rfl)⟩
    | failed => exact ⟨[], silent, .inr (.inr rfl)⟩
    | took count =>
      dsimp only
      by_cases none_there : arrived.ahead.take (min count nbyte) = []
      · rw [if_pos none_there]
        exact ⟨[], silent, .inr (.inl rfl)⟩
      rw [if_neg none_there]
      refine ⟨arrived.ahead.take (min count nbyte), ?_, ?_⟩
      · exact {
          sound := { stays with }
          grows := grows
          stays := finalized
          outlook := outlook
          noted := congrArg (· ++ [_]) rawReads
          taken := congrArg (· ++ _) taken
          within := by
            rw [length_take]
            omega
          next := by
            rw [← taken]
            exact take_prefix _ _ }
      · rw [if_neg none_there]

end Link

end Wdt
