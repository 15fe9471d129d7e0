/-
What the parser's loop does with a file that is a sequence of framed entries: it
processes the bodies one after the other, and goes on with what lies behind them.
-/

import Wdt.LogParser

namespace Wdt

open List LogFile LogEntry

def frame (body : List Byte) : List Byte := leBytes 2 body.length ++ body

def WellFramed (body : List Byte) : Prop := 0 < body.length ∧ body.length ≤ kMaxEntryLength

instance (body : List Byte) : Decidable (WellFramed body) := by
  unfold WellFramed
  infer_instance

theorem frame_length (body : List Byte) : (frame body).length = body.length + 2 := by
  unfold frame
  rw [length_append, leBytes_length]
  omega

theorem length_le_frames (bodies : List (List Byte)) :
    bodies.length ≤ (bodies.map frame).flatten.length := by
  induction bodies with
  | nil => exact le_refl 0
  | cons body rest ih =>
    rw [map_cons, flatten_cons, length_append, length_cons, frame_length]
    omega

variable {body : List Byte}

theorem loadSigned_size (framed : WellFramed body) :
    loadSigned (leBytes 2 body.length) = body.length := by
  have bound : body.length ≤ 4129 := framed.2
  exact loadSigned_leBytes (by omega)

theorem LogEntry.wellFramed_body {entry : LogEntry}
    (fits : entry.bytes.length ≤ kMaxEntryLength) : WellFramed entry.body := by
  rw [bytes_length] at fits
  constructor
  · rw [body_length]
    omega
  · rw [body_length]
    omega

variable {file : LogFile} {rest : List Byte}

namespace LogFile

def ahead (file : LogFile) : List Byte := file.contents.drop file.position

theorem read_of_ahead {front : List Byte} (shape : file.ahead = front ++ rest) :
    file.read front.length =
      (front, { file with position := file.position + front.length }) := by
  unfold read
  change file.contents.drop file.position = front ++ rest at shape
  rw [shape, take_left]

theorem read_short {file : LogFile} {count : Nat} (short : file.ahead.length ≤ count) :
    file.read count =
      (file.ahead, { file with position := file.position + file.ahead.length }) := by
  unfold read
  change length (file.contents.drop file.position) ≤ count at short
  rw [take_of_length_le short]
  rfl

theorem ahead_advance {front : List Byte} (shape : file.ahead = front ++ rest) :
    ahead { file with position := file.position + front.length } = rest := by
  unfold ahead
  change file.contents.drop file.position = front ++ rest at shape
  rw [← drop_drop, shape, drop_left]

end LogFile

namespace LogParser

theorem readEntry_end (atEnd : file.ahead = []) : readEntry file = (.endOfFile, file) := by
  have nothing : file.read 2 = ([], file) := by
    rw [read_short (by rw [atEnd]; exact Nat.zero_le 2), atEnd]
    rfl
  unfold readEntry
  rw [nothing]
  rfl

theorem readEntry_frame (framed : WellFramed body) (shape : file.ahead = frame body ++ rest) :
    readEntry file =
      (.entry body, { file with position := file.position + (frame body).length }) := by
  have sizeAhead : file.ahead = leBytes 2 body.length ++ (body ++ rest) := by
    rw [shape, frame, append_assoc]
  have sizeRead := read_of_ahead sizeAhead
  have bodyRead := read_of_ahead (ahead_advance sizeAhead)
  rw [leBytes_length] at sizeRead bodyRead
  unfold readEntry
  rw [sizeRead]
  dsimp only
  rw [leBytes_length, if_neg (by decide), if_neg (by decide), loadSigned_size framed,
    if_neg (by have bounds := framed; unfold WellFramed at bounds; omega), Int.toNat_natCast,
    bodyRead]
  rw [if_neg (fun different => different rfl), frame_length, Nat.add_assoc, Nat.add_comm 2]

theorem readEntry_torn {tail : List Byte} (framed : WellFramed body)
    (start : tail <+: frame body) (cut : tail.length < (frame body).length)
    (nonempty : tail ≠ []) (shape : file.ahead = tail) :
    readEntry file =
      (.torn tail.length, { file with position := file.position + tail.length }) := by
  have some_bytes : 0 < tail.length := length_pos_of_ne_nil nonempty
  rw [frame_length] at cut
  unfold readEntry
  by_cases long : 2 ≤ tail.length
  · -- the size is there, the body is not
    obtain ⟨missing, whole⟩ := start
    have sizeShape : tail = leBytes 2 body.length ++ tail.drop 2 := by
      have front : tail.take 2 = leBytes 2 body.length := by
        have both := congrArg (take 2) whole
        rw [take_append_of_le_length long, frame,
          take_left' (leBytes_length 2 body.length)] at both
        exact both
      rw [← front, take_append_drop]
    have sizeAhead := shape.trans sizeShape
    have sizeRead := read_of_ahead sizeAhead
    have bodyAhead := ahead_advance sizeAhead
    have dropped : (tail.drop 2).length = tail.length - 2 := length_drop
    have bodyRead := @read_short _ body.length (by rw [bodyAhead, dropped]; omega)
    rw [bodyAhead] at bodyRead
    rw [leBytes_length] at sizeRead bodyRead
    rw [sizeRead]
    dsimp only
    rw [leBytes_length, if_neg (by decide), if_neg (by decide), loadSigned_size framed,
      if_neg (by have bounds := framed; unfold WellFramed at bounds; omega), Int.toNat_natCast,
      bodyRead]
    rw [if_pos (by rw [dropped]; omega), dropped, Nat.sub_add_cancel long, Nat.add_assoc,
      Nat.add_sub_cancel' long]
  · have single : tail.length = 1 := by omega
    have sizeRead := @read_short file 2 (by rw [shape]; omega)
    rw [shape] at sizeRead
    rw [sizeRead]
    dsimp only
    rw [single, if_neg (by decide), if_pos (by decide)]

/-- The loop without the file: the bodies are processed in order, up to the first that makes the
log invalid. -/
def replay (parser : LogParser) (disk : Directory) :
    ErrorCode → ParsedLog → List (List Byte) → Processed
  | status, parsed, [] => .ok (status, parsed)
  | status, parsed, body :: rest =>
    match parser.processEntry disk status parsed body with
    | .error check => .error check
    | .ok (status, parsed) =>
      if status = .invalidLog then .ok (status, parsed)
      else parser.replay disk status parsed rest

variable {parser : LogParser} {disk : Directory}

theorem parseEntries_frame (framed : WellFramed body)
    (shape : file.ahead = frame body ++ rest) (rounds : Nat) (status : ErrorCode)
    (parsed : ParsedLog) :
    parser.parseEntries disk (rounds + 1) status parsed file =
      match parser.processEntry disk status parsed body with
      | .error check => .error check
      | .ok (status, parsed) =>
        if status = .invalidLog then
          .ok (status, parsed, { file with position := file.position + (frame body).length })
        else parser.parseEntries disk rounds status parsed
          { file with position := file.position + (frame body).length } := by
  rewrite [parseEntries, readEntry_frame framed shape]
  rfl

theorem parseEntries_frames {bodies : List (List Byte)} {file : LogFile} {rest : List Byte}
    (framed : ∀ body ∈ bodies, WellFramed body)
    (shape : file.ahead = (bodies.map frame).flatten ++ rest) (rounds : Nat)
    {status : ErrorCode} (valid : status ≠ .invalidLog) (parsed : ParsedLog) :
    match parser.replay disk status parsed bodies with
    | .error check =>
      parser.parseEntries disk (bodies.length + rounds) status parsed file = .error check
    | .ok (after, collected) =>
      (after = .invalidLog → ∃ position,
        parser.parseEntries disk (bodies.length + rounds) status parsed file =
          .ok (after, collected, { file with position })) ∧
      (after ≠ .invalidLog →
        parser.parseEntries disk (bodies.length + rounds) status parsed file =
          parser.parseEntries disk rounds after collected
            { file with position := file.position + (bodies.map frame).flatten.length }) := by
  induction bodies generalizing file status parsed with
  | nil =>
    rw [replay, length_nil, Nat.zero_add]
    exact ⟨fun invalid => absurd invalid valid, fun _ => rfl⟩
  | cons body bodies ih =>
    have bodyAhead : file.ahead = frame body ++ ((bodies.map frame).flatten ++ rest) := by
      rw [shape, map_cons, flatten_cons, append_assoc]
    rw [length_cons, Nat.add_right_comm,
      parseEntries_frame (framed body mem_cons_self) bodyAhead, replay]
    cases parser.processEntry disk status parsed body with
    | error check => rfl
    | ok pair =>
      obtain ⟨next, collected⟩ := pair
      dsimp only
      by_cases invalid : next = .invalidLog
      · rw [if_pos invalid, if_pos invalid]
        exact ⟨fun _ => ⟨_, rfl⟩, fun different => absurd invalid different⟩
      rw [if_neg invalid, if_neg invalid]
      have later := @ih { file with position := file.position + (frame body).length }
        (forall_mem_cons.mp framed).2
        (ahead_advance bodyAhead) next invalid collected
      rw [map_cons, flatten_cons, length_append, ← Nat.add_assoc]
      exact later

def ParseStatus (status : ErrorCode) : Prop :=
  status = .ok ∨ status = .inconsistentDirectory ∨ status = .invalidLog

/-! ### Entries written at the end -/

variable (clock : Nat → Nat)

def invalidationEntries (seqIds : List Nat) : List Byte :=
  (seqIds.zipIdx.map fun (seqId, index) =>
    (fileInvalidation { timestamp := clock index, seqId }).bytes).flatten

theorem write_atEnd (contents bytes : List Byte) :
    write { contents, position := contents.length } bytes =
      { contents := contents ++ bytes, position := (contents ++ bytes).length } := by
  unfold write
  dsimp only
  rw [take_length, Nat.sub_self, replicate_zero, append_nil,
    drop_of_length_le (by omega), append_nil, length_append]

theorem foldl_write_atEnd (contents : List Byte) (words : List (List Byte)) :
    words.foldl write { contents, position := contents.length } =
      { contents := contents ++ words.flatten
        position := (contents ++ words.flatten).length } := by
  induction words generalizing contents with
  | nil =>
    rw [flatten_nil, append_nil]
    rfl
  | cons word rest ih =>
    rw [foldl_cons, write_atEnd, ih, flatten_cons, append_assoc]

theorem writeFileInvalidationEntries_atEnd (contents : List Byte) (seqIds : List Nat) :
    writeFileInvalidationEntries clock { contents, position := contents.length } seqIds =
      { contents := contents ++ invalidationEntries clock seqIds
        position := (contents ++ invalidationEntries clock seqIds).length } := by
  have encoded : ∀ entry : FileInvalidation,
      (encodeFileInvalidationEntry kMaxEntryLength entry).getD [] =
        (fileInvalidation entry).bytes := by
    intro entry
    have fits : (fileInvalidation entry).bytes.length ≤ kMaxEntryLength := by
      have timestamp := varU64_length_le entry.timestamp
      have seqId := varU64_length_le entry.seqId
      have limit : kMaxEntryLength = 4129 := rfl
      rw [bytes_length, fields, length_append]
      omega
    have written := encode_eq kMaxEntryLength (.fileInvalidation entry)
    rw [if_pos fits] at written
    change encodeFileInvalidationEntry kMaxEntryLength entry = _ at written
    rw [written, Option.getD_some]
  unfold writeFileInvalidationEntries invalidationEntries
  rw [foldl_write_atEnd]
  simp only [encoded]

theorem finishParse_status (status : ErrorCode) (parsed : ParsedLog)
    (file : LogFile) : (finishParse clock status parsed file).status = status := by
  unfold finishParse
  split <;> rfl

theorem parseLog_frames {bodies : List (List Byte)} (framed : ∀ body ∈ bodies, WellFramed body)
    (tail : List Byte) (clock : Nat → Nat) (senderIp : List Byte) :
    ∃ rounds position, parser.parseLog disk clock senderIp
        { contents := (bodies.map frame).flatten ++ tail } =
      match parser.replay disk .ok { senderIp } bodies with
      | .error check => .error check
      | .ok (after, collected) =>
        if after = .invalidLog then .ok (finishParse clock after collected
          { contents := (bodies.map frame).flatten ++ tail, position })
        else (parser.parseEntries disk (rounds + 1) after collected
          { contents := (bodies.map frame).flatten ++ tail
            position := (bodies.map frame).flatten.length }).map
            fun (status, parsed, file) => finishParse clock status parsed file := by
  obtain ⟨more, count⟩ : ∃ more, ((bodies.map frame).flatten ++ tail).length + 1 =
      bodies.length + (more + 1) := by
    have shorter := length_le_frames bodies
    rw [length_append]
    exact ⟨(bodies.map frame).flatten.length + tail.length - bodies.length, by omega⟩
  have steps := @parseEntries_frames parser disk bodies
    { contents := (bodies.map frame).flatten ++ tail } tail framed rfl (more + 1) .ok nofun
    { senderIp }
  unfold parseLog
  rw [count]
  revert steps
  cases parser.replay disk .ok { senderIp } bodies with
  | error check =>
    intro failed
    rw [failed]
    exact ⟨0, 0, rfl⟩
  | ok pair =>
    intro steps
    dsimp only at steps ⊢
    by_cases invalid : pair.1 = .invalidLog
    · obtain ⟨position, stopped⟩ := steps.1 invalid
      refine ⟨0, position, ?_⟩
      rw [stopped, if_pos invalid]
      rfl
    · refine ⟨more, 0, ?_⟩
      rw [steps.2 invalid, if_neg invalid, Nat.zero_add]

theorem ahead_frames (bodies : List (List Byte)) (tail : List Byte) :
    LogFile.ahead { contents := (bodies.map frame).flatten ++ tail
                    position := (bodies.map frame).flatten.length } = tail :=
  drop_left

end LogParser

end Wdt
