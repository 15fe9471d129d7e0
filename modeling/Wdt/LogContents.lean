/-
Logs of any contents. The parser's loop splits whatever the file holds into whole
entries and a rest; unless the log is invalid the rest is a torn tail, and the result
is the replay of the entries.
-/

import Wdt.TornTail

namespace Wdt

open List

/-! ### The entries of a file -/

def entrySize (contents : List Byte) : Int := loadSigned (contents.take 2)

def StartsWithEntry (contents : List Byte) : Prop :=
  2 ≤ contents.length ∧ 0 < entrySize contents ∧ entrySize contents ≤ kMaxEntryLength ∧
    2 + (entrySize contents).toNat ≤ contents.length

instance (contents : List Byte) : Decidable (StartsWithEntry contents) := by
  unfold StartsWithEntry
  infer_instance

def bodiesFrom : (rounds : Nat) → (contents : List Byte) → List (List Byte)
  | 0, _ => []
  | rounds + 1, contents =>
    if StartsWithEntry contents then
      (contents.drop 2).take (entrySize contents).toNat ::
        bodiesFrom rounds (contents.drop (2 + (entrySize contents).toNat))
    else []

/-- The bodies of the whole entries, up to the first that is torn or has a bad length. -/
def logBodies (contents : List Byte) : List (List Byte) := bodiesFrom contents.length contents

/-- A length that the loop does not accept. -/
def BadLength (tail : List Byte) : Prop :=
  2 ≤ tail.length ∧ (entrySize tail ≤ 0 ∨ (kMaxEntryLength : Int) < entrySize tail)

variable {contents : List Byte}

theorem StartsWithEntry.split (starts : StartsWithEntry contents) :
    WellFramed ((contents.drop 2).take (entrySize contents).toNat) ∧
      contents = frame ((contents.drop 2).take (entrySize contents).toNat) ++
        contents.drop (2 + (entrySize contents).toNat) := by
  rcases starts with ⟨sized, positive, small, whole⟩
  have length : ((contents.drop 2).take (entrySize contents).toNat).length =
      (entrySize contents).toNat := by
    rw [length_take, length_drop]
    omega
  have sizeBytes : leBytes 2 (entrySize contents).toNat = contents.take 2 := by
    have read := leBytes_loadSigned positive
    rw [length_take, Nat.min_eq_left sized] at read
    exact read
  constructor
  · constructor
    · rw [length]
      omega
    · rw [length]
      omega
  · unfold frame
    rw [length, sizeBytes, append_assoc, ← drop_drop, take_append_drop,
      take_append_drop]

theorem tornTail_or_badLength {tail : List Byte} (stops : ¬ StartsWithEntry tail) :
    TornTail tail ∨ BadLength tail := by
  have limit : kMaxEntryLength = 4129 := rfl
  by_cases short : tail.length < 2
  · left
    cases tail with
    | nil => exact .inl rfl
    | cons byte rest =>
      have single : rest = [] := eq_nil_of_length_eq_zero (by
        rw [length_cons] at short
        omega)
      -- some admissible size starts with this byte
      right
      have small := byte.toNat_lt
      have low : UInt8.ofNat (byte.toNat + 256) = byte := by
        apply UInt8.toNat_inj.mp
        rw [UInt8.toNat_ofNat']
        omega
      refine ⟨replicate (byte.toNat + 256) 0, ?_, ?_, ?_⟩
      · constructor
        · rw [length_replicate]
          omega
        · rw [length_replicate]
          omega
      · unfold frame
        rw [single, length_replicate, leBytes, low]
        exact ⟨_, rfl⟩
      · rw [frame_length, single, length_replicate, length_singleton]
        omega
  · by_cases bad : entrySize tail ≤ 0 ∨ (kMaxEntryLength : Int) < entrySize tail
    · exact .inr ⟨by omega, bad⟩
    · left
      right
      have cut : tail.length < 2 + (entrySize tail).toNat := by
        by_contra whole
        exact stops ⟨by omega, by omega, by omega, by omega⟩
      have sizeBytes : leBytes 2 (entrySize tail).toNat = tail.take 2 := by
        have read := @leBytes_loadSigned (tail.take 2) (by
          change 0 < entrySize tail
          omega)
        rw [length_take, Nat.min_eq_left (by omega)] at read
        exact read
      have padded : (tail.drop 2 ++ replicate (2 + (entrySize tail).toNat - tail.length) 0).length =
          (entrySize tail).toNat := by
        rw [length_append, length_drop, length_replicate]
        omega
      refine ⟨tail.drop 2 ++ replicate (2 + (entrySize tail).toNat - tail.length) 0, ?_, ?_, ?_⟩
      · constructor
        · rw [padded]
          omega
        · rw [padded]
          omega
      · unfold frame
        rw [padded, sizeBytes, ← append_assoc, take_append_drop]
        exact prefix_append _ _
      · rw [frame_length, padded]
        omega

theorem bodiesFrom_split {rounds : Nat} (enough : contents.length ≤ rounds) :
    (∀ body ∈ bodiesFrom rounds contents, WellFramed body) ∧
      ∃ tail, contents = ((bodiesFrom rounds contents).map frame).flatten ++ tail ∧
        (TornTail tail ∨ BadLength tail) := by
  induction rounds generalizing contents with
  | zero =>
    have nothing : contents = [] := eq_nil_of_length_eq_zero (by omega)
    constructor
    · intro body member
      cases member
    · exact ⟨[], nothing, .inl (.inl rfl)⟩
  | succ rounds ih =>
    unfold bodiesFrom
    by_cases starts : StartsWithEntry contents
    · rw [if_pos starts]
      rcases starts.split with ⟨framed, shape⟩
      have shorter : (contents.drop (2 + (entrySize contents).toNat)).length ≤ rounds := by
        rw [length_drop]
        omega
      rcases ih shorter with ⟨framedRest, tail, rest, kind⟩
      constructor
      · exact forall_mem_cons.mpr ⟨framed, framedRest⟩
      · refine ⟨tail, ?_, kind⟩
        rw [map_cons, flatten_cons, append_assoc, ← rest]
        exact shape
    · rw [if_neg starts]
      constructor
      · intro body member
        cases member
      · exact ⟨contents, rfl, tornTail_or_badLength starts⟩

namespace LogParser

variable {parser : LogParser} {disk : Directory} {clock : Nat → Nat} {senderIp : List Byte}

theorem readEntry_badLength {file : LogFile} (bad : BadLength file.ahead) :
    ∃ behind, readEntry file = (.badLength, behind) := by
  have sized : (file.ahead.take 2).length = 2 := by
    rw [length_take]
    exact Nat.min_eq_left bad.1
  have read := LogFile.read_of_ahead (take_append_drop 2 file.ahead).symm
  rw [sized] at read
  unfold readEntry
  rw [read]
  dsimp only
  have refused : loadSigned (file.ahead.take 2) ≤ 0 ∨
      (kMaxEntryLength : Int) < loadSigned (file.ahead.take 2) := bad.2
  rw [sized, if_neg (by decide), if_neg (by decide), if_pos refused]
  exact ⟨_, rfl⟩

theorem parseLog_badLength {bodies : List (List Byte)} {tail : List Byte}
    (framed : ∀ body ∈ bodies, WellFramed body) (bad : BadLength tail) :
    match parser.replay disk .ok { senderIp } bodies with
    | .error check => parser.parseLog disk clock senderIp
        { contents := (bodies.map frame).flatten ++ tail } = .error check
    | .ok _ => ∃ result, parser.parseLog disk clock senderIp
        { contents := (bodies.map frame).flatten ++ tail } = .ok result ∧
          result.status = .invalidLog := by
  obtain ⟨rounds, position, parsed⟩ :=
    @parseLog_frames parser disk _ framed tail clock senderIp
  revert parsed
  cases parser.replay disk .ok { senderIp } bodies with
  | error check => exact id
  | ok pair =>
    intro parsed
    dsimp only at parsed ⊢
    by_cases invalid : pair.1 = .invalidLog
    · rw [if_pos invalid] at parsed
      exact ⟨_, parsed, (finishParse_status _ _ _ _).trans invalid⟩
    rw [← ahead_frames bodies tail] at bad
    obtain ⟨stopped, read⟩ := readEntry_badLength bad
    rw [if_neg invalid, parseEntries, read] at parsed
    exact ⟨_, parsed, finishParse_status _ _ _ _⟩

theorem parseLog_valid {result : ParseResult}
    (parsed : parser.parseLog disk clock senderIp { contents } = .ok result)
    (valid : result.status ≠ .invalidLog) :
    ∃ tail collected, TornTail tail ∧ contents = ((logBodies contents).map frame).flatten ++ tail ∧
      parser.replay disk .ok { senderIp } (logBodies contents) =
        .ok (result.status, collected) ∧
      result = finishParse clock result.status collected (if parser.parseOnly then
          { contents, position := contents.length }
        else
          { contents := ((logBodies contents).map frame).flatten
            position := ((logBodies contents).map frame).flatten.length }) := by
  rcases bodiesFrom_split (le_refl contents.length) with ⟨framed, tail, shape, kind⟩
  change ∀ body ∈ logBodies contents, WellFramed body at framed
  change contents = ((logBodies contents).map frame).flatten ++ tail at shape
  rcases kind with torn | bad
  · have loop := @parseLog_log parser disk (logBodies contents) tail framed torn clock senderIp
    rw [← shape, parsed] at loop
    revert loop
    cases replayed : parser.replay disk .ok { senderIp } (logBodies contents) with
    | error check =>
      intro failed
      cases failed
    | ok pair =>
      intro loop
      rcases loop with ⟨file, same, kept, _⟩
      have finished := Except.ok.inj same
      have status : pair.1 = result.status := by
        rw [finished, finishParse_status]
      have file_eq := kept (by rw [status]; exact valid)
      refine ⟨tail, pair.2, torn, shape, ?_, ?_⟩
      · rw [← status]
      · rw [← status, ← file_eq]
        exact finished
  · have stopped := @parseLog_badLength parser disk clock senderIp _ _ framed bad
    rw [← shape, parsed] at stopped
    split at stopped
    · cases stopped
    · obtain ⟨_, same, invalid⟩ := stopped
      cases same
      exact absurd invalid valid

end LogParser

end Wdt
