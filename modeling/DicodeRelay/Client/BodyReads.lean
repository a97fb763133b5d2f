import DicodeRelay.Client.Forwarder
import DicodeRelay.Lib.Machine

/-!
Contract: the loop that reads a response body, one call of the reader at a time.

Owns:
- the passes of the loop, and that its body reader runs them to their end;
- what the loop holds after every pass, and when it cancels the reader;
- that the body does not depend on how it is cut into chunks.

Does not own: a reader that fails, which ends the dispatch.
-/

namespace DicodeRelay.Client

open DicodeRelay.Lib

/-! ### The passes -/

/-- What `reader.read()` answers. -/
inductive ReadResult where
  | chunk (value : Bytes)
  | done
deriving DecidableEq

def ReadResult.bytes : ReadResult → Bytes
  | .chunk value => value
  | .done => []

/-- The loop between two passes. -/
structure BodyLoop where
  read : BodyRead
  done : Bool

/-- One pass; `none`: the loop has ended, and the reader is not asked. -/
def BodyLoop.pass (loop : BodyLoop) (result : ReadResult) : Option BodyLoop :=
  if loop.done then none
  else
    match result with
    | .done => some ⟨{ loop.read with reads := loop.read.reads + 1 }, true⟩
    | .chunk value =>
        if loop.read.buf.length + value.length > MAX_BODY then
          some ⟨{
            buf := loop.read.buf ++ value.take (MAX_BODY - loop.read.buf.length)
            reads := loop.read.reads + 1
            cancelled := true }, true⟩
        else
          some ⟨{ loop.read with
            buf := loop.read.buf ++ value
            reads := loop.read.reads + 1 }, false⟩

def bodyLoop : Machine BodyLoop ReadResult := ⟨⟨⟨[], 0, false⟩, false⟩, BodyLoop.pass⟩

/-- What the reader of a body answers, call by call. -/
def readerResults (chunks : List Bytes) : List ReadResult := chunks.map .chunk ++ [.done]

/-- The bytes that the reader has answered with. -/
def bytesRead (results : List ReadResult) : Bytes := results.flatMap ReadResult.bytes

/-- The body reader runs the passes until the loop has ended. -/
theorem readLoop_passes {loop : BodyLoop} (going : loop.done = false) (chunks : List Bytes) :
    ∃ results read, results <+: readerResults chunks ∧
      results.foldlM BodyLoop.pass loop = some ⟨read, true⟩ ∧
      readLoop false loop.read chunks = some read ∧
      (read.cancelled = true ∨ results = readerResults chunks) := by
  induction chunks generalizing loop with
  | nil =>
      refine ⟨[.done], _, List.prefix_rfl, ?_, rfl, Or.inr rfl⟩
      rw [List.foldlM_cons, BodyLoop.pass, going]
      rfl
  | cons chunk rest inductionHypothesis =>
      by_cases exceeds : loop.read.buf.length + chunk.length > MAX_BODY
      · refine ⟨[.chunk chunk], ⟨loop.read.buf ++ chunk.take (MAX_BODY - loop.read.buf.length),
          loop.read.reads + 1, true⟩, List.prefix_append [ReadResult.chunk chunk] _, ?_, ?_,
          Or.inl rfl⟩
        · rw [List.foldlM_cons, BodyLoop.pass, going, if_neg Bool.false_ne_true]
          dsimp only
          rw [if_pos exceeds]
          rfl
        · rw [readLoop, if_pos exceeds]
      · obtain ⟨results, read, start, passes, same, ends⟩ := @inductionHypothesis
          ⟨{ loop.read with
            buf := loop.read.buf ++ chunk
            reads := loop.read.reads + 1 }, false⟩ rfl
        refine ⟨.chunk chunk :: results, read, List.cons_prefix_cons.mpr ⟨rfl, start⟩, ?_, ?_,
          ends.imp_right (congrArg (ReadResult.chunk chunk :: ·))⟩
        · rw [List.foldlM_cons, BodyLoop.pass, going, if_neg Bool.false_ne_true]
          dsimp only
          rw [if_neg exceeds]
          exact passes
        · rw [readLoop, if_neg exceeds]
          exact same

/-! ### After every pass -/

/-- The loop after the reader has answered with `results`. -/
structure BodyLoop.Holds (loop : BodyLoop) (results : List ReadResult) : Prop where
  buf : loop.read.buf = (bytesRead results).take MAX_BODY
  cancelled : loop.read.cancelled = true ↔ MAX_BODY < (bytesRead results).length
  ended : loop.read.cancelled = true → loop.done = true
  reads : loop.read.reads = results.length

theorem BodyLoop.Holds.pass {loop loop' : BodyLoop} {results : List ReadResult}
    (holds : loop.Holds results) {result : ReadResult} (after : loop.pass result = some loop') :
    loop'.Holds (results ++ [result]) := by
  have grown : bytesRead (results ++ [result]) = bytesRead results ++ result.bytes := by
    simp [bytesRead]
  unfold BodyLoop.pass at after
  split at after
  · contradiction
  · rename_i going
    have uncancelled : loop.read.cancelled = false :=
      Bool.eq_false_iff.mpr fun cancelled => going (holds.ended cancelled)
    have fits : (bytesRead results).length ≤ MAX_BODY :=
      Nat.le_of_not_lt fun exceeds =>
        Bool.false_ne_true (uncancelled.symm.trans (holds.cancelled.mpr exceeds))
    have whole : loop.read.buf = bytesRead results :=
      holds.buf.trans (List.take_of_length_le fits)
    cases result with
    | done =>
        obtain rfl := Option.some.inj after
        rw [ReadResult.bytes, List.append_nil] at grown
        refine ⟨?_, ?_, fun _ => rfl, ?_⟩
        · rw [grown]
          exact holds.buf
        · rw [grown]
          exact holds.cancelled
        · rw [List.length_append, ← holds.reads]
          rfl
    | chunk value =>
        rw [ReadResult.bytes] at grown
        dsimp only at after
        split at after
        · rename_i exceeds
          obtain rfl := Option.some.inj after
          refine ⟨?_, ?_, fun _ => rfl, ?_⟩
          · rw [grown, whole, List.take_append, List.take_of_length_le fits]
          · apply iff_of_true rfl
            rw [grown, List.length_append, ← whole]
            exact exceeds
          · rw [List.length_append, ← holds.reads]
            rfl
        · rename_i within
          obtain rfl := Option.some.inj after
          have short : (bytesRead results ++ value).length ≤ MAX_BODY := by
            rw [List.length_append, ← whole]
            exact Nat.le_of_not_lt within
          refine ⟨?_, ?_, fun cancelled => ?_, ?_⟩
          · rw [grown, List.take_of_length_le short, whole]
          · rw [grown, uncancelled]
            exact iff_of_false Bool.false_ne_true (Nat.not_lt.mpr short)
          · exact absurd (uncancelled.symm.trans cancelled) Bool.false_ne_true
          · rw [List.length_append, ← holds.reads]
            rfl

theorem holds_run {results : List ReadResult} {loop : BodyLoop}
    (ran : bodyLoop.run results = some loop) : loop.Holds results :=
  Machine.run_invariant (P := fun results loop => loop.Holds results)
    ⟨rfl, by simp [bodyLoop, bytesRead], by simp [bodyLoop], rfl⟩
    (fun _ _ _ _ _ holds after => holds.pass after) ran

theorem bytesRead_readerResults (chunks : List Bytes) :
    bytesRead (readerResults chunks) = chunks.flatten := by
  induction chunks with
  | nil => rfl
  | cons chunk rest inductionHypothesis =>
      exact congrArg (chunk ++ ·) inductionHypothesis

/-- For every way to cut a body into chunks, the loop ends with the first `MAX_BODY`
bytes of it. After every pass it has asked the reader once a pass, it holds the first
`MAX_BODY` bytes read so far, it has cancelled the reader if and only if more were
read, and then the reader is not asked again. -/
theorem body_read_capped (chunks : List Bytes) :
    (∃ results loop, results <+: readerResults chunks ∧ bodyLoop.run results = some loop ∧
      loop.done = true ∧ loop.read.buf = chunks.flatten.take MAX_BODY ∧
      (loop.read.cancelled = true ↔ MAX_BODY < chunks.flatten.length) ∧
      readLoop false ⟨[], 0, false⟩ chunks = some loop.read ∧
      readBody (some ⟨chunks, false⟩) = some loop.read.buf) ∧
    (∀ results loop, bodyLoop.run results = some loop →
      loop.read.reads = results.length ∧ loop.read.buf.length ≤ MAX_BODY ∧
      loop.read.buf = (bytesRead results).take MAX_BODY ∧
      (loop.read.cancelled = true ↔ MAX_BODY < (bytesRead results).length) ∧
      (loop.read.cancelled = true → ∀ result, bodyLoop.step loop result = none)) ∧
    ∀ others : List Bytes, others.flatten = chunks.flatten →
      readBody (some ⟨others, false⟩) = readBody (some ⟨chunks, false⟩) := by
  have body : ∀ chunks : List Bytes,
      readBody (some ⟨chunks, false⟩) = some (chunks.flatten.take MAX_BODY) := by
    intro chunks
    rw [readBody_some, if_neg fun both => Bool.false_ne_true both.1]
  refine ⟨?_, ?_, fun others same => by rw [body, body, same]⟩
  · obtain ⟨results, read, start, ran, looped, ends⟩ :=
      @readLoop_passes ⟨⟨[], 0, false⟩, false⟩ rfl chunks
    have holds : BodyLoop.Holds ⟨read, true⟩ results := holds_run ran
    have result : readBody (some ⟨chunks, false⟩) = some read.buf := by
      rw [readBody, looped, Option.map_some]
    refine ⟨results, ⟨read, true⟩, start, ran, rfl, ?_, ?_, looped, result⟩
    · exact Option.some.inj (result.symm.trans (body chunks))
    · constructor
      · intro cancelled
        obtain ⟨rest, split⟩ := start
        have total : bytesRead results ++ bytesRead rest = chunks.flatten := by
          rw [← bytesRead_readerResults, ← split, bytesRead, bytesRead, bytesRead,
            List.flatMap_append]
        rw [← total, List.length_append]
        exact Nat.lt_add_right _ (holds.cancelled.mp cancelled)
      · intro exceeds
        rcases ends with cancelled | rfl
        · exact cancelled
        · rw [← bytesRead_readerResults] at exceeds
          exact holds.cancelled.mpr exceeds
  · intro results loop ran
    have holds := holds_run ran
    refine ⟨holds.reads, ?_, holds.buf, holds.cancelled, fun cancelled result => ?_⟩
    · rw [holds.buf]
      exact List.length_take_le _ _
    · exact if_pos (holds.ended cancelled)

end DicodeRelay.Client
