import ErrorTemplates.Extraction.TableText
import Mathlib.Data.List.Infix

/-!
# Writing a table to a sink

A sink may take any part of what it is offered and may refuse at any time. To see what it took,
its answers are kept beside its state, which changes nothing about what it does. Offering bytes
goes on until all of them are taken or a write fails; a table is written piece by piece in this
way, and the sink is flushed when nothing is left. So either the whole text of the table was
taken and flushed, or the failure says which of the two was not done.
-/

namespace ErrorTemplates
namespace Extraction

open Text (utf8 utf8_join)

namespace Sink

/-! ## Answers -/

/-- What a sink answers when it is offered bytes or flushed. -/
inductive Answer
  /-- These are the bytes that were taken. -/
  | took (bytes : List UInt8)
  /-- The offer failed. -/
  | refused (reason : String)
  /-- What was taken arrived. -/
  | flushed
  /-- What was taken did not arrive. -/
  | unflushed (reason : String)

namespace Answer

/-- The bytes that were taken. -/
def bytes : Answer -> List UInt8
  | .took bytes => bytes
  | _ => []

/-- Why a write failed: it was refused, or nothing was taken of what was offered. -/
def writeFailure? : Answer -> Option String
  | .took [] => some "failed to write whole buffer"
  | .refused reason => some reason
  | _ => none

theorem writeFailure?_took {part : List UInt8} (nonempty : part ≠ []) :
    (took part).writeFailure? = none := by
  cases part with
  | nil => exact absurd rfl nonempty
  | cons => rfl

theorem bytes_of_writeFailure?
    {answer : Answer}
    {reason : String}
    (failed : answer.writeFailure? = some reason) : answer.bytes = [] := by
  cases answer with
  | took part =>
      cases part with
      | nil => rfl
      | cons => simp [writeFailure?] at failed
  | _ => rfl

end Answer

/-- All bytes that were taken. -/
def taken (answers : List Answer) : List UInt8 := answers.flatMap Answer.bytes

theorem taken_append (answers further : List Answer) :
    taken (answers ++ further) = taken answers ++ taken further :=
  List.flatMap_append

section
variable {σ : Type}

/-- The sink that keeps its answers beside its state. -/
def watched (sink : Sink (StateM σ)) : Sink (StateM (σ × List Answer)) where
  take bytes := fun watch =>
    match (sink.take bytes).run watch.1 with
    | (.ok count, state) => (.ok count, state, watch.2 ++ [.took (bytes.take count)])
    | (.error reason, state) => (.error reason, state, watch.2 ++ [.refused reason])
  flush := fun watch =>
    match sink.flush.run watch.1 with
    | (.ok (), state) => (.ok (), state, watch.2 ++ [.flushed])
    | (.error reason, state) => (.error reason, state, watch.2 ++ [.unflushed reason])

theorem run_take_watched
    (sink : Sink (StateM σ))
    (bytes : List UInt8)
    (state : σ)
    (answers : List Answer) :
    (sink.watched.take bytes).run (state, answers) =
      match (sink.take bytes).run state with
      | (.ok count, after) => (.ok count, after, answers ++ [.took (bytes.take count)])
      | (.error reason, after) => (.error reason, after, answers ++ [.refused reason]) := rfl

theorem run_flush_watched (sink : Sink (StateM σ)) (state : σ) (answers : List Answer) :
    sink.watched.flush.run (state, answers) =
      match sink.flush.run state with
      | (.ok (), after) => (.ok (), after, answers ++ [.flushed])
      | (.error reason, after) => (.error reason, after, answers ++ [.unflushed reason]) := rfl

/-! ## Steps -/

theorem run_takeAll_cons
    (sink : Sink (StateM σ))
    (limit : Nat)
    (first : UInt8)
    (rest : List UInt8)
    (state : σ) :
    (sink.takeAll (limit + 1) (first :: rest)).run state =
      match (sink.take (first :: rest)).run state with
      | (.error reason, after) => (.error reason, after)
      | (.ok 0, after) => (.error "failed to write whole buffer", after)
      | (.ok (count + 1), after) => (sink.takeAll limit (rest.drop count)).run after := by
  rw [takeAll, StateT.run_bind]
  rcases (sink.take (first :: rest)).run state with ⟨_ | _ | _, _⟩ <;> rfl

theorem run_takePieces_cons
    (sink : Sink (StateM σ))
    (piece : String)
    (rest : List String)
    (state : σ) :
    (sink.takePieces (piece :: rest)).run state =
      match (sink.takeAll (utf8 piece).length (utf8 piece)).run state with
      | (.error reason, after) => (.error reason, after)
      | (.ok (), after) => (sink.takePieces rest).run after := by
  rw [takePieces, StateT.run_bind]
  rcases (sink.takeAll (utf8 piece).length (utf8 piece)).run state with ⟨_ | _, _⟩ <;> rfl

end

/-! ## Offering bytes -/

/-- The answers while bytes are offered until all of them are taken, and what comes of it. -/
inductive Offered : List UInt8 -> List Answer -> Except String Unit -> Prop
  /-- Nothing is left to offer. -/
  | all : Offered [] [] (.ok ())
  /-- Some of the bytes are taken, and the rest is offered. -/
  | some
      {part rest : List UInt8}
      {answers : List Answer}
      {result : Except String Unit}
      (nonempty : part ≠ [])
      (offered : Offered rest answers result) :
      Offered (part ++ rest) (.took part :: answers) result
  /-- The write fails, and nothing more is offered. -/
  | failed
      {bytes : List UInt8}
      {answer : Answer}
      {reason : String}
      (nonempty : bytes ≠ [])
      (failed : answer.writeFailure? = .some reason) :
      Offered bytes [answer] (.error reason)

namespace Offered

variable {bytes others : List UInt8} {answers further : List Answer} {reason : String}

/-- Bytes are offered after others have been taken. -/
theorem append
    {result : Except String Unit}
    (offered : Offered bytes answers (.ok ()))
    (next : Offered others further result) :
    Offered (bytes ++ others) (answers ++ further) result := by
  generalize isOk : Except.ok () = first at offered
  induction offered with
  | all => exact next
  | some nonempty _ inductionHypothesis =>
      rw [List.append_assoc]
      exact .some nonempty (inductionHypothesis isOk)
  | failed => cases isOk

/-- When a write has failed it does not matter what would have been offered later. -/
theorem append_failed
    (offered : Offered bytes answers (.error reason))
    (others : List UInt8) : Offered (bytes ++ others) answers (.error reason) := by
  generalize isError : Except.error reason = result at offered
  induction offered with
  | all => cases isError
  | some nonempty _ inductionHypothesis =>
      rw [List.append_assoc]
      exact .some nonempty (inductionHypothesis isError)
  | failed nonempty failed =>
      exact .failed (fun empty => nonempty (List.append_eq_nil_iff.mp empty).1) failed

/-- Without a failure all bytes were taken, and no write failed. -/
theorem of_ok (offered : Offered bytes answers (.ok ())) :
    taken answers = bytes ∧ ∀ answer ∈ answers, ∃ part ≠ [], answer = .took part := by
  generalize isOk : Except.ok () = result at offered
  induction offered with
  | all => simp [taken]
  | @some part rest answers _ nonempty _ inductionHypothesis =>
      obtain ⟨taken_eq, allTook⟩ := inductionHypothesis isOk
      refine ⟨?_, List.forall_mem_cons.mpr ⟨⟨part, nonempty, rfl⟩, allTook⟩⟩
      rw [← List.singleton_append, taken_append, taken_eq]
      simp [taken, Answer.bytes]
  | failed => cases isOk

/-- With a failure the last write is the one that failed, and some bytes were left then. -/
theorem of_error (offered : Offered bytes answers (.error reason)) :
    ∃ earlier last, answers = earlier ++ [last] ∧ last.writeFailure? = .some reason ∧
      (∀ answer ∈ earlier, ∃ part ≠ [], answer = .took part) ∧
      ∃ rest ≠ [], bytes = taken answers ++ rest := by
  generalize isError : Except.error reason = result at offered
  induction offered with
  | all => cases isError
  | @some part _ _ _ nonempty _ inductionHypothesis =>
      obtain ⟨earlier, last, rfl, failed, allTook, rest, someLeft, rfl⟩ :=
        inductionHypothesis isError
      refine ⟨.took part :: earlier, last, rfl, failed,
        List.forall_mem_cons.mpr ⟨⟨part, nonempty, rfl⟩, allTook⟩, rest, someLeft, ?_⟩
      simp [taken, Answer.bytes]
  | @failed bytes answer _ nonempty failed =>
      cases isError
      refine ⟨[], answer, rfl, failed, by simp, bytes, nonempty, ?_⟩
      simp [taken, Answer.bytes_of_writeFailure? failed]

end Offered

section
variable {σ : Type} (sink : Sink (StateM σ))

/-- Bytes are offered until all of them are taken or a write fails. There is no other limit. -/
theorem offered_takeAll
    {limit : Nat}
    {bytes : List UInt8}
    (enough : bytes.length ≤ limit)
    (state : σ)
    (answers : List Answer) :
    ∃ result after further, (sink.takeAll limit bytes).run state = (result, after) ∧
      (sink.watched.takeAll limit bytes).run (state, answers) =
        (result, after, answers ++ further) ∧
      Offered bytes further result := by
  induction limit generalizing bytes state answers with
  | zero =>
      obtain rfl := List.length_eq_zero_iff.mp (Nat.le_zero.mp enough)
      exact ⟨.ok (), state, [], rfl, by rw [List.append_nil]; rfl, .all⟩
  | succ limit inductionHypothesis =>
      cases bytes with
      | nil => exact ⟨.ok (), state, [], rfl, by rw [List.append_nil]; rfl, .all⟩
      | cons first rest =>
          have nonempty : first :: rest ≠ [] := List.cons_ne_nil first rest
          rcases taken_eq : (sink.take (first :: rest)).run state with ⟨reason | count, middle⟩
          · refine ⟨.error reason, middle, [.refused reason], ?_, ?_, .failed nonempty rfl⟩
            · simp only [run_takeAll_cons, taken_eq]
            · simp only [run_takeAll_cons, run_take_watched, taken_eq]
          cases count with
          | zero =>
              refine ⟨.error "failed to write whole buffer", middle, [.took []], ?_, ?_,
                .failed nonempty rfl⟩
              · simp only [run_takeAll_cons, taken_eq]
              · simp only [run_takeAll_cons, run_take_watched, taken_eq, List.take_zero]
          | succ count =>
              have shorter : (rest.drop count).length ≤ limit := by
                rw [List.length_drop]
                exact Nat.le_trans (Nat.sub_le _ _) (Nat.le_of_succ_le_succ enough)
              let part := first :: rest.take count
              obtain ⟨result, after, further, takes, takesWatched, offered⟩ :=
                inductionHypothesis shorter middle (answers ++ [.took part])
              refine ⟨result, after, .took part :: further, ?_, ?_, ?_⟩
              · simpa only [run_takeAll_cons, taken_eq] using takes
              · simpa [run_takeAll_cons, run_take_watched, taken_eq, part] using takesWatched
              · have split_eq : part ++ rest.drop count = first :: rest := by simp [part]
                rw [← split_eq]
                exact .some (List.cons_ne_nil _ _) offered

/-- Pieces are offered as if they were one text. -/
theorem offered_takePieces (pieces : List String) (state : σ) (answers : List Answer) :
    ∃ result after further, (sink.takePieces pieces).run state = (result, after) ∧
      (sink.watched.takePieces pieces).run (state, answers) =
        (result, after, answers ++ further) ∧
      Offered (utf8 (String.join pieces)) further result := by
  rw [utf8_join]
  induction pieces generalizing state answers with
  | nil => exact ⟨.ok (), state, [], rfl, by rw [List.append_nil]; rfl, .all⟩
  | cons piece others inductionHypothesis =>
      obtain ⟨first, middle, further, takes, takesWatched, offered⟩ :=
        sink.offered_takeAll (Nat.le_refl (utf8 piece).length) state answers
      cases first with
      | error reason =>
          refine ⟨.error reason, middle, further, ?_, ?_, offered.append_failed _⟩
          · simp only [run_takePieces_cons, takes]
          · simp only [run_takePieces_cons, takesWatched]
      | ok =>
          obtain ⟨result, after, last, takesOthers, takesOthersWatched, offeredOthers⟩ :=
            inductionHypothesis middle (answers ++ further)
          refine ⟨result, after, further ++ last, ?_, ?_, offered.append offeredOthers⟩
          · simp only [run_takePieces_cons, takes, takesOthers]
          · simp only [run_takePieces_cons, takesWatched, takesOthersWatched, List.append_assoc]

end

end Sink

/-! ## Writing -/

open Sink (Answer Offered taken)

/-- The answers while a document is written and flushed, and what comes of it. -/
inductive Written (document : List UInt8) : List Answer -> Except WriteFailure Unit -> Prop
  /-- All bytes were taken and flushed. -/
  | delivered
      {answers : List Answer}
      (offered : Offered document answers (.ok ())) :
      Written document (answers ++ [.flushed]) (.ok ())
  /-- All bytes were taken, and flushing failed. -/
  | unflushed
      {answers : List Answer}
      (offered : Offered document answers (.ok ()))
      (reason : String) :
      Written document (answers ++ [.unflushed reason]) (.error (.flush reason))
  /-- A write failed. -/
  | unwritten
      {answers : List Answer}
      {reason : String}
      (offered : Offered document answers (.error reason)) :
      Written document answers (.error (.write reason))

namespace Written

variable {document : List UInt8} {answers : List Answer} {result : Except WriteFailure Unit}

/-- An answer to an offer of which something was taken says neither that a write failed nor
anything of flushing. -/
theorem of_mem_took
    {answer : Answer}
    (allTook : ∀ answer ∈ answers, ∃ part ≠ [], answer = .took part)
    (present : answer ∈ answers) :
    answer.writeFailure? = none ∧ answer ≠ .flushed ∧ ∀ reason, answer ≠ .unflushed reason := by
  obtain ⟨part, nonempty, rfl⟩ := allTook answer present
  exact ⟨Answer.writeFailure?_took nonempty, by simp, by simp⟩

/-- What was taken is a beginning of the document. -/
theorem taken_prefix (written : Written document answers result) :
    taken answers <+: document := by
  cases written with
  | delivered offered | unflushed offered =>
      rw [Sink.taken_append, offered.of_ok.1]
      simp [taken, Answer.bytes]
  | unwritten offered =>
      obtain ⟨_, _, _, _, _, rest, _, document_eq⟩ := offered.of_error
      exact ⟨rest, document_eq.symm⟩

/-- A failure to write is the last answer, and no other answer is one. -/
theorem write_failed_iff (written : Written document answers result) (reason : String) :
    result = .error (.write reason) ↔
      ∃ answer ∈ answers, answer.writeFailure? = some reason := by
  cases written with
  | delivered offered | unflushed offered =>
      refine iff_of_false (by simp) ?_
      rintro ⟨answer, present, failed⟩
      rcases List.mem_append.mp present with inWrites | isLast
      · simp [(of_mem_took offered.of_ok.2 inWrites).1] at failed
      · obtain rfl := List.mem_singleton.mp isLast
        simp [Answer.writeFailure?] at failed
  | @unwritten _ other offered =>
      obtain ⟨earlier, last, rfl, failed, allTook, _⟩ := offered.of_error
      constructor
      · rintro ⟨⟩
        exact ⟨last, List.mem_append_right _ List.mem_cons_self, failed⟩
      · rintro ⟨answer, present, alsoFailed⟩
        rcases List.mem_append.mp present with inEarlier | isLast
        · simp [(of_mem_took allTook inEarlier).1] at alsoFailed
        · obtain rfl := List.mem_singleton.mp isLast
          rw [Option.some.inj (failed.symm.trans alsoFailed)]

/-- All bytes were taken exactly when no write failed. -/
theorem taken_eq_iff (written : Written document answers result) :
    taken answers = document ↔ ∀ reason, result ≠ .error (.write reason) := by
  cases written with
  | delivered offered | unflushed offered =>
      refine iff_of_true ?_ (by simp)
      rw [Sink.taken_append, offered.of_ok.1]
      simp [taken, Answer.bytes]
  | unwritten offered =>
      obtain ⟨_, _, _, _, _, rest, someLeft, document_eq⟩ := offered.of_error
      refine iff_of_false (fun all => ?_) (by simp)
      rw [all] at document_eq
      exact someLeft (List.self_eq_append_right.mp document_eq)

/-- The sink is flushed, with or without success, only when no write failed. -/
theorem flush_iff (written : Written document answers result) :
    (result = .ok () ↔ taken answers = document ∧ .flushed ∈ answers) ∧
      ∀ reason, result = .error (.flush reason) ↔
        taken answers = document ∧ .unflushed reason ∈ answers := by
  have all_iff := written.taken_eq_iff
  cases written with
  | delivered offered =>
      have all := all_iff.mpr (by simp)
      refine ⟨iff_of_true rfl ⟨all, by simp⟩, fun reason => iff_of_false (by simp) ?_⟩
      rintro ⟨_, present⟩
      rcases List.mem_append.mp present with inWrites | isLast
      · exact (of_mem_took offered.of_ok.2 inWrites).2.2 reason rfl
      · simp at isLast
  | unflushed offered found =>
      have all := all_iff.mpr (by simp)
      refine ⟨iff_of_false (by simp) ?_, fun reason => ⟨?_, ?_⟩⟩
      · rintro ⟨_, present⟩
        rcases List.mem_append.mp present with inWrites | isLast
        · exact (of_mem_took offered.of_ok.2 inWrites).2.1 rfl
        · simp at isLast
      · rintro ⟨⟩
        exact ⟨all, by simp⟩
      · rintro ⟨_, present⟩
        rcases List.mem_append.mp present with inWrites | isLast
        · exact absurd rfl ((of_mem_took offered.of_ok.2 inWrites).2.2 reason)
        · obtain ⟨rfl⟩ := List.mem_singleton.mp isLast
          rfl
  | @unwritten _ reason offered =>
      have notAll : taken answers ≠ document := fun all => all_iff.mp all reason rfl
      exact ⟨iff_of_false (by simp) fun flushed => notAll flushed.1,
        fun _ => iff_of_false (by simp) fun unflushed => notAll unflushed.1⟩

/-- Every answer but the last one was that some bytes were taken. -/
theorem took_of_mem_dropLast (written : Written document answers result) :
    ∀ answer ∈ answers.dropLast, ∃ part ≠ [], answer = .took part := by
  cases written with
  | delivered offered | unflushed offered =>
      rw [List.dropLast_concat]
      exact offered.of_ok.2
  | unwritten offered =>
      obtain ⟨_, _, rfl, _, allTook, _⟩ := offered.of_error
      rw [List.dropLast_concat]
      exact allTook

end Written

theorem run_write {σ : Type} (table : Table) (sink : Sink (StateM σ)) (state : σ) :
    (table.write sink).run state =
      match (sink.takePieces table.toJson.pieces).run state with
      | (.error reason, after) => (.error (.write reason), after)
      | (.ok (), after) =>
          match sink.flush.run after with
          | (.error reason, last) => (.error (.flush reason), last)
          | (.ok (), last) => (.ok (), last) := by
  rw [Table.write, StateT.run_bind]
  rcases (sink.takePieces table.toJson.pieces).run state with ⟨_ | _, after⟩
  · rfl
  · change (sink.flush >>= _).run after = _
    rw [StateT.run_bind]
    simp only
    rcases sink.flush.run after with ⟨_ | _, _⟩ <;> rfl

/-- A table is written piece by piece and then flushed, and watching the sink changes nothing. -/
theorem written_write {σ : Type} (table : Table) (sink : Sink (StateM σ)) (state : σ) :
    ∃ result after answers, (table.write sink).run state = (result, after) ∧
      (table.write sink.watched).run (state, []) = (result, after, answers) ∧
      Written (utf8 table.text) answers result := by
  obtain ⟨first, middle, answers, takes, takesWatched, offered⟩ :=
    sink.offered_takePieces table.toJson.pieces state []
  rw [List.nil_append] at takesWatched
  have offered : Offered (utf8 table.text) answers first := offered
  cases first with
  | error reason =>
      refine ⟨.error (.write reason), middle, answers, ?_, ?_, .unwritten offered⟩
      · simp only [run_write, takes]
      · simp only [run_write, takesWatched]
  | ok =>
      have flush_watched := sink.run_flush_watched middle answers
      rcases flush_eq : sink.flush.run middle with ⟨reason | _, after⟩ <;>
        rw [flush_eq] at flush_watched
      · refine ⟨.error (.flush reason), after, answers ++ [.unflushed reason], ?_, ?_,
          .unflushed offered reason⟩
        · simp only [run_write, takes, flush_eq]
        · simp only [run_write, takesWatched, flush_watched]
      · refine ⟨.ok (), after, answers ++ [.flushed], ?_, ?_, .delivered offered⟩
        · simp only [run_write, takes, flush_eq]
        · simp only [run_write, takesWatched, flush_watched]

/-- Whatever part of an offer a sink takes and whenever it fails, writing a table succeeds exactly
when all bytes of its text were taken and flushed. Otherwise the failure is the one of the write
that failed, or else the one of flushing. What was taken is always a beginning of the text, it is
all of the text unless a write failed, and a failed write is followed by nothing. -/
theorem write_delivers_or_reports
    {σ : Type}
    (table : Table)
    (sink : Sink (StateM σ))
    (state : σ) :
    let document := utf8 table.text
    ∃ result after answers, (table.write sink).run state = (result, after) ∧
      (table.write sink.watched).run (state, []) = (result, after, answers) ∧
      (result = .ok () ↔ taken answers = document ∧ .flushed ∈ answers) ∧
      (∀ reason, result = .error (.write reason) ↔
        ∃ answer ∈ answers, answer.writeFailure? = some reason) ∧
      (∀ reason, result = .error (.flush reason) ↔
        taken answers = document ∧ .unflushed reason ∈ answers) ∧
      (∀ reason, (WriteFailure.write reason).message =
          "Failed to write extraction table: " ++ reason ∧
        (WriteFailure.flush reason).message =
          "Failed to flush extraction table: " ++ reason) ∧
      taken answers <+: document ∧
      (taken answers = document ↔ ∀ reason, result ≠ .error (.write reason)) ∧
      ∀ answer ∈ answers.dropLast, ∃ part ≠ [], answer = .took part := by
  obtain ⟨result, after, answers, writes, writesWatched, written⟩ :=
    written_write table sink state
  obtain ⟨delivered_iff, unflushed_iff⟩ := written.flush_iff
  exact ⟨result, after, answers, writes, writesWatched, delivered_iff, written.write_failed_iff,
    unflushed_iff, fun _ => ⟨rfl, rfl⟩, written.taken_prefix, written.taken_eq_iff,
    written.took_of_mem_dropLast⟩

/-- A buffer without room for the whole text has the beginning of it. -/
example :
    let table := Table.empty.insert { space := "a", code := "b", template := "c" }
    let written := (table.write (Buffer.sink false)).run { taken := [], room := 6 }
    (written.1 matches .error (.write "sink full")) = true ∧
      written.2.taken = utf8 "\x7b\"a\":\x7b" := by
  cbv

end Extraction
end ErrorTemplates
