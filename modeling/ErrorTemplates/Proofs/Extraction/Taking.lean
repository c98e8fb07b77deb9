import ErrorTemplates.Extraction.TableText
import ErrorTemplates.Proofs.Files.Semantics
import Mathlib.Data.List.Infix

/-!
# What sinks take

What a state holds of the bytes that a sink takes is kept in an account: each offer adds a
beginning of what was offered, whatever comes of it. So a table that is written adds a beginning of
its text, and all of it if nothing fails. A sink before which bytes wait keeps the same account,
with the bytes that wait behind those that have arrived.
-/

namespace ErrorTemplates
namespace Extraction

open Files (Semantics)
open Text (utf8 utf8_join)

namespace Sink

section
variable {m : Type -> Type} [Monad m] {σ : Type}

/-- A sink takes beginnings of what it is offered, which are added to what a state holds. What was
taken is delivered when the sink is flushed. -/
structure Accounts
    (semantics : Semantics m σ)
    (sink : Sink m)
    (holds delivers : List UInt8 -> σ -> Prop) : Prop where
  take : ∀ {taken : List UInt8} {before : σ} (bytes : List UInt8), holds taken before ->
    semantics.Ends (sink.take bytes) before fun result after =>
      ∃ part, part <+: bytes ∧ holds (taken ++ part) after ∧
        ∀ count, result = .ok count -> part = bytes.take count
  flush : ∀ {taken : List UInt8} {before : σ}, holds taken before ->
    semantics.Ends sink.flush before fun result after =>
      holds taken after ∧ (result = .ok () -> delivers taken after)

/-- A beginning of what was offered is held, and all of it unless something has failed. -/
def Took
    (holds : List UInt8 -> σ -> Prop)
    (taken bytes : List UInt8)
    (result : Except ε Unit)
    (after : σ) : Prop :=
  ∃ part, part <+: bytes ∧ holds (taken ++ part) after ∧ (result = .ok () -> part = bytes)

section
variable {holds : List UInt8 -> σ -> Prop} {taken first rest : List UInt8} {state : σ} {ε : Type}

theorem took_none {result : Except ε Unit} (held : holds taken state) (failed : result ≠ .ok ()) :
    Took holds taken rest result state :=
  ⟨[], List.nil_prefix, by rwa [List.append_nil], fun isOk => absurd isOk failed⟩

theorem took_all {result : Except ε Unit} (held : holds taken state) :
    Took holds taken [] result state :=
  ⟨[], List.nil_prefix, by rwa [List.append_nil], fun _ => rfl⟩

/-- A failure within the first bytes is one within all of them. -/
theorem Took.append_failed
    {result : Except ε Unit}
    (took : Took holds taken first result state)
    (failed : result ≠ .ok ())
    (rest : List UInt8) : Took holds taken (first ++ rest) result state := by
  obtain ⟨part, isPrefix, held, _⟩ := took
  exact ⟨part, isPrefix.trans (List.prefix_append first rest), held,
    fun isOk => absurd isOk failed⟩

/-- What is taken after the first bytes is a part of all of them. -/
theorem Took.after
    {result : Except ε Unit}
    (took : Took holds (taken ++ first) rest result state) :
    Took holds taken (first ++ rest) result state := by
  obtain ⟨part, isPrefix, held, all⟩ := took
  refine ⟨first ++ part, (List.prefix_append_right_inj first).mpr isPrefix, ?_, fun isOk => ?_⟩
  · rwa [← List.append_assoc]
  · rw [all isOk]

end

variable {semantics : Semantics m σ} {sink : Sink m} {holds delivers : List UInt8 -> σ -> Prop}

section
variable (accounts : Accounts semantics sink holds delivers)
include accounts

theorem ends_takeAll
    (taken : List UInt8)
    {before : σ}
    (held : holds taken before)
    (limit : Nat)
    (bytes : List UInt8) :
    semantics.Ends (sink.takeAll limit bytes) before (Took holds taken bytes) := by
  induction limit generalizing bytes taken before with
  | zero =>
      cases bytes with
      | nil => exact semantics.ends_pure (took_all held)
      | cons first rest => exact semantics.ends_pure (took_none held (by simp))
  | succ limit inductionHypothesis =>
      cases bytes with
      | nil => exact semantics.ends_pure (took_all held)
      | cons first rest =>
          refine semantics.ends_bind <| semantics.mono (accounts.take (first :: rest) held) ?_
          rintro result middle ⟨part, isPrefix, heldThen, taken_eq⟩
          have failed {reason : String} : Took holds taken (first :: rest)
              (.error reason : Except String Unit) middle :=
            ⟨part, isPrefix, heldThen, by simp⟩
          rcases result with reason | count
          · exact semantics.ends_pure failed
          · cases count with
            | zero => exact semantics.ends_pure failed
            | succ count =>
                obtain rfl := taken_eq _ rfl
                refine semantics.mono (inductionHypothesis _ heldThen (rest.drop count)) ?_
                intro result after took
                have split_eq : (first :: rest).take (count + 1) ++ rest.drop count =
                    first :: rest :=
                  List.take_append_drop (count + 1) (first :: rest)
                rw [← split_eq]
                exact took.after

/-- Pieces are taken as if they were one text. -/
theorem ends_takePieces
    {taken : List UInt8}
    {before : σ}
    (held : holds taken before)
    (pieces : List String) :
    semantics.Ends (sink.takePieces pieces) before
      (Took holds taken (utf8 (String.join pieces))) := by
  rw [utf8_join]
  induction pieces generalizing taken before with
  | nil => exact semantics.ends_pure (took_all held)
  | cons piece others inductionHypothesis =>
      refine semantics.ends_bind <| semantics.mono (ends_takeAll accounts taken held _ _) ?_
      intro result middle took
      rw [List.flatMap_cons]
      cases result with
      | error reason => exact semantics.ends_pure (took.append_failed (by simp) _)
      | ok =>
          obtain ⟨part, _, heldThen, all⟩ := took
          rw [all rfl] at heldThen
          exact semantics.mono (inductionHypothesis heldThen) fun _ _ => Took.after

/-- A table adds a beginning of its text. If nothing fails its text is delivered. -/
theorem ends_write
    (taken : List UInt8)
    {before : σ}
    (held : holds taken before)
    (table : Table) :
    semantics.Ends (table.write sink) before fun result after =>
      Took holds taken (utf8 table.text) result after ∧
        (result = .ok () -> delivers (taken ++ utf8 table.text) after) := by
  refine semantics.ends_bind <| semantics.mono (ends_takePieces accounts held _) ?_
  rintro result middle ⟨part, isPrefix, heldThen, all⟩
  cases result with
  | error reason => exact semantics.ends_pure ⟨⟨part, isPrefix, heldThen, by simp⟩, by simp⟩
  | ok =>
      obtain rfl := all rfl
      refine semantics.ends_bind <| semantics.mono (accounts.flush heldThen) ?_
      rintro result after ⟨heldStill, delivered⟩
      cases result with
      | error reason =>
          exact semantics.ends_pure ⟨⟨_, List.prefix_rfl, heldStill, by simp⟩, by simp⟩
      | ok =>
          exact semantics.ends_pure
            ⟨⟨_, List.prefix_rfl, heldStill, fun _ => rfl⟩, fun _ => delivered rfl⟩

end

/-! ## Waiting bytes -/

/-- The bytes that were taken of an offer. -/
def partTaken (bytes : List UInt8) : Except ε Nat -> List UInt8
  | .ok count => bytes.take count
  | .error _ => []

/-- A sink takes as many bytes as it says, and none when it fails. -/
structure Counts
    (semantics : Semantics m σ)
    (sink : Sink m)
    (holds delivers : List UInt8 -> σ -> Prop) : Prop where
  take : ∀ {taken : List UInt8} {before : σ} (bytes : List UInt8), holds taken before ->
    semantics.Ends (sink.take bytes) before fun result after =>
      holds (taken ++ partTaken bytes result) after
  flush : ∀ {taken : List UInt8} {before : σ}, holds taken before ->
    semantics.Ends sink.flush before fun result after =>
      holds taken after ∧ (result = .ok () -> delivers taken after)

/-- Some of the bytes that were taken have arrived, and the others wait. -/
def Waits
    (holds : List UInt8 -> σ -> Prop)
    (taken : List UInt8)
    (state : List UInt8 × σ) : Prop :=
  ∃ arrived, arrived ++ state.1 = taken ∧ holds arrived state.2

theorem waits_append
    (arrived waiting : List UInt8)
    {state : σ}
    (held : holds arrived state) : Waits holds (arrived ++ waiting) (waiting, state) :=
  ⟨arrived, rfl, held⟩

namespace Counts

variable (counts : Counts semantics sink holds delivers)
include counts

theorem accounts : Accounts semantics sink holds delivers where
  take bytes held := semantics.mono (counts.take bytes held) fun result after heldThen => by
    cases result with
    | error reason => exact ⟨[], List.nil_prefix, heldThen, by simp⟩
    | ok count => exact ⟨bytes.take count, List.take_prefix count bytes, heldThen, by simp⟩
  flush := counts.flush

/-- To offer what waits loses nothing. Nothing waits any more if that does not fail. -/
theorem ends_drain
    {taken : List UInt8}
    {before : List UInt8 × σ}
    (waits : Waits holds taken before)
    (limit : Nat) :
    (semantics.beside (List UInt8)).Ends (sink.drain limit) before fun result after =>
      Waits holds taken after ∧ (result = .ok () -> after.1 = []) := by
  induction limit generalizing before with
  | zero => exact semantics.ends_pure ⟨waits, by simp⟩
  | succ limit inductionHypothesis =>
      obtain ⟨waiting, system⟩ := before
      obtain ⟨arrived, taken_eq, held⟩ := waits
      refine (semantics.beside _).ends_bind <| semantics.ends_pure ?_
      by_cases noneWaits : waiting = []
      · subst noneWaits
        exact semantics.ends_pure ⟨⟨arrived, taken_eq, held⟩, fun _ => rfl⟩
      · simp only [List.isEmpty_iff, noneWaits, if_false]
        refine (semantics.beside _).ends_bind <| semantics.ends_bind <|
          semantics.mono (counts.take waiting held) fun result middle heldThen => ?_
        refine semantics.ends_pure ?_
        rcases result with reason | count
        · rw [partTaken, List.append_nil] at heldThen
          exact semantics.ends_pure ⟨⟨arrived, taken_eq, heldThen⟩, by simp⟩
        · cases count with
          | zero =>
              rw [partTaken, List.take_zero, List.append_nil] at heldThen
              exact semantics.ends_pure ⟨⟨arrived, taken_eq, heldThen⟩, by simp⟩
          | succ count =>
              refine (semantics.beside _).ends_bind <| semantics.ends_pure ?_
              refine inductionHypothesis ⟨_, ?_, heldThen⟩
              rw [partTaken, List.append_assoc, List.take_append_drop]
              exact taken_eq

theorem ends_drainAll
    {taken : List UInt8}
    {before : List UInt8 × σ}
    (waits : Waits holds taken before) :
    (semantics.beside (List UInt8)).Ends sink.drainAll before fun result after =>
      Waits holds taken after ∧ (result = .ok () -> after.1 = []) :=
  (semantics.beside _).ends_bind <| semantics.ends_pure <| counts.ends_drain waits _

/-- When room was made there is room, or nothing waits. -/
theorem ends_makeRoom
    {taken : List UInt8}
    {before : List UInt8 × σ}
    (waits : Waits holds taken before)
    (count : Nat) :
    (semantics.beside (List UInt8)).Ends (sink.makeRoom count) before fun result after =>
      Waits holds taken after ∧
        (result = .ok () -> waitingRoom ≤ count -> after.1 = []) := by
  refine (semantics.beside _).ends_bind <| semantics.ends_pure ?_
  dsimp only
  split
  · exact (semantics.beside _).mono (counts.ends_drainAll waits) fun result after ends =>
      ⟨ends.1, fun isOk _ => ends.2 isOk⟩
  · next notMore =>
      refine semantics.ends_pure ⟨waits, fun _ large => ?_⟩
      have small : before.1.length + count ≤ waitingRoom := Nat.le_of_not_lt notMore
      have noneWaits : before.1.length = 0 := by omega
      exact List.length_eq_zero_iff.mp noneWaits

/-- A sink before which bytes wait takes all that it is offered or fails. -/
theorem buffered :
    Accounts (semantics.beside (List UInt8)) sink.buffered (Waits holds)
      fun taken state => state.1 = [] ∧ delivers taken state.2 where
  take {taken before} bytes waits := by
    refine (semantics.beside _).ends_bind <|
      (semantics.beside _).mono (counts.ends_makeRoom waits bytes.length) ?_
    rintro result ⟨waiting, system⟩ ⟨⟨arrived, taken_eq, held⟩, emptied⟩
    cases result with
    | error reason =>
        exact semantics.ends_pure
          ⟨[], List.nil_prefix, ⟨arrived, by rw [List.append_nil, ← taken_eq], held⟩, by simp⟩
    | ok =>
        simp only
        split
        · refine (semantics.beside _).ends_bind <| semantics.ends_pure ?_
          refine semantics.ends_pure ⟨bytes, List.prefix_rfl, ⟨arrived, ?_, held⟩, ?_⟩
          · rw [← taken_eq, List.append_assoc]
          · rintro _ ⟨⟩
            exact List.take_length.symm
        · next large =>
            -- Bytes for which there is never room pass by, and nothing may wait before them.
            obtain rfl : waiting = [] := emptied rfl (Nat.le_of_not_lt large)
            obtain rfl : arrived = taken := by simpa using taken_eq
            refine (semantics.beside _).ends_bind <| semantics.ends_bind <|
              semantics.mono (ends_takeAll counts.accounts _ held _ _) ?_
            rintro result after ⟨part, isPrefix, heldThen, all⟩
            refine semantics.ends_pure <| semantics.ends_pure
              ⟨part, isPrefix, ⟨_, List.append_nil _, heldThen⟩, fun count isOk => ?_⟩
            cases result with
            | error reason => cases isOk
            | ok =>
                obtain rfl := Except.ok.inj isOk
                rw [List.take_length, all rfl]
  flush {taken before} waits := by
    refine (semantics.beside _).ends_bind <|
      (semantics.beside _).mono (counts.ends_drainAll waits) ?_
    rintro result ⟨waiting, system⟩ ⟨⟨arrived, taken_eq, held⟩, emptied⟩
    cases result with
    | error reason => exact semantics.ends_pure ⟨⟨arrived, taken_eq, held⟩, by simp⟩
    | ok =>
        obtain rfl : waiting = [] := emptied rfl
        obtain rfl : arrived = taken := by simpa using taken_eq
        refine semantics.ends_bind <| semantics.mono (counts.flush held) fun result after ends => ?_
        exact semantics.ends_pure
          ⟨⟨_, List.append_nil _, ends.1⟩, fun isOk => ⟨rfl, ends.2 isOk⟩⟩

end Counts

end

end Sink

end Extraction
end ErrorTemplates
