import ErrorTemplates.Extraction.Table
import ErrorTemplates.Json.Value
import ErrorTemplates.Text.Bytes

/-!
# The text of a table

A table is written as an object that has an object of templates for every name space. It
is written piece by piece to a sink, which may take fewer bytes than it is offered and may
fail. Nothing is written after a failure, and the sink is flushed only after everything
was written. Before a file the bytes wait until there are many of them.
-/

namespace ErrorTemplates
namespace Extraction

open Text (utf8)

/-- The templates of a name space as a value. -/
def Space.toJson (space : Space) : Json.Value :=
  .object (space.codes.map fun pair => (pair.1, .string pair.2))

/-- A table as a value. -/
def Table.toJson (table : Table) : Json.Value :=
  .object (table.spaces.map fun space => (space.name, space.toJson))

/-- The text of a table. -/
def Table.text (table : Table) : String := table.toJson.compact

/-- A place that takes bytes. -/
structure Sink (m : Type -> Type) where
  /-- Offer bytes. The result is how many of them were taken, or a failure. An offer that is
  interrupted is made again and has no result of its own. -/
  take : List UInt8 -> m (Except String Nat)
  /-- Make sure that the bytes that were taken arrive. -/
  flush : m (Except String Unit)

namespace Sink

variable {m : Type -> Type} [Monad m]

/-- Offer bytes until all of them are taken. -/
def takeAll (sink : Sink m) : (limit : Nat) -> List UInt8 -> m (Except String Unit)
  | _, [] => return .ok ()
  | 0, _ :: _ => return .error "failed to write whole buffer"
  | limit + 1, first :: rest => do
      match ← sink.take (first :: rest) with
      | .error reason => return .error reason
      | .ok 0 => return .error "failed to write whole buffer"
      | .ok (count + 1) => sink.takeAll limit (rest.drop count)

/-- Offer pieces of text one after the other. -/
def takePieces (sink : Sink m) : List String -> m (Except String Unit)
  | [] => return .ok ()
  | piece :: rest => do
      let bytes := utf8 piece
      match ← sink.takeAll bytes.length bytes with
      | .error reason => return .error reason
      | .ok () => sink.takePieces rest

/-! ## Waiting bytes -/

/-- How many bytes can wait before they are offered to a sink. -/
def waitingRoom : Nat := 8192

/-- Offer the bytes that wait until none is left. Those that are not taken wait on. -/
def drain (sink : Sink m) : (limit : Nat) -> StateT (List UInt8) m (Except String Unit)
  | 0 => return .error "failed to write the buffered data"
  | limit + 1 => do
      let waiting ← get
      if waiting.isEmpty then return .ok ()
      match ← (sink.take waiting : m (Except String Nat)) with
      | .error reason => return .error reason
      | .ok 0 => return .error "failed to write the buffered data"
      | .ok (count + 1) =>
          set (waiting.drop (count + 1))
          sink.drain limit

/-- Offer all bytes that wait. -/
def drainAll (sink : Sink m) : StateT (List UInt8) m (Except String Unit) := do
  sink.drain ((← get).length + 1)

/-- Make room for so many bytes beside those that wait. -/
def makeRoom (sink : Sink m) (count : Nat) : StateT (List UInt8) m (Except String Unit) := do
  if waitingRoom < (← get).length + count then sink.drainAll else return .ok ()

/-- The sink that lets bytes wait before it offers them to another one. Bytes for which there is
never room do not wait. -/
def buffered (sink : Sink m) : Sink (StateT (List UInt8) m) where
  take bytes := do
    match ← sink.makeRoom bytes.length with
    | .error reason => return .error reason
    | .ok () =>
        if bytes.length < waitingRoom then
          modify (· ++ bytes)
          return .ok bytes.length
        else
          let taken ← (sink.takeAll bytes.length bytes : m (Except String Unit))
          return (fun _ => bytes.length) <$> taken
  flush := do
    match ← sink.drainAll with
    | .error reason => return .error reason
    | .ok () => (sink.flush : m (Except String Unit))

end Sink

/-- Why a table was not written. -/
inductive WriteFailure
  | write (reason : String)
  | flush (reason : String)
  deriving DecidableEq

/-- Why a table was not written, in words. -/
def WriteFailure.message : WriteFailure -> String
  | .write reason => "Failed to write extraction table: " ++ reason
  | .flush reason => "Failed to flush extraction table: " ++ reason

/-- Write a table to a sink. -/
def Table.write {m : Type -> Type} [Monad m] (table : Table) (sink : Sink m) :
    m (Except WriteFailure Unit) := do
  match ← sink.takePieces table.toJson.pieces with
  | .error reason => return .error (.write reason)
  | .ok () =>
      match ← sink.flush with
      | .error reason => return .error (.flush reason)
      | .ok () => return .ok ()

/-- A buffer with room for so many bytes. -/
structure Buffer where
  /-- The bytes that were taken. -/
  taken : List UInt8
  /-- How many more bytes have room. -/
  room : Nat

/-- The sink that fills a buffer, and that may fail when it is flushed. -/
def Buffer.sink (failsAtFlush : Bool) : Sink (StateM Buffer) where
  take bytes := fun buffer =>
    if buffer.room = 0 then (.error "sink full", buffer)
    else
      let count := min buffer.room bytes.length
      (.ok count,
        { taken := buffer.taken ++ bytes.take count, room := buffer.room - count })
  flush := fun buffer => (if failsAtFlush then .error "flush failed" else .ok (), buffer)

end Extraction
end ErrorTemplates
