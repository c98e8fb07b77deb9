import ErrorTemplates.Proofs.CommandLine.Stages
import ErrorTemplates.Proofs.Files.Catalog

/-!
# Files that are written

A file is written in steps: its directory is made, the file is created, and its text is added to
it bit by bit. Each step can fail. If none does, the path leads to a file with the text. Otherwise
all files are as they were, or the path leads to a file with a beginning of the text. All other
files are as they were in any case.
-/

namespace ErrorTemplates
namespace CommandLine

open Files
open Extraction (Sink Table)
open Extraction.Sink (partTaken)
open Text (utf8)

/-- The end of writing a file. -/
inductive Delivery
    [Host (StateM σ)]
    (catalog : Catalog σ φ ι)
    (path : Path)
    (text : String)
    (before : φ) : Except Failure Unit -> φ -> Prop
  /-- The path leads to a file with the text, and all other files are as they were. -/
  | written
      {file : ι}
      {after : φ}
      (leads : catalog.file? after path = some file)
      (content_eq : catalog.content after file = utf8 text)
      (stays : catalog.StaysBut (· = file) before after) :
      Delivery catalog path text before (.ok ()) after
  /-- The path leads to a file with a beginning of the text, and all other files are as they
  were. -/
  | begun
      {failure : Failure}
      {file : ι}
      {after : φ}
      (leads : catalog.file? after path = some file)
      (isPrefix : catalog.content after file <+: utf8 text)
      (stays : catalog.StaysBut (· = file) before after) :
      Delivery catalog path text before (.error failure) after
  /-- All files are as they were. -/
  | untouched
      {failure : Failure}
      {after : φ}
      (stays : catalog.StaysBut (fun _ => False) before after) :
      Delivery catalog path text before (.error failure) after

namespace Delivery

variable {σ φ ι : Type} [Host (StateM σ)] {catalog : Catalog σ φ ι}
variable {path other : Path} {text otherText : String} {before middle after : φ}
variable {result : Except Failure Unit}

/-- A file that is written has its text. -/
theorem holds (delivery : Delivery catalog path text before (.ok ()) after) :
    catalog.Holds after path text := by
  obtain @⟨file, _, leads, content_eq, _⟩ := delivery
  rw [Catalog.Holds, leads, Option.map_some, content_eq]

/-- What stays before a file is written stays. -/
theorem of_staysBut
    (delivery : Delivery catalog path text middle result after)
    (stays : catalog.StaysBut (fun _ => False) before middle) :
    Delivery catalog path text before result after := by
  cases delivery with
  | written leads content_eq staysThen =>
      exact .written leads content_eq ((stays.weaken _).trans staysThen)
  | begun leads isPrefix staysThen =>
      exact .begun leads isPrefix ((stays.weaken _).trans staysThen)
  | untouched staysThen => exact .untouched (stays.trans staysThen)

/-- What stays after a file was written or not does not undo that. -/
theorem then_stays
    (delivery : Delivery catalog path text before result middle)
    (stays : catalog.StaysBut (fun _ => False) middle after) :
    Delivery catalog path text before result after := by
  cases delivery with
  | written leads content_eq staysThen =>
      exact .written (stays.leads leads) ((stays.contents leads id).trans content_eq)
        (staysThen.trans (stays.weaken _))
  | begun leads isPrefix staysThen =>
      exact .begun (stays.leads leads) ((stays.contents leads id).symm ▸ isPrefix)
        (staysThen.trans (stays.weaken _))
  | untouched staysThen => exact .untouched (staysThen.trans stays)

/-- Of two files that are written the first keeps its text unless the second is the same file and
has another text. -/
theorem holds_first_iff
    (first : Delivery catalog path text before (.ok ()) middle)
    (second : Delivery catalog other otherText middle (.ok ()) after) :
    catalog.Holds after path text ↔
      (catalog.file? after path = catalog.file? after other -> text = otherText) := by
  obtain @⟨file, _, leads, content_eq, _⟩ := first
  obtain @⟨otherFile, _, otherLeads, otherContent_eq, stays⟩ := second
  have leadsThen := stays.leads leads
  rw [Catalog.Holds, leadsThen, otherLeads, Option.map_some, Option.some.injEq, Option.some.injEq]
  by_cases isSame : file = otherFile
  · subst isSame
    rw [otherContent_eq, Text.utf8_inj]
    exact ⟨fun same _ => same.symm, fun same => (same rfl).symm⟩
  · rw [stays.contents leads isSame]
    exact iff_of_true content_eq fun same => absurd same isSame

end Delivery

section
variable {σ φ ι : Type} [Host (StateM σ)] {view : View σ φ} {catalog : Catalog σ φ ι}
variable (faithful : Faithful view) (stores : catalog.Stores view)
include faithful stores

/-! ## Directories -/

/-- To make directories and to tell something leaves all files as they are. -/
theorem harmless_of_stores (before : σ) :
    Harmless (Semantics.states σ)
      (fun system => catalog.StaysBut (fun _ => False) (view.files before) (view.files system))
      (fun _ => False) (fun _ => False) fun _ => True where
  pathExists path system stays := by
    change catalog.StaysBut _ _ (view.files ((Host.pathExists (m := StateM σ) path).run system).2)
    rwa [faithful.pathExists]
  isDirectory path system stays := by
    change catalog.StaysBut _ _ (view.files ((Host.isDirectory (m := StateM σ) path).run system).2)
    rwa [faithful.isDirectory]
  readText isAllowed := isAllowed.elim
  makeDirectory path system stays := stays.trans (stores.makeDirectory path system)
  create isAllowed := isAllowed.elim
  write _ isOpen := isOpen.elim
  say {stream} text _ system stays := by
    change catalog.StaysBut _ _ (view.files ((Host.say (m := StateM σ) stream text).run system).2)
    rwa [(faithful.say stream text system).files_eq]
  elapsed system stays := by
    change catalog.StaysBut _ _ (view.files ((Host.elapsed (m := StateM σ)).run system).2)
    rwa [faithful.elapsed]

theorem staysBut_makeParent (path : Path) (before : σ) :
    catalog.StaysBut (fun _ => False) (view.files before)
      (view.files (perform (makeParent path) before).2) :=
  (((harmless_of_stores faithful stores before).keeps_makeParent (fun _ => id) path).performed
    (.refl _ _)).1

omit faithful

/-! ## Files -/

/-- A file is open at its end and has some bytes, and all other files are as they were. -/
structure Holding
    (view : View σ φ)
    (catalog : Catalog σ φ ι)
    (path : Path)
    (opened : Host.File (StateM σ))
    (file : ι)
    (before : φ)
    (taken : List UInt8)
    (system : σ) : Prop where
  leads : catalog.file? (view.files system) path = some file
  content_eq : catalog.content (view.files system) file = taken
  atEnd : catalog.isAtEnd system opened file
  stays : catalog.StaysBut (· = file) before (view.files system)

/-- An open file takes as many bytes as it says. -/
theorem counts_holding
    (path : Path)
    (opened : Host.File (StateM σ))
    (file : ι)
    (before : φ) :
    Sink.Counts (Semantics.states σ) (fileSink (m := StateM σ) opened)
      (Holding view catalog path opened file before) fun _ _ => True where
  take {taken system} bytes held := by
    refine (Semantics.states σ).ends_bind ?_
    rcases ran : (Host.write (m := StateM σ) opened bytes).run system with ⟨result, after⟩
    obtain ⟨content_eq, atEnd, stays⟩ :=
      stores.write opened bytes system result after ran held.atEnd
    have part_eq : partTaken bytes (result.mapError OsError.message) = partTaken bytes result := by
      cases result <;> rfl
    simp only [Semantics.states, ran]
    refine ⟨stays.leads held.leads, ?_, atEnd, held.stays.trans stays⟩
    refine content_eq.trans ?_
    rw [held.content_eq]
    exact congrArg (taken ++ ·) part_eq.symm
  flush held := ⟨held, fun _ => trivial⟩

/-- What is done with a new file is a delivery if it is one when the file is there, open and
empty. -/
theorem delivery_create_bind
    {failing : OsError -> Failure}
    {path : Path}
    {text : String}
    {next : Host.File (StateM σ) -> ExceptT Failure (StateM σ) Unit}
    (before : σ)
    (delivers : ∀ opened file middle,
      Holding view catalog path opened file (view.files before) [] middle ->
        let done := perform (next opened) middle
        Delivery catalog path text (view.files before) done.1 (view.files done.2)) :
    let done := perform (attempt failing (Host.create (m := StateM σ) path) >>= next) before
    Delivery catalog path text (view.files before) done.1 (view.files done.2) := by
  intro done
  have done_eq : done = perform (attempt failing (Host.create (m := StateM σ) path) >>= next)
    before := rfl
  rcases created : (Host.create (m := StateM σ) path).run before with ⟨result, middle⟩
  have ends := stores.create path before result middle created
  rw [perform_bind, perform_attempt, created] at done_eq
  cases result with
  | error error =>
      rw [done_eq]
      exact .untouched ends
  | ok opened =>
      obtain ⟨file, leads, content_eq, atEnd, stays⟩ := ends
      rw [done_eq]
      exact delivers opened file middle ⟨leads, content_eq, atEnd, stays⟩

/-- To write a file delivers its text or a beginning of it, or leaves all files as they are. -/
theorem delivery_writeFile
    (failing : OsError -> Failure)
    (path : Path)
    (text : String)
    (before : σ) :
    let done := perform (writeFile failing path text) before
    Delivery catalog path text (view.files before) done.1 (view.files done.2) := by
  refine delivery_create_bind stores before fun opened file middle held => ?_
  have took : Sink.Took _ _ _ _ _ :=
    Sink.ends_takeAll (counts_holding stores path opened file (view.files before)).accounts []
      held (utf8 text).length (utf8 text)
  simp only [perform_bind, perform_liftM]
  generalize ((fileSink (m := StateM σ) opened).takeAll (utf8 text).length (utf8 text)).run
    middle = ended at took ⊢
  obtain ⟨result, after⟩ := ended
  obtain ⟨part, isPrefix, heldThen, all⟩ := took
  rw [List.nil_append] at heldThen
  cases result with
  | error reason =>
      exact .begun heldThen.leads (heldThen.content_eq ▸ isPrefix) heldThen.stays
  | ok => exact .written heldThen.leads (heldThen.content_eq.trans (all rfl)) heldThen.stays

include faithful

/-- To write a file after its directory delivers its text or a beginning of it, or leaves all files
as they are. -/
theorem delivery_makeParent_bind
    {path : Path}
    {text : String}
    {write : ExceptT Failure (StateM σ) Unit}
    (before : σ)
    (delivers : ∀ middle,
      let done := perform write middle
      Delivery catalog path text (view.files middle) done.1 (view.files done.2)) :
    let done := perform (makeParent path >>= fun _ => write) before
    Delivery catalog path text (view.files before) done.1 (view.files done.2) := by
  intro done
  have done_eq : done = perform (makeParent path >>= fun _ => write) before := rfl
  have stays := staysBut_makeParent faithful stores path before
  rw [perform_bind] at done_eq
  generalize perform (makeParent path) before = made at stays done_eq
  obtain ⟨failure | _, middle⟩ := made <;> rw [done_eq]
  · exact .untouched stays
  · exact (delivers middle).of_staysBut stays

/-- To write a table delivers its text or a beginning of it, or leaves all files as they are. -/
theorem delivery_writeMessages (path : Path) (table : Table) (before : σ) :
    let done := perform (writeMessages path table) before
    Delivery catalog path table.text (view.files before) done.1 (view.files done.2) := by
  refine delivery_makeParent_bind faithful stores before fun start => ?_
  refine delivery_create_bind stores start fun opened file middle held => ?_
  have counts := counts_holding stores path opened file (view.files start)
  have wrote := Sink.ends_write counts.buffered [] (Sink.waits_append [] [] held) table
  simp only [perform_bind, perform_liftM]
  rcases ran : ((table.write (fileSink (m := StateM σ) opened).buffered).run []).run middle with
    ⟨⟨written, waiting⟩, later⟩
  simp only [Semantics.beside, Semantics.states, ran] at wrote
  obtain ⟨⟨part, isPrefix, waits, all⟩, emptied⟩ := wrote
  have drained := counts.ends_drainAll waits
  rcases ranThen : ((fileSink (m := StateM σ) opened).drainAll.run waiting).run later with
    ⟨⟨_, left⟩, after⟩
  simp only [Semantics.beside, Semantics.states, ranThen] at drained
  obtain ⟨⟨arrived, taken_eq, heldThen⟩, _⟩ := drained
  simp only
  cases written with
  | error failure =>
      have isBeginning : arrived <+: utf8 table.text :=
        (List.prefix_append arrived left).trans (taken_eq ▸ isPrefix)
      exact .begun heldThen.leads (heldThen.content_eq ▸ isBeginning) heldThen.stays
  | ok =>
      -- After the table nothing waits, so nothing is left to be offered once more.
      obtain ⟨rfl, _⟩ := emptied rfl
      have noneLeft : ((fileSink (m := StateM σ) opened).drainAll.run []).run later =
          ((.ok (), []), later) := rfl
      obtain ⟨rfl, rfl⟩ : [] = left ∧ later = after := by
        rw [noneLeft] at ranThen
        obtain ⟨both, sameState⟩ := Prod.mk.inj ranThen
        exact ⟨(Prod.mk.inj both).2, sameState⟩
      have content_eq : arrived = utf8 table.text := by
        rw [← List.append_nil arrived, taken_eq, all rfl, List.nil_append]
      exact .written heldThen.leads (heldThen.content_eq.trans content_eq) heldThen.stays

end

end CommandLine
end ErrorTemplates
