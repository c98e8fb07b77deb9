import ErrorTemplates.Files.Tree
import Mathlib.Data.List.TakeWhile

/-!
# Parents of paths

The parent of a path is a beginning of it that ends before a slash, and what follows the slash has a
name in it. So a path is longer than its parent. Its parts are those before the slash and those
after it.
-/

namespace ErrorTemplates
namespace Files
namespace Path

/-! ## Last parts -/

theorem lastPart_slash (reversed : List Char) : lastPart ('/' :: reversed) = ([], reversed) := by
  simp [lastPart]

theorem lastPart_cons
    {character : Char}
    (notSlash : character ≠ '/')
    (reversed : List Char) :
    lastPart (character :: reversed) =
      (character :: (lastPart reversed).1, (lastPart reversed).2) := by
  simp [lastPart, notSlash]

/-- There are no slashes in a last part. -/
theorem not_slash_of_mem_lastPart
    {reversed : List Char}
    {character : Char}
    (mem : character ∈ (lastPart reversed).1) : character ≠ '/' := by
  have allNamed := List.all_takeWhile (p := fun character => character != '/') (l := reversed)
  simpa using List.all_eq_true.mp allNamed character mem

theorem lastPart_subset (reversed : List Char) : (lastPart reversed).1 ⊆ reversed :=
  (List.takeWhile_sublist _).subset

/-- A path is its last part, or a slash stands before the last part. -/
theorem eq_lastPart (reversed : List Char) :
    (reversed = (lastPart reversed).1 ∧ (lastPart reversed).2 = []) ∨
      reversed = (lastPart reversed).1 ++ '/' :: (lastPart reversed).2 := by
  induction reversed with
  | nil => exact .inl ⟨rfl, rfl⟩
  | cons character rest inductionHypothesis =>
      by_cases isSlash : character = '/'
      · subst isSlash
        rw [lastPart_slash]
        exact .inr rfl
      · rw [lastPart_cons isSlash]
        rcases inductionHypothesis with ⟨whole, none⟩ | split
        · exact .inl ⟨congrArg _ whole, none⟩
        · exact .inr (congrArg _ split)

/-! ## Trimmed paths -/

/-- What is left of a reversed path is nothing, or all of it, or what stands before a slash. -/
def IsFront (left reversed : List Char) : Prop :=
  left = [] ∨ left = reversed ∨ ∃ dropped, reversed = dropped ++ '/' :: left

theorem isFront_trimmed (limit : Nat) (reversed : List Char) :
    IsFront (trimmed limit reversed) reversed := by
  fun_induction trimmed limit reversed with
  | case1 reversed => exact .inr (.inl rfl)
  | case2 => exact .inl rfl
  | case3 limit reversed _ part before parted isVoidPart inductionHypothesis =>
      have split := eq_lastPart reversed
      simp only [parted] at split
      rcases split with ⟨_, none⟩ | split
      · rcases inductionHypothesis with nothing | whole | ⟨dropped, before_eq⟩
        · exact .inl nothing
        · exact .inl (whole.trans none)
        · simp [none] at before_eq
      · rcases inductionHypothesis with nothing | whole | ⟨dropped, before_eq⟩
        · exact .inl nothing
        · rw [whole]
          exact .inr (.inr ⟨part, split⟩)
        · refine .inr (.inr ⟨part ++ '/' :: dropped, ?_⟩)
          rw [List.append_assoc, List.cons_append, ← before_eq]
          exact split
  | case4 => exact .inr (.inl rfl)

/-- The last part of a trimmed path counts. -/
theorem not_void_trimmed
    {limit : Nat}
    {reversed : List Char}
    (enough : reversed.length ≤ limit)
    (left : trimmed limit reversed ≠ []) :
    isVoid (lastPart (trimmed limit reversed)).1 = false := by
  fun_induction trimmed limit reversed with
  | case1 reversed => exact absurd (List.eq_nil_of_length_eq_zero (Nat.le_zero.mp enough)) left
  | case2 => exact absurd rfl left
  | case3 limit reversed _ part before parted _ inductionHypothesis =>
      refine inductionHypothesis ?_ left
      have split := eq_lastPart reversed
      simp only [parted] at split
      rcases split with ⟨_, none⟩ | split
      · exact none ▸ Nat.zero_le limit
      · rw [split, List.length_append, List.length_cons] at enough
        omega
  | case4 limit reversed _ part before parted counts =>
      rw [parted]
      exact Bool.eq_false_iff.mpr counts

/-- What is left before the last part stands before a slash. -/
theorem before_lastPart
    {limit : Nat}
    {reversed : List Char}
    (left : trimmed limit (lastPart reversed).2 ≠ []) :
    ∃ dropped, reversed = dropped ++ '/' :: trimmed limit (lastPart reversed).2 ∧
      (lastPart reversed).1 ⊆ dropped := by
  have isFront := isFront_trimmed limit (lastPart reversed).2
  have parts := eq_lastPart reversed
  generalize lastPart reversed = last at *
  obtain ⟨part, before⟩ := last
  simp only at left isFront parts ⊢
  rcases parts with ⟨_, rfl⟩ | parts
  · rcases isFront with nothing | whole | ⟨dropped, before_eq⟩
    · exact absurd nothing left
    · exact absurd whole left
    · simp at before_eq
  · rcases isFront with nothing | whole | ⟨dropped, before_eq⟩
    · exact absurd nothing left
    · rw [whole]
      exact ⟨part, parts, List.Subset.refl part⟩
    · refine ⟨part ++ '/' :: dropped, ?_, List.subset_append_left part _⟩
      rw [List.append_assoc, List.cons_append, ← before_eq]
      exact parts

/-! ## Parents -/

/-- A path is its front and the rest. A rest after a point begins with a slash. -/
theorem eq_splitFront (path : Path) :
    path = (splitFront path).1 ++ (splitFront path).2 ∧
      ((splitFront path).1 = [] ∨ (splitFront path).1 = ['/'] ∨
        (splitFront path).2 = [] ∨ ∃ rest, (splitFront path).2 = '/' :: rest) := by
  fun_cases splitFront path with
  | case1 rest => exact ⟨rfl, .inr (.inl rfl)⟩
  | case2 => exact ⟨rfl, .inr (.inr (.inl rfl))⟩
  | case3 rest => exact ⟨rfl, .inr (.inr (.inr ⟨rest, rfl⟩))⟩
  | case4 => exact ⟨rfl, .inl rfl⟩

/-- A path lies below a beginning of it if a slash and a part that is not empty follow. Every path
after a single slash lies below it. -/
def IsBelow (parent path : Path) : Prop :=
  ∃ rest, (path = parent ++ '/' :: rest ∨ parent = ['/'] ∧ path = '/' :: rest) ∧
    ∃ character ∈ rest, character ≠ '/'

/-- A path lies below its front if something else is in it. -/
theorem isBelow_front
    {start body : Path}
    (front : start = [] ∨ start = ['/'] ∨ body = [] ∨ ∃ rest, body = '/' :: rest)
    (isNamed : start ≠ [])
    {character : Char}
    (mem : character ∈ body)
    (named : character ≠ '/') : IsBelow start (start ++ body) := by
  rcases front with noFront | rfl | rfl | ⟨rest, rfl⟩
  · exact absurd noFront isNamed
  · exact ⟨body, .inr ⟨rfl, rfl⟩, character, mem, named⟩
  · simp at mem
  · exact ⟨rest, .inl rfl, character, (List.mem_cons.mp mem).resolve_left named, named⟩

/-- A path lies below its parent. -/
theorem isBelow_parent
    {path parent : Path}
    (isParent : path.parent? = some parent)
    (isNamed : parent ≠ []) : IsBelow parent path := by
  obtain ⟨path_eq, front⟩ := eq_splitFront path
  rw [parent?] at isParent
  generalize splitFront path = fronts at *
  obtain ⟨start, body⟩ := fronts
  simp only at path_eq front isParent
  have bodyFront := isFront_trimmed body.length body.reverse
  have enough : body.reverse.length ≤ body.length := Nat.le_of_eq List.length_reverse
  have counts := not_void_trimmed enough
  generalize trimmed body.length body.reverse = kept at *
  split at isParent
  · split at isParent
    · exact absurd (Option.some.inj isParent).symm isNamed
    · simp at isParent
  · next left =>
      have keptLeft : kept ≠ [] := by simpa using left
      obtain ⟨character, mem⟩ : ∃ character, character ∈ (lastPart kept).1 := by
        refine List.exists_mem_of_ne_nil _ fun nothing => ?_
        simpa [nothing, isVoid] using counts keptLeft
      have named : character ≠ '/' := not_slash_of_mem_lastPart mem
      obtain ⟨tail, body_eq⟩ : ∃ tail, body = kept.reverse ++ tail := by
        rcases bodyFront with nothing | whole | ⟨dropped, before⟩
        · exact absurd nothing keptLeft
        · exact ⟨[], by simp [whole]⟩
        · exact ⟨'/' :: dropped.reverse, by simpa using congrArg List.reverse before⟩
      have parent_eq := Option.some.inj isParent
      by_cases nothing : trimmed (lastPart kept).2.length (lastPart kept).2 = []
      · -- Only the front is before the last part.
        have memBody : character ∈ body := by
          rw [body_eq]
          exact List.mem_append_left tail (List.mem_reverse.mpr (lastPart_subset kept mem))
        rw [nothing, List.reverse_nil, List.append_nil] at parent_eq
        rw [path_eq, ← parent_eq]
        exact isBelow_front front (parent_eq.symm ▸ isNamed) memBody named
      · obtain ⟨dropped, kept_eq, subset⟩ := before_lastPart nothing
        refine ⟨dropped.reverse ++ tail, .inl ?_, character, by simp [subset mem], named⟩
        calc
          path = start ++ (kept.reverse ++ tail) := by rw [path_eq, body_eq]
          _ = parent ++ '/' :: (dropped.reverse ++ tail) := by
            rw [kept_eq, ← parent_eq]
            simp

/-- A path is longer than what it lies below. -/
theorem IsBelow.length_lt {parent path : Path} (isBelow : IsBelow parent path) :
    parent.length < path.length := by
  obtain ⟨rest, path_eq | ⟨rfl, rfl⟩, character, mem, _⟩ := isBelow
  · rw [path_eq, List.length_append, List.length_cons]
    omega
  · simpa using List.length_pos_of_mem mem

/-! ## Parts -/

theorem parts_ne_nil (path : Path) : parts path ≠ [] := by
  fun_cases parts path <;> simp_all

theorem parts_append_slash (front rest : Path) :
    parts (front ++ '/' :: rest) = parts front ++ parts rest := by
  induction front with
  | nil => rfl
  | cons character front inductionHypothesis =>
      rw [List.cons_append, parts, parts, inductionHypothesis]
      split
      · rfl
      · obtain ⟨part, others, front_eq⟩ := List.exists_cons_of_ne_nil (parts_ne_nil front)
        rw [front_eq]
        rfl

end Path
end Files
end ErrorTemplates
