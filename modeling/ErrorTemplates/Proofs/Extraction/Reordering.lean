import ErrorTemplates.Proofs.Extraction.Recording
import Mathlib.Data.List.Sort

/-!
# First and last elements in another order

When elements are put in the order of where they start, their keys occur for the first time in
the same order as before, and the last element with a property has the same key as before, if
no two elements whose keys matter change places.
-/

namespace ErrorTemplates
namespace Extraction

/-- Elements in the order of where they start. -/
def sortedByStart (start : α -> Nat) (elements : List α) : List α :=
  elements.insertionSort fun one other => start one ≤ start other

theorem perm_sortedByStart (start : α -> Nat) (elements : List α) :
    (sortedByStart start elements).Perm elements :=
  List.perm_insertionSort _ elements

theorem pairwise_sortedByStart
    {start : α -> Nat}
    {elements : List α}
    (distinct : elements.Pairwise fun one other => start one ≠ start other) :
    (sortedByStart start elements).Pairwise fun one other => start one < start other := by
  let startsBefore (one other : α) : Prop := start one ≤ start other
  have total : Std.Total startsBefore := ⟨fun one other => Nat.le_total _ _⟩
  have transitive : IsTrans α startsBefore := ⟨fun _ _ _ => Nat.le_trans⟩
  have sorted := List.pairwise_insertionSort startsBefore elements
  have distinct : (sortedByStart start elements).Pairwise
      fun one other => start one ≠ start other :=
    ((perm_sortedByStart start elements).pairwise_iff Ne.symm).mpr distinct
  exact sorted.imp₂ (fun _ _ => Nat.lt_of_le_of_ne) distinct

/-- Elements that start in order keep their order. -/
theorem sortedByStart_eq_self
    {start : α -> Nat}
    {elements : List α}
    (inOrder : elements.Pairwise fun one other => start one < start other) :
    sortedByStart start elements = elements :=
  List.Pairwise.insertionSort_eq (inOrder.imp Nat.le_of_lt)

section
variable {start : α -> Nat} {elements sorted : List α}
variable (same : sorted.Perm elements)
variable (inText : sorted.Pairwise fun one other => start one < start other)

/-! ## First elements -/

/-- Some element of one key stands before all elements of another key. -/
def Precedes
    (Before : α -> α -> Prop)
    (elements : List α)
    (key : α -> β)
    (one other : β) : Prop :=
  ∃ element ∈ elements, key element = one ∧
    ∀ rival ∈ elements, key rival = other -> Before element rival

/-- Keys stand in the order of their first elements. -/
theorem pairwise_eraseDups_map [BEq β] [LawfulBEq β]
    {Before : α -> α -> Prop}
    (inOrder : elements.Pairwise Before)
    (key : α -> β) :
    (elements.map key).eraseDups.Pairwise (Precedes Before elements key) := by
  induction elements using List.reverseRecOn with
  | nil => exact List.Pairwise.nil
  | append_singleton elements element inductionHypothesis =>
      obtain ⟨inOrder, _, beforeLast⟩ := List.pairwise_append.mp inOrder
      have keep : (elements.map key).eraseDups.Pairwise
          (Precedes Before (elements ++ [element]) key) := by
        refine (inductionHypothesis inOrder).imp ?_
        rintro one other ⟨former, present, isOne, before⟩
        refine ⟨former, List.mem_append_left _ present, isOne, fun rival isRival isOther => ?_⟩
        rcases List.mem_append.mp isRival with isFormer | isLast
        · exact before rival isFormer isOther
        · exact beforeLast former present rival isLast
      rw [List.map_append, List.map_singleton, Table.eraseDups_concat]
      split
      · exact keep
      · next isNew =>
          refine List.pairwise_append.mpr ⟨keep, List.pairwise_singleton _ _, ?_⟩
          intro one isOne other isOther
          obtain rfl := List.mem_singleton.mp isOther
          obtain ⟨former, present, isOne⟩ := List.mem_map.mp (List.mem_eraseDups.mp isOne)
          refine ⟨former, List.mem_append_left _ present, isOne, fun rival isRival sameKey => ?_⟩
          rcases List.mem_append.mp isRival with isFormer | isLast
          · exact absurd (List.mem_eraseDups.mpr (sameKey ▸ List.mem_map_of_mem isFormer)) isNew
          · exact beforeLast former present rival isLast

include same inText

/-- The keys have the same order when only elements of the same key change places. -/
theorem eraseDups_map_eq_of_sorted [BEq β] [LawfulBEq β]
    {key : α -> β}
    (inOrder : elements.Pairwise fun one other => key one ≠ key other -> start one < start other) :
    (sorted.map key).eraseDups = (elements.map key).eraseDups := by
  let Before (one other : α) : Prop := key one ≠ key other -> start one < start other
  have inSorted : sorted.Pairwise Before := by
    refine inText.imp ?_
    intro one other before _
    exact before
  have ofSorted : (sorted.map key).eraseDups.Pairwise (Precedes Before elements key) := by
    refine (pairwise_eraseDups_map inSorted key).imp ?_
    rintro one other ⟨element, present, isOne, before⟩
    exact ⟨element, same.mem_iff.mp present, isOne, fun rival isRival =>
      before rival (same.mem_iff.mpr isRival)⟩
  have sameKeys : (sorted.map key).eraseDups.Perm (elements.map key).eraseDups :=
    (List.perm_ext_iff_of_nodup (Table.nodup_eraseDups _) (Table.nodup_eraseDups _)).mpr
      fun found => by rw [List.mem_eraseDups, List.mem_eraseDups, (same.map key).mem_iff]
  refine sameKeys.eq_of_pairwise ?_ ofSorted (pairwise_eraseDups_map inOrder key)
  -- Two keys do not both have an element before all elements of the other one.
  rintro _ _ _ _ ⟨element, present, rfl, before⟩ ⟨rival, isPresent, rfl, after⟩
  by_contra differ
  have isBefore := before rival isPresent rfl differ
  have isAfter := after element present rfl (Ne.symm differ)
  omega

/-! ## Last elements -/

omit same inText in
theorem of_find?_reverse
    {Before : α -> α -> Prop}
    (inOrder : elements.Pairwise Before)
    {holds : α -> Bool}
    {element : α}
    (found : elements.reverse.find? holds = some element) :
    element ∈ elements ∧ holds element = true ∧
      ∀ rival ∈ elements, holds rival = true -> rival = element ∨ Before rival element := by
  obtain ⟨isHeld, later, earlier, reversed, notLater⟩ := List.find?_eq_some_iff_append.mp found
  have elements_eq : elements = earlier.reverse ++ element :: later.reverse := by
    rw [← List.reverse_reverse elements, reversed]
    simp
  obtain ⟨_, _, before⟩ := List.pairwise_append.mp (elements_eq ▸ inOrder)
  refine ⟨by simp [elements_eq], isHeld, fun rival isRival rivalHeld => ?_⟩
  rw [elements_eq] at isRival
  rcases List.mem_append.mp isRival with isEarlier | isRest
  · exact .inr (before rival isEarlier element List.mem_cons_self)
  rcases List.mem_cons.mp isRest with rfl | isLater
  · exact .inl rfl
  · have notHeld := notLater rival (List.mem_reverse.mp isLater)
    simp [rivalHeld] at notHeld

/-- The last element has the same key when only elements of the same key change places. -/
theorem find?_reverse_map_eq_of_sorted
    {key : α -> β}
    {holds : α -> Bool}
    (inOrder : elements.Pairwise fun one other =>
      holds one = true -> holds other = true -> key one ≠ key other -> start one < start other) :
    (sorted.reverse.find? holds).map key = (elements.reverse.find? holds).map key := by
  cases inElements : elements.reverse.find? holds with
  | none =>
      rw [List.find?_eq_none] at inElements
      have inSorted : sorted.reverse.find? holds = none := by
        rw [List.find?_eq_none]
        intro element present
        exact inElements element (by simpa [same.mem_iff] using present)
      rw [inSorted]
  | some last =>
      obtain ⟨present, isHeld, isLast⟩ := of_find?_reverse inOrder inElements
      have isFound : (sorted.reverse.find? holds).isSome :=
        List.find?_isSome.mpr ⟨last, by simpa [same.mem_iff] using present, isHeld⟩
      obtain ⟨another, inSorted⟩ := Option.isSome_iff_exists.mp isFound
      obtain ⟨anotherPresent, anotherHeld, isLastInText⟩ := of_find?_reverse inText inSorted
      rw [inSorted, Option.map_some, Option.map_some, Option.some.injEq]
      -- Each of the two would come before the other one.
      by_contra differ
      rcases isLast another (same.mem_iff.mp anotherPresent) anotherHeld with rfl | before
      · exact differ rfl
      rcases isLastInText last (same.mem_iff.mpr present) isHeld with rfl | after
      · exact differ rfl
      have further := before anotherHeld isHeld differ
      omega

end

end Extraction
end ErrorTemplates
