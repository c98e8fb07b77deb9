import ErrorTemplates.Proofs.Files.Parent

/-!
# The way up from a path

Paths that are written differently can be the same path. What tells them apart is whether they
begin at the root or at a single point, and the parts that count. The parent of a path lacks the
last of these parts, so every way up comes to an end.
-/

namespace ErrorTemplates
namespace Files
namespace Path

/-! ## The parts that count -/

/-- The parts of a path that count. -/
def countedParts (path : Path) : List (List Char) := (parts path).filter fun part => !isVoid part

/-- What a path is, however it is written: its front and the parts that count after it. -/
def components (path : Path) : Path × List (List Char) :=
  ((splitFront path).1, countedParts (splitFront path).2)

@[simp] theorem countedParts_nil : countedParts [] = [] := rfl

theorem countedParts_append_slash (front rest : Path) :
    countedParts (front ++ '/' :: rest) = countedParts front ++ countedParts rest := by
  rw [countedParts, parts_append_slash, List.filter_append]
  rfl

/-- A text without slashes is a part. -/
theorem parts_of_no_slash
    {part : List Char}
    (noSlash : ∀ character ∈ part, character ≠ '/') : parts part = [part] := by
  induction part with
  | nil => rfl
  | cons character rest inductionHypothesis =>
      obtain ⟨notSlash, others⟩ := List.forall_mem_cons.mp noSlash
      rw [parts, if_neg notSlash, inductionHypothesis others]

theorem countedParts_of_no_slash
    {part : List Char}
    (noSlash : ∀ character ∈ part, character ≠ '/') :
    countedParts part = if isVoid part then [] else [part] := by
  rw [countedParts, parts_of_no_slash noSlash]
  cases isVoidPart : isVoid part <;> simp [isVoidPart]

theorem isVoid_reverse (part : List Char) : isVoid part.reverse = isVoid part := by
  have same : (part.reverse = ['.']) = (part = ['.']) := by
    rw [List.reverse_eq_iff, List.reverse_singleton]
  simp [isVoid, Bool.beq_eq_decide_eq, same]

/-- The last part of a reversed path counts after those before it. -/
theorem countedParts_reverse (reversed : List Char) :
    countedParts reversed.reverse =
      countedParts (lastPart reversed).2.reverse ++
        if isVoid (lastPart reversed).1 then [] else [(lastPart reversed).1.reverse] := by
  have noSlash : ∀ character ∈ (lastPart reversed).1.reverse, character ≠ '/' :=
    fun character present => not_slash_of_mem_lastPart (List.mem_reverse.mp present)
  have ownPart := countedParts_of_no_slash noSlash
  rw [isVoid_reverse] at ownPart
  rw [← ownPart]
  rcases eq_lastPart reversed with ⟨whole, none⟩ | split
  · rw [none, List.reverse_nil, countedParts_nil, List.nil_append]
    exact congrArg (fun text => countedParts text.reverse) whole
  · rw [← countedParts_append_slash]
    refine congrArg countedParts ?_
    simpa using congrArg List.reverse split

/-- Parts that do not count are all that trimming takes away. -/
theorem countedParts_trimmed (limit : Nat) (reversed : List Char) :
    countedParts (trimmed limit reversed).reverse = countedParts reversed.reverse := by
  fun_induction trimmed limit reversed with
  | case1 => rfl
  | case2 limit reversed nothing =>
      rw [List.isEmpty_iff.mp nothing]
  | case3 limit reversed _ part before parted isVoidPart inductionHypothesis =>
      have counted := countedParts_reverse reversed
      simp only [parted, isVoidPart, if_true, List.append_nil] at counted
      rw [inductionHypothesis, counted]
  | case4 => rfl

/-! ## Fronts -/

/-- A text that begins with neither a slash nor a first part that is a single point. -/
theorem splitFront_of_plain
    {path : Path}
    (notRoot : ∀ rest, path = '/' :: rest -> False)
    (notPoint : path = ['.'] -> False)
    (notPointSlash : ∀ rest, path = '.' :: '/' :: rest -> False) :
    splitFront path = ([], path) := by
  fun_cases splitFront path with
  | case1 rest => exact absurd rfl (notRoot rest)
  | case2 => exact absurd rfl notPoint
  | case3 rest => exact absurd rfl (notPointSlash rest)
  | case4 => rfl

/-- A beginning of the rest of a path stands after the same front. -/
theorem splitFront_append
    {path before : Path}
    (isBefore : before = [] ∨ ∃ after, (splitFront path).2 = before ++ '/' :: after) :
    splitFront ((splitFront path).1 ++ before) = ((splitFront path).1, before) := by
  fun_cases splitFront path with
  | case1 rest => rfl
  | case2 =>
      rcases isBefore with rfl | ⟨after, nothing⟩
      · rfl
      · simp [splitFront] at nothing
  | case3 rest =>
      rcases isBefore with rfl | ⟨after, rest_eq⟩
      · rfl
      · simp only [splitFront] at rest_eq
        cases before with
        | nil => rfl
        | cons first others =>
            obtain ⟨rfl, _⟩ := List.cons.inj rest_eq
            rfl
  | case4 _ notRoot notPoint notPointSlash =>
      rw [splitFront_of_plain notRoot notPoint notPointSlash] at isBefore
      rcases isBefore with rfl | ⟨after, path_eq⟩
      · rfl
      · refine splitFront_of_plain ?_ ?_ ?_
        · rintro rest rfl
          exact notRoot _ path_eq
        · rintro rfl
          exact notPointSlash _ path_eq
        · rintro rest rfl
          exact notPointSlash _ path_eq

/-- What is put after a path stands after the same front, unless a point goes on. -/
theorem splitFront_append_right
    {path : Path}
    (isNamed : path ≠ [])
    (rest : Path)
    (afterPoint : path = ['.'] -> ∃ after, rest = '/' :: after) :
    splitFront (path ++ rest) = ((splitFront path).1, (splitFront path).2 ++ rest) := by
  fun_cases splitFront path with
  | case1 => rfl
  | case2 =>
      obtain ⟨after, rfl⟩ := afterPoint rfl
      rfl
  | case3 => rfl
  | case4 _ notRoot notPoint notPointSlash =>
      obtain ⟨first, others, rfl⟩ := List.exists_cons_of_ne_nil isNamed
      refine splitFront_of_plain ?_ ?_ ?_
      · intro tail path_eq
        exact notRoot others (by simp_all)
      · intro path_eq
        exact notPoint (by simp_all)
      · intro tail path_eq
        cases others with
        | nil => exact notPoint (by simp_all)
        | cons second others => exact notPointSlash others (by simp_all)

/-! ## Parents -/

/-- What remains when the last part that counts is taken away. -/
theorem components_of_parent?
    {path parent : Path}
    (isParent : path.parent? = some parent)
    (counted : (components path).2 ≠ []) :
    components parent = ((components path).1, (components path).2.dropLast) := by
  have fronted := @splitFront_append path
  simp only [components] at counted ⊢
  rw [parent?] at isParent
  generalize splitFront path = fronts at *
  obtain ⟨front, body⟩ := fronts
  simp only at counted fronted isParent ⊢
  have bodyFront := isFront_trimmed body.length body.reverse
  have enough : body.reverse.length ≤ body.length := Nat.le_of_eq List.length_reverse
  have counts := not_void_trimmed enough
  have keptCounted := countedParts_trimmed body.length body.reverse
  rw [List.reverse_reverse] at keptCounted
  generalize trimmed body.length body.reverse = kept at *
  split at isParent
  · next nothing =>
      rw [List.isEmpty_iff.mp nothing] at keptCounted
      exact absurd keptCounted.symm counted
  · next left =>
      have keptLeft : kept ≠ [] := by simpa using left
      have bodyCounted : countedParts body =
          countedParts (lastPart kept).2.reverse ++ [(lastPart kept).1.reverse] := by
        rw [← keptCounted, countedParts_reverse, if_neg (by simp [counts keptLeft])]
      have isBefore : (trimmed (lastPart kept).2.length (lastPart kept).2).reverse = [] ∨
          ∃ after, body =
            (trimmed (lastPart kept).2.length (lastPart kept).2).reverse ++ '/' :: after := by
        by_cases nothing : trimmed (lastPart kept).2.length (lastPart kept).2 = []
        · exact .inl (List.reverse_eq_nil_iff.mpr nothing)
        · obtain ⟨dropped, kept_eq, _⟩ := before_lastPart nothing
          right
          rcases bodyFront with none | whole | ⟨passed, before⟩
          · exact absurd none keptLeft
          · exact ⟨dropped.reverse, by simpa [whole] using congrArg List.reverse kept_eq⟩
          · refine ⟨dropped.reverse ++ '/' :: passed.reverse, ?_⟩
            rw [kept_eq] at before
            simpa using congrArg List.reverse before
      rw [← Option.some.inj isParent, fronted isBefore, countedParts_trimmed, bodyCounted,
        List.dropLast_concat]

/-- A path with a part that counts has a parent. -/
theorem exists_parent?
    {path : Path}
    (counted : (components path).2 ≠ []) : ∃ parent, path.parent? = some parent := by
  have keptCounted :=
    countedParts_trimmed (splitFront path).2.length (splitFront path).2.reverse
  rw [List.reverse_reverse] at keptCounted
  rw [parent?]
  simp only
  split
  · next nothing =>
      rw [List.isEmpty_iff.mp nothing] at keptCounted
      exact absurd keptCounted.symm counted
  · exact ⟨_, rfl⟩

/-- Every parent is shorter. -/
theorem length_lt_of_parent?
    {path parent : Path}
    (isParent : path.parent? = some parent) : parent.length < path.length := by
  by_cases isNamed : parent = []
  · subst isNamed
    refine List.length_pos_iff.mpr ?_
    rintro rfl
    simp [parent?, splitFront, trimmed] at isParent
  · exact (isBelow_parent isParent isNamed).length_lt

/-! ## Joined names -/

/-- What is put after a slash, or alone, counts after what counts before it. -/
theorem countedParts_append
    {body : Path}
    (isOpen : body = [] ∨ body.getLast? = some '/')
    (rest : Path) : countedParts (body ++ rest) = countedParts body ++ countedParts rest := by
  rcases isOpen with rfl | isOpen
  · rfl
  · obtain ⟨front, rfl⟩ := List.getLast?_eq_some_iff.mp isOpen
    simp [countedParts_append_slash]

/-- A name in a directory is the last part that counts. -/
theorem components_join
    {name : Path}
    (noSlash : ∀ character ∈ name, character ≠ '/')
    (counts : isVoid name = false)
    (directory : Path) :
    components (directory.join name) =
      ((components directory).1, (components directory).2 ++ [name]) := by
  have ownPart : countedParts name = [name] := by
    rw [countedParts_of_no_slash noSlash, counts]
    rfl
  have notRoot : ∀ rest, name = '/' :: rest -> False := by
    rintro rest rfl
    exact noSlash '/' List.mem_cons_self rfl
  have isRelative : name.isAbsolute = false := by
    rw [isAbsolute]
    exact notRoot
  by_cases isHere : directory = []
  · subst isHere
    have plain : splitFront name = ([], name) := by
      refine splitFront_of_plain notRoot ?_ ?_
      · rintro rfl
        simp [isVoid] at counts
      · rintro rest rfl
        exact noSlash '/' (by simp) rfl
    rw [join_nil_left, components, plain, ownPart]
    rfl
  · rw [join, if_neg (by simp [isRelative])]
    obtain ⟨path_eq, _⟩ := eq_splitFront directory
    split
    · next isEnd =>
        have isOpen : directory.getLast? = some '/' := by simpa [isHere] using isEnd
        have bodyOpen :
            (splitFront directory).2 = [] ∨ (splitFront directory).2.getLast? = some '/' := by
          by_cases nothing : (splitFront directory).2 = []
          · exact .inl nothing
          · rw [path_eq, List.getLast?_append, Option.or_eq_some_iff] at isOpen
            rcases isOpen with isEnd | ⟨none, _⟩
            · exact .inr isEnd
            · exact absurd (List.getLast?_eq_none_iff.mp none) nothing
        rw [components, splitFront_append_right isHere name ?_, countedParts_append bodyOpen,
          ownPart]
        · rfl
        · rintro rfl
          simp at isOpen
    · rw [components, splitFront_append_right isHere ('/' :: name) fun _ => ⟨name, rfl⟩,
        countedParts_append_slash, ownPart]
      rfl

/-- The parent of a name in a directory is the directory, perhaps written differently. -/
theorem exists_parent?_join
    {name : Path}
    (noSlash : ∀ character ∈ name, character ≠ '/')
    (counts : isVoid name = false)
    (directory : Path) :
    ∃ parent, (directory.join name).parent? = some parent ∧
      components parent = components directory := by
  have joined := components_join noSlash counts directory
  have counted : (components (directory.join name)).2 ≠ [] := by simp [joined]
  obtain ⟨parent, isParent⟩ := exists_parent? counted
  refine ⟨parent, isParent, ?_⟩
  rw [components_of_parent? isParent counted, joined, List.dropLast_concat]

/-! ## Ancestors -/

/-- What stands the given number of steps above a path. -/
def ancestor? : (steps : Nat) -> Path -> Option Path
  | 0, path => some path
  | steps + 1, path => path.parent?.bind (ancestor? steps)

@[simp] theorem ancestor?_zero (path : Path) : ancestor? 0 path = some path := rfl

theorem ancestor?_succ_of_parent?
    {path parent : Path}
    (isParent : path.parent? = some parent)
    (steps : Nat) : ancestor? (steps + 1) path = ancestor? steps parent := by
  rw [ancestor?, isParent, Option.bind_some]

theorem ancestor?_succ_of_top
    {path : Path}
    (isTop : path.parent? = none)
    (steps : Nat) : ancestor? (steps + 1) path = none := by
  rw [ancestor?, isTop, Option.bind_none]

/-- The way up has an end. -/
theorem ancestor?_eq_none {steps : Nat} {path : Path} (far : path.length < steps) :
    ancestor? steps path = none := by
  induction steps generalizing path with
  | zero => exact absurd far (Nat.not_lt_zero _)
  | succ steps inductionHypothesis =>
      cases isParent : path.parent? with
      | none => exact ancestor?_succ_of_top isParent steps
      | some parent =>
          rw [ancestor?_succ_of_parent? isParent]
          have shorter := length_lt_of_parent? isParent
          exact inductionHypothesis (by omega)

end Path
end Files
end ErrorTemplates
