import ErrorTemplates.Proofs.Json.Kinds

/-!
# Values that nobody asked for

A value is passed without a result, and no part of it is a fault. Brackets are not passed by
recursion, but by the list of those that are open. So what is proved of a text is that the brackets
around it are closed in the end, if this is so for the text that follows it.
-/

namespace ErrorTemplates
namespace Json

/-! ## Passing values -/

/-- Pass a value inside of brackets. In braces its key stands before it. -/
def passInside (limit : Nat) (bracket : Char) (nesting : Nesting) : Reader Unit := do
  if bracket = '\x7b' then passKey (limit + 1)
  passNested limit (bracket :: nesting)

/-- Close brackets, and go on inside of those that are left. -/
def resume (afterValue : Bool) (limit : Nat) (nesting : Nesting) : Reader Unit := do
  match ← closeBrackets afterValue nesting with
  | none => return ()
  | some [] => return ()
  | some (bracket :: outer) => passInside limit bracket outer

/-- The bracket that closes what a bracket opens. -/
def closing (bracket : Char) : Char := if bracket = '[' then ']' else '\x7d'

section
variable {before text rest final : List Char} {datum : Datum} {bracket : Char} {nesting : Nesting}
variable {limit : Nat} {afterValue : Bool}

/-- A value without parts is passed, and what follows goes on. -/
theorem passes_of_simple
    (simple : Yields (passSimple (limit + 1)) before (some (none, rest)))
    (resumes : Passes (resume true limit nesting) rest final) :
    Passes (passNested (limit + 1) nesting) before final := by
  rw [passNested]
  exact simple.passes resumes

theorem passes_of_bracket
    (opens : Yields (passSimple (limit + 1)) before (some (some bracket, rest)))
    (resumes : Passes (resume false limit (bracket :: nesting)) rest final) :
    Passes (passNested (limit + 1) nesting) before final := by
  rw [passNested]
  exact opens.passes resumes

theorem closing_eq (bracket : Char) : closing bracket = ']' ∨ closing bracket = '\x7d' :=
  ite_eq_or_eq _ _ _

theorem notBlank_closing (bracket : Char) : isBlank (closing bracket) = false := by
  rcases closing_eq bracket with isClosing | isClosing <;> rw [isClosing] <;> decide

/-- A bracket is closed. -/
theorem passes_resume_close
    (gap : Gap isBlank before (closing bracket :: rest))
    (resumes : Passes (resume true limit nesting) rest final) :
    Passes (resume afterValue limit (bracket :: nesting)) before final := by
  rw [resume, closeBrackets, bind_assoc]
  refine (yields_afterBlanks_cons gap (notBlank_closing bracket)).passes ?_
  dsimp only
  rw [if_pos (show closing bracket = (if bracket = '[' then ']' else '\x7d') from rfl),
    bind_assoc]
  exact (yields_skip _ rest).passes resumes

/-- A comma stands between two values. -/
theorem passes_resume_comma
    (gap : Gap isBlank before (',' :: rest))
    (resumes : Passes (passInside limit bracket nesting) rest final) :
    Passes (resume true limit (bracket :: nesting)) before final := by
  have notClosing : ',' ≠ closing bracket := by
    rcases closing_eq bracket with isClosing | isClosing <;> rw [isClosing] <;> decide
  rw [resume, closeBrackets, bind_assoc]
  refine (yields_afterBlanks_cons gap (by decide)).passes ?_
  dsimp only
  rw [if_neg (show ¬ ',' = (if bracket = '[' then ']' else '\x7d') from notClosing),
    if_neg (by decide), if_pos rfl, bind_assoc]
  exact (yields_skip ',' rest).passes resumes

/-- The first value stands after the bracket. -/
theorem passes_resume_open
    {first : Char}
    {others : List Char}
    (gap : Gap isBlank before (first :: others))
    (notBlank : isBlank first = false)
    (notClosing : first ≠ closing bracket)
    (resumes : Passes (passInside limit bracket nesting) (first :: others) final) :
    Passes (resume false limit (bracket :: nesting)) before final := by
  rw [resume, closeBrackets, bind_assoc]
  refine (yields_afterBlanks_cons gap notBlank).passes ?_
  dsimp only
  rw [if_neg (show ¬first = (if bracket = '[' then ']' else '\x7d') from notClosing),
    if_pos (by decide)]
  exact resumes

/-- The key of a member is passed. -/
theorem yields_passKey
    {afterName afterColon name : List Char}
    {found : List Letter}
    (gap : Gap isBlank before ('"' :: name))
    (isName : Letters name found afterName)
    (colonGap : Gap isBlank afterName (':' :: afterColon))
    (enough : name.length ≤ limit) : Yields (passKey limit) before (some ((), afterColon)) := by
  rw [passKey]
  refine (yields_afterBlanks_cons gap (by decide)).bind ?_
  refine (yields_passString isName enough).bind ?_
  refine (yields_afterBlanks_cons colonGap (by decide)).bind ?_
  exact yields_skip ':' afterColon

/-- Numbers are passed with the blanks before them. -/
theorem yields_passSimple_number
    {written : List Char}
    (gap : Gap isBlank before (written ++ rest))
    (isNumber : IsNumber written)
    (ends : EndsNumber rest) : Yields (passSimple limit) before (some (none, rest)) := by
  obtain ⟨sign, whole, fraction, exponent, rfl, isSign, isWhole, isFraction, isExponent⟩ :=
    isNumber
  simp only [List.append_assoc] at gap
  rw [passSimple]
  rcases isSign with rfl | rfl
  · obtain ⟨_, read⟩ :=
      @passes_number rest .invalidNumber _ _ _ isWhole isFraction isExponent ends false
    obtain ⟨first, others, rfl⟩ := List.exists_cons_of_ne_nil isWhole.1.1
    have isDigit : first.isDigit = true := isWhole.1.2 first List.mem_cons_self
    refine (yields_afterBlanks_cons gap (notBlank_of_isDigit isDigit)).bind ?_
    split
    case h_9 same =>
      obtain rfl := Option.some.inj same
      rw [if_pos isDigit]
      exact read.bind (yields_pure none rest)
    case h_1 => contradiction
    all_goals
      next same =>
        obtain rfl := Option.some.inj same
        simp at isDigit
  · obtain ⟨_, read⟩ :=
      @passes_number rest .invalidNumber _ _ _ isWhole isFraction isExponent ends true
    refine (yields_afterBlanks_cons gap (by decide)).bind ?_
    exact (yields_skip '-' _).bind (read.bind (yields_pure none rest))

/-- Values without parts are passed with the blanks before them. -/
theorem yields_passSimple
    (gap : Gap isBlank before text)
    (reads : Reads isBlank text datum rest)
    (isSimple : text.head? ≠ some '[' ∧ text.head? ≠ some '\x7b')
    (ends : EndsNumber rest)
    (enough : before.length ≤ limit) : Yields (passSimple limit) before (some (none, rest)) := by
  cases reads with
  | null rest =>
      refine (yields_afterBlanks_cons gap (by decide)).bind ?_
      exact (yields_skip 'n' _).bind ((yields_word "ull".toList rest).bind (yields_pure none rest))
  | yes rest =>
      refine (yields_afterBlanks_cons gap (by decide)).bind ?_
      exact (yields_skip 't' _).bind ((yields_word "rue".toList rest).bind (yields_pure none rest))
  | no rest =>
      refine (yields_afterBlanks_cons gap (by decide)).bind ?_
      exact (yields_skip 'f' _).bind ((yields_word "alse".toList rest).bind (yields_pure none rest))
  | number isNumber => exact yields_passSimple_number gap isNumber ends
  | string isString =>
      have shorter := gap.length_le
      rw [List.length_cons] at shorter
      refine (yields_afterBlanks_cons gap (by decide)).bind ?_
      exact (yields_passString isString (by omega)).bind (yields_pure none rest)
  | _ => simp at isSimple

/-- A bracket is opened with the blanks before it. -/
theorem yields_passSimple_bracket
    (isBracket : bracket = '[' ∨ bracket = '\x7b')
    (gap : Gap isBlank before (bracket :: rest)) :
    Yields (passSimple limit) before (some (some bracket, rest)) := by
  rcases isBracket with rfl | rfl
  · refine (yields_afterBlanks_cons gap (by decide)).bind ?_
    exact (yields_skip '[' rest).bind (yields_pure _ rest)
  · refine (yields_afterBlanks_cons gap (by decide)).bind ?_
    exact (yields_skip '\x7b' rest).bind (yields_pure _ rest)

/-- From the beginning of a text on, what is left of the brackets around it is passed if this is
so from its end on. -/
def Leads (start : Nat -> Nesting -> Reader Unit) (before rest : List Char) : Prop :=
  ∀ nesting final limit, before.length < limit ->
    (∀ limit, rest.length < limit -> Passes (resume true limit nesting) rest final) ->
    Passes (start limit nesting) before final

/-- Pass a member of an object. -/
def passMember (limit : Nat) (nesting : Nesting) : Reader Unit := do
  passKey (limit + 1)
  passNested limit nesting

theorem leads_of_simple
    (reads : Reads isBlank text datum rest)
    (isSimple : text.head? ≠ some '[' ∧ text.head? ≠ some '\x7b')
    (ends : EndsNumber rest)
    (gap : Gap isBlank before text) : Leads passNested before rest := by
  intro nesting final limit enough resumes
  have shorter := Nat.lt_of_lt_of_le reads.length_lt gap.length_le
  cases limit with
  | zero => simp at enough
  | succ limit =>
      exact passes_of_simple (yields_passSimple gap reads isSimple ends (by omega))
        (resumes limit (by omega))

/-- Nothing stands between the brackets. -/
theorem leads_of_empty
    (isBracket : bracket = '[' ∨ bracket = '\x7b')
    (gap : Gap isBlank before (bracket :: text))
    (inside : Gap isBlank text (closing bracket :: rest)) : Leads passNested before rest := by
  intro nesting final limit enough resumes
  have lengths := And.intro gap.length_le inside.length_le
  simp only [List.length_cons] at lengths
  cases limit with
  | zero => simp at enough
  | succ limit =>
      exact passes_of_bracket (yields_passSimple_bracket isBracket gap)
        (passes_resume_close inside (resumes limit (by omega)))

/-- Something stands between the brackets. -/
theorem leads_of_inside
    {first : Char}
    {others : List Char}
    (isBracket : bracket = '[' ∨ bracket = '\x7b')
    (gap : Gap isBlank before (bracket :: text))
    (inside : Gap isBlank text (first :: others))
    (notBlank : isBlank first = false)
    (notClosing : first ≠ closing bracket)
    (leads : Leads (passInside · bracket ·) (first :: others) rest) :
    Leads passNested before rest := by
  intro nesting final limit enough resumes
  have lengths := And.intro gap.length_le inside.length_le
  simp only [List.length_cons] at lengths
  cases limit with
  | zero => simp at enough
  | succ limit =>
      refine passes_of_bracket (yields_passSimple_bracket isBracket gap) ?_
      exact passes_resume_open inside notBlank notClosing
        (leads nesting final limit (by simp; omega) resumes)

/-- The last value between brackets. -/
theorem leads_of_last
    {start : Nat -> Nesting -> Reader Unit}
    (leads : Leads start before text)
    (gap : Gap isBlank text (closing bracket :: rest)) :
    Leads (fun limit nesting => start limit (bracket :: nesting)) before rest := by
  intro nesting final limit enough resumes
  refine leads (bracket :: nesting) final limit enough fun limit enoughAfter => ?_
  have shorter := gap.length_le
  rw [List.length_cons] at shorter
  exact passes_resume_close gap (resumes limit (by omega))

/-- A value between brackets before other ones. -/
theorem leads_of_more
    {start : Nat -> Nesting -> Reader Unit}
    {separated : List Char}
    (leads : Leads start before text)
    (gap : Gap isBlank text (',' :: separated))
    (leadsOthers : Leads (passInside · bracket ·) separated rest) :
    Leads (fun limit nesting => start limit (bracket :: nesting)) before rest := by
  intro nesting final limit enough resumes
  refine leads (bracket :: nesting) final limit enough fun limit enoughAfter => ?_
  have shorter := gap.length_le
  rw [List.length_cons] at shorter
  exact passes_resume_comma gap (leadsOthers nesting final limit (by omega) resumes)

theorem leads_of_reads
    (reads : Reads isBlank text datum rest)
    (ends : EndsNumber rest)
    (gap : Gap isBlank before text) : Leads passNested before rest := by
  refine @Reads.rec isBlank
    (fun text _ rest _ => EndsNumber rest -> ∀ before, Gap isBlank before text ->
      Leads passNested before rest)
    (fun text _ rest _ => ∀ before, Gap isBlank before text ->
      Leads (passInside · '[' ·) before rest)
    (fun text _ rest _ => EndsNumber rest -> ∀ before, Gap isBlank before text ->
      Leads passMember before rest)
    (fun text _ rest _ => ∀ before, Gap isBlank before text ->
      Leads (passInside · '\x7b' ·) before rest)
    ?null ?yes ?no ?number ?string ?emptyArray ?array ?emptyObject ?object
    ?lastElement ?moreElements ?named ?lastMember ?moreMembers text datum rest reads ends before gap
  case null =>
    intro rest ends before gap
    exact leads_of_simple (.null rest) (by simp) ends gap
  case yes =>
    intro rest ends before gap
    exact leads_of_simple (.yes rest) (by simp) ends gap
  case no =>
    intro rest ends before gap
    exact leads_of_simple (.no rest) (by simp) ends gap
  case number =>
    intro written isNumber rest ends before gap
    refine leads_of_simple (.number isNumber rest) ?_ ends gap
    obtain ⟨first, others, rfl, rfl | isDigit⟩ := isNumber.head
    · simp
    · constructor <;> rintro isFirst <;> obtain rfl := Option.some.inj isFirst <;>
        simp at isDigit
  case string =>
    intro text rest value isString ends before gap
    exact leads_of_simple (.string isString) (by simp) ends gap
  case emptyArray =>
    intro text rest inside _ before gap
    exact leads_of_empty (.inl rfl) gap inside
  case emptyObject =>
    intro text rest inside _ before gap
    exact leads_of_empty (.inr rfl) gap inside
  case array =>
    intro text first rest elements inside isElements leads _ before gap
    obtain ⟨head, others, rfl, notBlank, notClosing, _⟩ := isElements.head
    exact leads_of_inside (.inl rfl) gap inside notBlank notClosing (leads _ (.none _))
  case object =>
    intro text first rest members inside isMembers leads _ before gap
    obtain ⟨others, rfl⟩ := isMembers.head
    exact leads_of_inside (.inr rfl) gap inside (by decide) (by decide) (leads _ (.none _))
  case lastElement =>
    intro text after rest element reads inside leads before gap
    exact leads_of_last (leads (endsNumber_of_gap inside (by simp)) before gap) inside
  case moreElements =>
    intro text after separated next rest element others _ beforeComma afterComma _ leads
      leadsOthers before gap
    exact leads_of_more (leads (endsNumber_of_gap beforeComma (by simp)) before gap) beforeComma
      (leadsOthers separated afterComma)
  case named =>
    intro text afterName afterColon written rest name value isName beforeColon colonGap _ leads
      ends before gap nesting final limit enough resumes
    have lengths := And.intro gap.length_le beforeColon.length_le
    have shorterName := isName.length_lt
    simp only [List.length_cons] at lengths
    refine (yields_passKey gap isName beforeColon (by omega)).passes ?_
    exact leads ends afterColon colonGap nesting final limit (by omega) resumes
  case lastMember =>
    intro text after rest member _ inside leads before gap
    exact leads_of_last (leads (endsNumber_of_gap inside (by simp)) before gap) inside
  case moreMembers =>
    intro text after separated next rest member others _ beforeComma afterComma _ leads
      leadsOthers before gap
    exact leads_of_more (leads (endsNumber_of_gap beforeComma (by simp)) before gap) beforeComma
      (leadsOthers separated afterComma)

/-- Every value is passed, whatever it stands for. -/
theorem yields_passValue
    (gap : Gap isBlank before text)
    (reads : Reads isBlank text datum rest)
    (ends : EndsNumber rest) : Yields passValue before (some ((), rest)) := by
  obtain ⟨_, passes⟩ := leads_of_reads reads ends gap [] rest (before.length + 1)
    (Nat.lt_succ_self _)
    fun limit _ => ⟨(), (yields_pure none rest).bind (yields_pure () rest)⟩
  exact fun position => passes position

end

/-! ## Whole texts -/

section
variable {α : Type} {reader : Reader α} {found : Option α}

/-- Blanks may follow at the end of a text. -/
theorem yields_whole
    {text rest : List Char}
    (yields : Yields reader text (found.map (·, rest)))
    (ended : Gap isBlank rest []) : Yields (whole reader) text (found.map (·, [])) := by
  have same : found.map (·, ([] : List Char)) = found.bind fun value => some (value, []) := by
    cases found <;> rfl
  rw [whole, same]
  refine yields.bind_option fun value _ => ?_
  exact (yields_afterBlanks ended (by simp [Unblank])).bind (yields_pure value [])

/-- A text is read if its reader reads all of it. -/
theorem read_eq_ok
    {text : String}
    {rest : List Char}
    (yields : Yields reader text.toList (found.map (·, rest)))
    (ended : Gap isBlank rest [])
    (value : α) : read reader text = .ok value ↔ found = some value := by
  have ends := yields_whole yields ended 0
  rw [read]
  cases result : (whole reader) { rest := text.toList, position := 0 } with
  | ok other cursor =>
      rw [result] at ends
      obtain ⟨whole, isWhole, same⟩ := Option.map_eq_some_iff.mp ends.symm
      obtain ⟨rfl, _⟩ := Prod.mk.inj same
      simp [isWhole]
  | error fault cursor =>
      rw [result] at ends
      have none : found = none := Option.map_eq_none_iff.mp ends.symm
      simp [none]

end

end Json
end ErrorTemplates
