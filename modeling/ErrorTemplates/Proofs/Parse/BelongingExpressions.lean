import ErrorTemplates.Proofs.Parse.Belonging
import ErrorTemplates.Proofs.Parse.Expressions

/-!
# Expressions that belong to a text

Bindings, functions, classes and expressions are made of spans of the text and of what the
readers of all goals give. A pattern has the nodes of the expression that it was.
-/

namespace ErrorTemplates
namespace Program
namespace Parse

section
variable {origin : Origin}

/-! ## Patterns -/

/-- What is true of the patterns one by one is true of all of them. -/
theorem allBelongTo_of_toPatterns
    {nodes patterns : List Node}
    (each : ∀ node ∈ nodes, ∀ {pattern}, node.toPattern = .ok pattern ->
      node.BelongsTo origin -> pattern.BelongsTo origin)
    (convert : Node.toPatterns nodes = .ok patterns)
    (belong : AllBelongTo origin nodes) : AllBelongTo origin patterns := by
  induction nodes generalizing patterns with
  | nil =>
      cases convert
      exact belong
  | cons node rest inductionHypothesis =>
      obtain ⟨eachNode, eachRest⟩ := List.forall_mem_cons.mp each
      obtain ⟨belongs, restBelong⟩ := List.forall_mem_cons.mp belong
      obtain ⟨pattern, others, converts, restConvert, rfl⟩ := exists_of_toPatterns_cons convert
      exact (eachNode converts belongs).followedBy
        (inductionHypothesis eachRest restConvert restBelong)

/-- The pattern that an expression becomes belongs to the text of the expression. -/
theorem belongsTo_toPattern
    {node pattern : Node}
    (converts : node.toPattern = .ok pattern)
    (belongs : node.BelongsTo origin) : pattern.BelongsTo origin := by
  induction node using Node.induction_on_children generalizing pattern with
  | step node inductionHypothesis =>
      have own := belongs.origin_eq node.span (Node.span_mem_spans node)
      have below := belongs.children
      fun_cases Node.toPattern node with
      -- An element that is spread.
      | case2 span inner =>
          rw [Node.toPattern] at converts
          obtain ⟨changed, innerConverts, rfl⟩ := exists_of_map_eq_ok converts
          have innerBelongs := List.forall_mem_singleton.mp below
          exact .of_children rfl own
            (inductionHypothesis inner List.mem_cons_self innerConverts innerBelongs).alone
      -- An assignment, which becomes a pattern with a default.
      | case11 span children =>
          rw [Node.toPattern] at converts
          cases converts
          exact .of_children rfl own below
      -- An array or an object.
      | case12 span children | case13 span children =>
          rw [Node.toPattern] at converts
          obtain ⟨changed, convert, rfl⟩ := exists_of_map_eq_ok converts
          exact .of_children rfl own (allBelongTo_of_toPatterns inductionHypothesis convert below)
      -- A property, of which only the value is converted.
      | case14 span key value =>
          rw [Node.toPattern] at converts
          obtain ⟨changed, valueConverts, rfl⟩ := exists_of_map_eq_ok converts
          obtain ⟨keyBelongs, valueBelongs⟩ := List.forall_mem_cons.mp below
          have changedBelongs := inductionHypothesis value (by simp [Node.children]) valueConverts
            (List.forall_mem_singleton.mp valueBelongs)
          exact .of_children rfl own (keyBelongs.followedBy changedBelongs.alone)
      | _ => simp_all [Node.toPattern]

theorem allBelongTo_toPatterns
    {nodes patterns : List Node}
    (convert : Node.toPatterns nodes = .ok patterns)
    (belong : AllBelongTo origin nodes) : AllBelongTo origin patterns :=
  allBelongTo_of_toPatterns (fun _ _ => belongsTo_toPattern) convert belong

theorem belongsTo_toTarget
    {operator : String}
    {node target : Node}
    (converts : node.toTarget operator = .ok target)
    (belongs : node.BelongsTo origin) : target.BelongsTo origin := by
  unfold Node.toTarget at converts
  split at converts
  · cases converts
    exact belongs
  · split at converts
    · exact belongsTo_toPattern converts belongs
    · cases converts

/-! ## Bindings -/

/-- The readers of all goals give nodes of the text. -/
abbrev KeepText (origin : Origin) (read : Readers) : Prop := ∀ goal, KeepsNode origin (read goal)

section
variable {read : Readers} (keep : KeepText origin read)
include keep

theorem keepsNode_wholeExpression : KeepsNode origin (wholeExpression read) :=
  (keep .expression).withIn true

theorem keepsNode_value : KeepsNode origin (withIn true (read .assignment)) :=
  (keep .assignment).withIn true

theorem keepsNode_element : KeepsNode origin (element read) := by
  refine .move moves_here fun start => .move (moves_passMark "...") fun passed => ?_
  split
  · refine (keepsNode_value keep).read fun inner belongs => ?_
    exact (keeps_spanFrom _).read fun span own =>
      .pure (.of_children rfl own belongs.alone)
  · exact keepsNode_value keep

theorem keepsNodes_arguments : KeepsNodes origin (arguments read) :=
  .move (moves_needMark "(") fun _ => (keepsNode_element keep).separated ")"

theorem keepsNode_propertyKey : KeepsNode origin (propertyKey read) := by
  refine .move moves_here fun start => .move moves_token fun current => ?_
  split
  · exact .move moves_bump fun _ => keepsNode_childless _ _
  · exact .move moves_bump fun _ => keepsNode_childless _ _
  · refine .move moves_bump fun _ => (keeps_spanFrom _).read fun span own => .pure ?_
    exact .of_children rfl own (List.forall_mem_nil _)
  · exact .move moves_bump fun _ => keepsNode_childless _ _
  · exact .move moves_bump fun _ => keepsNode_childless _ _
  · refine .move moves_bump fun _ => (keepsNode_value keep).read fun inner belongs => ?_
    exact .move (moves_needMark "]") fun _ => keepsNode_nodeFrom belongs.alone _ _
  · exact keeps_failWith _

theorem keepsNode_defaultedBinding : KeepsNode origin (defaultedBinding read) := by
  refine .move moves_here fun start => (keep .binding).read fun target belongs => ?_
  refine .move (moves_passMark "=") fun passed => ?_
  split
  · exact (keepsNode_value keep).read fun value valueBelongs =>
      keepsNode_nodeFrom (belongs.followedBy valueBelongs.alone) _ _
  · exact .pure belongs

theorem keepsNode_bindingElement : KeepsNode origin (bindingElement read) := by
  refine .move moves_here fun start => .move (moves_passMark "...") fun passed => ?_
  split
  · refine (keep .binding).read fun inner belongs => ?_
    exact (keeps_spanFrom _).read fun span own => .pure (.of_children rfl own belongs.alone)
  · exact keepsNode_defaultedBinding keep

theorem keepsNode_bindingProperty : KeepsNode origin (bindingProperty read) := by
  refine .move moves_here fun start => .move (moves_passMark "...") fun passed => ?_
  split
  · refine (keep .binding).read fun inner belongs => ?_
    exact (keeps_spanFrom _).read fun span own => .pure (.of_children rfl own belongs.alone)
  refine .move moves_token fun current => (keepsNode_propertyKey keep).read fun key belongs => ?_
  refine .move (moves_passMark ":") fun passed => ?_
  split
  · exact (keepsNode_defaultedBinding keep).read fun value valueBelongs =>
      keepsNode_nodeFrom (belongs.followedBy valueBelongs.alone) _ _
  split
  · exact keeps_failWith _
  next name word_eq =>
  refine keeps_name _ name fun span nameBelongs => .move (moves_passMark "=") fun passed => ?_
  split
  · exact (keepsNode_value keep).read fun value valueBelongs =>
      keepsNode_nodeFrom (nameBelongs.followedBy valueBelongs.alone) _ _
  · exact .pure nameBelongs

end

theorem keepsNodes_arrayElements
    {reader : Reader Node}
    (keeps : KeepsNode origin reader) : KeepsNodes origin (arrayElements reader) := by
  refine keepsNodes_many (.move (moves_passMark "]") fun passed => ?_)
  split
  · exact keepsOption_none
  refine .move moves_here fun start => .move (moves_passMark ",") fun passed => ?_
  split
  · exact (keepsNode_childless _ _).found
  refine keeps.read fun found belongs => .move (moves_atMark "]") fun atClose => ?_
  split
  · exact .move (moves_needMark ",") fun _ => .pure belongs.alone
  · exact .pure belongs.alone

theorem keepsNodes_objectProperties
    {reader : Reader Node}
    (keeps : KeepsNode origin reader) : KeepsNodes origin (objectProperties reader) := by
  refine keepsNodes_many (.move (moves_passMark closeBrace) fun passed => ?_)
  split
  · exact keepsOption_none
  refine keeps.read fun found belongs => .move (moves_atMark closeBrace) fun atClose => ?_
  split
  · exact .move (moves_needMark ",") fun _ => .pure belongs.alone
  · exact .pure belongs.alone

section
variable {read : Readers} (keep : KeepText origin read)
include keep

theorem keepsNode_binding : KeepsNode origin (binding read) := by
  refine .move moves_here fun start => .move moves_token fun current => ?_
  split
  · exact .move moves_bump fun _ => keeps_name _ _ fun span belongs => .pure belongs
  refine .move (moves_passMark "[") fun passed => ?_
  split
  · exact (keepsNodes_arrayElements (keepsNode_bindingElement keep)).read fun children belong =>
      keepsNode_nodeFrom belong _ _
  refine .move (moves_passMark openBrace) fun passed => ?_
  split
  · exact (keepsNodes_objectProperties (keepsNode_bindingProperty keep)).read
      fun children belong => keepsNode_nodeFrom belong _ _
  · exact keeps_failWith _

/-! ## Functions and classes -/

theorem keeps_functionRest (header : FunctionHeader) :
    Keeps origin (fun parts => AllBelongTo origin (parts.1 ++ [parts.2]))
      (functionRest read header) := by
  refine Keeps.inFunction (.move (moves_needMark "(") fun _ => ?_) header
  refine ((keepsNode_bindingElement keep).separated ")").read fun parameters belong => ?_
  refine (keep .block).read fun body belongs => .pure ?_
  exact List.forall_mem_append.mpr ⟨belong, belongs.alone⟩

theorem keepsNode_functionExpression : KeepsNode origin (functionExpression read) := by
  refine .move moves_here fun start => .move moves_functionHeader fun header => ?_
  refine .move moves_token fun current => ?_
  extract_lets name rest
  have keeps : KeepsNode origin (rest ()) :=
    (keeps_functionRest keep header).read fun parts belong => keepsNode_nodeFrom belong _ _
  split
  · exact .move moves_bump fun _ => keeps
  · exact keeps

theorem keepsNode_functionDeclaration : KeepsNode origin (functionDeclaration read) := by
  refine .move moves_here fun start => .move moves_functionHeader fun header => ?_
  refine .move moves_here fun nameStart => .move moves_token fun current => ?_
  split
  · exact keeps_fail _
  refine .move moves_bump fun _ => (keeps_spanFrom _).read fun nameSpan nameOwn => ?_
  refine (keeps_functionRest keep header).read fun parts belong => ?_
  refine (keeps_spanFrom _).read fun span own => .pure ⟨?_, belong⟩
  simp [Node.spans, own, nameOwn]

theorem keepsNode_methodRest
    {key : Node}
    (belongs : key.BelongsTo origin)
    (start : Nat)
    (place : MethodPlace)
    (kind : MethodKind)
    (header : FunctionHeader) : KeepsNode origin (methodRest read start place kind header key) :=
  (keeps_functionRest keep header).read fun rest belong => by
    have kept := (keptParameters_sublist place kind rest.1).append_right [rest.2]
    have keptBelong : AllBelongTo origin (keptParameters place kind rest.1 ++ [rest.2]) :=
      fun node present => belong node (kept.subset present)
    exact keepsNode_nodeFrom (belongs.followedBy keptBelong) _ _

theorem keepsNode_classMember : KeepsNode origin (classMember read) := by
  refine .move moves_here fun start => .move (moves_passMark ";") fun passed => ?_
  split
  · exact keepsNode_childless _ _
  refine .move (moves_passModifier "static") fun isStatic => ?_
  refine .move (moves_atMark openBrace) fun atBrace => ?_
  split
  · exact ((keep .block).inFunction _).read fun body belongs =>
      keepsNode_nodeFrom belongs.alone _ _
  refine .move moves_passAsync fun isAsync => .move (moves_passMark "*") fun isGenerator => ?_
  extract_lets header rest
  have keeps (kind : MethodKind) : KeepsNode origin (rest kind) := by
    refine (keepsNode_propertyKey keep).read fun key belongs => ?_
    refine .move (moves_atMark "(") fun atParameters => ?_
    split
    · exact keepsNode_methodRest keep belongs _ _ _ _
    have rest {value : Option Node} (valueBelongs : AllBelongTo origin value.toList) :=
      Keeps.move moves_passEnd fun _ =>
        keepsNode_nodeFrom (belongs.followedBy valueBelongs) start (.field isStatic)
    refine .move (moves_passMark "=") fun passed => ?_
    split
    · have keepsValue : KeepsNode origin (inFunction plainHeader (read .assignment)) :=
        (keep .assignment).inFunction _
      exact keepsValue.optional.read fun value valueBelongs => rest valueBelongs
    refine .move moves_atEnd fun ended => ?_
    split
    · exact keepsOption_none.read fun value valueBelongs => rest valueBelongs
    · have keepsNone : KeepsOption origin (failWith .memberUnexpected) := keeps_failWith _
      exact keepsNone.read fun value valueBelongs => rest valueBelongs
  split
  · exact keeps _
  · exact .move moves_methodKind fun kind => keeps kind

theorem keepsNode_classRest
    (needsName : Bool)
    (shape : Option String -> Bool -> Shape) :
    KeepsNode origin (classRest read needsName shape) := by
  refine .move moves_here fun start => .move (moves_needWord "class") fun _ => ?_
  refine .move moves_token fun current => ?_
  extract_lets name withHeritage rest
  have keepsMembers : KeepsNodes origin (many do
      if ← passMark closeBrace then return none
      return some (← classMember read)) := by
    refine keepsNodes_many (.move (moves_passMark closeBrace) fun passed => ?_)
    split
    · exact keepsOption_none
    · exact (keepsNode_classMember keep).found
  have keepsBody {heritage : Option Node} (heritageBelongs : AllBelongTo origin heritage.toList) :
      KeepsNode origin (withHeritage heritage) := by
    refine .move (moves_needMark openBrace) fun _ => keepsMembers.read fun members belong => ?_
    exact keepsNode_nodeFrom (List.forall_mem_append.mpr ⟨belong, heritageBelongs⟩) _ _
  have keeps : KeepsNode origin (rest ()) := by
    refine .move (moves_passWord "extends") fun passed => ?_
    split
    · exact (keep .operand).optional.read fun heritage belongs => keepsBody belongs
    · exact keepsOption_none.read fun heritage belongs => keepsBody belongs
  split
  · exact .move moves_bump fun _ => keeps
  split
  · exact .move (yields_fail (fun _ => []) _) fun _ => keeps
  · exact keeps

/-! ## Templates and regular expressions -/

theorem keeps_substitutions (isChecked : Bool) (limit : Nat) :
    Keeps origin (fun parts => AllBelongTo origin (parts.map Prod.fst))
      (template.substitutions read isChecked limit) := by
  induction limit with
  | zero => exact keeps_fail _
  | succ limit inductionHypothesis =>
      refine (keepsNode_wholeExpression keep).read fun inner belongs => ?_
      refine .move (moves_atMark closeBrace) fun atClose => ?_
      extract_lets rest
      have keeps : Keeps origin (fun parts => AllBelongTo origin (parts.map Prod.fst))
          (rest ()) := by
        refine .move (moves_templateChunk _) fun chunk => ?_
        split
        split
        · exact inductionHypothesis.read fun parts belong => .pure (belongs.followedBy belong)
        · exact .pure belongs.alone
      split
      · exact .move (yields_failWith (fun _ => []) _) fun _ => keeps
      · exact keeps

theorem keepsNode_template (isTagged : Bool) : KeepsNode origin (template read isTagged) := by
  refine .move moves_here fun start => .move (moves_templateChunk _) fun chunk => ?_
  split
  split
  · exact keepsNode_childless _ _
  · exact .move moves_get fun state => (keeps_substitutions keep _ _).read fun parts belong =>
      keepsNode_nodeFrom belong _ _

omit keep in
theorem keepsNode_pattern : KeepsNode origin pattern := by
  refine .look fun state sound origin_eq => ?_
  cases content_eq : Literal.patternText false (state.text.drop 1) with
  | none => exact keeps_failAt _ _ state sound origin_eq
  | some content =>
      let raw := '/' :: (content ++ ['/']) ++
        Literal.wordText (state.text.drop ('/' :: (content ++ ['/'])).length)
      -- The token goes on to the end of the expression before the next one is read.
      have keeps : KeepsNode origin (do
          bump
          nodeFrom state.start (.literal (String.ofList raw)) []) :=
        .move moves_bump fun _ => keepsNode_childless _ _
      exact keeps (state.extend raw) (sound_extend state (by simp [raw])) origin_eq

/-! ## Arrow functions -/

theorem keepsNode_arrowRest
    {parameters : List Node}
    (belong : AllBelongTo origin parameters)
    (start : Nat)
    (isAsync : Bool) : KeepsNode origin (arrowRest read start isAsync parameters) := by
  refine .move (moves_needMark "=>") fun _ => .move moves_get fun state => ?_
  extract_lets allowsIn
  have keepsBody : KeepsNode origin (do
      if ← atMark openBrace then read .block else withIn allowsIn (read .assignment)) := by
    refine .move (moves_atMark openBrace) fun atBrace => ?_
    split
    · exact keep .block
    · exact (keep .assignment).withIn allowsIn
  refine (keepsBody.inFunction _).read fun body belongs => ?_
  exact keepsNode_nodeFrom (List.forall_mem_append.mpr ⟨belong, belongs.alone⟩) _ _

theorem keepsNode_nameOrArrow (mayBeArrow : Bool) (start : Nat) (isAsync : Bool) :
    KeepsNode origin (nameOrArrow read mayBeArrow start isAsync) := by
  refine .move moves_here fun nameStart => .move moves_token fun current => ?_
  split
  · exact keeps_fail _
  next name name_eq =>
  refine .move moves_bump fun _ => keeps_name _ name fun span belongs => ?_
  refine .move moves_atArrow fun followed => ?_
  split
  · exact keepsNode_arrowRest keep belongs.alone _ _
  · exact .pure belongs

theorem keepsNode_parenthesized (mayBeArrow : Bool) :
    KeepsNode origin (parenthesized read mayBeArrow) := by
  refine .move moves_here fun start => .move (moves_needMark "(") fun _ => ?_
  refine ((keepsNode_element keep).separated ")").read fun inner belong => ?_
  refine (keeps_spanFrom start).read fun span own => .move moves_atArrow fun followed => ?_
  split
  · extract_lets rest
    have keeps : KeepsNode origin (rest ()) := .convert fun parameters convert =>
      keepsNode_arrowRest keep (allBelongTo_toPatterns convert belong) _ _
    split
    · exact .move (yields_failAt (fun _ => []) _ _) fun _ => keeps
    · exact keeps
  extract_lets rest
  have keeps : KeepsNode origin (rest ()) := by
    unfold rest
    split
    · exact keeps_failAt _ _
    · exact .pure (.of_children rfl own belong)
    · next first others not_alone =>
      have firstBelongs := belong first List.mem_cons_self
      have firstOwn := firstBelongs.origin_eq first.span (Node.span_mem_spans first)
      refine .pure (.of_children rfl own (Node.BelongsTo.alone ?_))
      exact .of_children rfl firstOwn belong
  split
  · exact .move (yields_failAt (fun _ => []) _ _) fun _ => keeps
  · exact keeps

theorem keepsNode_asyncExpression (mayBeArrow : Bool) :
    KeepsNode origin (asyncExpression read mayBeArrow) := by
  refine .move moves_here fun start => .move moves_followingOnLine fun next => ?_
  split
  · exact keepsNode_functionExpression keep
  split
  · exact keepsNode_nameOrArrow keep _ _ _
  refine .move moves_get fun state => ?_
  split
  · exact .move moves_bump fun _ => keepsNode_nameOrArrow keep _ _ _
  refine .move moves_bump fun _ => keeps_name _ "async" fun nameSpan belongs => ?_
  refine .move moves_atArrow fun followed => ?_
  split
  · exact keepsNode_arrowRest keep belongs.alone _ _
  split
  · refine (keepsNodes_arguments keep).read fun given belong => ?_
    refine .move moves_atArrow fun followed => ?_
    split
    · refine .convert fun parameters convert => ?_
      exact keepsNode_arrowRest keep (allBelongTo_toPatterns convert belong) _ _
    · exact (keeps_spanFrom _).read fun span own =>
        .pure (.of_children rfl own (belongs.followedBy belong))
  · exact .pure belongs

/-! ## Objects -/

theorem keepsNode_objectProperty : KeepsNode origin (objectProperty read) := by
  refine .move moves_here fun start => .move (moves_atMark "...") fun isSpread => ?_
  split
  · exact keepsNode_element keep
  refine .move moves_passAsync fun isAsync => .move (moves_passMark "*") fun isGenerator => ?_
  extract_lets rest
  have keeps (kind : MethodKind) : KeepsNode origin (rest kind) := by
    refine .move moves_token fun current => ?_
    refine (keepsNode_propertyKey keep).read fun key belongs => ?_
    refine .move (moves_atMark "(") fun atParameters => ?_
    split
    · exact keepsNode_methodRest keep belongs _ _ _ _
    refine .move (moves_passMark ":") fun passed => ?_
    split
    · exact (keepsNode_value keep).read fun value valueBelongs =>
        keepsNode_nodeFrom (belongs.followedBy valueBelongs.alone) _ _
    split
    · exact keeps_failWith _
    next name word_eq =>
    refine keeps_name _ name fun span nameBelongs => ?_
    refine .move (moves_passMark "=") fun passed => ?_
    split
    · exact (keepsNode_value keep).read fun value valueBelongs =>
        keepsNode_nodeFrom (nameBelongs.followedBy valueBelongs.alone) _ _
    refine .move (moves_atMark ",") fun atComma => .move (moves_atMark closeBrace) fun atClose => ?_
    split
    · exact .pure nameBelongs
    · exact keeps_failWith _
  split
  · exact keeps _
  · exact .move moves_methodKind fun kind => keeps kind

/-! ## Expressions without operators -/

omit keep in
theorem keepsNode_importExpression : KeepsNode origin importExpression := by
  refine .move moves_here fun start => .move moves_bump fun _ => ?_
  refine .move (moves_passMark ".") fun passed => ?_
  split
  · refine .move (moves_needWord "meta") fun _ => ?_
    exact .move moves_modify_isModule fun _ => keepsNode_childless _ _
  refine .move (moves_atMark "(") fun atParenthesis => ?_
  split
  · exact keepsNode_childless _ _
  · exact keeps_failWith _

theorem keepsNode_primary : KeepsNode origin (primary read) := by
  refine .move moves_here fun start => .move moves_allowsArrow fun mayBeArrow => ?_
  refine .move moves_token fun current => ?_
  split
  · refine .move moves_bump fun _ => (keeps_spanFrom _).read fun span own => .pure ?_
    exact .of_children rfl own (List.forall_mem_nil _)
  · exact .move moves_bump fun _ => keepsNode_childless _ _
  · exact .move moves_bump fun _ => keepsNode_childless _ _
  · exact .move moves_bump fun _ => keepsNode_childless _ _
  · exact keepsNode_parenthesized keep _
  · exact keepsNode_template keep false
  · exact keepsNode_pattern
  · exact keepsNode_pattern
  · refine .move moves_bump fun _ => ?_
    exact (keepsNodes_arrayElements (keepsNode_element keep)).read fun children belong =>
      keepsNode_nodeFrom belong _ _
  · split
    · refine .move moves_bump fun _ => ?_
      exact (keepsNodes_objectProperties (keepsNode_objectProperty keep)).read
        fun children belong => keepsNode_nodeFrom belong _ _
    · exact keeps_fail _
  · split
    · exact .move moves_bump fun _ => keepsNode_childless _ _
    split
    · exact keepsNode_functionExpression keep
    split
    · exact keepsNode_classRest keep false _
    split
    · exact keepsNode_importExpression
    split
    · exact keepsNode_asyncExpression keep _
    · exact keepsNode_nameOrArrow keep _ _ _
  · exact keepsNode_nameOrArrow keep _ _ _
  · exact keeps_fail _
  · exact keeps_fail _

/-! ## Members and calls -/

/-- A reader of links may give a chain whose expression belongs to the text. -/
abbrev KeepsChain (origin : Origin) (reader : Reader (Option Chain)) : Prop :=
  Keeps origin (fun next : Option Chain => ∀ chain ∈ next, chain.node.BelongsTo origin) reader

omit keep in
/-- What each step of a repetition keeps, the whole repetition keeps. -/
theorem keeps_repeated
    {holds : α -> Prop}
    {step : α -> Reader (Option α)}
    (keeps : ∀ current, holds current -> Keeps origin (fun next => ∀ chain ∈ next, holds chain)
      (step current))
    (limit : Nat)
    {current : α}
    (met : holds current) : Keeps origin holds (repeated step limit current) := by
  induction limit generalizing current with
  | zero => exact keeps_fail _
  | succ limit inductionHypothesis =>
      refine (keeps current met).read fun next nextMet => ?_
      cases next with
      | none => exact .pure met
      | some next => exact inductionHypothesis (nextMet next rfl)

theorem keepsNode_optionalLink
    {node : Node}
    (belongs : node.BelongsTo origin)
    (start : Nat) : KeepsNode origin (optionalLink read start node) := by
  refine .move moves_token fun current => ?_
  split
  · exact (keepsNodes_arguments keep).read fun given belong =>
      keepsNode_nodeFrom (belongs.followedBy belong) _ _
  · refine .move moves_bump fun _ => ?_
    refine (keepsNode_wholeExpression keep).read fun inner innerBelongs => ?_
    exact .move (moves_needMark "]") fun _ =>
      keepsNode_nodeFrom (belongs.followedBy innerBelongs.alone) _ _
  · exact .move moves_memberName fun name => keepsNode_nodeFrom belongs.alone _ _

/-- A chain goes on with a node of the text, or it ends. -/
theorem keepsChain_link
    {chain : Chain}
    (belongs : chain.node.BelongsTo origin)
    (start : Nat)
    (allowsCalls : Bool) : KeepsChain origin (link read start allowsCalls chain) := by
  have ends : KeepsChain origin (pure none) := .pure (by simp)
  have goesOn {reader : Reader Node} (keeps : KeepsNode origin reader) (isOptional : Bool) :
      KeepsChain origin (do return some { node := ← reader, isOptional }) :=
    keeps.read fun node nodeBelongs => .pure (by simpa using nodeBelongs)
  refine .move moves_token fun current => ?_
  split
  · refine .move moves_bump fun _ => .move moves_memberName fun name => ?_
    exact goesOn (keepsNode_nodeFrom belongs.alone _ _) _
  · refine .move moves_bump fun _ => ?_
    refine (keepsNode_wholeExpression keep).read fun inner innerBelongs => ?_
    refine .move (moves_needMark "]") fun _ => ?_
    exact goesOn (keepsNode_nodeFrom (belongs.followedBy innerBelongs.alone) _ _) _
  · refine (keepsNode_template keep true).read fun text textBelongs => ?_
    exact goesOn (keepsNode_nodeFrom (belongs.followedBy textBelongs.alone) _ _) _
  · split
    · exact ends
    refine (keepsNodes_arguments keep).read fun given belong => ?_
    split
    · exact goesOn (keepsNode_nodeFrom (belongs.followedBy belong) _ _) _
    · refine (keeps_spanFrom _).read fun span own => .pure ?_
      have called : (Node.call span chain.node given).BelongsTo origin :=
        .of_children rfl own (belongs.followedBy belong)
      simpa using called
  · split
    · exact ends
    · exact .move moves_bump fun _ => goesOn (keepsNode_optionalLink keep belongs _) _
  · exact ends

theorem keepsNode_links
    {node : Node}
    (belongs : node.BelongsTo origin)
    (start : Nat)
    (allowsCalls : Bool) : KeepsNode origin (links read start allowsCalls node) := by
  refine .move moves_get fun state => ?_
  have keeps : Keeps origin (fun chain => chain.node.BelongsTo origin)
      (repeated (link read start allowsCalls) state.limit { node, isOptional := false }) :=
    keeps_repeated (fun chain chainBelongs => keepsChain_link keep chainBelongs start allowsCalls)
      _ belongs
  exact keeps.read fun chain chainBelongs => .pure chainBelongs

theorem keepsNode_constructed : KeepsNode origin (constructed read) := by
  refine .move moves_here fun start => .move (moves_passWord "new") fun passed => ?_
  split
  · refine .move (moves_passMark ".") fun passed => ?_
    split
    · refine .move (moves_needWord "target") fun _ => ?_
      exact (keepsNode_childless _ _).read fun node belongs => keepsNode_links keep belongs _ _
    refine (keep .constructed).read fun callee belongs => ?_
    refine .move (moves_atMark "?.") fun isOptional => ?_
    extract_lets rest
    have keeps : KeepsNode origin (rest ()) := by
      refine .move (moves_atMark "(") fun atArguments => ?_
      split
      · refine (keepsNodes_arguments keep).read fun given belong => ?_
        refine (keeps_spanFrom _).read fun span own => ?_
        have made : (Node.construct span callee given).BelongsTo origin :=
          .of_children rfl own (belongs.followedBy belong)
        exact keepsNode_links keep made _ _
      · exact keepsNode_nodeFrom belongs.alone _ _
    split
    · exact .move (yields_failAt (fun _ => []) _ _) fun _ => keeps
    · exact keeps
  · refine (keepsNode_primary keep).read fun node belongs => ?_
    split
    · exact .pure belongs
    · exact keepsNode_links keep belongs _ _

theorem keepsNode_operand : KeepsNode origin (operand read) := by
  refine .move moves_here fun start => (keep .constructed).read fun node belongs => ?_
  split
  · exact .pure belongs
  · exact keepsNode_links keep belongs _ _

/-! ## Operators -/

theorem keepsNode_unaryOperand : KeepsNode origin (unaryOperand read) := by
  refine .look fun state sound origin_eq => ?_
  refine (keep .unary).orElse ?_ state sound origin_eq
  exact belongsTo_other origin_eq (List.forall_mem_nil _) _

theorem keepsNode_updated : KeepsNode origin (updated read) := by
  refine .move moves_here fun start => (keep .operand).read fun node belongs => ?_
  refine .move moves_afterLineBreak fun broken => ?_
  split
  · exact .pure belongs
  refine .move moves_token fun current => ?_
  split
  · split
    · exact .move moves_bump fun _ => keepsNode_nodeFrom belongs.alone _ _
    · exact .pure belongs
  · exact .pure belongs

theorem keepsNode_unary : KeepsNode origin (unary read) := by
  have wraps (start : Nat) (shape : Shape) {operand : Reader Node}
      (keeps : KeepsNode origin operand) :
      KeepsNode origin (operand >>= fun inner => nodeFrom start shape [inner]) :=
    keeps.read fun inner belongs => keepsNode_nodeFrom belongs.alone start shape
  refine .move moves_here fun start => .move moves_token fun current => ?_
  split
  · split
    · exact .move moves_bump fun _ => wraps _ _ (keepsNode_unaryOperand keep)
    split
    · exact .move moves_bump fun _ => wraps _ _ (keep .unary)
    · exact keepsNode_updated keep
  · split
    · exact .move moves_bump fun _ => wraps _ _ (keepsNode_unaryOperand keep)
    refine .move moves_awaits fun awaits => ?_
    split
    · exact .move moves_awaitOperator fun _ => wraps _ _ (keep .unary)
    · exact keepsNode_updated keep
  · exact keepsNode_updated keep

omit keep in
theorem belongsTo_joined
    {left right : Node}
    (leftBelongs : left.BelongsTo origin)
    (rightBelongs : right.BelongsTo origin)
    (operator : Token) : (joined operator left right).BelongsTo origin := by
  have own := leftBelongs.origin_eq left.span (Node.span_mem_spans left)
  have below := leftBelongs.followedBy rightBelongs.alone
  unfold joined
  split <;> exact .of_children rfl own below

theorem keepsNode_binaryRest
    (limit least : Nat)
    {left : Node}
    (belongs : left.BelongsTo origin) : KeepsNode origin (binaryRest read limit least left) := by
  induction limit generalizing least left with
  | zero => exact keeps_fail _
  | succ limit inductionHypothesis =>
      refine .move moves_token fun operator => .move moves_get fun state => ?_
      split
      · exact .pure belongs
      split
      · exact .pure belongs
      refine .move moves_bump fun _ => ?_
      extract_lets follows rest
      have keeps : KeepsNode origin (rest ()) := by
        refine (keep .unary).read fun operand operandBelongs => ?_
        refine (inductionHypothesis _ operandBelongs).read fun right rightBelongs => ?_
        exact inductionHypothesis least (belongsTo_joined belongs rightBelongs operator)
      split
      · exact .move (yields_fail (fun _ => []) _) fun _ => keeps
      · exact keeps

theorem keepsNode_binary : KeepsNode origin (binary read) := by
  refine (keep .unary).read fun first belongs => ?_
  split
  · exact .pure belongs
  · exact .move moves_get fun state => keepsNode_binaryRest keep _ _ belongs

theorem keepsNode_conditional : KeepsNode origin (conditional read) := by
  refine .move moves_here fun start => (keepsNode_binary keep).read fun test belongs => ?_
  split
  · exact .pure belongs
  refine .move (moves_passMark "?") fun passed => ?_
  split
  · exact .pure belongs
  refine (keepsNode_value keep).read fun onTrue trueBelongs => ?_
  refine .move (moves_needMark ":") fun _ => (keep .assignment).read fun onFalse falseBelongs => ?_
  exact keepsNode_nodeFrom (belongs.followedBy (trueBelongs.followedBy falseBelongs.alone)) _ _

theorem keepsNode_yielded (start : Nat) : KeepsNode origin (yielded read start) := by
  refine .move moves_afterLineBreak fun broken => ?_
  split
  · exact keepsNode_childless _ _
  refine .move (moves_passMark "*") fun passed => ?_
  split
  · exact (keep .assignment).read fun inner belongs => keepsNode_nodeFrom belongs.alone _ _
  refine .move moves_token fun current => ?_
  split
  · exact (keep .assignment).read fun inner belongs => keepsNode_nodeFrom belongs.alone _ _
  · exact keepsNode_childless _ _

theorem keepsNode_assignment : KeepsNode origin (assignment read) := by
  refine .move moves_here fun start => .move moves_get fun state => ?_
  refine .move (moves_atWord "yield") fun atYield => ?_
  split
  · exact .move moves_bump fun _ => keepsNode_yielded keep _
  refine .move moves_markArrow fun _ => ?_
  refine (keepsNode_conditional keep).read fun left belongs => ?_
  split
  · exact .pure belongs
  refine .move moves_token fun current => ?_
  split
  · split
    · refine .convert fun target converts => .move moves_bump fun _ => ?_
      refine (keep .assignment).read fun right rightBelongs => ?_
      have targetBelongs := belongsTo_toTarget converts belongs
      exact keepsNode_nodeFrom (targetBelongs.followedBy rightBelongs.alone) _ _
    · exact .pure belongs
  · exact .pure belongs

theorem keepsNode_expression : KeepsNode origin (expression read) := by
  refine .move moves_here fun start => (keep .assignment).read fun first belongs => ?_
  refine .move (moves_atMark ",") fun atComma => ?_
  split
  · exact .pure belongs
  exact (keep .assignment).afterCommas.read fun others belong =>
    keepsNode_nodeFrom (belongs.followedBy belong) _ _

end

end

end Parse
end Program
end ErrorTemplates
