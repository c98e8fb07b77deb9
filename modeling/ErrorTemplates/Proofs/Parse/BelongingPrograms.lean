import ErrorTemplates.Proofs.Parse.BelongingExpressions
import ErrorTemplates.Proofs.Parse.Programs

/-!
# Programs that belong to a text

Statements and items are made of what the readers of the goals give, and no reader leaves the
text. So all spans of a program that was read from a text are parts of that text.
-/

namespace ErrorTemplates
namespace Program
namespace Parse

section
variable {origin : Origin} {read : Readers} (keep : KeepText origin read)
include keep

theorem keepsNode_head : KeepsNode origin (head read) := by
  refine .move (moves_needMark "(") fun _ => ?_
  refine (keepsNode_wholeExpression keep).read fun inner belongs => ?_
  exact .move (moves_needMark ")") fun _ => .pure belongs

theorem keepsNodes_statements : KeepsNodes origin (statements read) := by
  refine keepsNodes_many (.move (moves_atMark closeBrace) fun atClose => ?_)
  refine .move moves_token fun current => ?_
  split
  · exact keepsOption_none
  · exact (keep .statement).found

theorem keepsNode_block : KeepsNode origin (block read) := by
  refine .move moves_here fun start => .move (moves_needMark openBrace) fun _ => ?_
  refine ((keepsNodes_statements keep).withIn true).read fun children belong => ?_
  exact .move (moves_passMark closeBrace) fun _ => keepsNode_nodeFrom belong _ _

/-! ## Variables -/

theorem keepsNode_declarator (kind : String) (inHead : Bool) :
    KeepsNode origin (declarator read kind inHead) := by
  refine .move moves_here fun start => (keep .binding).read fun target belongs => ?_
  refine .move (moves_passMark "=") fun passed => ?_
  split
  · exact (keep .assignment).read fun value valueBelongs =>
      keepsNode_nodeFrom (belongs.followedBy valueBelongs.alone) _ _
  refine .move moves_atLoopWord fun atWord => ?_
  extract_lets isLeft
  split
  · exact keeps_failAt _ _
  · exact keepsNode_nodeFrom belongs.alone _ _

theorem keepsNode_declarators (kind : String) (inHead : Bool) :
    KeepsNode origin (declarators read kind inHead) := by
  have keeps := keepsNode_declarator keep kind inHead
  refine .move moves_here fun start => .move moves_bump fun _ => ?_
  exact keeps.read fun first belongs => keeps.afterCommas.read fun others belong =>
    keepsNode_nodeFrom (belongs.followedBy belong) _ _

theorem keepsNode_variableStatement (kind : String) :
    KeepsNode origin (variableStatement read kind) := by
  refine .move moves_here fun start => ?_
  refine (keepsNode_declarators keep kind false).read fun declared belongs => ?_
  refine .move moves_passEnd fun passed => ?_
  extract_lets rest
  have keeps : KeepsNode origin (rest ()) := keepsNode_nodeFrom belongs.alone _ _
  split
  · -- An expression that cannot belong to the statement is read and left out.
    have skips : KeepsOption origin (orElse (some <$> read .expression) none) :=
      (keep .expression).optional.orElse (List.forall_mem_nil _)
    refine skips.read fun _ _ => .move moves_get fun state => ?_
    exact .move (moves_passRest _) fun _ => keeps
  · exact keeps

/-! ## Loops -/

theorem keepsNode_loopOver
    {left : Node}
    (belongs : left.BelongsTo origin)
    (start : Nat)
    (isAwait : Bool) : KeepsNode origin (loopOver read start isAwait left) := by
  have goesOn {right : Reader Node} (keeps : KeepsNode origin right) (shape : Shape) :
      KeepsNode origin (do
        let value ← right
        needMark ")"
        let body ← read .statement
        nodeFrom start shape [left, value, body]) := by
    refine keeps.read fun value valueBelongs => .move (moves_needMark ")") fun _ => ?_
    refine (keep .statement).read fun body bodyBelongs => ?_
    exact keepsNode_nodeFrom (belongs.followedBy (valueBelongs.followedBy bodyBelongs.alone)) _ _
  refine .move (moves_passWord "of") fun passed => ?_
  split
  · exact goesOn (keepsNode_value keep) _
  · exact .move (moves_needWord "in") fun _ => goesOn (keepsNode_wholeExpression keep) _

theorem keepsOption_optionalExpression (mark : String) :
    KeepsOption origin (optionalExpression read mark) := by
  refine .move (moves_atMark mark) fun isAbsent => ?_
  split
  · exact keepsOption_none
  · exact (keepsNode_wholeExpression keep).found

theorem keepsNode_loopRest
    (counter : Option Node)
    (belong : AllBelongTo origin counter.toList)
    (start : Nat) : KeepsNode origin (loopRest read start counter) := by
  refine .move (moves_needMark ";") fun _ => ?_
  refine (keepsOption_optionalExpression keep ";").read fun test testBelongs => ?_
  refine .move (moves_needMark ";") fun _ => ?_
  refine (keepsOption_optionalExpression keep ")").read fun update updateBelongs => ?_
  refine .move (moves_needMark ")") fun _ => (keep .statement).read fun body bodyBelongs => ?_
  have clauses := List.forall_mem_append.mpr ⟨belong, testBelongs⟩
  have allClauses := List.forall_mem_append.mpr ⟨clauses, updateBelongs⟩
  exact keepsNode_nodeFrom (List.forall_mem_append.mpr ⟨allClauses, bodyBelongs.alone⟩) _ _

omit keep in
theorem moves_awaitIsTarget : Moves awaitIsTarget := fun _ sound => .start sound

theorem keepsNode_loopBeginning : KeepsNode origin (loopBeginning read) := by
  refine .move moves_awaitIsTarget fun isTarget => ?_
  split
  · exact .move moves_here fun start => .move moves_bump fun _ =>
      keeps_name _ "await" fun span belongs => .pure belongs
  · exact (keep .expression).withIn false

theorem keepsNode_forStatement : KeepsNode origin (forStatement read) := by
  refine .move moves_here fun start => .move moves_bump fun _ => ?_
  refine .move (moves_passWord "await") fun isAwait => .move (moves_needMark "(") fun _ => ?_
  refine .move (moves_atMark ";") fun atSemicolon => ?_
  split
  · exact keepsNode_loopRest keep none (List.forall_mem_nil _) _
  refine .move moves_token fun current => ?_
  extract_lets kind rest
  have keeps (isDeclaration : Bool) : KeepsNode origin (rest isDeclaration) := by
    unfold rest
    split
    · refine ((keepsNode_declarators keep _ _).withIn false).read fun left belongs => ?_
      refine .move moves_atLoopWord fun atWord => ?_
      split
      · exact keepsNode_loopOver keep belongs _ _
      · exact keepsNode_loopRest keep (some left) belongs.alone _
    · refine (keepsNode_loopBeginning keep).read fun left belongs => ?_
      refine .move moves_atLoopWord fun atWord => ?_
      split
      · refine .convert fun target converts => ?_
        exact keepsNode_loopOver keep (belongsTo_toTarget converts belongs) _ _
      · exact keepsNode_loopRest keep (some left) belongs.alone _
  refine .move (moves_atWord "var") fun isVar => .move (moves_atWord "const") fun isConst => ?_
  split
  · exact keeps true
  refine .move (moves_atWord "let") fun isLet => ?_
  split
  · exact .move moves_declares fun isDeclaration => keeps isDeclaration
  · exact keeps false

theorem keepsNode_doStatement : KeepsNode origin (doStatement read) := by
  refine .move moves_here fun start => .move moves_bump fun _ => ?_
  refine (keep .statement).read fun body bodyBelongs => ?_
  refine .move (moves_needWord "while") fun _ => ?_
  refine (keepsNode_head keep).read fun test belongs => .move (moves_passMark ";") fun _ => ?_
  exact keepsNode_nodeFrom (belongs.followedBy bodyBelongs.alone) _ _

/-! ## Choices -/

theorem keepsNode_ifStatement : KeepsNode origin (ifStatement read) := by
  refine .move moves_here fun start => .move moves_bump fun _ => ?_
  refine (keepsNode_head keep).read fun test belongs => ?_
  refine (keep .statement).read fun onTrue trueBelongs => ?_
  refine .move (moves_passWord "else") fun passed => ?_
  split
  · exact (keep .statement).read fun onFalse falseBelongs => keepsNode_nodeFrom
      (belongs.followedBy (trueBelongs.followedBy falseBelongs.alone)) _ _
  · exact keepsNode_nodeFrom (belongs.followedBy trueBelongs.alone) _ _

theorem keepsNode_clause : KeepsNode origin (clause read) := by
  refine .move moves_here fun start => .move (moves_passWord "case") fun passed => ?_
  extract_lets rest
  have keepsBody : KeepsNodes origin (many do
      if (← atWord "case") || (← atWord "default") || (← atMark closeBrace) ||
          (← token) == .ending then
        return none
      return some (← read .statement)) := by
    refine keepsNodes_many (.move (moves_atWord "case") fun atCase => ?_)
    refine .move (moves_atWord "default") fun atDefault => ?_
    refine .move (moves_atMark closeBrace) fun atClose => .move moves_token fun current => ?_
    split
    · exact keepsOption_none
    · exact (keep .statement).found
  have keeps {test : Option Node} (belongs : AllBelongTo origin test.toList) :
      KeepsNode origin (rest test) :=
    .move (moves_needMark ":") fun _ => keepsBody.read fun body belong =>
      keepsNode_nodeFrom (List.forall_mem_append.mpr ⟨belongs, belong⟩) _ _
  split
  · exact (keepsNode_wholeExpression keep).optional.read fun test belongs => keeps belongs
  · exact .move (moves_needWord "default") fun _ =>
      keepsOption_none.read fun test belongs => keeps belongs

theorem keepsNode_switchStatement : KeepsNode origin (switchStatement read) := by
  have keepsClauses : KeepsNodes origin (many do
      if (← atWord "case") || (← atWord "default") then return some (← clause read)
      else return none) := by
    refine keepsNodes_many (.move (moves_atWord "case") fun atCase => ?_)
    refine .move (moves_atWord "default") fun atDefault => ?_
    split
    · exact (keepsNode_clause keep).found
    · exact keepsOption_none
  refine .move moves_here fun start => .move moves_bump fun _ => ?_
  refine (keepsNode_head keep).read fun subject belongs => ?_
  refine .move (moves_needMark openBrace) fun _ => keepsClauses.read fun clauses belong => ?_
  exact .move (moves_needMark closeBrace) fun _ =>
    keepsNode_nodeFrom (belongs.followedBy belong) _ _

theorem keepsNode_tryStatement : KeepsNode origin (tryStatement read) := by
  refine .move moves_here fun start => .move moves_bump fun _ => ?_
  refine (keep .block).read fun body bodyBelongs => .move moves_here fun handlerStart => ?_
  refine .move (moves_passWord "catch") fun passed => ?_
  extract_lets withHandler withParameter
  have keeps {handler : Option Node} (belongs : AllBelongTo origin handler.toList) :
      KeepsNode origin (withHandler handler) := by
    have goesOn {finalizer : Option Node} (finalizerBelongs : AllBelongTo origin finalizer.toList) :
        KeepsNode origin (nodeFrom start (.guarded handler.isSome finalizer.isSome)
          (body :: handler.toList ++ finalizer.toList)) :=
      keepsNode_nodeFrom
        (List.forall_mem_append.mpr ⟨bodyBelongs.followedBy belongs, finalizerBelongs⟩) _ _
    refine .move (moves_passWord "finally") fun passed => ?_
    split
    · exact (keep .block).optional.read fun finalizer finalizerBelongs => goesOn finalizerBelongs
    · exact keepsOption_none.read fun finalizer finalizerBelongs => goesOn finalizerBelongs
  have keepsHandler {parameter : Option Node} (belongs : AllBelongTo origin parameter.toList) :
      KeepsNode origin (withParameter parameter) := by
    refine (keep .block).read fun handling handlingBelongs => ?_
    have parts := List.forall_mem_append.mpr ⟨belongs, handlingBelongs.alone⟩
    exact (keepsNode_nodeFrom parts _ _).read fun node nodeBelongs => keeps nodeBelongs.alone
  split
  · refine .move (moves_passMark "(") fun passed => ?_
    split
    · refine (keep .binding).read fun target belongs => ?_
      exact .move (moves_needMark ")") fun _ => keepsHandler belongs.alone
    · exact keepsOption_none.read fun parameter belongs => keepsHandler belongs
  · exact keepsOption_none.read fun handler belongs => keeps belongs

/-! ## Simple statements -/

omit keep in
theorem keepsNode_jumpStatement (word : String) : KeepsNode origin (jumpStatement word) := by
  refine .move moves_here fun start => .move moves_bump fun _ => ?_
  refine .move moves_afterLineBreak fun broken => ?_
  extract_lets withLabel
  have keeps (label : Option String) : KeepsNode origin (withLabel label) := by
    unfold withLabel
    split
    · exact .move moves_bump fun _ => .move moves_needEnd fun _ => keepsNode_childless _ _
    · exact .move moves_needEnd fun _ => keepsNode_childless _ _
  split
  · exact keeps none
  · exact .move moves_token fun current => keeps _

theorem keepsNode_returnStatement : KeepsNode origin (returnStatement read) := by
  refine .move moves_here fun start => .move moves_bump fun _ => .move moves_atEnd fun ends => ?_
  extract_lets rest
  have keeps {value : Option Node} (belongs : AllBelongTo origin value.toList) :
      KeepsNode origin (rest value) :=
    .move moves_needEnd fun _ => keepsNode_nodeFrom belongs _ _
  split
  · exact keepsOption_none.read fun value belongs => keeps belongs
  · exact (keepsNode_wholeExpression keep).optional.read fun value belongs => keeps belongs

theorem keepsNode_throwStatement : KeepsNode origin (throwStatement read) := by
  refine .move moves_here fun start => .move moves_bump fun _ => ?_
  refine .move moves_afterLineBreak fun broken => ?_
  extract_lets rest
  have keeps : KeepsNode origin (rest ()) := by
    refine (keepsNode_wholeExpression keep).read fun operand belongs => ?_
    refine .move moves_needEnd fun _ => (keeps_spanFrom _).read fun span own => .pure ?_
    exact .of_children rfl own belongs.alone
  split
  · exact .move (yields_fail (fun _ => []) _) fun _ => keeps
  · exact keeps

theorem keepsNode_headed (shape : Shape) : KeepsNode origin (headed read shape) := by
  refine .move moves_here fun start => .move moves_bump fun _ => ?_
  refine (keepsNode_head keep).read fun test belongs => ?_
  exact (keep .statement).read fun body bodyBelongs =>
    keepsNode_nodeFrom (belongs.followedBy bodyBelongs.alone) _ _

theorem keepsNode_expressionStatement : KeepsNode origin (expressionStatement read) := by
  refine .move moves_here fun start => ?_
  refine (keepsNode_wholeExpression keep).read fun inner belongs => ?_
  extract_lets rest
  have keeps : KeepsNode origin (rest ()) := by
    refine .move moves_passEnd fun passed => ?_
    split
    · exact keepsNode_nodeFrom belongs.alone _ _
    · exact keeps_fail _
  split
  · refine .move (moves_passMark ":") fun passed => ?_
    split
    · exact (keep .statement).read fun body bodyBelongs =>
        keepsNode_nodeFrom bodyBelongs.alone _ _
    · exact keeps
  · exact keeps

theorem keepsNode_statement : KeepsNode origin (statement read) := by
  refine .move moves_here fun start => .move moves_token fun current => ?_
  split
  · split
    · exact keep .block
    split
    · exact .move moves_bump fun _ => keepsNode_childless _ _
    · exact keepsNode_expressionStatement keep
  · split
    · exact keepsNode_variableStatement keep _
    · exact keepsNode_variableStatement keep _
    · refine .move moves_declares fun declares => ?_
      split
      · exact keepsNode_variableStatement keep _
      · exact keepsNode_expressionStatement keep
    · exact keepsNode_functionDeclaration keep
    · refine .move moves_followingOnLine fun next => ?_
      split
      · exact keepsNode_functionDeclaration keep
      · exact keepsNode_expressionStatement keep
    · exact keepsNode_classRest keep true _
    · exact keepsNode_ifStatement keep
    · exact keepsNode_forStatement keep
    · exact keepsNode_headed keep _
    · exact keepsNode_doStatement keep
    · exact keepsNode_switchStatement keep
    · exact keepsNode_tryStatement keep
    · exact keepsNode_returnStatement keep
    · exact keepsNode_throwStatement keep
    · exact keepsNode_jumpStatement _
    · exact keepsNode_jumpStatement _
    · exact .move moves_bump fun _ => .move moves_needEnd fun _ => keepsNode_childless _ _
    · exact keepsNode_headed keep _
    · exact keepsNode_expressionStatement keep
  · exact keepsNode_expressionStatement keep

/-! ## Items -/

theorem keepsNodes_attributes : KeepsNodes origin (Parse.attributes read) := by
  refine .move (moves_atWord "with") fun atWith => .move moves_following fun next => ?_
  extract_lets rest
  have keeps {given : List Node} (belong : AllBelongTo origin given) :
      KeepsNodes origin (rest given) :=
    .move moves_needEnd fun _ => .pure belong
  split
  · exact .move moves_bump fun _ => (keep .unary).read fun given belongs => keeps belongs.alone
  · exact keeps (List.forall_mem_nil _)

theorem keepsNode_attributed (start : Nat) (shape : Shape) :
    KeepsNode origin (Parse.attributes read >>= nodeFrom start shape) :=
  (keepsNodes_attributes keep).read fun _ belong => keepsNode_nodeFrom belong start shape

theorem keepsNode_importItem : KeepsNode origin (importItem read) := by
  refine .move moves_here fun start => .move moves_bump fun _ => ?_
  refine .move moves_modify_isModule fun _ => .move moves_token fun current => ?_
  split
  · exact .move moves_bump fun _ => keepsNode_attributed keep _ _
  refine .move moves_token fun again => ?_
  extract_lets standard afterComma rest
  have keepsComma (goesOn : Bool) : KeepsNode origin (afterComma goesOn) := by
    unfold afterComma
    extract_lets afterSpace
    have keepsSpace (space : Option String) : KeepsNode origin (afterSpace space) := by
      unfold afterSpace
      extract_lets afterNames
      have keepsNames (names : List String) : KeepsNode origin (afterNames names) :=
        .move (moves_needWord "from") fun _ => .move moves_stringText fun source =>
          keepsNode_attributed keep _ _
      split
      · exact .move moves_importedNames keepsNames
      · exact keepsNames []
    split
    · exact .move moves_importedSpace keepsSpace
    · exact keepsSpace none
  have keeps : KeepsNode origin (rest ()) := by
    unfold rest
    split
    · exact .move (moves_passMark ",") keepsComma
    · exact keepsComma true
  split
  · exact .move moves_bump fun _ => keeps
  · exact keeps

theorem keepsNode_exportDefault (start : Nat) : KeepsNode origin (exportDefault read start) := by
  refine .move (moves_atWord "async") fun atAsync => ?_
  extract_lets rest
  have keeps (isAsyncFunction : Bool) : KeepsNode origin (rest isAsyncFunction) := by
    refine .move (moves_atWord "function") fun atFunction => ?_
    split
    · exact (keepsNode_functionExpression keep).read fun inner belongs =>
        keepsNode_nodeFrom belongs.alone _ _
    refine .move (moves_atWord "class") fun atClass => ?_
    split
    · exact (keepsNode_classRest keep false _).read fun inner belongs =>
        keepsNode_nodeFrom belongs.alone _ _
    · exact (keepsNode_value keep).read fun inner belongs =>
        .move moves_needEnd fun _ => keepsNode_nodeFrom belongs.alone _ _
  split
  · exact .move moves_followingOnLine fun next => keeps _
  · exact keeps false

theorem keepsNode_exportItem : KeepsNode origin (exportItem read) := by
  refine .move moves_here fun start => .move moves_bump fun _ => ?_
  refine .move moves_modify_isModule fun _ => .move (moves_passWord "default") fun passed => ?_
  split
  · exact keepsNode_exportDefault keep _
  refine .move (moves_passMark "*") fun passed => ?_
  split
  · refine .move (moves_passWord "as") fun passed => ?_
    extract_lets rest
    have keeps (name : Option String) : KeepsNode origin (rest name) :=
      .move (moves_needWord "from") fun _ => .move moves_stringText fun source =>
        keepsNode_attributed keep _ _
    have moves : Moves (some <$> moduleName) := moves_moduleName.map fun _ => rfl
    split
    · exact .move moves keeps
    · exact keeps none
  refine .move (moves_passMark openBrace) fun passed => ?_
  split
  · refine .move (moves_moduleNames.separated closeBrace) fun names => ?_
    refine .move (moves_passWord "from") fun passed => ?_
    split
    · exact .move moves_stringText fun source => keepsNode_attributed keep _ _
    · exact .move moves_passEnd fun _ => keepsNode_childless _ _
  refine .move moves_atDeclaration fun declares => ?_
  split
  · exact (keep .statement).read fun inner belongs => keepsNode_nodeFrom belongs.alone _ _
  · exact keeps_failWith _

theorem keepsNode_item : KeepsNode origin (item read) := by
  refine .move (moves_atWord "import") fun atImport => ?_
  split
  · refine .move moves_following fun next => ?_
    split
    · exact keep .statement
    · exact keepsNode_importItem keep
  refine .move (moves_atWord "export") fun atExport => ?_
  split
  · exact keepsNode_exportItem keep
  · exact keep .statement

/-- The readers of one level give nodes of the text when those of the level below do. -/
theorem keepText_step : KeepText origin (step read)
  | .item => keepsNode_item keep
  | .statement => keepsNode_statement keep
  | .block => keepsNode_block keep
  | .expression => keepsNode_expression keep
  | .assignment => keepsNode_assignment keep
  | .unary => keepsNode_unary keep
  | .operand => keepsNode_operand keep
  | .constructed => keepsNode_constructed keep
  | .binding => keepsNode_binding keep

end

/-- The readers of every level give nodes of the text. -/
theorem keepText_readers (origin : Origin) (levels : Nat) : KeepText origin (readers levels) := by
  induction levels with
  | zero => exact fun goal => keeps_fail _
  | succ levels inductionHypothesis => exact keepText_step inductionHypothesis

theorem keepsNodes_items (origin : Origin) (levels : Nat) :
    KeepsNodes origin (items levels) := by
  refine keepsNodes_many (.move moves_token fun current => ?_)
  split
  · exact keepsOption_none
  · exact (keepText_readers origin levels .item).found

end Parse

/-- The items of a program that was read from a text belong to the text. -/
theorem allBelongTo_of_parse
    {origin : Origin}
    {text : List Char}
    {parsed : Parsed}
    (parses : parse origin text = .ok parsed) : AllBelongTo origin parsed.program.items := by
  have kept := Parse.keepsNodes_items origin (Parse.levelsFor text.length)
    (Parse.State.initial origin text) (Parse.sound_enter _ _) rfl
  unfold parse at parses
  split at parses
  · cases parses
  · next items state ran =>
      rw [ran] at kept
      cases parses
      obtain ⟨_, _, belong⟩ := kept
      exact belong

/-- The spans of a program that was read from a text belong to the text. -/
theorem spansOwn_of_parse
    {text : List Char}
    {parsed : Parsed}
    (parses : parse .program text = .ok parsed) : SpansOwn parsed.program := by
  intro occurrence present
  rw [Program.mem_occurrences_iff] at present
  obtain ⟨_ | ⟨index, address⟩, node⟩ := occurrence
  · simp [Program.subtree?] at present
  obtain ⟨item, isItem, found⟩ := (subtreeAmong?_eq_some_iff _ _ _ _).mp present
  have itemBelongs := allBelongTo_of_parse parses item (List.mem_of_getElem? isItem)
  exact (itemBelongs.subtree? found).origin_eq

end Program
end ErrorTemplates
