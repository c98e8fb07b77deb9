import ErrorTemplates.Proofs.Extraction.Outline

/-!
# Trees that look alike to an extraction

An extraction looks at names, at the values of constants but not at their parts, at how calls,
constructions and throw statements are nested, and at the name space that a callee stands for.
Trees that agree in all this have events with the same outlines, whatever else they are made of
and wherever they stand.
-/

namespace ErrorTemplates
namespace Extraction

open Program

/-- A relation holds between the elements of two lists that stand at the same place. -/
def Paired (related : α -> β -> Prop) (first : List α) (second : List β) : Prop :=
  ∀ (index : Nat) one other, first[index]? = some one -> second[index]? = some other ->
    related one other

/-- Two trees look alike to an extraction. -/
inductive Alike (naming : Naming) : Node -> Node -> Prop
  | identifier (span other : Span) (name : String) :
      Alike naming (.identifier span name) (.identifier other name)
  | string (span other : Span) (raw written : String) (value : Option String) :
      Alike naming (.string span raw value) (.string other written value)
  /-- Constants with the same value can stand for each other. -/
  | constants
      {one another : Node}
      {value : String}
      (isOne : constant? one = some value)
      (isOther : constant? another = some value) :
      Alike naming one another
  | sum
      {left right first second : Node}
      (span other : Span)
      (lefts : Alike naming left first)
      (rights : Alike naming right second) :
      Alike naming (.sum span left right) (.sum other first second)
  | parens
      {inner enclosed : Node}
      (span other : Span)
      (inners : Alike naming inner enclosed) :
      Alike naming (.parens span inner) (.parens other enclosed)
  | spread
      {inner enclosed : Node}
      (span other : Span)
      (inners : Alike naming inner enclosed) :
      Alike naming (.spread span inner) (.spread other enclosed)
  | call
      {callee called : Node}
      {arguments given : List Node}
      (span other : Span)
      (callees : Alike naming callee called)
      (length_eq : arguments.length = given.length)
      (among : Paired (Alike naming) arguments given) :
      Alike naming (.call span callee arguments) (.call other called given)
  /-- Callees that make errors in one name space can stand for each other where there are
  arguments enough for a code and a message. -/
  | makers
      {callee called : Node}
      {maker another : Maker}
      {arguments given : List Node}
      (span other : Span)
      (makes : naming.maker? callee = some maker)
      (makesToo : naming.maker? called = some another)
      (space_eq : maker.space = another.space)
      (enough : 2 ≤ arguments.length)
      (length_eq : arguments.length = given.length)
      (among : Paired (Alike naming) arguments given) :
      Alike naming (.call span callee arguments) (.call other called given)
  | construct
      {callee called : Node}
      {arguments given : List Node}
      (span other : Span)
      (callees : Alike naming callee called)
      (length_eq : arguments.length = given.length)
      (among : Paired (Alike naming) arguments given) :
      Alike naming (.construct span callee arguments) (.construct other called given)
  | throwing
      {operand thrown : Node}
      (span other : Span)
      (operands : Alike naming operand thrown) :
      Alike naming (.throwing span operand) (.throwing other thrown)
  | function
      {signature declared : Signature}
      {parameters accepted : List Node}
      {body inner : Node}
      (span other : Span)
      (name_eq : signature.name = declared.name)
      (length_eq : parameters.length = accepted.length)
      (among : Paired (Alike naming) parameters accepted)
      (bodies : Alike naming body inner) :
      Alike naming (.function span signature parameters body)
        (.function other declared accepted inner)
  | other
      {shape form : Shape}
      {children parts : List Node}
      (span other : Span)
      (length_eq : children.length = parts.length)
      (among : Paired (Alike naming) children parts) :
      Alike naming (.other span shape children) (.other other form parts)

/-- Nodes that are changed so that they look alike are paired with what they become. -/
theorem paired_mapIdx
    {naming : Naming}
    {change : Nat -> Node -> Node}
    (nodes : List Node)
    (within : ∀ index child, nodes[index]? = some child ->
      Alike naming child (change index child)) :
    nodes.length = (nodes.mapIdx change).length ∧
      Paired (Alike naming) nodes (nodes.mapIdx change) := by
  refine ⟨List.length_mapIdx.symm, fun index one other isOne isOther => ?_⟩
  rw [List.getElem?_mapIdx, isOne] at isOther
  obtain rfl := Option.some.inj isOther
  exact within index one isOne

/-! ## Calls -/

/-- Lists whose elements agree one by one are mapped to the same list. -/
theorem Paired.map_eq
    {first : List α}
    {second : List β}
    {view : α -> γ}
    {seen : β -> γ}
    (among : Paired (fun one other => view one = seen other) first second)
    (length_eq : first.length = second.length) : first.map view = second.map seen := by
  refine List.ext_getElem (by simp [length_eq]) fun index inFirst inSecond => ?_
  rw [List.getElem_map, List.getElem_map]
  exact among index _ _ (List.getElem?_eq_getElem _) (List.getElem?_eq_getElem _)

/-- What recognition and folding see of an argument. -/
def argumentView (node : Node) : Bool × Option String := (node.isSpread, constant? node)

/-- Calls whose callees stand for one name space and whose arguments are seen alike are
recognised alike. -/
theorem outline_callEvent?_eq
    {naming : Naming}
    (call other : Call)
    (spaces : (naming.maker? call.callee).map Maker.space =
      (naming.maker? other.callee).map Maker.space)
    (views : call.arguments.map argumentView = other.arguments.map argumentView)
    (isThrown : Bool) :
    (callEvent? naming isThrown call).map Event.outline =
      (callEvent? naming isThrown other).map Event.outline := by
  obtain ⟨span, callee, arguments⟩ := call
  obtain ⟨otherSpan, called, given⟩ := other
  cases makes : naming.maker? callee with
  | none =>
      have makesToo : naming.maker? called = none := by simpa [makes] using spaces.symm
      simp [callEvent?, Naming.match?, makes, makesToo]
  | some maker =>
      obtain ⟨another, makesToo, space_eq⟩ : ∃ another, naming.maker? called = some another ∧
          another.space = maker.space := by
        simpa [makes] using spaces.symm
      rcases arguments with _ | ⟨code, _ | ⟨message, trailing⟩⟩ <;>
        rcases given with _ | ⟨otherCode, _ | ⟨otherMessage, rest⟩⟩
      case cons.cons.cons.cons =>
        simp only [List.map_cons, List.cons.injEq, argumentView, Prod.mk.injEq] at views
        obtain ⟨⟨codeSpread, codeValue⟩, ⟨messageSpread, messageValue⟩, _⟩ := views
        simp only [callEvent?, Naming.match?, makes, makesToo, codeSpread, messageSpread]
        cases otherCode.isSpread || otherMessage.isSpread with
        | true => rfl
        | false =>
            simp [Event.outline, ErrorCall.folded?, ErrorCall.fault, codeValue, messageValue,
              space_eq]
            cases constant? otherCode <;> rfl
      all_goals simp [callEvent?, Naming.match?] at views ⊢

/-- The node is a call that makes an error, apart from parentheses. -/
def makesError (naming : Naming) (node : Node) : Bool :=
  match node.bare with
  | .call _ callee arguments => (naming.match? callee arguments).isSome
  | _ => false

/-- What is thrown hides an error when it makes another one from a call that makes an
error. -/
theorem hidesError_eq (naming : Naming) (operand : Node) :
    hidesError naming operand =
      match operand.bare with
      | .construct _ callee [argument] => isErrorName callee && makesError naming argument
      | .call _ callee [argument] => isErrorName callee && makesError naming argument
      | _ => false := by
  have sole (argument : Node) :
      ((soleCall? [argument]).any fun call =>
        (naming.match? call.callee call.arguments).isSome) = makesError naming argument := by
    simp only [soleCall?, makesError]
    cases argument.bare <;> rfl
  unfold hidesError wrappedCall?
  cases operand.bare with
  | call span callee arguments | construct span callee arguments =>
      cases isError : isErrorName callee with
      | true =>
          rcases arguments with _ | ⟨argument, _ | ⟨second, rest⟩⟩
          · simp [isError, soleCall?]
          · simp [isError, sole]
          · simp [isError, soleCall?]
      | false =>
          rcases arguments with _ | ⟨argument, _ | ⟨second, rest⟩⟩ <;> simp [isError]
  | _ => rfl

/-! ## Constants -/

section
variable {naming : Naming} {node : Node} {text : String}

theorem isSpread_of_constant (constant : constant? node = some text) : node.isSpread = false := by
  cases node with
  | spread => simp at constant
  | _ => rfl

theorem isFactory_of_constant (constant : constant? node = some text) :
    naming.isFactory node = false := by
  cases node with
  | identifier => simp [constant?] at constant
  | _ => rfl

theorem maker?_of_constant (constant : constant? node = some text) : naming.maker? node = none := by
  cases node with
  | identifier => simp [constant?] at constant
  | call => simp at constant
  | _ => rfl

/-- Without its parentheses a constant is a string or a sum. -/
theorem bare_of_constant (constant : constant? node = some text) :
    (∃ span raw value, node.bare = .string span raw value) ∨
      ∃ span left right, node.bare = .sum span left right := by
  fun_induction Node.bare node with
  | case1 span inner innerHypothesis => exact innerHypothesis constant
  | case2 node notParens =>
      cases node with
      | string span raw value => exact .inl ⟨span, raw, value, rfl⟩
      | sum span left right => exact .inr ⟨span, left, right, rfl⟩
      | parens span inner => exact absurd rfl (notParens span inner)
      | _ => simp [constant?] at constant

theorem isErrorName_of_constant (constant : constant? node = some text) :
    isErrorName node = false := by
  obtain ⟨_, _, _, isBare⟩ | ⟨_, _, _, isBare⟩ := bare_of_constant constant <;>
    rw [isErrorName, isBare]

/-- A constant is no call. -/
theorem makesError_of_constant (constant : constant? node = some text) :
    makesError naming node = false := by
  obtain ⟨_, _, _, isBare⟩ | ⟨_, _, _, isBare⟩ := bare_of_constant constant <;>
    rw [makesError, isBare]

theorem hidesError_of_constant (constant : constant? node = some text) :
    hidesError naming node = false := by
  obtain ⟨_, _, _, isBare⟩ | ⟨_, _, _, isBare⟩ := bare_of_constant constant <;>
    rw [hidesError_eq, isBare]

end

/-! ## What trees that look alike have in common -/

namespace Alike

variable {naming : Naming} {first second : Node}

theorem constant?_eq (alike : Alike naming first second) : constant? first = constant? second := by
  induction alike with
  | constants isOne isOther => rw [isOne, isOther]
  | sum span other lefts rights leftHypothesis rightHypothesis =>
      rw [constant?, constant?, leftHypothesis, rightHypothesis]
  | parens span other inners innerHypothesis =>
      rw [constant?_parens, constant?_parens, innerHypothesis]
  | _ => rfl

theorem argumentView_eq (alike : Alike naming first second) :
    argumentView first = argumentView second := by
  rw [argumentView, argumentView, alike.constant?_eq]
  cases alike with
  | constants isOne isOther => rw [isSpread_of_constant isOne, isSpread_of_constant isOther]
  | _ => rfl

theorem isFactory_eq (alike : Alike naming first second) :
    naming.isFactory first = naming.isFactory second := by
  cases alike with
  | constants isOne isOther => rw [isFactory_of_constant isOne, isFactory_of_constant isOther]
  | _ => rfl

theorem isErrorName_eq (alike : Alike naming first second) :
    isErrorName first = isErrorName second := by
  induction alike with
  | constants isOne isOther => rw [isErrorName_of_constant isOne, isErrorName_of_constant isOther]
  | parens span other inners innerHypothesis => exact innerHypothesis
  | _ => rfl

/-- A callee stands for the same name space as one that looks like it. -/
theorem space_eq (alike : Alike naming first second) :
    (naming.maker? first).map Maker.space = (naming.maker? second).map Maker.space := by
  cases alike with
  | constants isOne isOther => rw [maker?_of_constant isOne, maker?_of_constant isOther]
  | @call callee called arguments given span other callees length_eq among =>
      rcases arguments with _ | ⟨argument, _ | ⟨next, trailing⟩⟩ <;>
        rcases given with _ | ⟨match_, _ | ⟨following, rest⟩⟩
      case cons.nil.cons.nil =>
        simp only [Naming.maker?, callees.isFactory_eq, (among 0 _ _ rfl rfl).constant?_eq]
      all_goals simp [Naming.maker?] at length_eq ⊢
  | @makers callee called _ _ arguments given span other _ _ _ enough length_eq among =>
      rcases arguments with _ | ⟨argument, _ | ⟨next, trailing⟩⟩ <;>
        rcases given with _ | ⟨match_, _ | ⟨following, rest⟩⟩
      all_goals simp [Naming.maker?] at length_eq enough ⊢
  | _ => rfl

end Alike

section
variable {naming : Naming}

/-- The arguments of calls are seen alike if they look alike. -/
theorem argumentViews_eq
    {arguments given : List Node}
    (length_eq : arguments.length = given.length)
    (among : Paired (Alike naming) arguments given) :
    arguments.map argumentView = given.map argumentView :=
  Paired.map_eq (fun index one other isOne isOther =>
    (among index one other isOne isOther).argumentView_eq) length_eq

/-- Calls that are recognised alike make errors alike. -/
theorem makesError_call_eq
    {callee called : Node}
    {arguments given : List Node}
    (spaces : (naming.maker? callee).map Maker.space = (naming.maker? called).map Maker.space)
    (views : arguments.map argumentView = given.map argumentView)
    (span other : Span) :
    makesError naming (.call span callee arguments) =
      makesError naming (.call other called given) := by
  let call : Call := { span, callee, arguments }
  let alikeCall : Call := { span := other, callee := called, arguments := given }
  have events_eq := congrArg Option.isSome
    (outline_callEvent?_eq call alikeCall spaces views false)
  simpa [callEvent?, makesError, Node.bare, call, alikeCall] using events_eq

theorem Alike.makesError_eq {first second : Node} (alike : Alike naming first second) :
    makesError naming first = makesError naming second := by
  induction alike with
  | constants isOne isOther => rw [makesError_of_constant isOne, makesError_of_constant isOther]
  | parens span other inners innerHypothesis => exact innerHypothesis
  | call span other callees length_eq among =>
      exact makesError_call_eq callees.space_eq (argumentViews_eq length_eq among) span other
  | makers span other makes makesToo space_eq enough length_eq among =>
      refine makesError_call_eq ?_ (argumentViews_eq length_eq among) span other
      rw [makes, makesToo, Option.map_some, Option.map_some, space_eq]
  | _ => rfl

/-- What is thrown hides an error if something that looks like it does. -/
theorem Alike.hidesError_eq {first second : Node} (alike : Alike naming first second) :
    hidesError naming first = hidesError naming second := by
  induction alike with
  | constants isOne isOther => rw [hidesError_of_constant isOne, hidesError_of_constant isOther]
  | parens span other inners innerHypothesis => exact innerHypothesis
  | @call callee called arguments given span other callees length_eq among
  | @construct callee called arguments given span other callees length_eq among =>
      rw [Extraction.hidesError_eq, Extraction.hidesError_eq]
      rcases arguments with _ | ⟨argument, _ | ⟨next, trailing⟩⟩ <;>
        rcases given with _ | ⟨match_, _ | ⟨following, rest⟩⟩
      case cons.nil.cons.nil =>
        simp only [Node.bare, callees.isErrorName_eq, (among 0 _ _ rfl rfl).makesError_eq]
      all_goals simp [Node.bare] at length_eq ⊢
  | @makers callee called _ _ arguments given span other _ _ _ enough length_eq among =>
      rw [Extraction.hidesError_eq, Extraction.hidesError_eq]
      rcases arguments with _ | ⟨argument, _ | ⟨next, trailing⟩⟩ <;>
        rcases given with _ | ⟨match_, _ | ⟨following, rest⟩⟩
      all_goals simp [Node.bare] at length_eq enough ⊢
  | _ => rfl

end

/-! ## What a visit notices -/

/-- The outlines of the events of a visit. -/
def outlines (naming : Naming) (place : Place) (node : Node) : List Outline :=
  (trace naming place node).map Event.outline

/-- The outlines of the events of a visit of nodes that are numbered from a start. -/
def outlinesFrom (naming : Naming) (place : Place) (start : Nat) (nodes : List Node) :
    List Outline :=
  (traceAll naming place start nodes).map Event.outline

section
variable {naming : Naming} {place : Place}

theorem map_outline_map_inChild (index : Nat) (events : List Event) :
    (events.map (Event.inChild index)).map Event.outline =
      (events.map Event.outline).map (Outline.inChild index) := by
  simp [Function.comp_def]

theorem outlinesFrom_eq
    (start : Nat)
    {nodes others : List Node}
    (length_eq : nodes.length = others.length)
    (among : Paired (fun one other => outlines naming place one = outlines naming place other)
      nodes others) :
    outlinesFrom naming place start nodes = outlinesFrom naming place start others := by
  induction nodes generalizing others start with
  | nil =>
      obtain rfl := List.length_eq_zero_iff.mp length_eq.symm
      rfl
  | cons node rest inductionHypothesis =>
      rcases others with _ | ⟨other, following⟩
      · simp at length_eq
      · have nodes_eq : outlines naming place node = outlines naming place other :=
          among 0 node other rfl rfl
        have rest_eq := inductionHypothesis (start + 1) (Nat.succ.inj length_eq)
          fun index one match_ isOne isMatch => among (index + 1) one match_ isOne isMatch
        simp only [outlines, outlinesFrom] at nodes_eq rest_eq
        simp only [outlinesFrom, traceAll, List.map_append, map_outline_map_inChild, nodes_eq,
          rest_eq]

/-- A callee that makes errors has no events itself. -/
theorem trace_of_maker
    {callee : Node}
    {maker : Maker}
    (makes : naming.maker? callee = some maker) : trace naming .plain callee = [] := by
  obtain ⟨span, name, rfl, _⟩ | ⟨span, factorySpan, argument, rfl, _, constant⟩ :=
    (naming.maker?_eq_some_iff callee maker).mp makes
  · rfl
  · cases made : naming.maker? (.identifier factorySpan naming.factory) <;>
      simp [trace, traceAll, callEvent?, Naming.match?, made,
        trace_of_constant naming .plain constant]

end

/-- The events of a call follow from those of its callee and its arguments if the call is
recognised alike. -/
theorem outlines_call_eq
    {naming : Naming}
    {callee called : Node}
    {arguments given : List Node}
    (spaces : (naming.maker? callee).map Maker.space = (naming.maker? called).map Maker.space)
    (views : arguments.map argumentView = given.map argumentView)
    (callee_eq : outlines naming .plain callee = outlines naming .plain called)
    (arguments_eq : ∀ place,
      outlinesFrom naming place 1 arguments = outlinesFrom naming place 1 given)
    (span other : Span)
    (place : Place) :
    outlines naming place (.call span callee arguments) =
      outlines naming place (.call other called given) := by
  let call : Call := { span, callee, arguments }
  let alikeCall : Call := { span := other, callee := called, arguments := given }
  have own_eq := outline_callEvent?_eq call alikeCall spaces views (place == .wrapped)
  simp only [outlines, outlinesFrom] at callee_eq arguments_eq
  by_cases isOperand : place = .operand
  · simp only [outlines, trace, isOperand, if_true, arguments_eq]
  · simp only [outlines, trace, isOperand, if_false, List.map_append, map_outline_map_inChild,
      callee_eq, arguments_eq, ← Option.toList_map]
    rw [own_eq]

/-- Trees that look alike have events with the same outlines. -/
theorem Alike.outlines_eq
    {naming : Naming}
    {first second : Node}
    (alike : Alike naming first second)
    (place : Place) : outlines naming place first = outlines naming place second := by
  induction alike generalizing place with
  | identifier | string => rfl
  | constants isOne isOther =>
      rw [outlines, outlines, trace_of_constant naming place isOne,
        trace_of_constant naming place isOther]
  | sum span other lefts rights leftHypothesis rightHypothesis =>
      have left_eq := leftHypothesis .plain
      have right_eq := rightHypothesis .plain
      simp only [outlines] at left_eq right_eq
      simp only [outlines, trace, List.map_append, map_outline_map_inChild, left_eq, right_eq]
  | parens span other inners innerHypothesis =>
      have inner_eq := innerHypothesis place
      simp only [outlines] at inner_eq
      simp only [outlines, trace, map_outline_map_inChild, inner_eq]
  | spread span other inners innerHypothesis =>
      have inner_eq := innerHypothesis .plain
      simp only [outlines] at inner_eq
      simp only [outlines, trace, map_outline_map_inChild, inner_eq]
  | @call callee called arguments given span other callees length_eq among calleeHypothesis
      argumentHypothesis =>
      have arguments_eq (place : Place) :
          outlinesFrom naming place 1 arguments = outlinesFrom naming place 1 given :=
        outlinesFrom_eq 1 length_eq fun index one match_ isOne isMatch =>
          argumentHypothesis index one match_ isOne isMatch place
      exact outlines_call_eq callees.space_eq (argumentViews_eq length_eq among)
        (calleeHypothesis .plain) arguments_eq span other place
  | @makers callee called maker another arguments given span other makes makesToo space_eq enough
      length_eq among argumentHypothesis =>
      have arguments_eq (place : Place) :
          outlinesFrom naming place 1 arguments = outlinesFrom naming place 1 given :=
        outlinesFrom_eq 1 length_eq fun index one match_ isOne isMatch =>
          argumentHypothesis index one match_ isOne isMatch place
      refine outlines_call_eq ?_ (argumentViews_eq length_eq among) ?_ arguments_eq span other place
      · rw [makes, makesToo, Option.map_some, Option.map_some, space_eq]
      · rw [outlines, outlines, trace_of_maker makes, trace_of_maker makesToo]
  | construct span other callees length_eq among calleeHypothesis argumentHypothesis =>
      have callee_eq := calleeHypothesis .plain
      have arguments_eq (place : Place) := outlinesFrom_eq 1 length_eq
        fun index one match_ isOne isMatch =>
          argumentHypothesis index one match_ isOne isMatch place
      simp only [outlines, outlinesFrom] at callee_eq arguments_eq
      cases place <;>
        simp [outlines, trace, -List.map_map, map_outline_map_inChild, callee_eq, arguments_eq]
  | throwing span other operands operandHypothesis =>
      simp only [outlines] at operandHypothesis
      simp only [outlines, trace, map_outline_map_inChild, operands.hidesError_eq,
        operandHypothesis]
  | function span other name_eq length_eq among bodies parameterHypothesis bodyHypothesis =>
      have body_eq := bodyHypothesis .plain
      have parameters_eq := outlinesFrom_eq 0 length_eq fun index one match_ isOne isMatch =>
        parameterHypothesis index one match_ isOne isMatch .plain
      simp only [outlines, outlinesFrom] at body_eq parameters_eq
      simp only [outlines, trace, List.map_append, map_outline_map_inChild, length_eq, body_eq,
        parameters_eq, declarationEvent?, name_eq]
      split <;> rfl
  | other span other length_eq among childHypothesis =>
      simp only [outlines, trace]
      exact outlinesFrom_eq 0 length_eq fun index one match_ isOne isMatch =>
        childHypothesis index one match_ isOne isMatch .plain

end Extraction
end ErrorTemplates
