import ErrorTemplates.Program.Parse.Item

/-!
# Reading a program

The readers of all goals are tied together here: each is given the readers of one level
less, and the number of levels grows with the length of the text, which no nesting can
exceed. The result is the tree with its comments, or the first error.
-/

namespace ErrorTemplates
namespace Program
namespace Parse

/-- The reader of one goal, given the readers of all goals. -/
def step (read : Readers) : Readers
  | .item => item read
  | .statement => statement read
  | .block => block read
  | .expression => expression read
  | .assignment => assignment read
  | .unary => unary read
  | .operand => operand read
  | .constructed => constructed read
  | .binding => binding read

/-- The readers of all goals for a text of so many levels. -/
def readers : (levels : Nat) -> Readers
  | 0 => fun _ => fail .nesting
  | levels + 1 => step (readers levels)

/-- The levels that suffice for a text of the given length. -/
def levelsFor (length : Nat) : Nat := 8 * (length + 8)

/-- Read the items of a program up to its end. -/
def items (levels : Nat) : Reader (List Node) :=
  many do
    if (← token) == .ending then return none
    return some (← readers levels .item)

end Parse

/-- A program with its comments. -/
structure Parsed where
  /-- The program. -/
  program : Program
  /-- The comments, which are kept beside the tree. -/
  comments : Comments

/-- Read a text that has no byte order mark. -/
def parse (origin : Origin) (text : List Char) : Except SyntaxError Parsed :=
  match Parse.items (Parse.levelsFor text.length) (Parse.State.initial origin text) with
  | .error error _ => .error error
  | .ok items state =>
      .ok
        { program :=
            { isModule := state.isModule
              interpreter := String.ofList <$> Parse.State.interpreter? text
              items
              finish := state.previousStop }
          comments := state.comments }

end Program
end ErrorTemplates
