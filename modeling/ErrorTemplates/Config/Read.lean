import ErrorTemplates.Config.Basic
import ErrorTemplates.Json.Reader

/-!
# Reading configurations

A configuration is an object whose known members may stand in any order and at most once;
other members are passed over. It may also be an array of the values of the known members
in their order. What is missing has its value by default.
-/

namespace ErrorTemplates
namespace Config

open Json (Reader)

/-- The members that have been read. -/
structure Members where
  /-- The name of the factory. -/
  factory : Option String
  /-- The end of the names of functions that make errors. -/
  suffix : Option String
  /-- The path of the replacement, which may be null. -/
  replacement : Option (Option String)
  /-- The path of the file for the templates. -/
  messages : Option String

namespace Members

/-- No members. -/
def none : Members :=
  { factory := .none, suffix := .none, replacement := .none, messages := .none }

/-- The configuration with these members and what holds by default. -/
def toConfig (members : Members) : Config :=
  { factory := members.factory.getD default.factory
    suffix := members.suffix.getD default.suffix
    replacement := members.replacement.getD default.replacement
    messages := members.messages.getD default.messages }

/-- The member of a name has been read. -/
def has (members : Members) (name : String) : Bool :=
  match name with
  | "factoryName" => members.factory.isSome
  | "suffix" => members.suffix.isSome
  | "replacement" => members.replacement.isSome
  | "messagesOutput" => members.messages.isSome
  | _ => false

end Members

/-- Fail because a member is there for the second time. If the object ends here, its end
counts as read. -/
def failDuplicate (name : String) : Reader Unit := do
  if (← Json.afterBlanks) == some '\x7d' then Json.skip
  Json.failHere (.duplicate name)

/-- Pass the colon between the name and the value of a member. -/
def passColon : Reader Unit := do
  match ← Json.afterBlanks with
  | some ':' => Json.skip
  | some _ => Json.failNext .colonExpected
  | none => Json.failNext .endInObject

/-- Read the value of a member. -/
def readMember (members : Members) (name : String) : Reader Members := do
  if members.has name then failDuplicate name
  passColon
  match name with
  | "factoryName" => return { members with factory := some (← Json.stringValue) }
  | "suffix" => return { members with suffix := some (← Json.stringValue) }
  | "replacement" =>
      return { members with replacement := some (← Json.optionalStringValue) }
  | "messagesOutput" => return { members with messages := some (← Json.stringValue) }
  | _ =>
      Json.passValue
      return members

/-- Another member follows. The comma before it is passed. -/
def memberFollows (isFirst : Bool) : Reader Bool := do
  match ← Json.afterBlanks with
  | none => Json.failNext .endInObject
  | some '\x7d' => return false
  | some '"' => if isFirst then return true else Json.failNext .objectEndExpected
  | some ',' =>
      if isFirst then Json.failNext .keyExpected
      Json.skip
      match ← Json.afterBlanks with
      | some '"' => return true
      | some '\x7d' => Json.failNext .trailingComma
      | some _ => Json.failNext .keyExpected
      | none => Json.failNext .endInValue
  | some _ =>
      if isFirst then Json.failNext .keyExpected else Json.failNext .objectEndExpected

/-- Read members up to the end of the object. -/
def readMembers : (limit : Nat) -> (isFirst : Bool) -> Members -> Reader Members
  | 0, _, members => return members
  | limit + 1, isFirst, members => do
      if ← memberFollows isFirst then
        let name ← Json.string
        readMembers limit false (← readMember members name)
      else
        Json.skip
        return members

/-- Another element follows. The comma before it is passed. -/
def elementFollows (isFirst : Bool) : Reader Bool := do
  match ← Json.afterBlanks with
  | none => Json.failNext .endInArray
  | some ']' => return false
  | some found =>
      if isFirst then return true
      if found != ',' then Json.failNext .arrayEndExpected
      Json.skip
      match ← Json.afterBlanks with
      | some ']' => Json.failNext .trailingComma
      | some _ => return true
      | none => Json.failNext .endInValue

/-- Read an element if there is one. -/
def readElement {α : Type} (isFirst : Bool) (element : Reader α) : Reader (Option α) := do
  if ← elementFollows isFirst then some <$> element else return none

/-- Read the end of an array after its last known element. -/
def endArray : Reader Unit := do
  match ← Json.afterBlanks with
  | some ']' => Json.skip
  | some ',' =>
      Json.skip
      if (← Json.afterBlanks) == some ']' then Json.failNext .trailingComma
      else Json.failNext .trailingCharacters
  | some _ => Json.failNext .trailingCharacters
  | none => Json.failNext .endInArray

/-- Read the elements of an array. -/
def readElements : Reader Members := do
  let factory ← readElement true Json.stringValue
  let suffix ← readElement false Json.stringValue
  let replacement ← readElement false Json.optionalStringValue
  let messages ← readElement false Json.stringValue
  endArray
  return { factory, suffix, replacement, messages }

/-- Read a configuration. -/
def reader : Reader Config := do
  match ← Json.afterBlanks with
  | none => Json.failNext .endInValue
  | some '\x7b' =>
      Json.skip
      let members ← readMembers ((← get).rest.length + 1) true .none
      return members.toConfig
  | some '[' =>
      Json.skip
      return (← readElements).toConfig
  | some _ => Json.wrongKind "struct Config"

/-- Read a configuration from a text, or tell its first fault. -/
def parse (text : String) : Except Json.Fault Config := Json.read reader text

end Config
end ErrorTemplates
