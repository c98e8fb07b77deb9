import ErrorTemplates.Config.Read
import ErrorTemplates.Proofs.Json.Passing
import ErrorTemplates.Proofs.Json.Pretty

/-!
# What is read as a configuration

A configuration is read from an object whatever the order of its members, what stands between
them and what other members there are. What the object says of a configuration depends on the
values under each of the four names alone.
-/

namespace ErrorTemplates
namespace Config

open Json

/-! ## One member after the other -/

/-- The members that have been read with one more, unless it cannot be taken. -/
def taken? (members : Members) (name : String) (value : Datum) : Option Members :=
  if members.has name then none
  else
    match name with
    | "factoryName" => value.text?.map fun text => { members with factory := some text }
    | "suffix" => value.text?.map fun text => { members with suffix := some text }
    | "replacement" => value.optionalText?.map fun text => { members with replacement := some text }
    | "messagesOutput" => value.text?.map fun text => { members with messages := some text }
    | _ => some members

/-- The members that have been read with those of an object. -/
def takenAll? (members : Members) : List (List Letter × Datum) -> Option Members
  | [] => some members
  | (name, value) :: others =>
      (text? name).bind fun name =>
        (taken? members name value).bind fun members => takenAll? members others

section
variable {before after text written rest : List Char} {value : Datum}

theorem yields_failDuplicate (name : String) (text : List Char) :
    Yields (failDuplicate name) text none := by
  refine yields_bind_fails _ fun found rest => ?_
  dsimp only
  split
  · exact yields_bind_fails _ fun _ rest => yields_failHere _ rest
  · exact yields_failHere _ rest

theorem yields_passColon (gap : Gap isBlank before (':' :: rest)) :
    Yields passColon before (some ((), rest)) :=
  (yields_afterBlanks_cons gap (by decide)).bind (yields_skip ':' rest)

/-- The value of a member is taken, or it is a fault. -/
theorem yields_readMember
    (members : Members)
    (name : String)
    (beforeColon : Gap isBlank before (':' :: after))
    (colonGap : Gap isBlank after written)
    (reads : Reads isBlank written value rest)
    (ends : EndsNumber rest) :
    Yields (readMember members name) before ((taken? members name value).map (·, rest)) := by
  by_cases isRead : members.has name = true
  · have refused : taken? members name value = none := by
      unfold taken?
      rw [if_pos isRead]
    rw [refused]
    unfold readMember
    split <;> dsimp only <;> rw [if_pos isRead] <;>
      exact (yields_failDuplicate _ before).bind_none
  · unfold readMember
    split <;> dsimp only <;> rw [if_neg isRead] <;>
      refine (yields_passColon beforeColon).bind ?_ <;> unfold taken? <;> rw [if_neg isRead]
    · exact (yields_stringValue colonGap reads).map _
    · exact (yields_stringValue colonGap reads).map _
    · exact (yields_optionalStringValue colonGap reads).map _
    · exact (yields_stringValue colonGap reads).map _
    · refine (yields_passValue colonGap reads ends).bind ?_
      split <;> first | exact yields_pure members rest | contradiction

/-! ## All members -/

theorem yields_memberFollows_first
    {others : List Char}
    (gap : Gap isBlank before ('"' :: others)) :
    Yields (memberFollows true) before (some (true, '"' :: others)) :=
  (yields_afterBlanks_cons gap (by decide)).bind (yields_pure true _)

theorem yields_memberFollows_next
    {others : List Char}
    (beforeComma : Gap isBlank before (',' :: after))
    (afterComma : Gap isBlank after ('"' :: others)) :
    Yields (memberFollows false) before (some (true, '"' :: others)) := by
  refine (yields_afterBlanks_cons beforeComma (by decide)).bind ?_
  refine (yields_skip ',' after).bind ?_
  exact (yields_afterBlanks_cons afterComma (by decide)).bind (yields_pure true _)

theorem yields_memberFollows_end
    (isFirst : Bool)
    (gap : Gap isBlank before ('\x7d' :: rest)) :
    Yields (memberFollows isFirst) before (some (false, '\x7d' :: rest)) :=
  (yields_afterBlanks_cons gap (by decide)).bind (yields_pure false _)

theorem yields_readMembers_end
    (limit : Nat)
    (isFirst : Bool)
    (members : Members)
    (gap : Gap isBlank before ('\x7d' :: rest)) :
    Yields (readMembers (limit + 1) isFirst members) before (some (members, rest)) :=
  (yields_memberFollows_end isFirst gap).bind
    ((yields_skip '\x7d' rest).bind (yields_pure members rest))

/-- A member is taken before those after it. -/
theorem yields_readMembers_succ
    {limit : Nat}
    {isFirst : Bool}
    {member : List Letter × Datum}
    {others : List (List Letter × Datum)}
    (members : Members)
    (follows : Yields (memberFollows isFirst) before (some (true, text)))
    (isMember : Member isBlank text member after)
    (ends : EndsNumber after)
    (readsOthers : ∀ members, Yields (readMembers limit false members) after
      ((takenAll? members others).map (·, rest))) :
    Yields (readMembers (limit + 1) isFirst members) before
      ((takenAll? members (member :: others)).map (·, rest)) := by
  cases isMember with
  | named isName beforeColon colonGap reads =>
      rw [readMembers, takenAll?, Option.map_bind]
      refine follows.bind ((yields_string isName).bind_option fun name _ => ?_)
      dsimp only [Function.comp]
      rw [Option.map_bind]
      exact (yields_readMember members name beforeColon colonGap reads ends).bind_option
        fun members _ => readsOthers members

/-- The members of an object are taken one after the other. -/
theorem yields_readMembers
    {found : List (List Letter × Datum)}
    (isMembers : Json.Members isBlank text found rest)
    {limit : Nat}
    {isFirst : Bool}
    (members : Members)
    (follows : Yields (memberFollows isFirst) before (some (true, text)))
    (enough : text.length < limit) :
    Yields (readMembers limit isFirst members) before
      ((takenAll? members found).map (·, rest)) := by
  induction isMembers using Members.induction_on_members generalizing before limit isFirst
    members with
  | last isMember gap =>
      have shorter := isMember.length_lt
      obtain ⟨limit, rfl⟩ : ∃ fewer, limit = fewer + 1 + 1 := ⟨limit - 2, by omega⟩
      exact yields_readMembers_succ members follows isMember (endsNumber_of_gap gap (by simp))
        fun members => yields_readMembers_end limit false members gap
  | more isMember beforeComma afterComma isOthers inductionHypothesis =>
      have shorter := isMember.length_lt
      have lengths := And.intro beforeComma.length_le afterComma.length_le
      obtain ⟨limit, rfl⟩ : ∃ fewer, limit = fewer + 1 := ⟨limit - 1, by omega⟩
      obtain ⟨quoted, rfl⟩ := isOthers.head
      refine yields_readMembers_succ members follows isMember
        (endsNumber_of_gap beforeComma (by simp)) fun members => ?_
      refine inductionHypothesis members (yields_memberFollows_next beforeComma afterComma) ?_
      simp only [List.length_cons] at lengths ⊢
      omega

theorem yields_reader
    {found : List (List Letter × Datum)}
    (gap : Gap isBlank before text)
    (reads : Reads isBlank text (.object found) rest) :
    Yields reader before (((takenAll? .none found).map Members.toConfig).map (·, rest)) := by
  have read (inside : List Char)
      (yields : Yields (readMembers (inside.length + 1) true .none) inside
        ((takenAll? .none found).map (·, rest))) :
      Yields (do
        let members ← readMembers ((← get).rest.length + 1) true .none
        return members.toConfig) inside
        (((takenAll? .none found).map Members.toConfig).map (·, rest)) :=
    fun position => yields.map Members.toConfig position
  cases reads with
  | emptyObject inside =>
      refine (yields_afterBlanks_cons gap (by decide)).bind ?_
      exact (yields_skip '\x7b' _).bind (read _ (yields_readMembers_end _ true .none inside))
  | object inside isMembers =>
      refine (yields_afterBlanks_cons gap (by decide)).bind ?_
      refine (yields_skip '\x7b' _).bind (read _ ?_)
      obtain ⟨others, rfl⟩ := isMembers.head
      exact yields_readMembers isMembers .none (yields_memberFollows_first inside)
        (Nat.lt_succ_of_le inside.length_le)

end

/-- A configuration is read from the text of an object if all members can be taken. -/
theorem parse_eq_ok
    {text : String}
    {found : List (List Letter × Datum)}
    (isObject : Document isBlank text.toList (.object found))
    (config : Config) :
    parse text = .ok config ↔ (takenAll? .none found).map Members.toConfig = some config := by
  obtain ⟨first, last, gap, reads, ended⟩ := isObject
  exact read_eq_ok (yields_reader gap reads) ended config

/-! ## What members say -/

/-- The values of the members with a name. -/
def valuesOf (members : List (List Letter × Datum)) (name : String) : List Datum :=
  (members.filter fun member => member.1 = letters name).map Prod.snd

/-- The text under a name, or what holds by default where there is none. -/
def GivesText (values : List Datum) (text standard : String) : Prop :=
  (values = [] ∧ text = standard) ∨ values = [.string (letters text)]

/-- The text under a name. Null stands for no text, and so does no value. -/
def GivesOptionalText (values : List Datum) (text? : Option String) : Prop :=
  match text? with
  | none => values = [] ∨ values = [.null]
  | some text => values = [.string (letters text)]

/-- What the members of an object say of a configuration. Members with other names say nothing. -/
structure Describes (members : List (List Letter × Datum)) (config : Config) : Prop where
  named : ∀ member ∈ members, ∃ name, member.1 = letters name
  factory : GivesText (valuesOf members "factoryName") config.factory default.factory
  suffix : GivesText (valuesOf members "suffix") config.suffix default.suffix
  replacement : GivesOptionalText (valuesOf members "replacement") config.replacement
  messages : GivesText (valuesOf members "messagesOutput") config.messages default.messages

/-! ## Taking members -/

/-- At most one value is taken, and only where none has been taken before. -/
def Takes {α : Type} (read : Datum -> Option α) (values : List Datum) (before after : Option α) :
    Prop :=
  (values = [] ∧ after = before) ∨
    (before = none ∧ ∃ value, values = [value] ∧ (read value).isSome ∧ after = read value)

section
variable {α : Type} {readDatum : Datum -> Option α} {before after : Option α}

theorem takes_nil : Takes readDatum [] before after ↔ after = before := by
  simp [Takes]

theorem takes_singleton {value : Datum} :
    Takes readDatum [value] before after ↔
      before = none ∧ (readDatum value).isSome ∧ after = readDatum value := by
  simp [Takes]

/-- The values before are taken first. -/
theorem takes_append {first second : List Datum} :
    Takes readDatum (first ++ second) before after ↔
      ∃ between, Takes readDatum first before between ∧ Takes readDatum second between after := by
  constructor
  · rintro (⟨nothing, rfl⟩ | ⟨rfl, value, whole, isRead, rfl⟩)
    · obtain ⟨rfl, rfl⟩ := List.append_eq_nil_iff.mp nothing
      exact ⟨_, takes_nil.mpr rfl, takes_nil.mpr rfl⟩
    · rcases List.append_eq_singleton_iff.mp whole with ⟨rfl, rfl⟩ | ⟨rfl, rfl⟩
      · exact ⟨_, takes_nil.mpr rfl, takes_singleton.mpr ⟨rfl, isRead, rfl⟩⟩
      · exact ⟨_, takes_singleton.mpr ⟨rfl, isRead, rfl⟩, takes_nil.mpr rfl⟩
  · rintro ⟨between, ⟨rfl, rfl⟩ | ⟨rfl, value, rfl, isRead, rfl⟩, takesSecond⟩
    · exact takesSecond
    · rcases takesSecond with ⟨rfl, rfl⟩ | ⟨none, _⟩
      · exact takes_singleton.mpr ⟨rfl, isRead, rfl⟩
      · simp [none] at isRead

end

/-- The members of an object are taken under each name. -/
structure TakesAll (found : List (List Letter × Datum)) (before after : Members) : Prop where
  named : ∀ member ∈ found, ∃ name, member.1 = letters name
  factory : Takes Datum.text? (valuesOf found "factoryName") before.factory after.factory
  suffix : Takes Datum.text? (valuesOf found "suffix") before.suffix after.suffix
  replacement :
    Takes Datum.optionalText? (valuesOf found "replacement") before.replacement after.replacement
  messages : Takes Datum.text? (valuesOf found "messagesOutput") before.messages after.messages

theorem takesAll_append
    {first second : List (List Letter × Datum)}
    {before after : Members} :
    TakesAll (first ++ second) before after ↔
      ∃ between, TakesAll first before between ∧ TakesAll second between after := by
  have values (name : String) :
      valuesOf (first ++ second) name = valuesOf first name ++ valuesOf second name := by
    simp [valuesOf]
  constructor
  · rintro ⟨named, factory, suffix, replacement, messages⟩
    rw [values, takes_append] at factory suffix replacement messages
    obtain ⟨factoryThen, factoryFirst, factorySecond⟩ := factory
    obtain ⟨suffixThen, suffixFirst, suffixSecond⟩ := suffix
    obtain ⟨replacementThen, replacementFirst, replacementSecond⟩ := replacement
    obtain ⟨messagesThen, messagesFirst, messagesSecond⟩ := messages
    obtain ⟨namedFirst, namedSecond⟩ := List.forall_mem_append.mp named
    exact ⟨⟨factoryThen, suffixThen, replacementThen, messagesThen⟩,
      ⟨namedFirst, factoryFirst, suffixFirst, replacementFirst, messagesFirst⟩,
      ⟨namedSecond, factorySecond, suffixSecond, replacementSecond, messagesSecond⟩⟩
  · rintro ⟨between, takesFirst, takesSecond⟩
    refine ⟨List.forall_mem_append.mpr ⟨takesFirst.named, takesSecond.named⟩, ?_, ?_, ?_, ?_⟩ <;>
      rw [values, takes_append]
    · exact ⟨_, takesFirst.factory, takesSecond.factory⟩
    · exact ⟨_, takesFirst.suffix, takesSecond.suffix⟩
    · exact ⟨_, takesFirst.replacement, takesSecond.replacement⟩
    · exact ⟨_, takesFirst.messages, takesSecond.messages⟩

theorem valuesOf_singleton (name field : String) (value : Datum) :
    valuesOf [(letters name, value)] field = if name = field then [value] else [] := by
  by_cases same : name = field <;> simp [valuesOf, letters_injective.eq_iff, same]

theorem takesAll_singleton
    {name : String}
    {value : Datum}
    {before after : Members} :
    TakesAll [(letters name, value)] before after ↔ taken? before name value = some after := by
  have fields : TakesAll [(letters name, value)] before after ↔
      Takes Datum.text? (if name = "factoryName" then [value] else []) before.factory
          after.factory ∧
        Takes Datum.text? (if name = "suffix" then [value] else []) before.suffix after.suffix ∧
        Takes Datum.optionalText? (if name = "replacement" then [value] else [])
          before.replacement after.replacement ∧
        Takes Datum.text? (if name = "messagesOutput" then [value] else []) before.messages
          after.messages := by
    simp only [← valuesOf_singleton]
    refine ⟨fun takes => ⟨takes.factory, takes.suffix, takes.replacement, takes.messages⟩,
      fun ⟨factory, suffix, replacement, messages⟩ => ⟨?_, factory, suffix, replacement, messages⟩⟩
    exact List.forall_mem_singleton.mpr ⟨name, rfl⟩
  rw [fields]
  clear fields
  obtain ⟨factory, suffix, replacement, messages⟩ := before
  obtain ⟨factoryThen, suffixThen, replacementThen, messagesThen⟩ := after
  by_cases isFactory : name = "factoryName"
  · subst isFactory
    cases factory <;> cases isText : value.text? <;>
      simp [takes_nil, takes_singleton, taken?, Members.has, isText, eq_comm]
  by_cases isSuffix : name = "suffix"
  · subst isSuffix
    cases suffix <;> cases isText : value.text? <;>
      simp [takes_nil, takes_singleton, taken?, Members.has, isText, eq_comm]
  by_cases isReplacement : name = "replacement"
  · subst isReplacement
    cases replacement <;> cases isText : value.optionalText? <;>
      simp [takes_nil, takes_singleton, taken?, Members.has, isText, eq_comm]
  by_cases isMessages : name = "messagesOutput"
  · subst isMessages
    cases messages <;> cases isText : value.text? <;>
      simp [takes_nil, takes_singleton, taken?, Members.has, isText, eq_comm]
  simp [takes_nil, taken?, Members.has, isFactory, isSuffix, isReplacement, isMessages, eq_comm]

theorem takesAll_iff
    {found : List (List Letter × Datum)}
    {before after : Members} :
    TakesAll found before after ↔ takenAll? before found = some after := by
  induction found generalizing before with
  | nil =>
      constructor
      · rintro ⟨_, factory, suffix, replacement, messages⟩
        obtain ⟨factoryThen, suffixThen, replacementThen, messagesThen⟩ := after
        obtain rfl := takes_nil.mp factory
        obtain rfl := takes_nil.mp suffix
        obtain rfl := takes_nil.mp replacement
        obtain rfl := takes_nil.mp messages
        rfl
      · intro same
        obtain rfl := Option.some.inj same
        exact ⟨by simp, takes_nil.mpr rfl, takes_nil.mpr rfl, takes_nil.mpr rfl,
          takes_nil.mpr rfl⟩
  | cons member others inductionHypothesis =>
      obtain ⟨name, value⟩ := member
      rw [← List.singleton_append, takesAll_append, List.singleton_append, takenAll?]
      cases isText : text? name with
      | none =>
          refine iff_of_false ?_ (by simp)
          rintro ⟨between, takes, _⟩
          obtain ⟨text, rfl⟩ := takes.named _ List.mem_cons_self
          simp at isText
      | some text =>
          obtain rfl := text?_eq_some.mp isText
          simp only [takesAll_singleton, inductionHypothesis, Option.bind_some,
            Option.bind_eq_some_iff]

/-! ## The configuration of an object -/

theorem datumText?_eq_some {value : Datum} {text : String} :
    value.text? = some text ↔ value = .string (letters text) := by
  cases value with
  | string found => simp [Datum.text?, text?_eq_some]
  | _ => simp [Datum.text?]

theorem optionalText?_eq_some {value : Datum} {optional : Option String} :
    value.optionalText? = some optional ↔
      match optional with
      | none => value = .null
      | some text => value = .string (letters text) := by
  cases optional <;> cases value <;> simp [Datum.optionalText?, Datum.text?, text?_eq_some]

section
variable {values : List Datum} {text standard : String}

theorem givesText_iff :
    GivesText values text standard ↔
      ∃ after, Takes Datum.text? values none after ∧ after.getD standard = text := by
  constructor
  · rintro (⟨rfl, rfl⟩ | rfl)
    · exact ⟨none, takes_nil.mpr rfl, rfl⟩
    · refine ⟨some text, takes_singleton.mpr ⟨rfl, ?_⟩, rfl⟩
      simp [Datum.text?]
  · rintro ⟨after, ⟨rfl, rfl⟩ | ⟨_, value, rfl, isRead, rfl⟩, rfl⟩
    · exact .inl ⟨rfl, rfl⟩
    · obtain ⟨read, isText⟩ := Option.isSome_iff_exists.mp isRead
      rw [isText]
      exact .inr (congrArg (fun value => [value]) (datumText?_eq_some.mp isText))

theorem givesOptionalText_iff {optional : Option String} :
    GivesOptionalText values optional ↔
      ∃ after, Takes Datum.optionalText? values none after ∧ after.getD none = optional := by
  constructor
  · intro gives
    cases optional with
    | none =>
        rcases gives with rfl | rfl
        · exact ⟨none, takes_nil.mpr rfl, rfl⟩
        · exact ⟨some none, takes_singleton.mpr ⟨rfl, rfl, rfl⟩, rfl⟩
    | some text =>
        have isText : (Datum.string (letters text)).optionalText? = some (some text) :=
          optionalText?_eq_some.mpr rfl
        refine ⟨some (some text), ?_, rfl⟩
        rw [show values = [.string (letters text)] from gives]
        exact takes_singleton.mpr ⟨rfl, by rw [isText]; rfl, isText.symm⟩
  · rintro ⟨after, ⟨rfl, rfl⟩ | ⟨_, value, rfl, isRead, rfl⟩, rfl⟩
    · exact .inl rfl
    · obtain ⟨read, isOptional⟩ := Option.isSome_iff_exists.mp isRead
      have isValue := optionalText?_eq_some.mp isOptional
      rw [isOptional]
      cases read with
      | none => exact .inr (congrArg (fun value => [value]) isValue)
      | some text => exact congrArg (fun value => [value]) isValue

end

/-- An object is read as the configuration that it describes. -/
theorem takenAll?_eq_some_iff
    {found : List (List Letter × Datum)}
    {config : Config} :
    (takenAll? .none found).map Members.toConfig = some config ↔ Describes found config := by
  simp only [Option.map_eq_some_iff, ← takesAll_iff]
  constructor
  · rintro ⟨members, ⟨named, factory, suffix, replacement, messages⟩, rfl⟩
    exact ⟨named, givesText_iff.mpr ⟨_, factory, rfl⟩, givesText_iff.mpr ⟨_, suffix, rfl⟩,
      givesOptionalText_iff.mpr ⟨_, replacement, rfl⟩, givesText_iff.mpr ⟨_, messages, rfl⟩⟩
  · rintro ⟨named, factory, suffix, replacement, messages⟩
    obtain ⟨factoryRead, takesFactory, factory_eq⟩ := givesText_iff.mp factory
    obtain ⟨suffixRead, takesSuffix, suffix_eq⟩ := givesText_iff.mp suffix
    obtain ⟨replacementRead, takesReplacement, replacement_eq⟩ :=
      givesOptionalText_iff.mp replacement
    obtain ⟨messagesRead, takesMessages, messages_eq⟩ := givesText_iff.mp messages
    refine ⟨⟨factoryRead, suffixRead, replacementRead, messagesRead⟩,
      ⟨named, takesFactory, takesSuffix, takesReplacement, takesMessages⟩, ?_⟩
    have replacement_eq : replacementRead.getD default.replacement = config.replacement :=
      replacement_eq
    simp only [Members.toConfig, factory_eq, suffix_eq, replacement_eq, messages_eq]

/-- A configuration is described by its own members. -/
theorem describes_members (config : Config) :
    Describes (Value.memberData config.members) config := by
  obtain ⟨factory, suffix, replacement, messages⟩ := config
  cases replacement <;>
    constructor <;>
      simp [members, Value.memberData, Value.datum, valuesOf, GivesText, GivesOptionalText,
        letters_injective.eq_iff]

/-! ## Reading back -/

/-- The names of the members that say something of a configuration. -/
def fieldNames : List String := ["factoryName", "suffix", "replacement", "messagesOutput"]

section
variable {found : List (List Letter × Datum)} {config : Config}

/-- Each name is there once at most. -/
theorem Describes.length_le_one
    (describes : Describes found config)
    {name : String}
    (isField : name ∈ fieldNames) : (valuesOf found name).length ≤ 1 := by
  have ofText {values : List Datum} {text standard : String}
      (gives : GivesText values text standard) : values.length ≤ 1 := by
    rcases gives with ⟨rfl, _⟩ | rfl <;> simp
  have ofOptional {values : List Datum} {optional : Option String}
      (gives : GivesOptionalText values optional) : values.length ≤ 1 := by
    cases optional with
    | none => rcases gives with rfl | rfl <;> simp
    | some text => simp [show values = [.string (letters text)] from gives]
  simp only [fieldNames, List.mem_cons, List.not_mem_nil, or_false] at isField
  rcases isField with rfl | rfl | rfl | rfl
  · exact ofText describes.factory
  · exact ofText describes.suffix
  · exact ofOptional describes.replacement
  · exact ofText describes.messages

/-- What stands under a name that has a text is a string. -/
theorem Describes.exists_string
    (describes : Describes found config)
    {name : String}
    (isField : name ∈ fieldNames)
    (notOptional : name ≠ "replacement")
    {value : Datum}
    (mem : value ∈ valuesOf found name) : ∃ text, value = .string (letters text) := by
  have ofText {values : List Datum} {text standard : String}
      (gives : GivesText values text standard)
      (mem : value ∈ values) : ∃ text, value = .string (letters text) := by
    rcases gives with ⟨rfl, _⟩ | rfl
    · simp at mem
    · exact ⟨text, List.mem_singleton.mp mem⟩
  simp only [fieldNames, List.mem_cons, List.not_mem_nil, or_false] at isField
  rcases isField with rfl | rfl | rfl | rfl
  · exact ofText describes.factory mem
  · exact ofText describes.suffix mem
  · exact absurd rfl notOptional
  · exact ofText describes.messages mem

/-- What stands for the replacement is a string or null. -/
theorem Describes.null_or_exists_string
    (describes : Describes found config)
    {value : Datum}
    (mem : value ∈ valuesOf found "replacement") :
    value = .null ∨ ∃ text, value = .string (letters text) := by
  have gives := describes.replacement
  unfold GivesOptionalText at gives
  split at gives
  · rcases gives with none | isNull
    · simp [none] at mem
    · exact .inl (by simpa [isNull] using mem)
  · exact .inr ⟨_, by simpa [gives] using mem⟩

end

theorem parse_eq_ok_iff
    {text : String}
    {found : List (List Letter × Datum)}
    (isObject : Document isBlank text.toList (.object found))
    (config : Config) : parse text = .ok config ↔ Describes found config :=
  (parse_eq_ok isObject config).trans takenAll?_eq_some_iff

theorem exists_error_of_not_describes
    {text : String}
    {found : List (List Letter × Datum)}
    (isObject : Document isBlank text.toList (.object found))
    (describesNothing : ∀ config, ¬Describes found config) :
    ∃ fault, parse text = .error fault := by
  cases result : parse text with
  | error fault => exact ⟨fault, rfl⟩
  | ok config =>
      exact absurd ((parse_eq_ok_iff isObject config).mp result) (describesNothing config)

/-- Both forms of a configuration are read back as the configuration. Any object is read as the
configuration that its members describe, in whatever order and with whatever blanks and other
members they stand. It is rejected if one of the four names is repeated, if there is something
else than a string where a text has to be, or something else than a string or null for the
replacement. -/
theorem configuration_read_back :
    (∀ config : Config,
      parse config.toJson.compact = .ok config ∧ parse config.toJson.pretty = .ok config) ∧
    ∀ (text : String) (found : List (List Letter × Datum)),
      Document isBlank text.toList (.object found) ->
      (∀ config, parse text = .ok config ↔ Describes found config) ∧
      (∀ name ∈ fieldNames, 2 ≤ (valuesOf found name).length ->
        ∃ fault, parse text = .error fault) ∧
      (∀ name ∈ fieldNames, name ≠ "replacement" ->
        ∀ value ∈ valuesOf found name, (∀ written, value ≠ .string written) ->
          ∃ fault, parse text = .error fault) ∧
      (∀ value ∈ valuesOf found "replacement", value ≠ .null ->
        (∀ written, value ≠ .string written) -> ∃ fault, parse text = .error fault) := by
  refine ⟨fun config => ?_, fun text found isObject => ⟨parse_eq_ok_iff isObject, ?_, ?_, ?_⟩⟩
  · have compact : Document isBlank config.toJson.compact.toList
        (.object (Value.memberData config.members)) :=
      (document_compact_iff (fun _ isBlank => isBlank) config.toJson _).mpr
        (by rw [toJson, Value.datum])
    have pretty : Document isBlank config.toJson.pretty.toList
        (.object (Value.memberData config.members)) := by
      simpa [toJson, Value.datum] using document_pretty config.toJson
    exact ⟨(parse_eq_ok_iff compact config).mpr (describes_members config),
      (parse_eq_ok_iff pretty config).mpr (describes_members config)⟩
  · intro name isField repeated
    refine exists_error_of_not_describes isObject fun config describes => ?_
    have once := describes.length_le_one isField
    omega
  · intro name isField notOptional value mem notString
    refine exists_error_of_not_describes isObject fun config describes => ?_
    obtain ⟨text, isString⟩ := describes.exists_string isField notOptional mem
    exact notString _ isString
  · intro value mem notNull notString
    refine exists_error_of_not_describes isObject fun config describes => ?_
    rcases describes.null_or_exists_string mem with isNull | ⟨text, isString⟩
    · exact notNull isNull
    · exact notString _ isString

/-- An object with two of the four members in another order, and one that says nothing. -/
def reorderedObject : Value :=
  .object [("messagesOutput", .string "m.json"), ("editor", .object [("suffix", .string "Js")]),
    ("suffix", .string "Error")]

/-- What is left out of an object is as usual, in either of its forms, and an object cannot stand
for a text. -/
theorem configuration_read_back_sample :
    let described : Config := { default with suffix := "Error", messages := "m.json" }
    parse reorderedObject.compact = .ok described ∧
      parse reorderedObject.pretty = .ok described ∧
      ∃ fault, parse (Value.object [("suffix", .object [])]).compact = .error fault := by
  intro described
  obtain ⟨_, reads⟩ := configuration_read_back
  have describes : Describes (Value.memberData [("messagesOutput", .string "m.json"),
      ("editor", .object [("suffix", .string "Js")]), ("suffix", .string "Error")]) described := by
    constructor <;>
      simp [described, default, Value.memberData, Value.datum, valuesOf, GivesText,
        GivesOptionalText, letters_injective.eq_iff]
  have compact : Document isBlank reorderedObject.compact.toList reorderedObject.datum :=
    (document_compact_iff (fun _ isBlank => isBlank) reorderedObject _).mpr rfl
  have nested : Document isBlank (Value.object [("suffix", .object [])]).compact.toList
      (Value.object [("suffix", .object [])]).datum :=
    (document_compact_iff (fun _ isBlank => isBlank) _ _).mpr rfl
  have pretty := document_pretty reorderedObject
  rw [reorderedObject, Value.datum] at compact pretty
  rw [Value.datum] at nested
  obtain ⟨isCompact_iff, _⟩ := reads _ _ compact
  obtain ⟨isPretty_iff, _⟩ := reads _ _ pretty
  obtain ⟨_, _, notText, _⟩ := reads _ _ nested
  refine ⟨(isCompact_iff described).mpr describes, (isPretty_iff described).mpr describes, ?_⟩
  refine notText "suffix" (by decide) (by decide) (.object []) ?_ (by simp)
  simp [Value.memberData, Value.datum, valuesOf]

/-- Members that say nothing may be nested and may have names with halves of characters inside. -/
example :
    (parse ("\x7b\"x\": [1e9, \x7b\"\\ud800\": []\x7d], \"messagesOutput\": \"m.json\",\n" ++
      "\"replacement\" : null, \"suff\\u0069x\": \"Error\", \"x\": 0\x7d")).toOption =
      some { default with suffix := "Error", messages := "m.json" } := by
  decide +kernel

end Config
end ErrorTemplates
