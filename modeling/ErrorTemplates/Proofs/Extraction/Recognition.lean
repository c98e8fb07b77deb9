import ErrorTemplates.Extraction.Call

/-!
# What recognised calls look like

The two forms of callee, the arguments of a call that makes an error, and what may stand in
a constant expression, each read off a successful recognition.
-/

namespace ErrorTemplates
namespace Extraction

open Program

namespace Naming

theorem isFactory_eq_true_iff (naming : Naming) (node : Node) :
    naming.isFactory node = true ↔ ∃ span, node = .identifier span naming.factory := by
  cases node <;> simp [isFactory]

/-- A callee makes errors when it is a name with the suffix, or a call of the factory with
one constant. -/
theorem maker?_eq_some_iff (naming : Naming) (callee : Node) (maker : Maker) :
    naming.maker? callee = some maker ↔
      (∃ span name, callee = .identifier span name ∧ maker.form = .direct ∧
        naming.space? name = some maker.space) ∨
      ∃ span factorySpan argument,
        callee = .call span (.identifier factorySpan naming.factory) [argument] ∧
          maker.form = .curried ∧ constant? argument = some maker.space := by
  obtain ⟨form, space⟩ := maker
  constructor
  · intro makes
    unfold maker? at makes
    split at makes
    · next span name =>
        obtain ⟨_, suffixed, equal⟩ := Option.map_eq_some_iff.mp makes
        cases equal
        exact .inl ⟨span, name, rfl, rfl, suffixed⟩
    · next span factory argument =>
        split at makes
        · next isFactory =>
            obtain ⟨factorySpan, rfl⟩ := (isFactory_eq_true_iff naming factory).mp isFactory
            obtain ⟨_, constant, equal⟩ := Option.map_eq_some_iff.mp makes
            cases equal
            exact .inr ⟨span, factorySpan, argument, rfl, rfl, constant⟩
        · simp at makes
    · simp at makes
  · rintro (⟨span, name, rfl, rfl, suffixed⟩ |
      ⟨span, factorySpan, argument, rfl, rfl, constant⟩)
    · simp [maker?, suffixed]
    · simp [maker?, isFactory, constant]

/-- A call makes an error when its callee does and neither of the first two arguments is
spread. -/
theorem match?_eq_some_iff
    (naming : Naming)
    (callee : Node)
    (arguments : List Node)
    (found : Match) :
    naming.match? callee arguments = some found ↔
      naming.maker? callee = some found.maker ∧
        arguments = found.code :: found.message :: found.trailing ∧
          found.code.isSpread = false ∧ found.message.isSpread = false := by
  constructor
  · intro recognised
    unfold match? at recognised
    split at recognised
    · next maker code message trailing makes =>
        split at recognised
        · simp at recognised
        · next plain =>
            obtain ⟨codePlain, messagePlain⟩ : code.isSpread = false ∧
                message.isSpread = false := by
              simpa using plain
            cases recognised
            exact ⟨makes, rfl, codePlain, messagePlain⟩
    · simp at recognised
  · rintro ⟨makes, rfl, codePlain, messagePlain⟩
    simp [match?, makes, codePlain, messagePlain]

end Naming

end Extraction
end ErrorTemplates
