import TypingBundle.Bundle
import TypingBundle.Proofs.Registry

/-!
What a plan consists of: each of its parts comes from the parts before it.
-/

namespace TypingBundle.Bundle

variable {σ : Type} [FileStore σ] {store : σ} {settings : Settings} {p : Plan}

/-- The parts of a plan, each made from the ones before. -/
structure Planned (store : σ) (settings : Settings) (p : Plan) : Prop where
  settings_eq : p.settings = settings
  main : FileStore.isFile store settings.mainFile = true
  sources : p.sources = Bundle.sources store settings
  walked : Registry.walk store settings p.sources = .ok p.registry
  built : Exports.build p.registry = .ok p.exports
  inclusion : p.inclusion = Inclusion.resolve settings p.registry p.exports
  renamed : p.renamed = Rename.registry settings p.exports p.inclusion p.registry
  content : ∃ header, Bundle.header store settings = .ok header ∧
    p.content = Output.content settings p.renamed p.inclusion header

theorem planned_of_plan (planned : plan store settings = .ok p) : Planned store settings p := by
  unfold plan at planned
  cases main : FileStore.isFile store settings.mainFile with
  | false =>
    rw [main] at planned
    cases planned
  | true =>
    rw [main] at planned
    obtain ⟨header, headed, planned⟩ := except_bind_eq_ok.1 planned
    obtain ⟨registry, walked, planned⟩ := except_bind_eq_ok.1 planned
    obtain ⟨exports, built, planned⟩ := except_bind_eq_ok.1 planned
    cases planned
    exact ⟨rfl, main, rfl, walked, built, rfl, rfl, header, headed, rfl⟩

/-- A plan is known by its parts. -/
theorem plan_of_planned (planned : Planned store settings p) : plan store settings = .ok p := by
  obtain ⟨header, headed, content⟩ := planned.content
  unfold plan
  rw [planned.main, headed]
  simp only [Bool.not_true, Bool.false_eq_true, if_false, bind, Except.bind, ← planned.sources,
    planned.walked, planned.built, ← planned.inclusion, ← planned.renamed, ← content]
  rw [← planned.settings_eq]
  rfl

/-- A location is a source if it is listed among the declaration files. -/
theorem contains_sources {l : Location} :
    (Bundle.sources store settings).contains l = true ↔
      l ∈ FileStore.declarationFiles store settings.baseDir := by
  simp [Sources.contains, Bundle.sources]

end TypingBundle.Bundle
