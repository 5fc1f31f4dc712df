import AsmScope.Compile.Request
import AsmScope.Proofs.Document.Json

/-! Two requests have one key exactly if they agree in everything. Texts in a request are arbitrary, so the proof
goes through the written form of documents: sources may well contain quotes, brackets and escapes themselves. -/

namespace AsmScope.Request
open AsmScope.Json

theorem isPlain_filters (f : Filters) : IsPlain f.toValue := by
  refine .table fun field hfield => ?_
  simp only [Filters.fields, List.mem_cons, List.not_mem_nil, or_false] at hfield
  rcases hfield with rfl | rfl | rfl | rfl | rfl | rfl <;> exact .bool _

theorem isPlain_toValue (r : Request) : IsPlain r.toValue := by
  refine .table fun field hfield => ?_
  simp only [List.mem_cons, List.not_mem_nil, or_false] at hfield
  rcases hfield with rfl | rfl | rfl | rfl
  · exact .string _
  · exact isPlain_filters _
  · exact isPlain_strings _
  · exact .string _

theorem filters_toValue_injective {f g : Filters} (h : f.toValue = g.toValue) : f = g := by
  cases f
  cases g
  simpa [Filters.toValue, Filters.fields, and_comm, and_left_comm, and_assoc] using h

theorem toValue_injective {r₁ r₂ : Request} (h : r₁.toValue = r₂.toValue) : r₁ = r₂ := by
  obtain ⟨compiler₁, source₁, options₁, filters₁⟩ := r₁
  obtain ⟨compiler₂, source₂, options₂, filters₂⟩ := r₂
  simp only [toValue, valueWith, Value.strings, Value.table.injEq, List.cons.injEq, Prod.mk.injEq, true_and,
    and_true, Value.string.injEq, Value.list.injEq] at h
  obtain ⟨rfl, filters, options, rfl⟩ := h
  have same := (List.map_inj_right fun _ _ => Value.string.inj).mp options
  rw [filters_toValue_injective filters, same]

theorem key_injective {r₁ r₂ : Request} (h : r₁.key = r₂.key) : r₁ = r₂ :=
  toValue_injective (render_compact_injective (isPlain_toValue r₁) (isPlain_toValue r₂) h)

/-- The key confuses no two requests and separates no equal ones. -/
theorem key_eq_key_iff (r₁ r₂ : Request) :
    r₁.key = r₂.key ↔
      r₁.compiler = r₂.compiler ∧ r₁.source = r₂.source ∧ r₁.options = r₂.options ∧
      r₁.filters.directives = r₂.filters.directives ∧ r₁.filters.labels = r₂.filters.labels ∧
      r₁.filters.commentOnly = r₂.filters.commentOnly ∧ r₁.filters.binary = r₂.filters.binary ∧
      r₁.filters.intel = r₂.filters.intel ∧ r₁.filters.trim = r₂.filters.trim := by
  constructor
  · intro h
    obtain rfl := key_injective h
    simp only [and_self]
  · rintro ⟨compiler, source, options, directives, labels, commentOnly, binary, intel, trim⟩
    have filters : r₁.filters = r₂.filters := by
      cases hf : r₁.filters
      cases hg : r₂.filters
      simp_all
    have same : r₁ = r₂ := by
      cases r₁
      cases r₂
      simp_all
    rw [same]

end AsmScope.Request
