import AsmScope.Service.Basic

/-! Which requests are looked up at all. A request goes on if its compiler is one of this machine; its binary
switch may then be off, and nothing else about it has changed. -/

namespace AsmScope

namespace Workshop

def IsLocal (w : Workshop) (compiler : String) : Prop :=
  ∃ entry, w.registry.find? compiler = some entry ∧ entry.settings.isRemote = false

theorem isLocal_iff (w : Workshop) (compiler : String) :
    (w.registry.find? compiler).any (fun entry => !entry.settings.isRemote) = true ↔ w.IsLocal compiler := by
  unfold IsLocal
  cases w.registry.find? compiler <;> simp

instance (w : Workshop) (compiler : String) : Decidable (w.IsLocal compiler) :=
  decidable_of_iff _ (isLocal_iff w compiler)

def normalFor (entry : Entry) (r : Request) : Request :=
  if r.filters.binary && !entry.settings.supportsBinary then r.withFilters { r.filters with binary := false } else r

theorem normalize_of_find? {w : Workshop} {r : Request} {entry : Entry}
    (found : w.registry.find? r.compiler = some entry) : w.normalize r = .ok (normalFor entry r) := by
  simp only [normalize, Registry.lookup, found, bind, Except.bind, pure, Except.pure, normalFor]
  split <;> rfl

theorem validate_normalFor (w : Workshop) (entry : Entry) (r : Request) :
    w.validate (normalFor entry r) = w.validate r := by
  unfold normalFor
  split <;> rfl

end Workshop

namespace Service

theorem admissible_of_find?_none {s : Service} {r : Request}
    (absent : s.workshop.registry.find? r.compiler = none) :
    s.admissible r = .error (.unknownCompiler r.compiler) := by
  simp only [admissible, Registry.lookup, absent, bind, Except.bind]

theorem admissible_of_remote {s : Service} {r : Request} {entry : Entry}
    (found : s.workshop.registry.find? r.compiler = some entry) (remote : entry.settings.isRemote = true) :
    s.admissible r = .error (.remoteOnly entry.settings.id) := by
  simp only [admissible, Registry.lookup, found, bind, Except.bind, remote, if_true]

theorem admissible_of_local {s : Service} {r : Request} {entry : Entry}
    (found : s.workshop.registry.find? r.compiler = some entry) (here : entry.settings.isRemote = false) :
    s.admissible r = .ok (Workshop.normalFor entry r) := by
  simp only [admissible, Registry.lookup, found, bind, Except.bind, here, Bool.false_eq_true, if_false]
  exact Workshop.normalize_of_find? found

/-- What goes on is the request in its normal form, and its compiler is one of this machine. -/
theorem admissible_eq_ok {s : Service} {r r' : Request} (h : s.admissible r = .ok r') :
    s.workshop.IsLocal r.compiler ∧ s.workshop.normalize r = .ok r' ∧
      s.workshop.validate r' = s.workshop.validate r := by
  cases found : s.workshop.registry.find? r.compiler with
  | none => exact nomatch (admissible_of_find?_none found).symm.trans h
  | some entry =>
    cases here : entry.settings.isRemote with
    | true => exact nomatch (admissible_of_remote found here).symm.trans h
    | false =>
      obtain rfl := Except.ok.inj ((admissible_of_local found here).symm.trans h)
      exact ⟨⟨entry, found, here⟩, Workshop.normalize_of_find? found, Workshop.validate_normalFor ..⟩

end Service
end AsmScope
