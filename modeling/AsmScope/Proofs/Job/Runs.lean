import AsmScope.Job.Plan

/-! Runs of a plan. The work that was asked for is listed with its answers, whatever they are, and each way of
putting plans together is told by the runs of its parts. -/

namespace AsmScope

structure Answered where
  work : Work
  answer : Except Failure work.Answer

namespace Plan
variable {α β : Type}

inductive Runs : Plan α → List Answered → Except Failure α → Prop where
  | ended (outcome : Except Failure α) : Runs (.ended outcome) [] outcome
  | await {work : Work} {next : Except Failure work.Answer → Plan α} {answer : Except Failure work.Answer}
      {trace : List Answered} {outcome : Except Failure α} (rest : Runs (next answer) trace outcome) :
      Runs (.await work next) (⟨work, answer⟩ :: trace) outcome

/-- The run of a plan in which each piece of work has an answer of its own. -/
def follow (answers : (work : Work) → Except Failure work.Answer) : Plan α → List Answered × Except Failure α
  | .ended outcome => ([], outcome)
  | .await work next =>
    let (trace, outcome) := follow answers (next (answers work))
    (⟨work, answers work⟩ :: trace, outcome)

theorem runs_follow (answers : (work : Work) → Except Failure work.Answer) (p : Plan α) :
    p.Runs (p.follow answers).1 (p.follow answers).2 := by
  induction p with
  | ended outcome => exact .ended outcome
  | await work next ih => exact .await (ih _)

theorem answer_of_mem_follow {answers : (work : Work) → Except Failure work.Answer} {p : Plan α} {a : Answered}
    (h : a ∈ (p.follow answers).1) : a.answer = answers a.work := by
  induction p with
  | ended outcome => cases h
  | await work next ih =>
    rcases List.mem_cons.mp h with rfl | h
    · rfl
    · exact ih _ h

/-- Whatever the answers are, a plan asks for work of one kind only. -/
inductive Asks (kind : Work → Prop) : Plan α → Prop where
  | ended (outcome : Except Failure α) : Asks kind (.ended outcome)
  | await {work : Work} {next : Except Failure work.Answer → Plan α} (here : kind work)
      (rest : ∀ answer, Asks kind (next answer)) : Asks kind (.await work next)

theorem Asks.bind {kind : Work → Prop} {p : Plan α} {f : α → Plan β} (first : p.Asks kind)
    (second : ∀ a, (f a).Asks kind) : (p >>= f).Asks kind := by
  change (Plan.bind p f).Asks kind
  induction first with
  | ended outcome =>
    cases outcome with
    | error e => exact .ended _
    | ok a => exact second a
  | await here rest ih => exact .await here ih

theorem asks_perform {kind : Work → Prop} {work : Work} (here : kind work) : (perform work).Asks kind :=
  .await here fun answer => .ended answer

theorem Asks.attempt {kind : Work → Prop} {p : Plan α} (h : p.Asks kind) : (attempt p).Asks kind := by
  induction h with
  | ended outcome => exact .ended _
  | await here rest ih => exact .await here ih

theorem Runs.of_asks {kind : Work → Prop} {p : Plan α} {trace : List Answered} {outcome : Except Failure α}
    (h : p.Runs trace outcome) (asks : p.Asks kind) : ∀ a ∈ trace, kind a.work := by
  induction h with
  | ended => exact fun a ha => nomatch ha
  | await rest ih =>
    obtain _ | ⟨here, asks⟩ := asks
    intro a ha
    rcases List.mem_cons.mp ha with rfl | ha
    · exact here
    · exact ih (asks _) a ha

theorem runs_ended_iff {outcome outcome' : Except Failure α} {trace : List Answered} :
    (Plan.ended outcome).Runs trace outcome' ↔ trace = [] ∧ outcome' = outcome := by
  constructor
  · rintro ⟨⟩
    exact ⟨rfl, rfl⟩
  · rintro ⟨rfl, rfl⟩
    exact .ended outcome'

theorem runs_await_iff {work : Work} {next : Except Failure work.Answer → Plan α} {trace : List Answered}
    {outcome : Except Failure α} :
    (Plan.await work next).Runs trace outcome ↔
      ∃ answer rest, trace = ⟨work, answer⟩ :: rest ∧ (next answer).Runs rest outcome := by
  constructor
  · rintro ⟨⟩
    exact ⟨_, _, rfl, ‹_›⟩
  · rintro ⟨answer, rest, rfl, runs⟩
    exact .await runs

theorem runs_pure_iff {a : α} {trace : List Answered} {outcome : Except Failure α} :
    (pure a : Plan α).Runs trace outcome ↔ trace = [] ∧ outcome = .ok a := runs_ended_iff

theorem runs_pure_ok_iff {a b : α} {trace : List Answered} :
    (pure a : Plan α).Runs trace (.ok b) ↔ trace = [] ∧ b = a := by
  rw [runs_pure_iff, Except.ok.injEq]

theorem runs_fail_iff {e : Failure} {trace : List Answered} {outcome : Except Failure α} :
    (fail e : Plan α).Runs trace outcome ↔ trace = [] ∧ outcome = .error e := runs_ended_iff

theorem runs_ofExcept_iff {given : Except Failure α} {trace : List Answered} {outcome : Except Failure α} :
    (ofExcept given).Runs trace outcome ↔ trace = [] ∧ outcome = given := runs_ended_iff

theorem runs_perform_iff {work : Work} {trace : List Answered} {outcome : Except Failure work.Answer} :
    (perform work).Runs trace outcome ↔ trace = [⟨work, outcome⟩] := by
  rw [perform, runs_await_iff]
  constructor
  · rintro ⟨answer, rest, rfl, runs⟩
    obtain ⟨rfl, rfl⟩ := runs_ended_iff.mp runs
    rfl
  · rintro rfl
    exact ⟨outcome, [], rfl, .ended outcome⟩

/-- A plan fails in its first part, or its second part goes on with what the first one gave. -/
theorem runs_bind_iff {p : Plan α} {f : α → Plan β} {trace : List Answered} {outcome : Except Failure β} :
    (p >>= f).Runs trace outcome ↔
      (∃ e, outcome = .error e ∧ p.Runs trace (.error e)) ∨
      ∃ a before after, trace = before ++ after ∧ p.Runs before (.ok a) ∧ (f a).Runs after outcome := by
  change (bind p f).Runs trace outcome ↔ _
  induction p generalizing trace with
  | ended given =>
    cases given with
    | error e =>
      simp only [bind, runs_ended_iff, reduceCtorEq, and_false, false_and, exists_false, or_false]
      constructor
      · rintro ⟨rfl, rfl⟩
        exact ⟨e, rfl, rfl, rfl⟩
      · rintro ⟨e', rfl, rfl, same⟩
        obtain rfl := Except.error.inj same
        exact ⟨rfl, rfl⟩
    | ok a =>
      simp only [bind, runs_ended_iff, reduceCtorEq, and_false, exists_false, false_or]
      constructor
      · intro runs
        exact ⟨a, [], trace, rfl, ⟨rfl, rfl⟩, runs⟩
      · rintro ⟨a', before, after, rfl, ⟨rfl, same⟩, runs⟩
        obtain rfl := Except.ok.inj same
        exact runs
  | await work next ih =>
    simp only [bind, runs_await_iff, ih]
    constructor
    · rintro ⟨answer, rest, rfl, ⟨e, rfl, runs⟩ | ⟨a, before, after, rfl, first, second⟩⟩
      · exact .inl ⟨e, rfl, answer, rest, rfl, runs⟩
      · exact .inr ⟨a, ⟨work, answer⟩ :: before, after, rfl, ⟨answer, before, rfl, first⟩, second⟩
    · rintro (⟨e, rfl, answer, rest, rfl, runs⟩ | ⟨a, before, after, rfl, ⟨answer, rest, rfl, first⟩, second⟩)
      · exact ⟨answer, rest, rfl, .inl ⟨e, rfl, runs⟩⟩
      · exact ⟨answer, rest ++ after, rfl, .inr ⟨a, rest, after, rfl, first, second⟩⟩

theorem runs_perform_bind_ok_iff {work : Work} {f : work.Answer → Plan β} {trace : List Answered} {b : β} :
    (perform work >>= f).Runs trace (.ok b) ↔
      ∃ a after, trace = ⟨work, .ok a⟩ :: after ∧ (f a).Runs after (.ok b) := by
  rw [runs_bind_iff]
  constructor
  · rintro (⟨e, same, -⟩ | ⟨a, before, after, rfl, first, second⟩)
    · cases same
    · obtain rfl := runs_perform_iff.mp first
      exact ⟨a, after, rfl, second⟩
  · rintro ⟨a, after, rfl, second⟩
    exact .inr ⟨a, [_], after, rfl, runs_perform_iff.mpr rfl, second⟩

theorem runs_ofExcept_bind_iff {given : Except Failure α} {f : α → Plan β} {trace : List Answered}
    {outcome : Except Failure β} :
    (ofExcept given >>= f).Runs trace outcome ↔
      (∃ e, given = .error e ∧ trace = [] ∧ outcome = .error e) ∨
      ∃ a, given = .ok a ∧ (f a).Runs trace outcome := by
  cases given with
  | error e =>
    constructor
    · exact fun h => .inl ⟨e, rfl, runs_fail_iff.mp h⟩
    · rintro (⟨e', same, ended⟩ | ⟨a, same, -⟩)
      · obtain rfl := Except.error.inj same
        exact runs_fail_iff.mpr ended
      · cases same
  | ok a =>
    constructor
    · exact fun h => .inr ⟨a, rfl, h⟩
    · rintro (⟨e, same, -⟩ | ⟨a', same, runs⟩)
      · cases same
      · obtain rfl := Except.ok.inj same
        exact runs

theorem runs_attempt_iff {p : Plan α} {trace : List Answered} {outcome : Except Failure (Except Failure α)} :
    (attempt p).Runs trace outcome ↔ ∃ inner, outcome = .ok inner ∧ p.Runs trace inner := by
  induction p generalizing trace with
  | ended given =>
    simp only [attempt, runs_ended_iff]
    constructor
    · rintro ⟨rfl, rfl⟩
      exact ⟨given, rfl, rfl, rfl⟩
    · rintro ⟨inner, rfl, rfl, rfl⟩
      exact ⟨rfl, rfl⟩
  | await work next ih =>
    simp only [attempt, runs_await_iff, ih]
    constructor
    · rintro ⟨answer, rest, rfl, inner, rfl, runs⟩
      exact ⟨inner, rfl, answer, rest, rfl, runs⟩
    · rintro ⟨inner, rfl, answer, rest, rfl, runs⟩
      exact ⟨answer, rest, rfl, inner, rfl, runs⟩

theorem runs_release_iff {directory : String} {inner outcome : Except Failure α} {trace : List Answered} :
    (perform (.release directory) >>= fun _ => ofExcept inner : Plan α).Runs trace outcome ↔
      ∃ released, trace = [⟨.release directory, released⟩] ∧ outcome = released.bind fun _ => inner := by
  rw [runs_bind_iff]
  constructor
  · rintro (⟨e, rfl, runs⟩ | ⟨u, before, after, rfl, first, second⟩)
    · exact ⟨.error e, runs_perform_iff.mp runs, rfl⟩
    · obtain rfl := runs_perform_iff.mp first
      obtain ⟨rfl, rfl⟩ := runs_ofExcept_iff.mp second
      exact ⟨.ok u, rfl, rfl⟩
  · rintro ⟨released, rfl, rfl⟩
    cases released with
    | error e => exact .inl ⟨e, rfl, runs_perform_iff.mpr rfl⟩
    | ok u => exact .inr ⟨u, _, [], rfl, runs_perform_iff.mpr rfl, runs_ofExcept_iff.mpr ⟨rfl, rfl⟩⟩

/-- Either no directory was given out and nothing else was asked for, or the one that was given out is given back
last, however the body came out. -/
theorem runs_inDirectory_iff {body : String → Plan α} {trace : List Answered} {outcome : Except Failure α} :
    (inDirectory body).Runs trace outcome ↔
      (∃ e, outcome = .error e ∧ trace = [⟨.acquire, .error e⟩]) ∨
      ∃ directory within inner released, (body directory).Runs within inner ∧
        trace = ⟨.acquire, .ok directory⟩ :: (within ++ [⟨.release directory, released⟩]) ∧
        outcome = released.bind fun _ => inner := by
  rw [inDirectory, runs_bind_iff]
  constructor
  · rintro (⟨e, rfl, runs⟩ | ⟨directory, before, after, rfl, first, second⟩)
    · exact .inl ⟨e, rfl, runs_perform_iff.mp runs⟩
    · obtain rfl := runs_perform_iff.mp first
      rcases runs_bind_iff.mp second with ⟨e, rfl, runs⟩ | ⟨inner, within, last, rfl, body, release⟩
      · obtain ⟨inner, same, -⟩ := runs_attempt_iff.mp runs
        cases same
      · obtain ⟨inner', same, runs⟩ := runs_attempt_iff.mp body
        obtain rfl := Except.ok.inj same
        obtain ⟨released, rfl, rfl⟩ := runs_release_iff.mp release
        exact .inr ⟨directory, within, inner, released, runs, rfl, rfl⟩
  · rintro (⟨e, rfl, rfl⟩ | ⟨directory, within, inner, released, runs, rfl, rfl⟩)
    · exact .inl ⟨e, rfl, runs_perform_iff.mpr rfl⟩
    · refine .inr ⟨directory, _, within ++ [⟨.release directory, released⟩], rfl, runs_perform_iff.mpr rfl, ?_⟩
      refine runs_bind_iff.mpr (.inr ⟨inner, within, _, rfl, runs_attempt_iff.mpr ⟨inner, rfl, runs⟩, ?_⟩)
      exact runs_release_iff.mpr ⟨released, rfl, rfl⟩

end Plan
end AsmScope
