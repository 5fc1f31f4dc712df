import AsmScope.Proofs.Rehearsal.Single
import AsmScope.Proofs.Service.Agreement
import AsmScope.Proofs.Web.Site

/-! How a request to compile is answered. A body without a source and filters that cannot be read are bad requests, a
compiler that is not registered is not found, and all else is answered with a result or with an envelope that holds one
line of message. The order of the checks shows in the answer: options come before filters, and both after the compiler.
A request that comes to no result leaves nothing behind. -/

namespace AsmScope

namespace Request

def HasBadFilters (payload : Fields) : Prop :=
  (∃ options, optionsOf (givenOr payload "options" (.string "")) = .ok options) ∧
    ∃ problems, Filters.ofValue (givenOr payload "filters" (.table [])) = .invalid problems

theorem told_of_optionsOf {given : Value} {e : Failure} (failed : optionsOf given = .error e) : e.Told := by
  unfold optionsOf at failed
  split at failed
  · split at failed
    · cases failed
    · obtain rfl := Except.error.inj failed
      rfl
  all_goals first
    | cases failed; done
    | obtain rfl := Except.error.inj failed
      rfl

/-- The ways in which a payload is read. -/
inductive Reads (payload : Fields) : Except Failure Request → Prop where
  | badOptions {e : Failure} (told : e.Told) (good : ¬ HasBadFilters payload) : Reads payload (.error e)
  | badFilters (bad : HasBadFilters payload) (problems : List Problem) : Reads payload (.error (.malformed problems))
  | request {q : Request} (good : ¬ HasBadFilters payload) (compiler : q.compiler = shown payload "compiler") :
      Reads payload (.ok q)

theorem reads_ofPayload (payload : Fields) : Reads payload (ofPayload payload) := by
  unfold ofPayload
  cases given : optionsOf (givenOr payload "options" (.string "")) with
  | error e =>
    refine .badOptions (told_of_optionsOf given) ?_
    rintro ⟨⟨options, same⟩, -⟩
    cases given.symm.trans same
  | ok options =>
    simp only [bind, Except.bind]
    cases read : Filters.ofValue (givenOr payload "filters" (.table [])) with
    | valid filters =>
      refine .request ?_ rfl
      rintro ⟨-, problems, same⟩
      cases read.symm.trans same
    | invalid problems => exact .badFilters ⟨⟨options, given⟩, problems, read⟩ problems

theorem compiler_of_ofPayload {payload : Fields} {q : Request} (read : ofPayload payload = .ok q) :
    q.compiler = shown payload "compiler" := by
  have reads := reads_ofPayload payload
  rw [read] at reads
  cases reads with
  | request good compiler => exact compiler

end Request

namespace Service

theorem told_of_outcome? {w : Workshop} {events : List ServiceEvent} (distinct : Distinct events)
    (genuine : (start w).IsGenuine events) {sub : Submission} (came : sub.IsIn events)
    (here : w.IsLocal sub.request.compiler) {outcome : Outcome}
    (h : (after w events).outcome? sub.id = some outcome) : FailsOnly Failure.Told outcome := by
  cases answer_of_outcome? distinct came h with
  | refused inadmissible =>
    obtain ⟨r, wants⟩ := sub.exists_wants here
    cases inadmissible.symm.trans wants
  | invalid wants bad => exact failsOnly_error_iff.mpr (Workshop.told_of_validate bad)
  | stored => exact failsOnly_ok _
  | @shared job wants ended part =>
    obtain ⟨trace, ran, answers⟩ := genuine _ _ _ ended.isPrefix _ ended.running
    obtain ⟨entry, found, elsewhere⟩ := here
    have same := Except.ok.inj (wants.normalize.1.symm.trans (Workshop.normalize_of_find? found))
    have here : w.IsLocal job.request.compiler :=
      ⟨entry, by rwa [same, Rehearsal.normalFor_compiler], elsewhere⟩
    exact ((Compile.ends_job here).of_runs ran answers).2
  | cancelled => exact failsOnly_error_iff.mpr rfl

end Service

namespace Web

def HttpRequest.json? (r : HttpRequest) : Option Value :=
  if r.saysJson then Json.readOctets? (Text.encoded r.body) else none

/-- The body is an object with a text for its source. -/
def HttpRequest.Carries (r : HttpRequest) (payload : Fields) : Prop :=
  r.json? = some (.table payload) ∧ ∃ source, Fields.get? payload "source" = some (.string source)

theorem HttpRequest.Carries.unique {r : HttpRequest} {payload other : Fields} (h : r.Carries payload)
    (h' : r.Carries other) : other = payload :=
  Value.table.inj (Option.some.inj (h'.1.symm.trans h.1))

/-- It carries nothing, or the compiler is registered and the filters cannot be read though the options can. -/
def HttpRequest.IsBad (g : Registry) (r : HttpRequest) : Prop :=
  (¬ ∃ payload, r.Carries payload) ∨
    ∃ payload, r.Carries payload ∧ (g.find? (Request.shown payload "compiler")).isSome = true ∧
      Request.HasBadFilters payload

def HttpRequest.IsUnknown (g : Registry) (r : HttpRequest) : Prop :=
  ∃ payload, r.Carries payload ∧ g.find? (Request.shown payload "compiler") = none

def HttpRequest.IsForHere (g : Registry) (r : HttpRequest) : Prop :=
  ∀ payload entry, r.Carries payload → g.find? (Request.shown payload "compiler") = some entry →
    entry.settings.isRemote = false

def envelope (text : String) : Value :=
  .table [("code", .int (-1)), ("stdout", .list []), ("stderr", .list [.table [("text", .string text)]]),
    ("asm", .list [])]

/-- The result, or the envelope that tells why there is none. -/
def document : Outcome → Value
  | .ok result => result.toValue
  | .error failure =>
    envelope (if failure.isRejection then failure.message else "Internal compiler explorer error: " ++ failure.message)

/-- A proper answer to a request, by what it comes to when it is submitted. -/
structure IsAnswered (g : Registry) (r : HttpRequest) (submit : Request → Outcome) (reply : Reply) : Prop where
  bad : reply.status = 400 ↔ r.IsBad g
  unknown : ¬ r.IsBad g → (reply.status = 404 ↔ r.IsUnknown g)
  told : ¬ r.IsBad g → ¬ r.IsUnknown g →
    ∃ payload, r.Carries payload ∧
      reply = ⟨200, .document (document ((Request.ofPayload payload).bind submit))⟩

namespace Site

theorem payload?_eq_some_iff {r : HttpRequest} {payload : Fields} :
    payload? r = some payload ↔ r.Carries payload := by
  unfold payload? HttpRequest.Carries HttpRequest.json?
  split
  · split
    · rename_i fields read
      rw [read]
      split
      · rename_i source given
        constructor
        · intro same
          obtain rfl := Option.some.inj same
          exact ⟨rfl, source, given⟩
        · rintro ⟨same, -⟩
          rw [Value.table.inj (Option.some.inj same)]
      · rename_i none
        constructor
        · intro same
          cases same
        · rintro ⟨same, source, given⟩
          obtain rfl := Value.table.inj (Option.some.inj same)
          exact absurd given (none source)
    · rename_i none
      constructor
      · intro same
        cases same
      · rintro ⟨read, -⟩
        exact absurd read (none payload)
  · simp

def replyTo : Outcome → Reply
  | .ok result => answer result.toValue
  | .error failure => told failure

def reply (g : Registry) (r : HttpRequest) (submit : Request → Outcome) : Reply :=
  match payload? r with
  | none => refusal 400 "source is required"
  | some payload =>
    match g.find? (Request.shown payload "compiler") with
    | none => refusal 404 (Failure.unknownCompiler (Request.shown payload "compiler")).message
    | some _ => replyTo ((Request.ofPayload payload).bind submit)

theorem replyTo_eq {outcome : Outcome} (only : FailsOnly Failure.Told outcome) :
    replyTo outcome = ⟨200, .document (document outcome)⟩ := by
  cases outcome with
  | ok result => rfl
  | error e =>
    have told := only e rfl
    cases e <;> first | rfl | cases told

section Answered
variable {g : Registry} {r : HttpRequest} {payload : Fields} {submit : Request → Outcome}

theorem isAnswered_of_nothing (nothing : ¬ ∃ payload, r.Carries payload) (message : String) :
    IsAnswered g r submit (refusal 400 message) :=
  ⟨⟨fun _ => .inl nothing, fun _ => rfl⟩, fun good => absurd (.inl nothing) good,
    fun good => absurd (.inl nothing) good⟩

theorem isAnswered_of_unknown (carries : r.Carries payload)
    (unknown : g.find? (Request.shown payload "compiler") = none) (message : String) :
    IsAnswered g r submit (refusal 404 message) := by
  have good : ¬ r.IsBad g := by
    rintro (nothing | ⟨other, carries', known, -⟩)
    · exact nothing ⟨payload, carries⟩
    · rw [carries.unique carries', unknown] at known
      cases known
  have itself : r.IsUnknown g := ⟨payload, carries, unknown⟩
  exact ⟨⟨fun same => (nomatch same), fun bad => absurd bad good⟩, fun _ => ⟨fun _ => itself, fun _ => rfl⟩,
    fun _ known => absurd itself known⟩

theorem isAnswered_of_known {entry : Entry} (carries : r.Carries payload)
    (known : g.find? (Request.shown payload "compiler") = some entry)
    (plain : ∀ q, Request.ofPayload payload = .ok q → q.compiler = Request.shown payload "compiler" →
      FailsOnly Failure.Told (submit q)) :
    IsAnswered g r submit (replyTo ((Request.ofPayload payload).bind submit)) := by
  have registered : ¬ r.IsUnknown g := by
    rintro ⟨other, carries', unknown⟩
    rw [carries.unique carries', known] at unknown
    cases unknown
  have isBad_iff : r.IsBad g ↔ Request.HasBadFilters payload := by
    constructor
    · rintro (nothing | ⟨other, carries', -, bad⟩)
      · exact absurd ⟨payload, carries⟩ nothing
      · rwa [carries.unique carries'] at bad
    · exact fun bad => .inr ⟨payload, carries, by rw [known]; rfl, bad⟩
  have documented (good : ¬ Request.HasBadFilters payload)
      (only : FailsOnly Failure.Told ((Request.ofPayload payload).bind submit)) :
      IsAnswered g r submit (replyTo ((Request.ofPayload payload).bind submit)) := by
    rw [replyTo_eq only]
    exact ⟨⟨fun same => (nomatch same), fun bad => absurd (isBad_iff.mp bad) good⟩,
      fun _ => ⟨fun same => (nomatch same), fun unknown => absurd unknown registered⟩,
      fun _ _ => ⟨payload, carries, rfl⟩⟩
  have reads := Request.reads_ofPayload payload
  generalize read : Request.ofPayload payload = given at reads documented plain ⊢
  cases reads with
  | badOptions told good => exact documented good (failsOnly_error_iff.mpr told)
  | badFilters bad problems =>
    exact ⟨⟨fun _ => isBad_iff.mpr bad, fun _ => rfl⟩, fun good => absurd (isBad_iff.mpr bad) good,
      fun good => absurd (isBad_iff.mpr bad) good⟩
  | request good compiler => exact documented good (plain _ rfl compiler)

theorem isAnswered_reply
    (plain : ∀ payload q, r.Carries payload → Request.ofPayload payload = .ok q →
      (g.find? q.compiler).isSome = true → FailsOnly Failure.Told (submit q)) :
    IsAnswered g r submit (reply g r submit) := by
  unfold reply
  cases carried : payload? r with
  | none =>
    refine isAnswered_of_nothing ?_ _
    rintro ⟨payload, carries⟩
    cases carried.symm.trans (payload?_eq_some_iff.mpr carries)
  | some payload =>
    have carries := payload?_eq_some_iff.mp carried
    dsimp only
    cases known : g.find? (Request.shown payload "compiler") with
    | none => exact isAnswered_of_unknown carries known _
    | some entry =>
      exact isAnswered_of_known carries known fun q read compiler =>
        plain payload q carries read (by rw [compiler, known]; rfl)

end Answered

/-- The site afterwards. Only a request that is submitted can change it. -/
def left (s : Site) (r : HttpRequest) : Site :=
  match payload? r with
  | none => s
  | some payload =>
    match s.registry.find? (Request.shown payload "compiler") with
    | none => s
    | some _ =>
      match Request.ofPayload payload with
      | .error _ => s
      | .ok q => { s with rehearsal := (s.rehearsal.single q).2 }

theorem compileHere_eq (s : Site) (payload : Fields) :
    s.compileHere payload =
      (replyTo ((Request.ofPayload payload).bind fun q => (s.rehearsal.single q).1),
        match Request.ofPayload payload with
        | .error _ => s
        | .ok q => { s with rehearsal := (s.rehearsal.single q).2 }) := by
  unfold compileHere
  cases Request.ofPayload payload with
  | error e => rfl
  | ok q =>
    refine Prod.ext ?_ rfl
    change (match (s.rehearsal.single q).1 with | .ok result => _ | .error e => _) = replyTo (s.rehearsal.single q).1
    cases (s.rehearsal.single q).1 <;> rfl

theorem compile_eq {s : Site} {r : HttpRequest} (here : r.IsForHere s.registry) :
    s.compile r = (reply s.registry r fun q => (s.rehearsal.single q).1, s.left r) := by
  unfold compile reply left
  cases carried : payload? r with
  | none => rfl
  | some payload =>
    dsimp only
    cases known : s.registry.find? (Request.shown payload "compiler") with
    | none => rfl
    | some entry =>
      dsimp only
      rw [here payload entry (payload?_eq_some_iff.mp carried) known, compileHere_eq]
      cases entry.settings.remote <;> rfl

def IsWaiting (w : Workshop) (s : Site) : Prop := s.rehearsal.IsWaiting w

section Waiting
variable {w : Workshop} {s : Site}

theorem isWaiting_compile (limit : 0 < w.config.limits.jobs) (h : s.IsWaiting w) (r : HttpRequest) :
    (s.compile r).2.IsWaiting w := by
  unfold compile
  split
  · exact h
  · dsimp only
    split
    · exact h
    · split
      · unfold passOn nextReply
        cases s.replies <;> exact h
      · rw [compileHere_eq]
        dsimp only
        split
        · exact h
        · exact (h.served limit _).waits

theorem isWaiting_handle (limit : 0 < w.config.limits.jobs) (h : s.IsWaiting w) (r : HttpRequest) :
    (s.handle r).2.IsWaiting w := by
  unfold handle
  split
  · rename_i page _
    cases page with
    | health => exact h
    | compilers => exact h
    | compile => exact isWaiting_compile limit h r
  all_goals exact h

theorem isWaiting_after (limit : 0 < w.config.limits.jobs) (h : s.IsWaiting w) (requests : List HttpRequest) :
    (s.after requests).IsWaiting w := by
  induction requests generalizing s with
  | nil => exact h
  | cons request requests ih =>
    rw [after, List.foldl_cons]
    exact ih (s := (s.handle request).2) (isWaiting_handle limit h request)

end Waiting

theorem isLocal_of_carries {w : Workshop} {r : HttpRequest} {payload : Fields} {q : Request}
    (here : r.IsForHere w.registry) (carries : r.Carries payload) (read : Request.ofPayload payload = .ok q)
    (known : (w.registry.find? q.compiler).isSome = true) : w.IsLocal q.compiler := by
  obtain ⟨entry, found⟩ := Option.isSome_iff_exists.mp known
  exact ⟨entry, found, here payload entry carries (by rw [← Request.compiler_of_ofPayload read, found])⟩

theorem left_of_no_result {w : Workshop} {s : Site} {r : HttpRequest} (limit : 0 < w.config.limits.jobs)
    (h : s.IsWaiting w)
    (noResult : ∀ result : Result, reply s.registry r (fun q => (s.rehearsal.single q).1) ≠ answer result.toValue) :
    (s.left r).rehearsal.service.store = s.rehearsal.service.store ∧
      (s.left r).rehearsal.service.inFlight = s.rehearsal.service.inFlight := by
  unfold left
  unfold reply at noResult
  cases carried : payload? r with
  | none => exact ⟨rfl, rfl⟩
  | some payload =>
    rw [carried] at noResult
    dsimp only at noResult ⊢
    cases known : s.registry.find? (Request.shown payload "compiler") with
    | none => exact ⟨rfl, rfl⟩
    | some entry =>
      rw [known] at noResult
      cases read : Request.ofPayload payload with
      | error e => exact ⟨rfl, rfl⟩
      | ok q =>
        rw [read] at noResult
        dsimp only [Except.bind] at noResult ⊢
        cases ended : (s.rehearsal.single q).1 with
        | ok result =>
          rw [ended] at noResult
          exact absurd rfl (noResult result)
        | error e => exact (h.served limit q).kept e ended

theorem apply_limits (report : EnvironmentReport) (config : AppConfig) :
    (report.apply config).limits = config.limits := by
  unfold EnvironmentReport.apply
  split
  · rfl
  · split <;> rfl

theorem Reached.isWaiting {config : AppConfig} {commands : List HostCommand} {s : Site}
    (reached : s.Reached config commands) (limit : 0 < config.limits.jobs) :
    ∃ w : Workshop, 0 < w.config.limits.jobs ∧ s.IsWaiting w := by
  obtain ⟨rules, replies, requests, rfl⟩ := reached
  refine ⟨.ofConfig ((EnvironmentReport.survey commands config).apply config) [], ?_, ?_⟩
  · exact (apply_limits ..).symm ▸ limit
  · exact isWaiting_after ((apply_limits ..).symm ▸ limit) ⟨_, _, _, rfl⟩ requests

def smallConfig : AppConfig where
  compilers :=
    [⟨"cc", "", some "/bin/cc", none, false, false, false, false, "", "", "-o", "-S", [], false⟩,
      ⟨"far", "", none, some "http://far", false, false, false, false, "", "", "-o", "-S", [], false⟩]

def smallSite : Site := .start smallConfig [] [] []

def binaryBody : HttpRequest :=
  ⟨"POST", "/api/compile", some "application/json",
    "\x7b\"compiler\": \"cc\", \"source\": \"int x;\", \"filters\": \x7b\"binary\": true\x7d\x7d"⟩

def stopped (work : Work) : Except Failure work.Answer := .error (.fault "stopped")

theorem isGenuine_failedTwins : (Service.start Service.smallWorkshop).IsGenuine Service.failedTwins := by
  intro before id outcome first r job
  obtain ⟨rfl, rfl, rfl⟩ : before = [.submit 0 Service.plainRequest, .submit 1 Service.binaryRequest] ∧ id = 0 ∧
      outcome = .error (.fault "stopped") := by
    rcases before with _ | ⟨_, _ | ⟨_, _ | ⟨_, _ | ⟨_, before⟩⟩⟩⟩ <;>
      simp_all [Service.failedTwins, List.cons_prefix_cons]
  have running : ((Service.start Service.smallWorkshop).run
      [.submit 0 Service.plainRequest, .submit 1 Service.binaryRequest]).job? 0 = some Service.plainRequest := by
    decide +kernel
  obtain rfl := Option.some.inj (running.symm.trans job)
  have ended : ((Compile.job Service.smallWorkshop Service.plainRequest).follow stopped).2 =
      .error (.fault "stopped") := by decide +kernel
  refine ⟨_, ended ▸ Plan.runs_follow stopped _, fun a there => ?_⟩
  rw [Plan.answer_of_mem_follow there]
  exact failsOnly_error_iff.mpr rfl

end Site
end Web
end AsmScope
