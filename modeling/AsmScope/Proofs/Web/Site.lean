import AsmScope.Proofs.Compile.Registration
import AsmScope.Proofs.Rehearsal.Workshop
import AsmScope.Web.Site

/-! What a site holds from its start on. Requests fill its store and use up its replies; what it found on the machine
and the compilers it knows are the same after any number of them. -/

namespace AsmScope.Web.Site

def after (s : Site) (requests : List HttpRequest) : Site := requests.foldl (fun s r => (s.handle r).2) s

/-- Both sites found the same machine and know the same compilers. -/
def Alike (s t : Site) : Prop := t.environment = s.environment ∧ t.registry = s.registry

theorem Alike.refl (s : Site) : Alike s s := ⟨rfl, rfl⟩

theorem Alike.trans {s t u : Site} (h : Alike s t) (g : Alike t u) : Alike s u :=
  ⟨g.1.trans h.1, g.2.trans h.2⟩

theorem alike_passOn (s : Site) (address : String) (request : HttpRequest) :
    Alike s (s.passOn address request).2 := by
  unfold passOn nextReply
  cases s.replies <;> exact ⟨rfl, rfl⟩

theorem alike_compileHere (s : Site) (payload : Fields) : Alike s (s.compileHere payload).2 := by
  unfold compileHere
  split
  · exact .refl s
  · exact ⟨rfl, congrArg Workshop.registry (s.rehearsal.single_workshop _)⟩

theorem alike_compile (s : Site) (request : HttpRequest) : Alike s (s.compile request).2 := by
  unfold compile
  split
  · exact .refl s
  · dsimp only
    split
    · exact .refl s
    · split
      · exact alike_passOn ..
      · exact alike_compileHere ..

theorem alike_handle (s : Site) (request : HttpRequest) : Alike s (s.handle request).2 := by
  unfold handle
  split
  · rename_i page _
    cases page with
    | health => exact .refl s
    | compilers => exact .refl s
    | compile => exact alike_compile s request
  all_goals exact .refl s

theorem alike_after (s : Site) (requests : List HttpRequest) : Alike s (s.after requests) := by
  induction requests generalizing s with
  | nil => exact .refl s
  | cons request requests ih =>
    rw [after, List.foldl_cons]
    exact (alike_handle s request).trans (ih (s.handle request).2)

theorem handle_page {s : Site} {request : HttpRequest} {p : Page} (asks : Route.ofRequest request = .page p) :
    s.handle request = s.page request p := by
  unfold handle
  rw [asks]

def Reached (config : AppConfig) (commands : List HostCommand) (s : Site) : Prop :=
  ∃ rules replies requests, s = (start config commands rules replies).after requests

theorem apply_compilers (report : EnvironmentReport) (config : AppConfig) :
    (report.apply config).compilers = config.compilers := by
  unfold EnvironmentReport.apply
  split
  · rfl
  · split <;> rfl

section Reached
variable {config : AppConfig} {commands : List HostCommand} {s : Site} (reached : s.Reached config commands)
include reached

theorem Reached.environment : s.environment = EnvironmentReport.survey commands config := by
  obtain ⟨rules, replies, requests, rfl⟩ := reached
  exact (alike_after _ requests).1

theorem Reached.exists_registry : ∃ settings, s.registry = .ofSettings config.compilers settings := by
  obtain ⟨rules, replies, requests, rfl⟩ := reached
  have known : (start config commands rules replies).registry =
      .ofSettings ((EnvironmentReport.survey commands config).apply config).compilers
        ((EnvironmentReport.survey commands config).apply config).compilation := rfl
  rw [apply_compilers] at known
  exact ⟨_, (alike_after _ requests).2.trans known⟩

end Reached
end AsmScope.Web.Site
