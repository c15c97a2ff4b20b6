import ProofStack.Datasets.VersionPlans
import ProofStack.StateMachine.Run

/-!
This module contains the runs of the repository of regression versions.
-/

namespace ProofStack
namespace Datasets

open Artifacts Checks Interaction Sequence StateMachine Store

variable {platform : Platform} {s s' : MemoryRegressionVersionRepository} {tenantId : String}

def AllConsistent (platform : Platform) (s : MemoryRegressionVersionRepository) : Prop :=
  ∀ tenantId, Consistent platform tenantId (s.tenant tenantId)

def Command.revokes : Command → String → Option String
  | .revokeRecordedInteractionFixtureContent candidate, tenantId =>
    if candidate.revocation.scope.tenantId = tenantId then some candidate.revocation.fixtureVersionId
    else none
  | _, _ => none

def Stored (platform : Platform) (s : MemoryRegressionVersionRepository) : Command → Response → Prop
  | .publishDatasetVersion candidate, .datasetVersion result =>
    VersionStored platform datasetFamily TenantState.datasetVersions candidate
      (s.tenant candidate.scope.tenantId) result
  | .publishFixtureVersion candidate, .fixtureVersion result =>
    VersionStored platform fixtureFamily TenantState.fixtureVersions candidate
      (s.tenant candidate.scope.tenantId) result
  | .publishRecordedInteractionFixtureVersion candidate, .recordedFixtureVersion result =>
    RecordingStored platform candidate (s.tenant candidate.scope.tenantId) result
  | .revokeRecordedInteractionFixtureContent candidate, .contentRevocation result =>
    RevocationStored candidate.revocation (s.tenant candidate.revocation.scope.tenantId) result
  | .seedInteractionArtifact metadata, .done => SeedStored metadata (s.tenant metadata.scope.tenantId) ()
  | .failNextPublicationIntent _, .done => True
  | _, _ => False

def AdvancesAll (platform : Platform) (revokes : String → Option String)
    (s s' : MemoryRegressionVersionRepository) : Prop :=
  ∀ tenantId, Advances platform tenantId (revokes tenantId) (s.tenant tenantId) (s'.tenant tenantId)

inductive Executed (platform : Platform) (s : MemoryRegressionVersionRepository) (command : Command)
    : EStateM.Result RegressionError MemoryRegressionVersionRepository Response → Prop
  | thrown (error : RegressionError) (s' : MemoryRegressionVersionRepository)
      (htenants : s'.tenants = s.tenants)
    : Executed platform s command (.error error s')
  | returned (response : Response) (s' : MemoryRegressionVersionRepository)
      (hstored : Stored platform s' command response)
      (hadvances : AdvancesAll platform command.revokes s s')
    : Executed platform s command (.ok response s')

theorem executed_transact {α : Type} {command : Command} {k : String}
    {failure : Option (RegressionVersionPublicationKind × RegressionError)}
    {plan : TenantState → Except RegressionError (Plan α)} {respond : α → Response}
    {stored : TenantState → α → Prop} (hs : AllConsistent platform s)
    (hplan : ∀ planned, plan (s.tenant k) = .ok planned →
      Performs platform k (command.revokes k) stored (s.tenant k) planned)
    (hstored : ∀ s' result, stored (s'.tenant k) result → Stored platform s' command (respond result))
    : Executed platform s command ((respond <$> Tenanted.transact k failure plan) s) := by
  have htransacted := Tenanted.transacted s k failure plan
  rw [map_eq_pure_bind]
  cases hrun : Tenanted.transact k failure plan s with
  | error error s' =>
    rw [bind_run_error hrun]
    rw [hrun] at htransacted
    cases htransacted with
    | thrown _ _ htenants => exact .thrown error s' htenants
    | unread next _ hunread =>
      rcases (hplan _ hunread).2 with ⟨value, hvalue, _⟩
      contradiction
  | ok result s' =>
    rw [bind_run hrun]
    rw [hrun] at htransacted
    cases htransacted with
    | kept _ hkept =>
      exact .returned _ s (hstored s result (hplan _ hkept)) (fun t => Advances.refl (hs t) _)
    | replaced next _ hreplaced =>
      rcases hplan _ hreplaced with ⟨hadvances, value, hvalue, hnext⟩
      cases hvalue
      have hself : (s.replace k next).tenant k = next := by
        rw [Tenanted.tenant_replace, if_pos rfl]
      refine .returned _ _ (hstored _ result ?_) ?_
      . rw [hself]
        exact hnext
      . intro t
        rw [Tenanted.tenant_replace]
        split
        . next ht =>
          subst ht
          exact hadvances
        . exact Advances.refl (hs t) _

theorem executed_attempting {α ρ : Type} {command : Command} {checked : Except RegressionError ρ}
    {continuation : ρ → Operation α} {respond : α → Response}
    (h : ∀ request, checked = .ok request →
      Executed platform s command ((respond <$> continuation request) s))
    : Executed platform s command ((respond <$> (attempting checked >>= continuation)) s) := by
  cases hchecked : checked with
  | error error => exact .thrown error s rfl
  | ok request =>
    have hrequest := h request hchecked
    exact hrequest

theorem executed (hs : AllConsistent platform s) (command : Command)
    : Executed platform s command (execute platform command s) := by
  cases command with
  | publishDatasetVersion candidate =>
    apply executed_attempting
    intro validated hvalidated
    rcases VersionFamily.validateAndProject_eq_ok.mp hvalidated with ⟨hvalid, rfl⟩
    apply executed_transact hs
    . intro planned hplan
      exact planDatasetVersion_performs (hs _) hvalid rfl hplan
    . intro s' result hresult
      exact hresult
  | publishFixtureVersion candidate =>
    apply executed_attempting
    intro validated hvalidated
    rcases VersionFamily.validateAndProject_eq_ok.mp hvalidated with ⟨hvalid, rfl⟩
    apply executed_transact hs
    . intro planned hplan
      exact planFixtureVersion_performs (hs _) hvalid rfl hplan
    . intro s' result hresult
      exact hresult
  | publishRecordedInteractionFixtureVersion candidate =>
    apply executed_attempting
    intro validated hvalidated
    rcases VersionFamily.validateAndProject_eq_ok.mp hvalidated with ⟨hvalid, rfl⟩
    apply executed_transact hs
    . intro planned hplan
      exact planRecordedInteractionFixtureVersion_performs (hs _) hvalid rfl hplan
    . intro s' result hresult
      exact hresult
  | revokeRecordedInteractionFixtureContent candidate =>
    apply executed_attempting
    intro revocation hrevocation
    rcases parseWith_eq_ok.mp hrevocation with ⟨haccepted, rfl⟩
    apply executed_attempting
    intro tombstones htombstones
    apply executed_transact hs
    . intro planned hplan
      have hall : ∀ tombstone ∈ tombstones, tombstone.Accepted := by
        intro tombstone hmem
        rcases exists_of_mapM htombstones hmem with ⟨value, _, hvalue⟩
        rcases parseWith_eq_ok.mp hvalue with ⟨htombstone, rfl⟩
        exact htombstone
      have hrevokes : (Command.revokeRecordedInteractionFixtureContent candidate).revokes
          candidate.revocation.scope.tenantId = some candidate.revocation.fixtureVersionId := if_pos rfl
      rw [hrevokes]
      exact planContentRevocation_performs (hs _) haccepted hall hplan
    . intro s' result hresult
      exact hresult
  | seedInteractionArtifact metadata =>
    apply executed_attempting
    intro accepted haccepted
    rcases parseWith_eq_ok.mp haccepted with ⟨_, rfl⟩
    apply executed_transact hs
    . intro planned hplan
      exact planInteractionArtifact_performs (hs _) hplan
    . intro s' result hresult
      exact hresult
  | failNextPublicationIntent kind =>
    refine .returned .done (s.failNext kind) trivial ?_
    intro t
    exact Advances.refl (hs t) _

theorem AllConsistent.empty (platform : Platform) : AllConsistent platform Tenanted.empty :=
  fun tenantId => Consistent.empty platform tenantId

theorem tenant_eq_of_tenants_eq (h : s'.tenants = s.tenants) (tenantId : String)
    : s'.tenant tenantId = s.tenant tenantId := by
  unfold Tenanted.tenant
  rw [h]

theorem step_advances (hs : AllConsistent platform s) (command : Command)
    : AdvancesAll platform command.revokes s (step platform s command) := by
  have hexecuted := executed hs command
  unfold step
  cases hrun : execute platform command s with
  | error error s' =>
    rw [hrun] at hexecuted
    cases hexecuted with
    | thrown _ _ htenants =>
      intro tenantId
      dsimp only [after]
      rw [tenant_eq_of_tenants_eq htenants]
      exact Advances.refl (hs tenantId) _
  | ok response s' =>
    rw [hrun] at hexecuted
    cases hexecuted with
    | returned _ _ _ hadvances => exact hadvances

theorem allConsistent_step (hs : AllConsistent platform s) (command : Command)
    : AllConsistent platform (step platform s command) :=
  fun tenantId => (step_advances hs command tenantId).consistent

theorem allConsistent_of_later (hs : AllConsistent platform s) (h : Later (step platform) s s')
    : AllConsistent platform s' :=
  Later.preserves (P := AllConsistent platform) (fun _ command hbefore => allConsistent_step hbefore command)
    h hs

theorem extends_of_later (hs : AllConsistent platform s) (h : Later (step platform) s s')
    (tenantId : String)
    : Extends (s.tenant tenantId) (s'.tenant tenantId) := by
  have hall : ∀ tenantId, Extends (s.tenant tenantId) (s'.tenant tenantId) := by
    apply Later.relates (P := AllConsistent platform)
      (R := fun s s' => ∀ tenantId, Extends (s.tenant tenantId) (s'.tenant tenantId)) _ _ _ _ h hs
    . exact fun _ command hbefore => allConsistent_step hbefore command
    . exact fun s tenantId => Extends.refl (s.tenant tenantId)
    . exact fun hfirst hsecond tenantId => (hfirst tenantId).trans (hsecond tenantId)
    . exact fun _ command hbefore tenantId => (step_advances hbefore command tenantId).extends_
  exact hall tenantId

theorem contentOf_of_extends {state next : TenantState} (h : Consistent platform tenantId state)
    (hextends : Extends state next) {k : String} {version : RecordedInteractionFixtureVersion}
    (hversion : state.recordedFixtureVersions.lookup k = some version)
    {revocation : InteractionFixtureContentRevocation}
    (hrevocation : state.recordedContentRevocations.lookup k = some revocation)
    : contentOf next version = contentOf state version := by
  have hid : version.fixtureVersionId = k := h.recordings.keyed k version hversion
  have htombstones : (ownershipsOf version).filterMap (fun ownership =>
        next.artifactTombstones.lookup ownership.artifactId)
      = (ownershipsOf version).filterMap (fun ownership =>
          state.artifactTombstones.lookup ownership.artifactId) := by
    apply List.filterMap_congr
    intro ownership hownership
    rcases (h.contents.tombstoned k version revocation hversion hrevocation ownership
      hownership).metadata with ⟨tombstone, _, htombstone, _⟩
    rw [htombstone]
    exact hextends.tombstones _ _ htombstone
  unfold contentOf
  rw [hid, hrevocation, hextends.revocations _ _ hrevocation, htombstones]

theorem Stored.later (hs : AllConsistent platform s) (h : Later (step platform) s s') {command : Command}
    {response : Response} (hstored : Stored platform s command response)
    : Stored platform s' command response := by
  have hextends := extends_of_later hs h
  unfold Stored at hstored ⊢
  split at hstored
  . exact ⟨(hextends _).datasets _ _ hstored.1, hstored.2⟩
  . exact ⟨(hextends _).fixtures _ _ hstored.1, hstored.2⟩
  . exact ⟨(hextends _).recordings _ _ hstored.1, hstored.2⟩
  . rcases hstored with ⟨version, existing, hversion, hscope, hid, hexisting, hreason, hcontent⟩
    have hsame := contentOf_of_extends (hs _) (hextends _) hversion hexisting
    exact ⟨version, existing, (hextends _).recordings _ _ hversion, hscope, hid,
      (hextends _).revocations _ _ hexisting, hreason, hcontent.trans hsame.symm⟩
  . rcases hstored with ⟨row, hrow, hstate⟩
    rcases (hextends _).metadata _ row hrow with ⟨row', hrow', hstate'⟩
    refine ⟨row', hrow', ?_⟩
    rcases hstate' with rfl | hstate'
    . exact hstate
    . exact .inr hstate'
  . trivial
  . contradiction

end Datasets
end ProofStack
