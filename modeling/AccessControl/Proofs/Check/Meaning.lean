import AccessControl.Proofs.Engine.Answer
import AccessControl.Proofs.Policy.Order
import AccessControl.Proofs.Role.Expansion
/-!
# What it means that a check passes

An engine that has not found out anything yet passes a check for one of four reasons, and for no
others: the subject is an internal caller; the code, or everything, is granted to it directly; the
rule that is before all others that apply has the effect to allow; or no rule applies, and the roles
of the subject grant the code.
-/
namespace AccessControl

/-- A reason for which a check passes, given the roles, the policies of the tenant and the time. -/
inductive CheckContext.Justified (ctx : CheckContext) (roles : RoleSource)
    (definitions : List PolicyDefinition) (now : Timestamp) : Prop
  | system (h : ctx.request.subject.kind = .system)
  | direct (code : String) (hmem : code ∈ ctx.request.subject.directPermissions)
      (hcode : code = ctx.permission ∨ code = wildcard)
  | rule (p : PlacedRule) (hwins : p.Wins definitions ctx.permission ctx)
      (hallow : Effect.ofLabel? p.rule.effect = some .allow)
  | roles (hnone : ∀ p : PlacedRule, p.IsIn definitions → ¬p.Applies ctx.permission ctx)
      (hroles : roles.GrantsCode ctx.request.tenant.id ctx.request.subject now ctx.permission)

namespace CheckContext

variable {ctx : CheckContext} {definitions : List PolicyDefinition}
  {policies : List CompiledPolicy}

lemma isGrantedDirectly_iff :
    ctx.isGrantedDirectly = true ↔
      ∃ code ∈ ctx.request.subject.directPermissions, code = ctx.permission ∨ code = wildcard := by
  simp [isGrantedDirectly]

lemma outlook_fst_iff {effective : EffectivePermissions} :
    (ctx.outlook effective).1 = true ↔
      ∃ pattern ∈ effective.permissions, Covers pattern ctx.permission := by
  rw [← PermissionSet.grantFor_isSome_iff, outlook, EffectivePermissions.grantFor]
  cases effective.permissions.grantFor ctx.permission <;> simp

/-- With policies, a check passes if the first rule that applies allows it, or if none applies and
it would have passed without policies. -/
lemma judge_allowed_iff (h : PolicyDefinition.compileAll definitions = .ok policies)
    (outlook : Outlook) :
    ∃ result, (ctx.judge outlook policies).result = .ok result ∧
      (result.allowed = true ↔
        (∃ p : PlacedRule, p.Wins definitions ctx.permission ctx ∧
          Effect.ofLabel? p.rule.effect = some .allow) ∨
        (∀ p : PlacedRule, p.IsIn definitions → ¬p.Applies ctx.permission ctx) ∧
          outlook.1 = true) := by
  refine ⟨_, rfl, ?_⟩
  by_cases hsome : ∃ q : PlacedRule, q.IsIn definitions ∧ q.Applies ctx.permission ctx
  · obtain ⟨q, hq, happlies⟩ := hsome
    obtain ⟨p, hp⟩ := exists_wins hq happlies
    obtain ⟨effect, heffect, hdecision⟩ := evaluate_of_wins h hp
    simp only [hdecision, Effect.isAllow, decide_eq_true_eq]
    constructor
    · rintro rfl
      exact Or.inl ⟨p, hp, heffect⟩
    · rintro (⟨p', hp', hallow⟩ | ⟨hnone, -⟩)
      · -- Two rules cannot both be before the other.
        have hsame : p' = p := by
          rcases hp.first p' hp'.isIn hp'.applies with hsame | hbefore
          · exact hsame
          · rcases hp'.first p hp.isIn hp.applies with hsame | hbefore'
            · exact hsame.symm
            · exact absurd hbefore' hbefore.asymm
        rw [hsame, heffect] at hallow
        exact Option.some.inj hallow
      · exact absurd happlies (hnone q hq)
  · have hnone : ∀ p : PlacedRule, p.IsIn definitions → ¬p.Applies ctx.permission ctx :=
      fun p hp happlies => hsome ⟨p, hp, happlies⟩
    simp only [evaluate_of_forall_not h hnone, PolicyDecision.byDefault]
    constructor
    · intro houtlook
      exact Or.inr ⟨hnone, houtlook⟩
    · rintro (⟨p, hp, -⟩ | ⟨-, houtlook⟩)
      · exact absurd hp.applies (hnone p hp.isIn)
      · exact houtlook

end CheckContext

namespace Engine

variable {e : Engine} {ctx : CheckContext} {definitions : List PolicyDefinition}
  {policies : List CompiledPolicy}

lemma loader_spec (hroles : e.roles.IsReadable) (key : PermissionKey) :
    ∃ effective, e.loader key = .ok effective ∧
      ∀ pattern, pattern ∈ effective.permissions ↔
        (e.roles.directory key.tenantId).Grants key.subjectKind key.subjectId e.wallClock pattern :=
  hroles.readable.effectivePermissions key.tenantId key.subjectKind key.subjectId e.wallClock

lemma check_of_not_concrete {fault : AccessError}
    (h : Permission.parseConcrete ctx.permission = .error fault) :
    (e.check ctx).1 = .error fault := by
  rw [(check_spec e ctx).1, CheckContext.resultFrom, h]
  rfl

lemma check_of_concrete (he : e.KeepsNothing) (hroles : e.roles.IsReadable)
    (hread : e.definitionsOf ctx.request.tenant.id = .ok definitions)
    (hcompile : PolicyDefinition.compileAll definitions = .ok policies) {p : Permission}
    (h : Permission.parseConcrete ctx.permission = .ok p) :
    ∃ result, (e.check ctx).1 = .ok result ∧
      (result.allowed = true ↔ ctx.Justified e.roles definitions e.wallClock) := by
  have hpolicies : e.policiesOf ctx.request.tenant.id = .ok policies := by
    rw [he.policiesOf, hread, Except.bind, hcompile]
  obtain ⟨effective, hload, hmem⟩ := loader_spec hroles ctx.permissionKey
  rw [(check_spec e ctx).1, he.permissionsOf, hload, hpolicies, CheckContext.resultFrom, h]
  simp only [bind, Except.bind]
  have hkind : ctx.request.subject.isSystem = true ↔ ctx.request.subject.kind = .system := by
    rw [Subject.isSystem, decide_eq_true_eq]
  by_cases hsystem : ctx.request.subject.isSystem = true
  · rw [if_pos hsystem]
    exact ⟨_, rfl, iff_of_true rfl (.system (hkind.1 hsystem))⟩
  rw [if_neg hsystem]
  by_cases hdirect : ctx.isGrantedDirectly = true
  · rw [if_pos hdirect]
    obtain ⟨code, hcode, hgrants⟩ := CheckContext.isGrantedDirectly_iff.1 hdirect
    exact ⟨_, rfl, iff_of_true rfl (.direct code hcode hgrants)⟩
  rw [if_neg hdirect]
  obtain ⟨result, hresult, hallowed⟩ := CheckContext.judge_allowed_iff hcompile
    (ctx.outlook effective)
  have hgrants : (ctx.outlook effective).1 = true ↔
      e.roles.GrantsCode ctx.request.tenant.id ctx.request.subject e.wallClock ctx.permission := by
    rw [CheckContext.outlook_fst_iff, RoleSource.grantsCode_iff hroles]
    exact exists_congr fun pattern => and_congr_left fun _ => hmem pattern
  rw [hgrants] at hallowed
  refine ⟨result, hresult, hallowed.trans ⟨?_, ?_⟩⟩
  · rintro (⟨p, hwins, hallow⟩ | ⟨hnone, hroles⟩)
    · exact .rule p hwins hallow
    · exact .roles hnone hroles
  · rintro (hinternal | ⟨code, hcode, hgrants⟩ | ⟨p, hwins, hallow⟩ | ⟨hnone, hroles⟩)
    · exact absurd (hkind.2 hinternal) hsystem
    · exact absurd (CheckContext.isGrantedDirectly_iff.2 ⟨code, hcode, hgrants⟩) hdirect
    · exact Or.inl ⟨p, hwins, hallow⟩
    · exact Or.inr ⟨hnone, hroles⟩

/-- An engine that keeps nothing, and whose stores can be read, rejects a check as invalid exactly
when its resource or its action is no segment. It answers all others, and passes exactly those for
which there is a reason. -/
theorem check_allowed_iff_justified (ctx : CheckContext) (he : e.KeepsNothing)
    (hroles : e.roles.IsReadable)
    (hread : e.definitionsOf ctx.request.tenant.id = .ok definitions)
    (hcompile : PolicyDefinition.compileAll definitions = .ok policies) :
    ((∃ reason, (e.check ctx).1 = .error (.invalidCode ctx.permission reason)) ↔
        ¬(IsSegment ctx.resource ∧ IsSegment ctx.action)) ∧
      (IsSegment ctx.resource → IsSegment ctx.action →
        ∃ result, (e.check ctx).1 = .ok result ∧
          (result.allowed = true ↔ ctx.Justified e.roles definitions e.wallClock)) := by
  constructor
  · rw [← Permission.parseConcrete_encode_iff]
    constructor
    · rintro ⟨reason, herror⟩ ⟨p, hp⟩
      obtain ⟨result, hresult, -⟩ := check_of_concrete he hroles hread hcompile hp
      rw [hresult] at herror
      cases herror
    · intro hnot
      cases hparse : Permission.parseConcrete ctx.permission with
      | ok p => exact absurd ⟨p, hparse⟩ hnot
      | error fault =>
        obtain ⟨reason, rfl⟩ := Permission.parseConcrete_eq_error hparse
        exact ⟨reason, check_of_not_concrete hparse⟩
  · intro hresource haction
    obtain ⟨p, hp⟩ := Permission.parseConcrete_encode_iff.2 ⟨hresource, haction⟩
    exact check_of_concrete he hroles hread hcompile hp

/-! An engine with two roles that inherit from each other, of which only the second grants anything.
A user has the first. What is denied to everyone is only what is done to one thing. -/

def noon : Timestamp := ⟨2024, 1, 1, 43200, 0, 0⟩

def mutualRole (id parent : String) (permissions : List String) : Role where
  id := id
  tenantId := "t"
  name := id
  kind := .custom
  status := .active
  permissions := permissions
  inherits := [parent]
  createdAt := noon
  updatedAt := noon

def mutualRoles : FixedRoles where
  roles := [mutualRole "a" "b" [], mutualRole "b" "a" ["order:*"]]
  bindings := [⟨"x", "t", "a", .user, "u", none, noon⟩]

def guardedPolicy : PolicyDefinition where
  id := "p"
  rules := [{ permissions := ["*"], effect := "deny", conditions := [.resourceIdPresent] }]

def mutualEngine : Engine where
  settings := {}
  service := .new ⟨1, Nat.one_pos⟩ 0 true
  roles := .fixed mutualRoles
  policies := some { tenants := PerTenant.set {} "t" [guardedPolicy] }
  hierarchy := none
  wallClock := noon

def readOrders : CheckContext where
  request := { tenant := { id := "t" }, subject := { id := "u", kind := .user } }
  resource := "order"
  action := "read"

theorem check_allowed_through_mutual_roles :
    mutualEngine.KeepsNothing ∧ mutualEngine.roles.IsReadable ∧
      mutualEngine.definitionsOf "t" = .ok [guardedPolicy] ∧
      (∃ policies, PolicyDefinition.compileAll [guardedPolicy] = .ok policies) ∧
      ∃ result, (mutualEngine.check readOrders).1 = .ok result ∧ result.allowed = true := by
  have hkeeps : mutualEngine.KeepsNothing := by
    refine ⟨rfl, ?_, fun _ => rfl⟩
    intro table htable tenant
    cases htable
    rfl
  have hreadable : mutualEngine.roles.IsReadable := ⟨rfl, rfl⟩
  have hcompile : ∃ policies, PolicyDefinition.compileAll [guardedPolicy] = .ok policies :=
    ⟨_, rfl⟩
  have hresource : IsSegment "order" := isSegment_iff.1 (by decide)
  have haction : IsSegment "read" := isSegment_iff.1 (by decide)
  have hnone : ∀ p : PlacedRule, p.IsIn [guardedPolicy] → ¬p.Applies "order:read" readOrders := by
    rintro ⟨policy, place, rule, index⟩ ⟨hpolicy, hrule⟩ ⟨-, hconditions⟩
    obtain rfl := List.mem_singleton.1 (List.mem_of_getElem? hpolicy)
    obtain rfl := List.mem_singleton.1 (List.mem_of_getElem? hrule)
    cases hconditions .resourceIdPresent List.mem_cons_self
  have hgrants : mutualEngine.roles.GrantsCode "t" readOrders.request.subject noon
      "order:read" := by
    have hbound : mutualEngine.roles.HasBinding "t" ⟨"x", "t", "a", .user, "u", none, noon⟩ :=
      ⟨List.mem_cons_self, rfl⟩
    have hparent : (mutualEngine.roles.directory "t").ActiveParent "a" "b" :=
      ⟨mutualRole "a" "b" [], by decide, rfl, List.mem_cons_self⟩
    have hholds : (mutualEngine.roles.directory "t").Holds "b" "order:*" :=
      ⟨mutualRole "b" "a" ["order:*"], by decide, rfl, List.mem_cons_self⟩
    have hcovers : Covers "order:*" "order:read" :=
      ⟨⟨"order", "read"⟩, by decide, hresource, haction, by decide⟩
    exact ⟨_, hbound, rfl, rfl, by simp [Binding.IsCurrent], "b",
      Relation.ReflTransGen.single hparent, "order:*", hholds, hcovers⟩
  obtain ⟨policies, hpolicies⟩ := hcompile
  obtain ⟨-, hanswer⟩ := check_allowed_iff_justified readOrders hkeeps hreadable rfl hpolicies
  obtain ⟨result, hresult, hallowed⟩ := hanswer hresource haction
  exact ⟨hkeeps, hreadable, rfl, ⟨policies, hpolicies⟩, result, hresult,
    hallowed.2 (.roles hnone hgrants)⟩

end Engine

end AccessControl
