import AccessControl.Proofs.Policy.Order
/-!
# The first rule that applies decides

Definitions that compile are decided by the first rule that applies, in the declared order: by the
scores of policies and then their places, and within a policy by the scores of rules and then their
places. Where scores differ the places do not matter. Policies whose scores all differ compile to
the same list in whatever order they are given. Rules of a policy whose scores all differ are asked
in the same order in whatever order they are written, and only the positions that decisions tell are
other ones.
-/
namespace AccessControl

variable {definitions definitions' : List PolicyDefinition} {policies : List CompiledPolicy}

/-! ### What compiles -/

/-- The rule is about something, all of it codes and patterns, and its effect is a known one. -/
structure PolicyRule.IsWellFormed (rule : PolicyRule) : Prop where
  permissions : rule.permissions ≠ []
  effect : ∃ effect, Effect.ofLabel? rule.effect = some effect
  patterns : checkPatterns rule.permissions = .ok ()

/-- The policy has an id that is not blank, and rules, which are all well-formed. -/
structure PolicyDefinition.IsWellFormed (d : PolicyDefinition) : Prop where
  id : d.trimmedId ≠ ""
  rules : d.rules ≠ []
  each : ∀ rule ∈ d.rules, rule.IsWellFormed

lemma PolicyRule.exists_compile_iff {rule : PolicyRule} (index : Nat) :
    (∃ c, rule.compile index = .ok c) ↔ rule.IsWellFormed := by
  unfold compile
  constructor
  · rintro ⟨c, h⟩
    split at h
    · cases h
    rename_i hpermissions
    cases heffect : Effect.ofLabel? rule.effect with
    | none => simp [heffect] at h
    | some effect =>
      cases hpatterns : checkPatterns rule.permissions with
      | error e => simp [heffect, hpatterns] at h
      | ok _ => exact ⟨by simpa using hpermissions, ⟨effect, heffect⟩, hpatterns⟩
  · rintro ⟨hpermissions, ⟨effect, heffect⟩, hpatterns⟩
    rw [if_neg (by simpa using hpermissions), heffect, hpatterns]
    exact ⟨_, rfl⟩

lemma PolicyRule.exists_compileFrom_iff {rules : List PolicyRule} (index : Nat) :
    (∃ cs, compileFrom index rules = .ok cs) ↔ ∀ rule ∈ rules, rule.IsWellFormed := by
  induction rules generalizing index with
  | nil => exact iff_of_true ⟨[], rfl⟩ (by simp)
  | cons rule rules ih =>
    rw [List.forall_mem_cons, ← ih (index + 1), ← exists_compile_iff index]
    constructor
    · rintro ⟨cs, h⟩
      obtain ⟨c, hc, h⟩ := bind_eq_ok_iff.1 h
      obtain ⟨rest, hrest, -⟩ := bind_eq_ok_iff.1 h
      exact ⟨⟨c, hc⟩, rest, hrest⟩
    · rintro ⟨⟨c, hc⟩, rest, hrest⟩
      exact ⟨c :: rest, bind_eq_ok_iff.2 ⟨c, hc, bind_eq_ok_iff.2 ⟨rest, hrest, rfl⟩⟩⟩

namespace PolicyDefinition

lemma exists_compile_iff {d : PolicyDefinition} : (∃ c, d.compile = .ok c) ↔ d.IsWellFormed := by
  unfold compile compileRules
  constructor
  · rintro ⟨c, h⟩
    split at h
    · cases h
    rename_i rules hcompiled
    split at hcompiled
    · cases hcompiled
    rename_i hid
    split at hcompiled
    · cases hcompiled
    rename_i hrules
    refine ⟨hid, by simpa using hrules, (PolicyRule.exists_compileFrom_iff 0).1 ?_⟩
    cases hfrom : PolicyRule.compileFrom 0 d.rules with
    | error fault => simp [hfrom, Except.map] at hcompiled
    | ok cs => exact ⟨cs, rfl⟩
  · rintro ⟨hid, hrules, heach⟩
    obtain ⟨cs, hcs⟩ := (PolicyRule.exists_compileFrom_iff 0).2 heach
    rw [if_neg hid, if_neg (by simpa using hrules), hcs]
    exact ⟨_, rfl⟩

lemma exists_compileAll_iff :
    (∃ policies, compileAll definitions = .ok policies) ↔ ∀ d ∈ definitions, d.IsWellFormed := by
  unfold compileAll
  constructor
  · rintro ⟨policies, h⟩ d hd
    cases hall : definitions.mapM compile with
    | error e => simp [hall, Except.map] at h
    | ok cs => exact exists_compile_iff.1 (exists_of_mapM_eq_ok hall hd)
  · intro hall
    have hcompiled : ∀ d ∈ definitions, d.compile = .ok d.compiled := by
      intro d hd
      obtain ⟨c, hc⟩ := exists_compile_iff.2 (hall d hd)
      rw [hc, (compile_eq_ok hc).1]
    rw [mapM_eq_ok_map hcompiled]
    exact ⟨_, rfl⟩

/-! ### Policies in another order -/

/-- Policies whose scores all differ compile to one list, in whatever order they are given. -/
lemma compileAll_of_perm (h : compileAll definitions = .ok policies)
    (hperm : definitions'.Perm definitions)
    (hne : definitions.Pairwise fun d e => d.score ≠ e.score) :
    compileAll definitions' = .ok policies := by
  have hall := exists_compileAll_iff.1 ⟨policies, h⟩
  obtain ⟨policies', h'⟩ := exists_compileAll_iff.2 fun d hd => hall d (hperm.mem_iff.1 hd)
  have hsorted : ∀ ds : List PolicyDefinition, (byScore score ds).map (fun d => d.1.compiled) =
      ((byScore score ds).map Prod.fst).map compiled := by
    intro ds
    rw [List.map_map]
    rfl
  rw [h', (compileAll_eq_ok h').1, (compileAll_eq_ok h).1, hsorted, hsorted,
    byScore_map_fst_of_perm score hperm hne]

/-! ### Rules in another order -/

/-- The second policy is the first with its rules, whose scores all differ, in another order; or the
two are the same. -/
inductive Reorders (d : PolicyDefinition) : PolicyDefinition → Prop
  | same : Reorders d d
  | rules {rules : List PolicyRule} (hperm : rules.Perm d.rules)
      (hne : d.rules.Pairwise fun r s => r.score ≠ s.score) : Reorders d { d with rules }

/-- The rules of a policy in the order in which they are asked, each with the id of the policy. -/
def asked (d : PolicyDefinition) : List (String × PolicyRule) :=
  (byScore PolicyRule.score d.rules).map fun r => (d.trimmedId, r.1)

variable {d d' : PolicyDefinition}

lemma Reorders.score (h : d.Reorders d') : d'.score = d.score := by
  cases h <;> rfl

lemma Reorders.isWellFormed (h : d.Reorders d') (hd : d.IsWellFormed) : d'.IsWellFormed := by
  cases h with
  | same => exact hd
  | rules hperm hne =>
    refine ⟨hd.id, fun hnil => hd.rules ?_, fun rule hrule => hd.each rule (hperm.mem_iff.1 hrule)⟩
    subst hnil
    exact List.nil_perm.1 hperm

lemma Reorders.asked (h : d.Reorders d') : d'.asked = d.asked := by
  cases h with
  | same => rfl
  | @rules rules hperm hne =>
    have hsorted : ∀ e : PolicyDefinition, e.asked =
        ((byScore PolicyRule.score e.rules).map Prod.fst).map fun r => (e.trimmedId, r) := by
      intro e
      rw [List.map_map]
      rfl
    rw [hsorted, hsorted, byScore_map_fst_of_perm PolicyRule.score hperm hne]
    rfl

end PolicyDefinition

/-- All rules of some definitions in the order in which they are asked, each with the id of its
policy, and without the places. -/
def rulesAsked (definitions : List PolicyDefinition) : List (String × PolicyRule) :=
  (placedRules definitions).map fun p => (p.policy.trimmedId, p.rule)

lemma rulesAsked_eq_flatMap (definitions : List PolicyDefinition) :
    rulesAsked definitions =
      ((byScore PolicyDefinition.score definitions).map Prod.fst).flatMap
        PolicyDefinition.asked := by
  rw [rulesAsked, placedRules, List.map_flatMap, List.flatMap_map]
  simp only [List.map_map]
  rfl

lemma rulesAsked_of_reorders (h : List.Forall₂ PolicyDefinition.Reorders definitions definitions') :
    rulesAsked definitions' = rulesAsked definitions := by
  have hsorted := forall₂_byScore PolicyDefinition.score
    (fun d d' (hd : d.Reorders d') => hd.score.symm) h
  have hasked : ∀ ds ds', List.Forall₂ PolicyDefinition.Reorders ds ds' →
      ds'.flatMap PolicyDefinition.asked = ds.flatMap PolicyDefinition.asked := by
    intro ds ds' hds
    induction hds with
    | nil => rfl
    | cons hd _ ih => rw [List.flatMap_cons, List.flatMap_cons, hd.asked, ih]
  rw [rulesAsked_eq_flatMap, rulesAsked_eq_flatMap, hasked _ _ hsorted]

lemma exists_compileAll_of_reorders (h : PolicyDefinition.compileAll definitions = .ok policies)
    (hreorders : List.Forall₂ PolicyDefinition.Reorders definitions definitions') :
    ∃ policies', PolicyDefinition.compileAll definitions' = .ok policies' := by
  have hwell := PolicyDefinition.exists_compileAll_iff.1 ⟨policies, h⟩
  refine PolicyDefinition.exists_compileAll_iff.2 ?_
  clear h
  induction hreorders with
  | nil => simp
  | cons hd _ ih =>
    obtain ⟨hfirst, hrest⟩ := List.forall_mem_cons.1 hwell
    exact List.forall_mem_cons.2 ⟨hd.isWellFormed hfirst, ih hrest⟩

/-- What is decided, and by which policy, depends on the rules in the order in which they are asked,
and not on their places. -/
lemma evaluate_eq_of_asked (h : PolicyDefinition.compileAll definitions = .ok policies)
    (code : String) (ctx : CheckContext) :
    ((evaluate code ctx policies).decision.effect,
        (evaluate code ctx policies).decision.decidedBy.map Prod.fst) =
      match (rulesAsked definitions).find? fun r => decides code ctx (r.1, r.2.compiledAt 0) with
      | some (policy, rule) => ((rule.compiledAt 0).effect, some policy)
      | none => (.deny, none) := by
  rw [evaluate, scan_decision, rulesInOrder_compileAll h, List.find?_map, rulesAsked,
    List.find?_map]
  have hplaces : ((fun r => decides code ctx (r.1, r.2.compiledAt 0)) ∘
      fun p : PlacedRule => (p.policy.trimmedId, p.rule)) =
        decides code ctx ∘ PlacedRule.compiled := rfl
  rw [hplaces]
  cases (placedRules definitions).find? (decides code ctx ∘ PlacedRule.compiled) <;> rfl

/-- Policies that compile are decided by the first rule that applies, in the declared order: its
effect, the id of its policy and its position are told. The answer is the default one exactly when
no rule applies. Policies whose scores all differ may be given in any order, and so may the rules of
a policy whose scores all differ, without a change of effect or policy. -/
theorem evaluate_decides_by_first
    (hcompile : PolicyDefinition.compileAll definitions = .ok policies)
    (code : String) (ctx : CheckContext) :
    (∀ q : PlacedRule, q.IsIn definitions → q.Applies code ctx →
        ∃ (p : PlacedRule) (effect : Effect), p.Wins definitions code ctx ∧
          Effect.ofLabel? p.rule.effect = some effect ∧
          (evaluate code ctx policies).decision =
            ⟨effect, some (p.policy.trimmedId, p.index)⟩) ∧
      ((evaluate code ctx policies).decision = .byDefault ↔
        ∀ q : PlacedRule, q.IsIn definitions → ¬q.Applies code ctx) ∧
      (∀ definitions' : List PolicyDefinition, definitions'.Perm definitions →
        (definitions.Pairwise fun d e => d.score ≠ e.score) →
          ∃ policies', PolicyDefinition.compileAll definitions' = .ok policies' ∧
            (evaluate code ctx policies').decision = (evaluate code ctx policies).decision) ∧
      ∀ definitions' : List PolicyDefinition,
        List.Forall₂ PolicyDefinition.Reorders definitions definitions' →
          ∃ policies', PolicyDefinition.compileAll definitions' = .ok policies' ∧
            (evaluate code ctx policies').decision.effect =
              (evaluate code ctx policies).decision.effect ∧
            (evaluate code ctx policies').decision.decidedBy.map Prod.fst =
              (evaluate code ctx policies).decision.decidedBy.map Prod.fst := by
  have hdecided : ∀ q : PlacedRule, q.IsIn definitions → q.Applies code ctx →
      ∃ (p : PlacedRule) (effect : Effect), p.Wins definitions code ctx ∧
        Effect.ofLabel? p.rule.effect = some effect ∧
        (evaluate code ctx policies).decision = ⟨effect, some (p.policy.trimmedId, p.index)⟩ := by
    intro q hq happlies
    obtain ⟨p, hp⟩ := exists_wins hq happlies
    obtain ⟨effect, heffect, hdecision⟩ := evaluate_of_wins hcompile hp
    exact ⟨p, effect, hp, heffect, hdecision⟩
  refine ⟨hdecided, ⟨?_, evaluate_of_forall_not hcompile⟩, ?_, ?_⟩
  · intro hdefault q hq happlies
    obtain ⟨p, effect, -, -, hdecision⟩ := hdecided q hq happlies
    rw [hdefault] at hdecision
    cases hdecision
  · intro definitions' hperm hne
    exact ⟨policies, PolicyDefinition.compileAll_of_perm hcompile hperm hne, rfl⟩
  · intro definitions' hreorders
    obtain ⟨policies', hcompile'⟩ := exists_compileAll_of_reorders hcompile hreorders
    have hsame := evaluate_eq_of_asked hcompile' code ctx
    rw [rulesAsked_of_reorders hreorders, ← evaluate_eq_of_asked hcompile code ctx] at hsame
    obtain ⟨heffect, hpolicy⟩ := Prod.mk.inj hsame
    exact ⟨policies', hcompile', heffect, hpolicy⟩

/-! Two policies with different scores. Of the rules of the one that is asked last, the first one
covers a code, but its condition does not hold. -/

def ordersRule : PolicyRule where
  permissions := ["order:*"]
  effect := "allow"
  priority := some "low"

def singleOrderRule : PolicyRule where
  permissions := ["order:read"]
  effect := "deny"
  conditions := [.resourceIdPresent]
  priority := some "high"

def ordersPolicy : PolicyDefinition where
  id := " orders "
  rules := [ordersRule, singleOrderRule]

def reportsPolicy : PolicyDefinition where
  id := "reports"
  priority := some "critical"
  rules := [{ permissions := ["report:*"], effect := "deny" }]

def readAnyOrder : CheckContext where
  request := { tenant := { id := "t" }, subject := { id := "u", kind := .user } }
  resource := "order"
  action := "read"

lemma applies_readAnyOrder_iff {p : PlacedRule} (hp : p.IsIn [ordersPolicy, reportsPolicy]) :
    p.Applies "order:read" readAnyOrder ↔ p = ⟨ordersPolicy, 0, ordersRule, 0⟩ := by
  rw [← decides_compiled_iff]
  obtain ⟨policy, place, rule, index⟩ := p
  obtain ⟨hpolicy, hrule⟩ := hp
  rcases place with _ | _ | place
  · cases hpolicy
    rcases index with _ | _ | index
    · cases hrule
      exact iff_of_true (by decide) rfl
    · cases hrule
      exact iff_of_false (by decide) (by simp)
    · cases hrule
  · cases hpolicy
    rcases index with _ | index
    · cases hrule
      exact iff_of_false (by decide) (by simp)
    · cases hrule
  · cases hpolicy

theorem evaluate_past_failed_condition :
    ∃ policies reversed rewritten,
      PolicyDefinition.compileAll [ordersPolicy, reportsPolicy] = .ok policies ∧
      (evaluate "order:read" readAnyOrder policies).decision = ⟨.allow, some ("orders", 0)⟩ ∧
      PolicyDefinition.compileAll [reportsPolicy, ordersPolicy] = .ok reversed ∧
      (evaluate "order:read" readAnyOrder reversed).decision = ⟨.allow, some ("orders", 0)⟩ ∧
      PolicyDefinition.compileAll
          [{ ordersPolicy with rules := [singleOrderRule, ordersRule] }, reportsPolicy] =
        .ok rewritten ∧
      (evaluate "order:read" readAnyOrder rewritten).decision.effect = .allow := by
  obtain ⟨policies, hcompile⟩ : ∃ policies,
      PolicyDefinition.compileAll [ordersPolicy, reportsPolicy] = .ok policies := ⟨_, rfl⟩
  obtain ⟨hdecided, -, hpolicies, hrules⟩ :=
    evaluate_decides_by_first hcompile "order:read" readAnyOrder
  have hplaced : PlacedRule.IsIn ⟨ordersPolicy, 0, ordersRule, 0⟩ [ordersPolicy, reportsPolicy] :=
    ⟨rfl, rfl⟩
  obtain ⟨p, effect, hwins, heffect, hdecision⟩ :=
    hdecided _ hplaced ((applies_readAnyOrder_iff hplaced).2 rfl)
  obtain rfl := (applies_readAnyOrder_iff hwins.isIn).1 hwins.applies
  cases heffect
  obtain ⟨reversed, hreversed, hsame⟩ := hpolicies [reportsPolicy, ordersPolicy]
    (List.Perm.swap _ _ _) (List.pairwise_pair.2 (by decide))
  obtain ⟨rewritten, hrewritten, hallow, -⟩ := hrules
    [{ ordersPolicy with rules := [singleOrderRule, ordersRule] }, reportsPolicy]
    (.cons (.rules (List.Perm.swap _ _ _) (List.pairwise_pair.2 (by decide))) (.cons .same .nil))
  exact ⟨policies, reversed, rewritten, hcompile, hdecision, hreversed, hsame.trans hdecision,
    hrewritten, by rw [hallow, hdecision]⟩

end AccessControl
