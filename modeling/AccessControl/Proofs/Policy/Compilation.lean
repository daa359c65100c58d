import AccessControl.Proofs.Permission.Grammar
import AccessControl.Proofs.Policy.FirstMatch
import Mathlib.Data.List.Forall2
import Mathlib.Data.List.Permutation
import Mathlib.Order.Bounds.Defs
/-!
# What compiles, and to what

A definition compiles when it has an id that is not blank and rules, and every rule is well-formed.
If it does not, the error tells what is wrong with it as a whole, or with the first rule that is not
well-formed, at the position of this rule. A definition that compiles keeps all its rules, each with
its position, and only puts them into another order: by descending score, and by their positions
where scores are equal. Several definitions compile when each of them does, else the error is that
of the first that does not; and policies are ordered among each other as rules are within a policy.
-/
namespace AccessControl

/-! ### Rules -/

namespace PolicyRule

variable {rule : PolicyRule} {rules : List PolicyRule} {index : Nat} {fault : PolicyFault}

lemma exists_ofLabel?_iff {label : String} :
    (∃ effect, Effect.ofLabel? label = some effect) ↔ label = "allow" ∨ label = "deny" := by
  unfold Effect.ofLabel?
  split
  · simp [*]
  · split <;> simp [*]

lemma label_of_ofLabel? {label : String} {effect : Effect}
    (h : Effect.ofLabel? label = some effect) : effect.label = label := by
  unfold Effect.ofLabel? at h
  split at h
  · cases h
    exact Eq.symm ‹label = "allow"›
  · split at h
    · cases h
      exact Eq.symm ‹label = "deny"›
    · cases h

lemma isWellFormed_iff :
    rule.IsWellFormed ↔ rule.permissions ≠ [] ∧ (rule.effect = "allow" ∨ rule.effect = "deny") ∧
      ∀ p ∈ rule.permissions, checkPattern p = .ok () := by
  rw [← exists_ofLabel?_iff, ← checkPatterns_eq_ok_iff]
  exact ⟨fun h => ⟨h.permissions, h.effect, h.patterns⟩, fun ⟨hp, he, hc⟩ => ⟨hp, he, hc⟩⟩

/-- What is wrong with a rule at a position. The permissions are looked at only when there are some
and the effect is known, and then up to the first that is no code or pattern. -/
inductive HasFault (rule : PolicyRule) (index : Nat) : PolicyFault → Prop
  | noPermissions (hnone : rule.permissions = []) : HasFault rule index (.noPermissions index)
  | unknownEffect (hsome : rule.permissions ≠ [])
      (heffect : ¬(rule.effect = "allow" ∨ rule.effect = "deny")) :
    HasFault rule index (.unknownEffect index rule.effect)
  | badPattern {before pattern after e} (heffect : rule.effect = "allow" ∨ rule.effect = "deny")
      (hpermissions : rule.permissions = before ++ pattern :: after)
      (hbefore : ∀ p ∈ before, checkPattern p = .ok ())
      (hpattern : checkPattern pattern = .error e) :
    HasFault rule index (.badPattern index e)

lemma HasFault.rule?_eq (h : rule.HasFault index fault) : fault.rule? = some index := by
  cases h <;> rfl

lemma HasFault.not_isWellFormed (h : rule.HasFault index fault) : ¬rule.IsWellFormed := by
  rw [isWellFormed_iff]
  rintro ⟨hsome, heffect, hpatterns⟩
  cases h with
  | noPermissions hnone => exact hsome hnone
  | unknownEffect _ hunknown => exact hunknown heffect
  | @badPattern before pattern after e _ hpermissions _ hpattern =>
    have hvalid := hpatterns pattern (by simp [hpermissions])
    rw [hpattern] at hvalid
    cases hvalid

lemma HasFault.compile_eq (h : rule.HasFault index fault) : rule.compile index = .error fault := by
  unfold compile
  cases h with
  | noPermissions hnone => rw [if_pos (by simp [hnone])]
  | unknownEffect hsome heffect =>
    have hlabel : Effect.ofLabel? rule.effect = none :=
      Option.eq_none_iff_forall_ne_some.2 fun effect h =>
        heffect (exists_ofLabel?_iff.1 ⟨effect, h⟩)
    rw [if_neg (by simpa using hsome), hlabel]
  | @badPattern before pattern after e heffect hpermissions hbefore hpattern =>
    obtain ⟨effect, hlabel⟩ := exists_ofLabel?_iff.2 heffect
    have herror : checkPatterns rule.permissions = .error e :=
      checkPatterns_eq_error_iff.2 ⟨before, pattern, after, hpermissions, hbefore, hpattern⟩
    rw [if_neg (by simp [hpermissions]), hlabel, herror]

lemma hasFault_of_compile (h : rule.compile index = .error fault) : rule.HasFault index fault := by
  unfold compile at h
  split at h
  · rename_i hnone
    cases h
    exact .noPermissions (by simpa using hnone)
  · rename_i hsome
    cases hlabel : Effect.ofLabel? rule.effect with
    | none =>
      simp only [hlabel, Except.error.injEq] at h
      subst h
      refine .unknownEffect (by simpa using hsome) fun heffect => ?_
      obtain ⟨effect, hknown⟩ := exists_ofLabel?_iff.2 heffect
      cases hlabel.symm.trans hknown
    | some effect =>
      cases herror : checkPatterns rule.permissions with
      | ok _ => simp [hlabel, herror] at h
      | error e =>
        simp only [hlabel, herror, Except.error.injEq] at h
        subst h
        obtain ⟨before, pattern, after, hpermissions, hbefore, hpattern⟩ :=
          checkPatterns_eq_error_iff.1 herror
        exact .badPattern (exists_ofLabel?_iff.1 ⟨effect, hlabel⟩) hpermissions hbefore hpattern

lemma compile_eq_error_iff : rule.compile index = .error fault ↔ rule.HasFault index fault :=
  ⟨hasFault_of_compile, HasFault.compile_eq⟩

lemma compileFrom_eq_mapM (index : Nat) (rules : List PolicyRule) :
    compileFrom index rules = (rules.zipIdx index).mapM fun r => r.1.compile r.2 := by
  induction rules generalizing index with
  | nil => rfl
  | cons rule rules ih => rw [compileFrom, List.zipIdx_cons, List.mapM_cons, ih]

/-- The error in some rules is that of the first that is not well-formed. -/
lemma compileFrom_eq_error_iff :
    compileFrom index rules = .error fault ↔
      ∃ before rule after, rules = before ++ rule :: after ∧ (∀ r ∈ before, r.IsWellFormed) ∧
        rule.HasFault (index + before.length) fault := by
  rw [compileFrom_eq_mapM, mapM_eq_error_iff]
  simp only [exists_compile_iff, compile_eq_error_iff]
  constructor
  · rintro ⟨front, placed, back, hzip, hfront, hfault⟩
    obtain ⟨before, rest, rfl, rfl, hrest⟩ := List.zipIdx_eq_append_iff.1 hzip
    obtain ⟨rule, after, rfl, rfl, -⟩ := List.zipIdx_eq_cons_iff.1 hrest.symm
    refine ⟨before, rule, after, rfl, fun r hr => ?_, hfault⟩
    rw [← List.zipIdx_map_fst index before] at hr
    obtain ⟨placed, hplaced, rfl⟩ := List.mem_map.1 hr
    exact hfront placed hplaced
  · rintro ⟨before, rule, after, rfl, hbefore, hfault⟩
    refine ⟨before.zipIdx index, (rule, index + before.length),
      after.zipIdx (index + before.length + 1), ?_, fun placed hplaced => ?_, hfault⟩
    · rw [List.zipIdx_append, List.zipIdx_cons]
    · exact hbefore placed.1 (List.fst_mem_of_mem_zipIdx hplaced)

/-- The compiled rule is the rule at this position of its policy, with nothing changed or lost. -/
structure IsKeptBy (rule : PolicyRule) (index : Nat) (c : CompiledRule) : Prop where
  index : c.index = index
  permissions : ∀ p, p ∈ c.permissions ↔ p ∈ rule.permissions
  effect : c.effect.label = rule.effect
  conditions : c.conditions = rule.conditions
  priority : c.priority = .ofLabel rule.priority
  description : c.description = rule.description

lemma IsWellFormed.isKeptBy_compiledAt (h : rule.IsWellFormed) (index : Nat) :
    rule.IsKeptBy index (rule.compiledAt index) where
  index := rfl
  permissions _ := PermissionSet.mem_ofList
  effect := by
    obtain ⟨effect, heffect⟩ := h.effect
    rw [compiledAt, heffect]
    exact label_of_ofLabel? heffect
  conditions := rfl
  priority := rfl
  description := rfl

end PolicyRule

/-! ### Policies -/

namespace PolicyDefinition

variable {d : PolicyDefinition} {fault : PolicyFault} {definitions : List PolicyDefinition}

/-- What is wrong with a policy: with its id, else with the list of its rules, else with the first
rule that is not well-formed. -/
inductive HasFault (d : PolicyDefinition) : PolicyFault → Prop
  | blankId (hid : d.trimmedId = "") : HasFault d .blankId
  | noRules (hid : d.trimmedId ≠ "") (hrules : d.rules = []) : HasFault d .noRules
  | inRule {before rule after fault} (hid : d.trimmedId ≠ "")
      (hrules : d.rules = before ++ rule :: after) (hbefore : ∀ r ∈ before, r.IsWellFormed)
      (hrule : rule.HasFault before.length fault) : HasFault d fault

lemma trimmedId_eq_empty_iff : d.trimmedId = "" ↔ Text.isBlankText d.id = true :=
  Text.trim_eq_empty_iff

/-- The positions of the rules that are not well-formed. -/
def faultyRules (d : PolicyDefinition) : Set Nat :=
  { index | ∃ rule, d.rules[index]? = some rule ∧ ¬rule.IsWellFormed }

lemma compileRules_eq_error_iff : d.compileRules = .error fault ↔ d.HasFault fault := by
  unfold compileRules
  constructor
  · intro h
    split at h
    · cases h
      exact .blankId ‹_›
    rename_i hid
    split at h
    · cases h
      exact .noRules hid (by simpa using ‹d.rules.isEmpty = true›)
    obtain ⟨before, rule, after, hrules, hbefore, hrule⟩ :=
      PolicyRule.compileFrom_eq_error_iff.1 (map_eq_error_iff.1 h)
    rw [Nat.zero_add] at hrule
    exact .inRule hid hrules hbefore hrule
  · intro h
    cases h with
    | blankId hid => rw [if_pos hid]
    | noRules hid hrules => rw [if_neg hid, if_pos (by simp [hrules])]
    | @inRule before rule after _ hid hrules hbefore hrule =>
      rw [if_neg hid, if_neg (by simp [hrules]), map_eq_error_iff,
        PolicyRule.compileFrom_eq_error_iff]
      refine ⟨before, rule, after, hrules, hbefore, ?_⟩
      rwa [Nat.zero_add]

lemma compile_eq_error_iff {e : AccessError} :
    d.compile = .error e ↔ ∃ fault, d.HasFault fault ∧ e = fault.error d.trimmedId := by
  simp only [← compileRules_eq_error_iff]
  unfold compile
  cases d.compileRules with
  | ok rules => simp
  | error fault => simp [eq_comm]

/-- A fault that is not in a rule is in the policy as a whole; else it is in the first rule that is
not well-formed. -/
lemma HasFault.place (h : d.HasFault fault) :
    (d.trimmedId = "" ∨ d.rules = []) ∧ fault.rule? = none ∨
      ¬(d.trimmedId = "" ∨ d.rules = []) ∧
        ∃ index, fault.rule? = some index ∧ IsLeast d.faultyRules index := by
  cases h with
  | blankId hid => exact Or.inl ⟨Or.inl hid, rfl⟩
  | noRules hid hrules => exact Or.inl ⟨Or.inr hrules, rfl⟩
  | @inRule before rule after _ hid hrules hbefore hrule =>
    refine Or.inr ⟨by simp [hid, hrules], before.length, hrule.rule?_eq,
      ⟨rule, by simp [hrules], hrule.not_isWellFormed⟩, ?_⟩
    rintro index ⟨r, hr, hfaulty⟩
    by_contra hlt
    rw [hrules, List.getElem?_append_left (Nat.lt_of_not_le hlt)] at hr
    exact hfaulty (hbefore r (List.mem_of_getElem? hr))

/-- Of a policy that compiles every rule is kept. -/
lemma exists_order_of_compile {c : CompiledPolicy} (h : d.compile = .ok c) :
    ∃ order, InScoreOrder PolicyRule.score d.rules order ∧
      List.Forall₂ (fun r c => r.1.IsKeptBy r.2 c) order c.rules := by
  have hwell := exists_compile_iff.1 ⟨c, h⟩
  refine ⟨byScore PolicyRule.score d.rules, byScore_inScoreOrder _ _, ?_⟩
  rw [(compile_eq_ok h).1, compiled, List.forall₂_map_right_iff, List.forall₂_same]
  intro r hr
  exact (hwell.each r.1 (List.mem_of_getElem? ((mem_byScore _).1 hr))).isKeptBy_compiledAt r.2

lemma compileAll_eq_error_iff {e : AccessError} :
    compileAll definitions = .error e ↔
      ∃ before d after, definitions = before ++ d :: after ∧
        (∀ b ∈ before, ∃ c, b.compile = .ok c) ∧ d.compile = .error e := by
  rw [compileAll, map_eq_error_iff, mapM_eq_error_iff]

/-- Policies that compile are put into another order. -/
lemma exists_order_of_compileAll {policies : List CompiledPolicy}
    (h : compileAll definitions = .ok policies) :
    ∃ order, InScoreOrder score definitions order ∧
      List.Forall₂ (fun d c => d.1.compile = .ok c) order policies := by
  have hwell := exists_compileAll_iff.1 ⟨policies, h⟩
  refine ⟨byScore score definitions, byScore_inScoreOrder _ _, ?_⟩
  rw [(compileAll_eq_ok h).1, List.forall₂_map_right_iff, List.forall₂_same]
  intro d hd
  obtain ⟨c, hc⟩ := exists_compile_iff.2 (hwell d.1 (List.mem_of_getElem? ((mem_byScore _).1 hd)))
  rw [hc, (compile_eq_ok hc).1]

/-- A policy compiles exactly when its id is not blank, so that trimming leaves something of it,
when it has rules, and when each of them has permissions, all codes or patterns, and is to allow or
to deny. Else the error tells its fault: no position if the id is blank or there are no rules, and
otherwise the least position of a rule that is not well-formed. What is compiled has the rules of
the policy with nothing changed or lost, by descending score and in the order of the policy where
scores are equal. Policies compile together exactly when each does, the first that does not is the
error, and they are put into the same order. -/
theorem compiles_iff_wellFormed_in_order (d : PolicyDefinition)
    (definitions : List PolicyDefinition) :
    (d.trimmedId = "" ↔ Text.isBlankText d.id = true) ∧
      ((∃ c, d.compile = .ok c) ↔
        d.trimmedId ≠ "" ∧ d.rules ≠ [] ∧ ∀ rule ∈ d.rules,
          rule.permissions ≠ [] ∧ (rule.effect = "allow" ∨ rule.effect = "deny") ∧
            ∀ p ∈ rule.permissions, checkPattern p = .ok ()) ∧
      (∀ e, d.compile = .error e ↔
        ∃ fault, d.HasFault fault ∧
          e = .policyCompilation d.trimmedId fault.rule? fault.reason) ∧
      (∀ fault, d.HasFault fault →
        (d.trimmedId = "" ∨ d.rules = []) ∧ fault.rule? = none ∨
          ¬(d.trimmedId = "" ∨ d.rules = []) ∧
            ∃ index, fault.rule? = some index ∧ IsLeast d.faultyRules index) ∧
      (∀ c, d.compile = .ok c → c.id = d.trimmedId ∧ c.priority = .ofLabel d.priority ∧
        ∃ order, InScoreOrder PolicyRule.score d.rules order ∧
          List.Forall₂ (fun r c => r.1.IsKeptBy r.2 c) order c.rules) ∧
      ((∃ policies, compileAll definitions = .ok policies) ↔
        ∀ d ∈ definitions, ∃ c, d.compile = .ok c) ∧
      (∀ e, compileAll definitions = .error e ↔
        ∃ before d after, definitions = before ++ d :: after ∧
          (∀ b ∈ before, ∃ c, b.compile = .ok c) ∧ d.compile = .error e) ∧
      ∀ policies, compileAll definitions = .ok policies →
        ∃ order, InScoreOrder score definitions order ∧
          List.Forall₂ (fun d c => d.1.compile = .ok c) order policies := by
  refine ⟨trimmedId_eq_empty_iff, ?_, fun e => compile_eq_error_iff, fun fault => HasFault.place,
    fun c hc => ?_, ?_, fun e => compileAll_eq_error_iff,
    fun policies => exists_order_of_compileAll⟩
  · simp only [← PolicyRule.isWellFormed_iff]
    rw [exists_compile_iff]
    exact ⟨fun h => ⟨h.id, h.rules, h.each⟩, fun ⟨hid, hrules, heach⟩ => ⟨hid, hrules, heach⟩⟩
  · have hcompiled := (compile_eq_ok hc).1
    exact ⟨by rw [hcompiled, compiled], by rw [hcompiled, compiled], exists_order_of_compile hc⟩
  · simp only [exists_compile_iff, exists_compileAll_iff]

/-- Rules of four priorities, one of them without a meaning. -/
def mixedPolicy : PolicyDefinition where
  id := " mixed "
  rules := [ordersRule, { singleOrderRule with priority := some "urgent" },
    { ordersRule with effect := "deny", priority := none }, singleOrderRule]

/-- The second and the third rule are not well-formed. -/
def faultyPolicy : PolicyDefinition where
  id := "faulty"
  rules := [ordersRule, { ordersRule with effect := "Allow", permissions := ["order", "*:*"] },
    { ordersRule with permissions := [] }]

theorem mixed_compiles_faulty_does_not :
    (∃ c, mixedPolicy.compile = .ok c ∧ c.rules.map CompiledRule.index = [3, 1, 2, 0] ∧
      ∃ order, InScoreOrder PolicyRule.score mixedPolicy.rules order ∧
        List.Forall₂ (fun r c => r.1.IsKeptBy r.2 c) order c.rules) ∧
      compileAll [mixedPolicy, faultyPolicy, mixedPolicy] =
        .error (.policyCompilation "faulty" (some 1)
          "effect must be 'allow' or 'deny', got 'Allow'") ∧
      IsLeast faultyPolicy.faultyRules 1 := by
  obtain ⟨c, hc⟩ : ∃ c, mixedPolicy.compile = .ok c := ⟨_, rfl⟩
  obtain ⟨-, -, -, -, hkept, -, herror, -⟩ :=
    compiles_iff_wellFormed_in_order mixedPolicy [mixedPolicy, faultyPolicy, mixedPolicy]
  obtain ⟨-, -, hfault, hplace, -⟩ := compiles_iff_wellFormed_in_order faultyPolicy []
  have hcompile : faultyPolicy.compile = .error (.policyCompilation "faulty" (some 1)
      "effect must be 'allow' or 'deny', got 'Allow'") := rfl
  obtain ⟨fault, hhas, hsame⟩ := (hfault _).1 hcompile
  have hposition : fault.rule? = some 1 := (AccessError.policyCompilation.inj hsame).2.1.symm
  refine ⟨⟨c, hc, ?_, (hkept c hc).2.2⟩, ?_, ?_⟩
  · cases hc
    cbv
  · exact (herror _).2 ⟨[mixedPolicy], faultyPolicy, [mixedPolicy], rfl, by simp [hc], hcompile⟩
  · rcases hplace fault hhas with ⟨-, hnone⟩ | ⟨-, index, hindex, hleast⟩
    · cases hnone.symm.trans hposition
    · cases hindex.symm.trans hposition
      exact hleast

end PolicyDefinition

end AccessControl
