import AccessControl.Proofs.Scope.Combination
import AccessControl.Proofs.Scope.Key
/-!
# Which filters the scopes of a request become

A definition declares conditions, except where it is for all rows or for the rows of the tenant.
What a condition becomes is said by `ScopeCondition.Becomes`, and how it fails to become anything by
`ScopeCondition.FailsWith`. Of combinable scopes joined by *and* nothing is lost: the filters are
those of all declared conditions, with that of the tenant where a scope asks for it, and there are
none at all if one condition fails.
-/
namespace AccessControl

variable {hierarchy : Option HierarchyResolver} {scope : String} {r : Request} {e : AccessError}

/-! ### Where values come from -/

namespace ValueSource

/-- The value that a source has for a request. -/
inductive Yields (r : Request) : ValueSource → ScopeValue → Prop
  | fixed {value : ScopeValue} : Yields r (.fixed value) value
  | context {place : ContextRef} {value : ScopeValue} (h : place.value? r = some value) :
    Yields r (.context place) value
  | computed {value : Request → Except AccessError ScopeValue} {v : ScopeValue}
    (h : value r = .ok v) : Yields r (.computed value) v

/-- The error of a source that has no value for a request. -/
inductive FailsWith (scope : String) (r : Request) : ValueSource → AccessError → Prop
  | context {place : ContextRef} (h : place.value? r = none) :
    FailsWith scope r (.context place)
      (.scopeResolution scope ("no usable value at " ++ place.text))
  | computed {value : Request → Except AccessError ScopeValue} {e : AccessError}
    (h : value r = .error e) :
    FailsWith scope r (.computed value) (.scopeResolution scope e.message)

variable {source : ValueSource} {value : ScopeValue}

lemma Yields.resolve (h : source.Yields r value) : source.resolve scope r = .ok value := by
  cases h with
  | fixed => rfl
  | context h => rw [ValueSource.resolve, h]
  | computed h =>
    rw [ValueSource.resolve, h]
    rfl

lemma FailsWith.resolve (h : source.FailsWith scope r e) : source.resolve scope r = .error e := by
  cases h with
  | context h => rw [ValueSource.resolve, h]
  | computed h =>
    rw [ValueSource.resolve, h]
    rfl

lemma yields_or_failsWith (source : ValueSource) (scope : String) (r : Request) :
    (∃ value, source.Yields r value) ∨ ∃ e, source.FailsWith scope r e := by
  cases source with
  | fixed value => exact Or.inl ⟨value, .fixed⟩
  | context place =>
    cases h : place.value? r with
    | some value => exact Or.inl ⟨value, .context h⟩
    | none => exact Or.inr ⟨_, .context h⟩
  | computed value =>
    cases h : value r with
    | ok v => exact Or.inl ⟨v, .computed h⟩
    | error e => exact Or.inr ⟨_, .computed h⟩

end ValueSource

/-- The id that a value stands for as a root: a text, an identifier or an integer. -/
inductive ScopeValue.IsRoot : ScopeValue → String → Prop
  | str (s : String) : IsRoot (.str s) s
  | uuid (u : Uuid) : IsRoot (.uuid u) u.text
  | int (n : Int64) : IsRoot (.int n) (toString n.toInt)

lemma ScopeValue.rootId?_eq_some_iff {value : ScopeValue} {root : String} :
    value.rootId? = some root ↔ value.IsRoot root := by
  constructor
  · intro h
    cases value with
    | str s => exact Option.some.inj h ▸ .str s
    | uuid u => exact Option.some.inj h ▸ .uuid u
    | int n => exact Option.some.inj h ▸ .int n
    | bool b => cases h
    | list items => cases h
  · rintro (_ | _ | _) <;> rfl

lemma mem_withRoot {root id : String} {ids : List String} :
    id ∈ withRoot root ids ↔ id = root ∨ id ∈ ids := by
  unfold withRoot
  split_ifs with h
  · exact ⟨Or.inr, fun hid => hid.elim (fun heq => heq ▸ h) fun hmem => hmem⟩
  · exact List.mem_cons

/-! ### One condition -/

namespace ScopeCondition

/-- The filter that a condition stands for. A root stands for itself and for all ids that the
resolver tells for it. -/
inductive Becomes (hierarchy : Option HierarchyResolver) (r : Request) :
    ScopeCondition → ScopeFilter → Prop
  | compare {field : String} {operator : FilterOperator} {source : ValueSource} {value : ScopeValue}
    (hvalue : source.Yields r value) :
    Becomes hierarchy r ⟨field, .compare operator, source⟩ ⟨field, operator, value⟩
  | hierarchy {field root : String} {source : ValueSource} {value : ScopeValue}
    {resolver : HierarchyResolver} {ids members : List String} (hvalue : source.Yields r value)
    (hroot : value.IsRoot root) (hresolver : hierarchy = some resolver)
    (hids : resolver root = .ok ids) (hmembers : ∀ id, id ∈ members ↔ id = root ∨ id ∈ ids) :
    Becomes hierarchy r ⟨field, .hierarchy, source⟩ (.oneOf field (members.map .str))

/-- The error of a condition that becomes no filter. -/
inductive FailsWith (hierarchy : Option HierarchyResolver) (scope : String) (r : Request) :
    ScopeCondition → AccessError → Prop
  | source {field : String} {operator : ScopeOperator} {source : ValueSource} {e : AccessError}
    (h : source.FailsWith scope r e) : FailsWith hierarchy scope r ⟨field, operator, source⟩ e
  | noRoot {field : String} {source : ValueSource} {value : ScopeValue}
    (hvalue : source.Yields r value) (hroot : ∀ root, ¬value.IsRoot root) :
    FailsWith hierarchy scope r ⟨field, .hierarchy, source⟩
      (.scopeResolution scope ("hierarchy root must be a scalar id, got " ++ value.text))
  | noResolver {field root : String} {source : ValueSource} {value : ScopeValue}
    (hvalue : source.Yields r value) (hroot : value.IsRoot root) (hresolver : hierarchy = none) :
    FailsWith hierarchy scope r ⟨field, .hierarchy, source⟩
      (.scopeResolution scope "no hierarchy resolver configured")
  | resolver {field root : String} {source : ValueSource} {value : ScopeValue}
    {resolver : HierarchyResolver} {e : AccessError} (hvalue : source.Yields r value)
    (hroot : value.IsRoot root) (hresolver : hierarchy = some resolver)
    (h : resolver root = .error e) : FailsWith hierarchy scope r ⟨field, .hierarchy, source⟩ e

variable {c : ScopeCondition} {f : ScopeFilter} {field root : String} {source : ValueSource}
  {value : ScopeValue}

lemma resolve_hierarchy_of_root (hvalue : source.Yields r value) (hroot : value.IsRoot root)
    (resolver : HierarchyResolver) :
    ScopeCondition.resolve (some resolver) scope ⟨field, .hierarchy, source⟩ r =
      (resolver root).map fun ids => .oneOf field ((withRoot root ids).map .str) := by
  simp only [ScopeCondition.resolve, hvalue.resolve, ScopeValue.rootId?_eq_some_iff.2 hroot, bind,
    Except.bind]
  cases resolver root <;> rfl

lemma Becomes.exists_resolve (h : c.Becomes hierarchy r f) :
    ∃ g, c.resolve hierarchy scope r = .ok g := by
  cases h with
  | compare hvalue =>
    simp only [ScopeCondition.resolve, hvalue.resolve]
    exact ⟨_, rfl⟩
  | @hierarchy _ _ _ _ resolver ids _ hvalue hroot hresolver hids =>
    rw [hresolver, resolve_hierarchy_of_root hvalue hroot, hids]
    exact ⟨_, rfl⟩

lemma FailsWith.resolve (h : c.FailsWith hierarchy scope r e) :
    c.resolve hierarchy scope r = .error e := by
  cases h with
  | source h =>
    simp only [ScopeCondition.resolve, h.resolve]
    rfl
  | @noRoot _ _ value hvalue hroot =>
    have hnone : value.rootId? = none :=
      Option.eq_none_iff_forall_ne_some.2 fun root hid =>
        hroot root (ScopeValue.rootId?_eq_some_iff.1 hid)
    simp only [ScopeCondition.resolve, hvalue.resolve, hnone, bind, Except.bind]
    rfl
  | noResolver hvalue hroot hresolver =>
    simp only [ScopeCondition.resolve, hvalue.resolve, ScopeValue.rootId?_eq_some_iff.2 hroot,
      hresolver, bind, Except.bind]
    rfl
  | resolver hvalue hroot hresolver h =>
    rw [hresolver, resolve_hierarchy_of_root hvalue hroot, h]
    rfl

/-- A condition becomes a filter or fails, and is resolved accordingly. -/
lemma resolve_cases (hierarchy : Option HierarchyResolver) (scope : String) (c : ScopeCondition)
    (r : Request) :
    (∃ f, c.resolve hierarchy scope r = .ok f ∧ c.Becomes hierarchy r f) ∨
      ∃ e, c.resolve hierarchy scope r = .error e ∧ c.FailsWith hierarchy scope r e := by
  have hfails : ∀ {e}, c.FailsWith hierarchy scope r e →
      ∃ e, c.resolve hierarchy scope r = .error e ∧ c.FailsWith hierarchy scope r e :=
    fun h => ⟨_, h.resolve, h⟩
  obtain ⟨field, operator, source⟩ := c
  -- The source comes first, then the root, then the resolver: so only the first of them that fails
  -- is the error.
  rcases source.yields_or_failsWith scope r with ⟨value, hvalue⟩ | ⟨e, he⟩
  · cases operator with
    | compare operator =>
      have hbecomes : Becomes hierarchy r ⟨field, .compare operator, source⟩ _ := .compare hvalue
      refine Or.inl ⟨_, ?_, hbecomes⟩
      simp only [ScopeCondition.resolve, hvalue.resolve]
      rfl
    | hierarchy =>
      by_cases hroot : ∃ root, value.IsRoot root
      · obtain ⟨root, hroot⟩ := hroot
        cases hierarchy with
        | none => exact Or.inr (hfails (.noResolver hvalue hroot rfl))
        | some resolver =>
          cases hids : resolver root with
          | error e => exact Or.inr (hfails (.resolver hvalue hroot rfl hids))
          | ok ids =>
            refine Or.inl ⟨_, ?_, .hierarchy hvalue hroot rfl hids fun id => mem_withRoot⟩
            rw [resolve_hierarchy_of_root hvalue hroot, hids]
            rfl
      · exact Or.inr (hfails (.noRoot hvalue (not_exists.1 hroot)))
  · exact Or.inr (hfails (.source he))

lemma becomes_of_resolve (h : c.resolve hierarchy scope r = .ok f) : c.Becomes hierarchy r f := by
  rcases resolve_cases hierarchy scope c r with ⟨g, hg, hbecomes⟩ | ⟨e, he, -⟩
  · rw [h] at hg
    cases hg
    exact hbecomes
  · rw [h] at he
    cases he

lemma exists_resolve_iff :
    (∃ f, c.resolve hierarchy scope r = .ok f) ↔ ∃ f, c.Becomes hierarchy r f :=
  ⟨fun ⟨f, hf⟩ => ⟨f, becomes_of_resolve hf⟩, fun ⟨_, hf⟩ => hf.exists_resolve⟩

lemma resolve_eq_error_iff :
    c.resolve hierarchy scope r = .error e ↔ c.FailsWith hierarchy scope r e := by
  refine ⟨fun h => ?_, FailsWith.resolve⟩
  rcases resolve_cases hierarchy scope c r with ⟨f, hf, -⟩ | ⟨e', he', hfails⟩
  · rw [h] at hf
    cases hf
  · rw [h] at he'
    cases he'
    exact hfails

end ScopeCondition

/-! ### One definition -/

namespace ScopeDefinition

/-- The conditions that a definition declares, each with the id of the definition. -/
def declared (d : ScopeDefinition) : List (String × ScopeCondition) :=
  match d.kind with
  | .all | .tenant => []
  | .department | .team | .own | .subordinates | .custom => d.conditions.map (Prod.mk d.id)

/-- The filter for the rows of the tenant, if that is what the definition is for. -/
def tenantFilters (d : ScopeDefinition) (r : Request) : List ScopeFilter :=
  if d.kind = .tenant then [.equal "tenant_id" (.str r.tenant.id)] else []

lemma resolve_eq (d : ScopeDefinition) :
    d.resolve hierarchy r =
      (d.declared.mapM fun x : String × ScopeCondition => x.2.resolve hierarchy x.1 r).map
        (d.tenantFilters r ++ ·) := by
  have hid : ∀ x : Except AccessError (List ScopeFilter), x = x.map ([] ++ ·) := by
    rintro (e | fs) <;> rfl
  cases hkind : d.kind with
  | all =>
    simp only [ScopeDefinition.resolve, declared, tenantFilters, hkind]
    rfl
  | tenant =>
    simp only [ScopeDefinition.resolve, declared, tenantFilters, hkind]
    rfl
  | department | team | own | subordinates | custom =>
    simp only [ScopeDefinition.resolve, declared, tenantFilters, hkind, reduceCtorEq, if_false,
      List.mapM_map, ← hid]
    rfl

variable {d : ScopeDefinition} {f : ScopeFilter}

lemma mem_tenantFilters :
    f ∈ d.tenantFilters r ↔ d.kind = .tenant ∧ f = .equal "tenant_id" (.str r.tenant.id) := by
  unfold tenantFilters
  split_ifs with h <;> simp [h]

/-- The filters of a definition are that of the tenant and those of its conditions. -/
lemma mem_of_resolve {filters : List ScopeFilter} (h : d.resolve hierarchy r = .ok filters) :
    f ∈ filters ↔ f ∈ d.tenantFilters r ∨
      ∃ x ∈ d.declared, x.2.resolve hierarchy x.1 r = .ok f := by
  rw [resolve_eq, map_eq_ok_iff] at h
  obtain ⟨fs, hfs, rfl⟩ := h
  rw [List.mem_append, mem_of_mapM_eq_ok hfs]

end ScopeDefinition

/-! ### All definitions -/

/-- The conditions that the definitions declare, in order. -/
def declaredConditions (definitions : List ScopeDefinition) : List (String × ScopeCondition) :=
  definitions.flatMap ScopeDefinition.declared

variable {definitions : List ScopeDefinition} {mode : CombineMode} {s : CombinedScope}
  {f : ScopeFilter}

lemma resolveScopes_eq (hierarchy : Option HierarchyResolver) (definitions : List ScopeDefinition)
    (r : Request) (mode : CombineMode) :
    resolveScopes hierarchy definitions r mode =
      (definitions.mapM fun d : ScopeDefinition =>
        (d.resolve hierarchy r).map (ResolvedScope.mk d)).map
          fun resolved => ⟨mode, ScopeFilter.deduplicate (combine resolved mode)⟩ := by
  unfold resolveScopes
  cases definitions.mapM fun d : ScopeDefinition =>
    (d.resolve hierarchy r).map (ResolvedScope.mk d) <;> rfl

/-- Definitions are resolved as their conditions are, one after the other. -/
lemma resolveScopes_eq_error_iff :
    resolveScopes hierarchy definitions r mode = .error e ↔
      (declaredConditions definitions).mapM
        (fun x : String × ScopeCondition => x.2.resolve hierarchy x.1 r) = .error e := by
  -- Combining the filters cannot fail, nor can putting that of the tenant in front.
  rw [resolveScopes_eq, map_eq_error_iff, mapM_map_eq_error_iff]
  simp only [ScopeDefinition.resolve_eq]
  rw [mapM_map_eq_error_iff, declaredConditions, mapM_flatMap, map_eq_error_iff]

lemma exists_resolveScopes_iff :
    (∃ s, resolveScopes hierarchy definitions r mode = .ok s) ↔
      ∃ filters, (declaredConditions definitions).mapM
        (fun x : String × ScopeCondition => x.2.resolve hierarchy x.1 r) = .ok filters := by
  simp only [exists_eq_ok_iff, ne_eq, resolveScopes_eq_error_iff]

/-- The filters of combinable scopes that are not taken by priority are those of all scopes. -/
lemma mem_combine {scopes : List ResolvedScope}
    (hcombinable : ∀ x ∈ scopes, ¬x.IsExclusive) (hmode : mode ≠ .priority) :
    f ∈ combine scopes mode ↔ ∃ x ∈ scopes, f ∈ x.filters := by
  rw [combine_eq_flatMap hcombinable hmode, List.mem_flatMap]
  simp only [byPriority, List.mem_mergeSort]

/-- No filter of a combinable scope is lost, if scopes are not taken by priority. -/
lemma mem_filters_iff (hcombinable : ∀ d ∈ definitions, d.combinable = true)
    (hmode : mode ≠ .priority) (h : resolveScopes hierarchy definitions r mode = .ok s) :
    f ∈ s.filters ↔ ∃ d ∈ definitions, f ∈ d.tenantFilters r ∨
      ∃ x ∈ d.declared, x.2.resolve hierarchy x.1 r = .ok f := by
  rw [resolveScopes_eq, map_eq_ok_iff] at h
  obtain ⟨resolved, hresolved, rfl⟩ := h
  have hmem : ∀ x, x ∈ resolved ↔
      ∃ d ∈ definitions, (d.resolve hierarchy r).map (ResolvedScope.mk d) = .ok x :=
    fun x => mem_of_mapM_eq_ok hresolved
  have hresolvedCombinable : ∀ x ∈ resolved, ¬x.IsExclusive := by
    intro x hx
    obtain ⟨d, hd, hdx⟩ := (hmem x).1 hx
    obtain ⟨filters, -, rfl⟩ := map_eq_ok_iff.1 hdx
    rw [ResolvedScope.IsExclusive, hcombinable d hd]
    exact Bool.noConfusion
  -- Filters that are dropped have an equal one that stays.
  rw [ScopeFilter.mem_deduplicate, mem_combine hresolvedCombinable hmode]
  constructor
  · rintro ⟨x, hx, hf⟩
    obtain ⟨d, hd, hdx⟩ := (hmem x).1 hx
    obtain ⟨filters, hfilters, rfl⟩ := map_eq_ok_iff.1 hdx
    exact ⟨d, hd, (ScopeDefinition.mem_of_resolve hfilters).1 hf⟩
  · rintro ⟨d, hd, hf⟩
    obtain ⟨x, hdx⟩ := exists_of_mapM_eq_ok hresolved hd
    obtain ⟨filters, hfilters, rfl⟩ := map_eq_ok_iff.1 hdx
    exact ⟨_, (hmem _).2 ⟨d, hd, hdx⟩, (ScopeDefinition.mem_of_resolve hfilters).2 hf⟩

/-- Where scopes are resolved, their filters are those of the conditions, and that of the tenant if
one of the definitions is for it. -/
lemma mem_filters_iff_of_mapM {filters : List ScopeFilter}
    (hcombinable : ∀ d ∈ definitions, d.combinable = true) (hmode : mode ≠ .priority)
    (h : resolveScopes hierarchy definitions r mode = .ok s)
    (hfilters : (declaredConditions definitions).mapM
      (fun x : String × ScopeCondition => x.2.resolve hierarchy x.1 r) = .ok filters) :
    f ∈ s.filters ↔ f ∈ filters ∨
      (∃ d ∈ definitions, d.kind = .tenant) ∧ f = .equal "tenant_id" (.str r.tenant.id) := by
  rw [mem_filters_iff hcombinable hmode h, mem_of_mapM_eq_ok hfilters]
  simp only [ScopeDefinition.mem_tenantFilters, declaredConditions, List.mem_flatMap]
  constructor
  · rintro ⟨d, hd, ⟨hkind, hf⟩ | ⟨x, hx, hf⟩⟩
    · exact Or.inr ⟨⟨d, hd, hkind⟩, hf⟩
    · exact Or.inl ⟨x, ⟨d, hd, hx⟩, hf⟩
  · rintro (⟨x, ⟨d, hd, hx⟩, hf⟩ | ⟨⟨d, hd, hkind⟩, hf⟩)
    · exact ⟨d, hd, Or.inr ⟨x, hx, hf⟩⟩
    · exact ⟨d, hd, Or.inl ⟨hkind, hf⟩⟩

/-- Combinable scopes joined by *and* are resolved exactly when every declared condition stands for
a filter. If not, the error is that of the first condition that fails. If they are, a row has to
pass the filters of all conditions, and that of the tenant if one of the scopes is for it. -/
theorem resolveScopes_and_keeps_every_condition (hierarchy : Option HierarchyResolver)
    (definitions : List ScopeDefinition) (r : Request)
    (hcombinable : ∀ d ∈ definitions, d.combinable = true) :
    ((∃ s, resolveScopes hierarchy definitions r .and = .ok s) ↔
        ∀ x ∈ declaredConditions definitions, ∃ f, x.2.Becomes hierarchy r f) ∧
      (∀ e, resolveScopes hierarchy definitions r .and = .error e ↔
        ∃ before x after, declaredConditions definitions = before ++ x :: after ∧
          (∀ y ∈ before, ∃ f, y.2.Becomes hierarchy r f) ∧ x.2.FailsWith hierarchy x.1 r e) ∧
      ∀ s, resolveScopes hierarchy definitions r .and = .ok s → s.mode = .and ∧
        ∃ filters, List.Forall₂ (fun x f => x.2.Becomes hierarchy r f)
            (declaredConditions definitions) filters ∧
          ∀ sat : ScopeFilter → Prop, (∀ f ∈ s.filters, sat f) ↔ (∀ f ∈ filters, sat f) ∧
            ((∃ d ∈ definitions, d.kind = .tenant) →
              sat (.equal "tenant_id" (.str r.tenant.id))) := by
  refine ⟨?_, fun e => ?_, fun s hs => ?_⟩
  · rw [exists_resolveScopes_iff, exists_mapM_eq_ok_iff]
    simp only [ScopeCondition.exists_resolve_iff]
  · rw [resolveScopes_eq_error_iff, mapM_eq_error_iff]
    simp only [ScopeCondition.exists_resolve_iff, ScopeCondition.resolve_eq_error_iff]
  · have hmode : s.mode = .and := by
      rw [resolveScopes_eq, map_eq_ok_iff] at hs
      obtain ⟨resolved, -, rfl⟩ := hs
      rfl
    obtain ⟨filters, hfilters⟩ := exists_resolveScopes_iff.1 ⟨s, hs⟩
    refine ⟨hmode, filters, ?_, fun sat => ?_⟩
    · exact (mapM_eq_ok_iff.1 hfilters).imp fun _ _ => ScopeCondition.becomes_of_resolve
    · simp only [mem_filters_iff_of_mapM hcombinable (by decide) hs hfilters]
      constructor
      · intro hall
        exact ⟨fun f hf => hall f (Or.inl hf), fun htenant => hall _ (Or.inr ⟨htenant, rfl⟩)⟩
      · rintro ⟨hconditions, htenant⟩ f (hf | ⟨hkind, rfl⟩)
        · exact hconditions f hf
        · exact htenant hkind

/-- The rows of the tenant that belong to the subject or to somebody below it. -/
def ownAndBelow : List ScopeDefinition :=
  [{ id := "tenant", kind := .tenant }, .subordinates "below" "owner_id" (.context .subjectId)]

/-- A root is put in front of the ids that stand below it. With one more scope, for which the
subject has no department, nothing is resolved. -/
theorem resolveScopes_ownAndBelow :
    let r : Request := { tenant := { id := "acme" }, subject := { id := "ann", kind := .user } }
    let hierarchy : Option HierarchyResolver := some fun _ => .ok ["bob"]
    (∃ s, resolveScopes hierarchy ownAndBelow r .and = .ok s) ∧
      (∀ s, resolveScopes hierarchy ownAndBelow r .and = .ok s →
        .equal "tenant_id" (.str "acme") ∈ s.filters) ∧
      resolveScopes hierarchy (ownAndBelow ++ [.department "unit" "department_id" "department"]) r
          .and =
        .error (.scopeResolution "unit" "no usable value at subject.metadata.department") := by
  intro r hierarchy
  have hbelow : ScopeCondition.Becomes hierarchy r
      ⟨"owner_id", .hierarchy, .context .subjectId⟩
      (.oneOf "owner_id" (["ann", "bob"].map .str)) :=
    .hierarchy (.context rfl) (.str "ann") rfl rfl (by simp)
  obtain ⟨hok, -, hfilters⟩ := resolveScopes_and_keeps_every_condition hierarchy ownAndBelow r
    (by decide)
  obtain ⟨-, herror, -⟩ := resolveScopes_and_keeps_every_condition hierarchy
    (ownAndBelow ++ [.department "unit" "department_id" "department"]) r (by decide)
  refine ⟨hok.2 ?_, fun s hs => ?_, (herror _).2 ?_⟩
  · intro x hx
    rw [List.mem_singleton.1 hx]
    exact ⟨_, hbelow⟩
  · obtain ⟨-, filters, -, hsat⟩ := hfilters s hs
    exact ((hsat (· ∈ s.filters)).1 fun f hf => hf).2 ⟨_, List.mem_cons_self, rfl⟩
  · refine ⟨[_], _, [], rfl, ?_, .source (.context rfl)⟩
    intro y hy
    rw [List.mem_singleton.1 hy]
    exact ⟨_, hbelow⟩

end AccessControl
