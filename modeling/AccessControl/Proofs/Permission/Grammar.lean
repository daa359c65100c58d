import AccessControl.Permission.Set
import AccessControl.Proofs.Sequences
import Mathlib.Data.List.TakeWhile
/-!
# The grammar of permission codes

What the readers of codes and patterns accept, and what is wrong with a list of them. The text of a
permission has one separator exactly when neither of its parts has any, so a part with a separator
in it is never taken for the other part.

* `Permission.ofConcrete_eq_ok_iff`: a concrete code is two segments with a separator between them;
* `Permission.ofText_eq_ok_iff`: in a pattern one of them may be the wildcard;
* `checkPatterns_eq_error_iff`: the error in a list is that of its first member that is not valid.
-/
namespace AccessControl

/-- A letter, and then letters, digits and underscores. -/
def IsSegment (s : String) : Prop :=
  ∃ c cs, s.toList = c :: cs ∧ c.isAlpha = true ∧ ∀ d ∈ cs, d.isAlphanum = true ∨ d = '_'

lemma isSegment_iff {s : String} : isSegment s = true ↔ IsSegment s := by
  unfold isSegment IsSegment
  cases hs : s.toList with
  | nil => simp
  | cons c cs => simp

namespace IsSegment

variable {s : String}

lemma separator_not_mem (h : IsSegment s) : separator ∉ s.toList := by
  obtain ⟨c, cs, hs, hc, hcs⟩ := h
  rw [hs]
  intro hmem
  rcases List.mem_cons.1 hmem with heq | hmem
  · rw [← heq] at hc
    exact absurd hc (by decide)
  · rcases hcs _ hmem with h | h
    · exact absurd h (by decide)
    · exact absurd h (by decide)

lemma ne_empty (h : IsSegment s) : s ≠ "" := by
  obtain ⟨c, cs, hs, -, -⟩ := h
  rintro rfl
  simp at hs

lemma ne_wildcard (h : IsSegment s) : s ≠ wildcard := by
  obtain ⟨c, cs, hs, hc, -⟩ := h
  rintro rfl
  have hstar : '*' = c := (List.cons.inj (show ['*'] = c :: cs from hs)).1
  rw [← hstar] at hc
  exact absurd hc (by decide)

end IsSegment

lemma separator_not_mem_wildcard : separator ∉ wildcard.toList := by decide

namespace Permission

/-! ### Cutting a text at its separator -/

lemma toList_encode (resource action : String) :
    (encode resource action).toList = resource.toList ++ separator :: action.toList := by
  simp [encode, String.toList_append]

/-- Parts without separators can be told from the text. -/
lemma encode_inj {resource action resource' action' : String}
    (hr : separator ∉ resource'.toList) (ha : separator ∉ action'.toList)
    (h : encode resource action = encode resource' action') :
    resource = resource' ∧ action = action' := by
  have hlists : resource.toList ++ separator :: action.toList =
      resource'.toList ++ separator :: action'.toList := by
    rw [← toList_encode, ← toList_encode, h]
  obtain ⟨hr', -, ha'⟩ := (List.append_cons_inj_of_notMem hr ha).1 hlists.symm
  exact ⟨String.toList_inj.1 hr'.symm, String.toList_inj.1 ha'.symm⟩

lemma cut?_encode {resource action : String} (hr : separator ∉ resource.toList)
    (ha : separator ∉ action.toList) : cut? (encode resource action) = some (resource, action) := by
  have hpos : ∀ c ∈ resource.toList, (decide (c ≠ separator)) = true := by
    intro c hc
    exact decide_eq_true fun h => hr (h ▸ hc)
  unfold cut?
  rw [toList_encode]
  simp only [List.takeWhile_append_of_pos hpos, List.dropWhile_append_of_pos hpos]
  simp [ha]

lemma cut?_eq_some_iff {code resource action : String} :
    cut? code = some (resource, action) ↔
      code = encode resource action ∧ separator ∉ resource.toList ∧ separator ∉ action.toList := by
  constructor
  · intro h
    simp only [cut?] at h
    have hsplit := List.takeWhile_append_dropWhile (p := (· ≠ separator)) (l := code.toList)
    have hbefore : separator ∉ code.toList.takeWhile (· ≠ separator) := by
      intro hmem
      simpa using List.mem_takeWhile_imp hmem
    split at h
    · cases h
    · rename_i c rest hdrop
      split at h
      · cases h
      · rename_i hrest
        simp only [Option.some.injEq, Prod.mk.injEq] at h
        obtain ⟨rfl, rfl⟩ := h
        -- The text goes on with the character at which the first part ends.
        have hc : c = separator := by
          have hne : code.toList.dropWhile (· ≠ separator) ≠ [] := by rw [hdrop]; simp
          have hhead := List.head_dropWhile_not _ hne
          simp only [hdrop, List.head_cons] at hhead
          simpa using hhead
        subst hc
        refine ⟨String.toList_inj.1 ?_, by simpa using hbefore, by simpa using hrest⟩
        rw [toList_encode, String.toList_ofList, String.toList_ofList, ← hdrop, hsplit]
  · rintro ⟨rfl, hr, ha⟩
    exact cut?_encode hr ha

/-! ### Reading codes and patterns -/

lemma checkPart_eq_ok_iff {wildcardAllowed : Bool} {part : String} :
    checkPart wildcardAllowed part = .ok () ↔
      IsSegment part ∨ wildcardAllowed = true ∧ part = wildcard := by
  unfold checkPart
  split
  · rename_i hempty
    constructor
    · intro h; cases h
    · rintro (h | ⟨-, h⟩)
      · exact absurd hempty h.ne_empty
      · exact absurd (hempty.symm.trans h) (by decide)
  · split
    · rename_i hwild
      cases wildcardAllowed with
      | true => simp [hwild]
      | false => simpa using fun h : IsSegment part => h.ne_wildcard hwild
    · rename_i hwild
      simp [hwild, isSegment_iff]

lemma parts_eq_ok_iff {wildcardAllowed : Bool} {code : String} {p : Permission} :
    parts wildcardAllowed code = .ok p ↔
      code = p.text ∧ checkPart wildcardAllowed p.resource = .ok () ∧
        checkPart wildcardAllowed p.action = .ok () := by
  constructor
  · intro h
    unfold parts at h
    split at h
    · cases h
    · rename_i resource action hcut
      cases hr : checkPart wildcardAllowed resource with
      | error e => simp [hr, bind, Except.bind] at h
      | ok _ =>
        cases ha : checkPart wildcardAllowed action with
        | error e => simp [hr, ha, bind, Except.bind] at h
        | ok _ =>
          simp only [hr, ha, bind, Except.bind, pure, Except.pure, Except.ok.injEq] at h
          subst h
          exact ⟨(cut?_eq_some_iff.1 hcut).1, hr, ha⟩
  · rintro ⟨rfl, hr, ha⟩
    have noSeparator : ∀ {part : String}, checkPart wildcardAllowed part = .ok () →
        separator ∉ part.toList := by
      intro part h
      rcases checkPart_eq_ok_iff.1 h with h | ⟨-, rfl⟩
      · exact h.separator_not_mem
      · exact separator_not_mem_wildcard
    unfold parts
    rw [text, cut?_encode (noSeparator hr) (noSeparator ha)]
    simp only [hr, ha]
    rfl

/-- A concrete code is two segments with a separator between them. -/
lemma ofConcrete_eq_ok_iff {code : String} {p : Permission} :
    ofConcrete code = .ok p ↔ code = p.text ∧ IsSegment p.resource ∧ IsSegment p.action := by
  simp [ofConcrete, parts_eq_ok_iff, checkPart_eq_ok_iff]

/-- In a pattern with two parts one of them may be the wildcard. -/
lemma ofText_eq_ok_iff {code : String} {p : Permission} :
    ofText code = .ok p ↔
      code = p.text ∧ (IsSegment p.resource ∨ p.resource = wildcard) ∧
        (IsSegment p.action ∨ p.action = wildcard) ∧
          ¬(p.resource = wildcard ∧ p.action = wildcard) := by
  have hand : ofText code = .ok p ↔
      parts true code = .ok p ∧ ¬(p.resource = wildcard ∧ p.action = wildcard) := by
    unfold ofText
    cases parts true code with
    | error e => simp [bind, Except.bind]
    | ok q =>
      simp only [bind, Except.bind]
      split
      · rename_i hboth
        simpa using fun h : q = p => h ▸ hboth
      · rename_i hboth
        simpa [pure, Except.pure] using fun h : q = p => h ▸ not_and.1 hboth
  rw [hand, parts_eq_ok_iff]
  simp only [checkPart_eq_ok_iff, true_and, and_assoc]

end Permission

/-! ### Lists of grants -/

/-- The error about a text that may not stand in a list of grants says which text it is about. -/
lemma exists_reason_of_checkPattern {pattern : String} {e : AccessError}
    (h : checkPattern pattern = .error e) : ∃ reason, e = .invalidCode pattern reason := by
  unfold checkPattern at h
  split at h
  · cases h
  · rw [map_eq_error_iff, Permission.parse] at h
    cases hread : Permission.ofText pattern with
    | ok p => simp [hread, Except.mapError] at h
    | error fault =>
      simp only [hread, Except.mapError, Except.error.injEq] at h
      exact ⟨fault.reason, h.symm⟩

/-- A list of grants is valid when each of its members is. -/
lemma checkPatterns_eq_ok_iff {patterns : List String} :
    checkPatterns patterns = .ok () ↔ ∀ pattern ∈ patterns, checkPattern pattern = .ok () := by
  induction patterns with
  | nil => simp [checkPatterns]
  | cons pattern patterns ih =>
    rw [checkPatterns, List.forall_mem_cons, ← ih]
    cases checkPattern pattern with
    | error e => simp [bind, Except.bind]
    | ok _ => simp [bind, Except.bind]

lemma checkPatterns_eq_mapM (patterns : List String) :
    checkPatterns patterns = (patterns.mapM checkPattern).map fun _ => () := by
  induction patterns with
  | nil => rfl
  | cons pattern patterns ih =>
    rw [checkPatterns, List.mapM_cons, ih]
    cases checkPattern pattern with
    | error e => rfl
    | ok _ => cases patterns.mapM checkPattern <;> rfl

/-- The error in a list of grants is that of its first member that is not valid. -/
lemma checkPatterns_eq_error_iff {patterns : List String} {e : AccessError} :
    checkPatterns patterns = .error e ↔
      ∃ before pattern after, patterns = before ++ pattern :: after ∧
        (∀ p ∈ before, checkPattern p = .ok ()) ∧ checkPattern pattern = .error e := by
  have hvalid : ∀ p, (∃ u, checkPattern p = .ok u) ↔ checkPattern p = .ok () :=
    fun p => ⟨fun ⟨(), h⟩ => h, fun h => ⟨(), h⟩⟩
  rw [checkPatterns_eq_mapM, map_eq_error_iff, mapM_eq_error_iff]
  simp only [hvalid]

/-- The error in a list of grants is about one of its members. -/
lemma exists_invalid_of_checkPatterns {patterns : List String} {e : AccessError}
    (h : checkPatterns patterns = .error e) :
    ∃ pattern ∈ patterns, ∃ reason, e = .invalidCode pattern reason ∧
      checkPattern pattern = .error (.invalidCode pattern reason) := by
  obtain ⟨before, pattern, after, rfl, -, hcheck⟩ := checkPatterns_eq_error_iff.1 h
  obtain ⟨reason, rfl⟩ := exists_reason_of_checkPattern hcheck
  exact ⟨pattern, by simp, reason, rfl, hcheck⟩

end AccessControl
