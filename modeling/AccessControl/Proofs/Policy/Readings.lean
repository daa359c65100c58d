import AccessControl.Policy.Store
import AccessControl.Policy.Table
import AccessControl.Proofs.Sequences
import Mathlib.Data.Prod.Lex
/-!
# Policies are invalidated while they are being read

Somebody who needs the policies of a tenant starts by looking into the table. If they have to be
read, reading and compiling them follow later, and anything may happen in between: the definitions
change, policies are invalidated or everything is forgotten, others need the same policies.

Epoch and generation together, the epoch first, only grow, and grow whenever policies are forgotten.
So a ticket that is current has been given out since, and what was read for it has been read since.
Starting generations anew with an epoch does no harm.
-/
namespace AccessControl

/-! ### Epoch and generation -/

/-- Epoch and generation of a tenant, compared by the epoch first. -/
def PolicyTable.mark (t : PolicyTable) (tenant : String) : Nat ×ₗ Nat :=
  toLex (t.epoch, (t.slots.get tenant).generation)

/-- Epoch and generation at which the ticket was given out. -/
def PolicyTicket.mark (ticket : PolicyTicket) : Nat ×ₗ Nat :=
  toLex (ticket.epoch, ticket.generation)

namespace PolicyTable

variable {t : PolicyTable} {tenant other : String} {ticket : PolicyTicket}
  {policies : List CompiledPolicy}

/-- The policies that are kept for the tenant, if there are any. -/
def kept? (t : PolicyTable) (tenant : String) : Option (List CompiledPolicy) :=
  (t.slots.get tenant).policies

lemma isCurrent_iff : t.isCurrent ticket = true ↔ ticket.mark = t.mark ticket.tenant := by
  rw [isCurrent, Bool.and_eq_true, decide_eq_true_eq, decide_eq_true_eq, PolicyTicket.mark, mark,
    toLex_inj, Prod.mk.injEq]
  constructor
  · rintro ⟨hgeneration, hepoch⟩
    exact ⟨hepoch.symm, hgeneration.symm⟩
  · rintro ⟨hepoch, hgeneration⟩
    exact ⟨hgeneration.symm, hepoch.symm⟩

lemma lookup_eq_known_iff : t.lookup tenant = .known policies ↔ t.kept? tenant = some policies := by
  cases h : (t.slots.get tenant).policies <;> simp [lookup, kept?, h]

/-- A ticket is given out where nothing is kept. -/
lemma lookup_eq_unread (h : t.lookup tenant = .unread ticket) :
    t.kept? tenant = none ∧ ticket.tenant = tenant ∧ ticket.mark = t.mark tenant := by
  cases hkept : (t.slots.get tenant).policies with
  | none =>
    simp only [lookup, hkept] at h
    cases h
    exact ⟨hkept, rfl, rfl⟩
  | some policies => simp [lookup, hkept] at h

lemma finish_fst (t : PolicyTable) (ticket : PolicyTicket)
    (definitions : Except AccessError (List PolicyDefinition)) :
    (t.finish ticket definitions).1 = definitions.bind PolicyDefinition.compileAll := by
  unfold finish
  cases definitions.bind PolicyDefinition.compileAll <;> rfl

/-- What cannot be read or compiled leaves the table as it is. -/
lemma finish_snd_of_error {definitions : Except AccessError (List PolicyDefinition)}
    {fault : AccessError} (h : definitions.bind PolicyDefinition.compileAll = .error fault)
    (t : PolicyTable) (ticket : PolicyTicket) : (t.finish ticket definitions).2 = t := by
  rw [finish, h]

lemma mark_finish (definitions : Except AccessError (List PolicyDefinition)) :
    (t.finish ticket definitions).2.mark tenant = t.mark tenant := by
  unfold finish
  cases definitions.bind PolicyDefinition.compileAll with
  | error fault => rfl
  | ok policies =>
    simp only [publish]
    split
    · by_cases htenant : tenant = ticket.tenant
      · simp [mark, htenant]
      · simp [mark, PerTenant.get_set_of_ne _ htenant]
    · rfl

/-- What is kept when a reading has ended was kept before, or was read with a current ticket. -/
lemma kept?_finish {definitions : Except AccessError (List PolicyDefinition)}
    (h : (t.finish ticket definitions).2.kept? tenant = some policies) :
    t.kept? tenant = some policies ∨
      ticket.tenant = tenant ∧ ticket.mark = t.mark tenant ∧
        definitions.bind PolicyDefinition.compileAll = .ok policies := by
  unfold finish at h
  cases hcompile : definitions.bind PolicyDefinition.compileAll with
  | error fault =>
    rw [hcompile] at h
    exact Or.inl h
  | ok compiled =>
    simp only [hcompile, publish] at h
    split at h
    · rename_i hcurrent
      by_cases htenant : tenant = ticket.tenant
      · subst htenant
        simp only [kept?, PerTenant.get_set_self, Option.some.injEq] at h
        exact Or.inr ⟨rfl, isCurrent_iff.1 hcurrent, by rw [h]⟩
      · simp only [kept?, PerTenant.get_set_of_ne _ htenant] at h
        exact Or.inl h
    · exact Or.inl h

lemma mark_lt_invalidate (t : PolicyTable) (tenant : String) :
    t.mark tenant < (t.invalidate tenant).mark tenant := by
  simp [mark, invalidate, Prod.Lex.toLex_lt_toLex]

lemma mark_invalidate_of_ne (hne : tenant ≠ other) :
    (t.invalidate other).mark tenant = t.mark tenant := by
  simp [mark, invalidate, PerTenant.get_set_of_ne _ hne]

lemma mark_lt_clear (t : PolicyTable) (tenant : String) : t.mark tenant < t.clear.mark tenant := by
  simp [mark, clear, Prod.Lex.toLex_lt_toLex]

lemma kept?_invalidate (t : PolicyTable) (tenant other : String) :
    (t.invalidate other).kept? tenant = if tenant = other then none else t.kept? tenant := by
  by_cases h : tenant = other
  · simp [kept?, invalidate, h]
  · simp [kept?, invalidate, PerTenant.get_set_of_ne _ h, h]

end PolicyTable

/-! ### Calls for policies and what happens meanwhile -/

/-- A call for the policies of a tenant, once it has started. -/
inductive PolicyCall where
  /-- The definitions have yet to be read. -/
  | waiting (ticket : PolicyTicket)
  /-- This has been read, or could not be read, and has yet to be compiled. -/
  | holding (ticket : PolicyTicket) (found : Except AccessError (List PolicyDefinition))
  | answered

/-- The ticket with which policies are being read. -/
def PolicyCall.ticket? : PolicyCall → Option PolicyTicket
  | waiting ticket => some ticket
  | holding ticket _ => some ticket
  | answered => none

/-- The table of compiled policies, the store of definitions, and the calls for policies in the
order in which they have started. -/
structure PolicyTraffic where
  table : PolicyTable := {}
  store : PolicyStore
  calls : List PolicyCall := []

/-- A part of a call, or something else that happens to the table or to the store. -/
inductive PolicyEvent where
  /-- Somebody needs the policies of the tenant. -/
  | start (tenant : String)
  /-- The definitions are read for the call of this number. -/
  | read (call : Nat)
  /-- What was read for the call of this number is compiled, and kept if the ticket is current. -/
  | finish (call : Nat)
  /-- The definitions, or whether they can be read, become others. -/
  | change (step : PolicyStore → PolicyStore)
  | invalidate (tenant : String)
  | clear

/-- What a call for policies gives back. -/
structure PolicyAnswer where
  call : Nat
  tenant : String
  result : Except AccessError (List CompiledPolicy)

namespace PolicyEvent

/-- The answer to the call that ends, if one does, and what there is afterwards. What is no part of
a call at that stage does nothing. -/
def perform : PolicyEvent → PolicyTraffic → Option PolicyAnswer × PolicyTraffic
  | start tenant, s =>
    match s.table.lookup tenant with
    | .known policies =>
      (some ⟨s.calls.length, tenant, .ok policies⟩, { s with calls := s.calls ++ [.answered] })
    | .unread ticket => (none, { s with calls := s.calls ++ [.waiting ticket] })
  | read n, s =>
    match s.calls[n]? with
    | some (.waiting ticket) =>
      let (found, store) := s.store.read ticket.tenant
      (none, { s with store, calls := s.calls.set n (.holding ticket found) })
    | _ => (none, s)
  | finish n, s =>
    match s.calls[n]? with
    | some (.holding ticket found) =>
      let (result, table) := s.table.finish ticket found
      (some ⟨n, ticket.tenant, result⟩, { s with table, calls := s.calls.set n .answered })
    | _ => (none, s)
  | change step, s => (none, { s with store := step s.store })
  | invalidate tenant, s => (none, { s with table := s.table.invalidate tenant })
  | clear, s => (none, { s with table := s.table.clear })

/-- The policies of the tenant are forgotten. -/
def Forgets (tenant : String) : PolicyEvent → Prop
  | invalidate other => tenant = other
  | clear => True
  | _ => False

/-! ### What one event does -/

/-- What an event can do: the answer that it gives, and what there is afterwards. -/
inductive Step (s : PolicyTraffic) : PolicyEvent → Option PolicyAnswer × PolicyTraffic → Prop
  | hit {tenant policies} (hkept : s.table.kept? tenant = some policies) :
    Step s (.start tenant)
      (some ⟨s.calls.length, tenant, .ok policies⟩, { s with calls := s.calls ++ [.answered] })
  | wait {ticket} (hmark : ticket.mark = s.table.mark ticket.tenant) :
    Step s (.start ticket.tenant) (none, { s with calls := s.calls ++ [.waiting ticket] })
  | read {n ticket} (hcall : s.calls[n]? = some (.waiting ticket)) :
    Step s (.read n)
      (none, { s with
        store := (s.store.read ticket.tenant).2
        calls := s.calls.set n (.holding ticket (s.store.read ticket.tenant).1) })
  | finish {n ticket found} (hcall : s.calls[n]? = some (.holding ticket found)) :
    Step s (.finish n)
      (some ⟨n, ticket.tenant, found.bind PolicyDefinition.compileAll⟩,
        { s with table := (s.table.finish ticket found).2, calls := s.calls.set n .answered })
  | idle {x} (h : ∀ tenant, ¬Forgets tenant x) : Step s x (none, s)
  | change step : Step s (.change step) (none, { s with store := step s.store })
  | invalidate tenant :
    Step s (.invalidate tenant) (none, { s with table := s.table.invalidate tenant })
  | clear : Step s .clear (none, { s with table := s.table.clear })

variable {x : PolicyEvent} {s : PolicyTraffic} {tenant : String} {n : Nat} {call : PolicyCall}
  {ticket : PolicyTicket} {policies : List CompiledPolicy} {a : PolicyAnswer}

lemma step (x : PolicyEvent) (s : PolicyTraffic) : Step s x (x.perform s) := by
  cases x with
  | start tenant =>
    simp only [perform]
    split
    · rename_i policies hlookup
      exact .hit (PolicyTable.lookup_eq_known_iff.1 hlookup)
    · rename_i ticket hlookup
      obtain ⟨-, rfl, hmark⟩ := PolicyTable.lookup_eq_unread hlookup
      exact .wait hmark
  | read n =>
    simp only [perform]
    split
    · rename_i ticket hcall
      exact .read hcall
    · exact .idle fun _ => id
  | finish n =>
    simp only [perform]
    split
    · rename_i ticket found hcall
      rw [PolicyTable.finish_fst]
      exact .finish hcall
    · exact .idle fun _ => id
  | change step => exact .change step
  | invalidate tenant => exact .invalidate tenant
  | clear => exact .clear

lemma mark_perform_of_not_forgets (h : ¬x.Forgets tenant) (s : PolicyTraffic) :
    (x.perform s).2.table.mark tenant = s.table.mark tenant := by
  have hstep := x.step s
  generalize x.perform s = after at hstep
  cases hstep with
  | finish hcall => exact PolicyTable.mark_finish _
  | invalidate other => exact PolicyTable.mark_invalidate_of_ne h
  | clear => exact absurd trivial h
  | _ => rfl

lemma mark_lt_perform (h : x.Forgets tenant) (s : PolicyTraffic) :
    s.table.mark tenant < (x.perform s).2.table.mark tenant := by
  cases x with
  | invalidate other =>
    cases h
    exact s.table.mark_lt_invalidate tenant
  | clear => exact s.table.mark_lt_clear tenant
  | _ => exact h.elim

lemma mark_le_perform (x : PolicyEvent) (s : PolicyTraffic) (tenant : String) :
    s.table.mark tenant ≤ (x.perform s).2.table.mark tenant := by
  by_cases h : x.Forgets tenant
  · exact (mark_lt_perform h s).le
  · exact (mark_perform_of_not_forgets h s).ge

/-- What is kept after an event is not forgotten by it, and was kept before or published by it. -/
lemma kept?_perform (h : (x.perform s).2.table.kept? tenant = some policies) :
    ¬x.Forgets tenant ∧ (s.table.kept? tenant = some policies ∨
      ∃ n ticket found, x = .finish n ∧ s.calls[n]? = some (.holding ticket found) ∧
        ticket.tenant = tenant ∧ ticket.mark = s.table.mark tenant ∧
          found.bind PolicyDefinition.compileAll = .ok policies) := by
  have hstep := x.step s
  generalize x.perform s = after at hstep h
  cases hstep with
  | @finish n ticket found hcall =>
    refine ⟨not_false, (PolicyTable.kept?_finish h).imp_right ?_⟩
    rintro ⟨htenant, hmark, hcompile⟩
    exact ⟨n, ticket, found, rfl, hcall, htenant, hmark, hcompile⟩
  | idle hx => exact ⟨hx tenant, Or.inl h⟩
  | invalidate other =>
    dsimp only at h
    rw [PolicyTable.kept?_invalidate] at h
    split at h
    · cases h
    · rename_i hne
      exact ⟨hne, Or.inl h⟩
  | clear => cases h
  | _ => exact ⟨not_false, Or.inl h⟩

lemma calls_length_le (x : PolicyEvent) (s : PolicyTraffic) :
    s.calls.length ≤ (x.perform s).2.calls.length := by
  have hstep := x.step s
  generalize x.perform s = after at hstep
  cases hstep <;> simp

/-- How a call has come to its stage. -/
lemma getElem?_calls_perform (h : (x.perform s).2.calls[n]? = some call) :
    s.calls[n]? = some call ∨ call = .answered ∨
      (∃ ticket, call = .waiting ticket ∧ x = .start ticket.tenant ∧ n = s.calls.length ∧
        ticket.mark = s.table.mark ticket.tenant) ∨
      ∃ ticket, call = .holding ticket (s.store.read ticket.tenant).1 ∧ x = .read n ∧
        s.calls[n]? = some (.waiting ticket) := by
  have hstep := x.step s
  generalize x.perform s = after at hstep h
  cases hstep with
  | hit hkept =>
    rcases getElem?_concat_eq_some h with h | ⟨-, rfl⟩
    · exact Or.inl h
    · exact Or.inr (Or.inl rfl)
  | @wait ticket hmark =>
    rcases getElem?_concat_eq_some h with h | ⟨hn, rfl⟩
    · exact Or.inl h
    · exact Or.inr (Or.inr (Or.inl ⟨ticket, rfl, rfl, hn, hmark⟩))
  | @read m ticket hcall =>
    dsimp only at h
    by_cases hm : m = n
    · subst hm
      rw [List.getElem?_set_self (List.getElem?_eq_some_iff.1 hcall).1] at h
      cases h
      exact Or.inr (Or.inr (Or.inr ⟨ticket, rfl, rfl, hcall⟩))
    · rw [List.getElem?_set_ne hm] at h
      exact Or.inl h
  | @finish m ticket found hcall =>
    dsimp only at h
    by_cases hm : m = n
    · subst hm
      rw [List.getElem?_set_self (List.getElem?_eq_some_iff.1 hcall).1] at h
      exact Or.inr (Or.inl (Option.some.inj h).symm)
    · rw [List.getElem?_set_ne hm] at h
      exact Or.inl h
  | _ => exact Or.inl h

/-- A call is answered at once with what is kept, or after the definitions have been read. -/
lemma perform_fst (h : (x.perform s).1 = some a) :
    (x = .start a.tenant ∧ a.call = s.calls.length ∧
      ∃ policies, s.table.kept? a.tenant = some policies ∧ a.result = .ok policies) ∨
    ∃ ticket found, x = .finish a.call ∧ s.calls[a.call]? = some (.holding ticket found) ∧
      ticket.tenant = a.tenant ∧ a.result = found.bind PolicyDefinition.compileAll := by
  have hstep := x.step s
  generalize x.perform s = after at hstep h
  cases hstep with
  | hit hkept =>
    cases h
    exact Or.inl ⟨rfl, rfl, _, hkept, rfl⟩
  | finish hcall =>
    cases h
    exact Or.inr ⟨_, _, rfl, hcall, rfl, rfl⟩
  | _ => cases h

lemma perform_finish {found : Except AccessError (List PolicyDefinition)}
    (hcall : s.calls[n]? = some (.holding ticket found)) :
    (finish n).perform s =
      (some ⟨n, ticket.tenant, found.bind PolicyDefinition.compileAll⟩,
        { s with table := (s.table.finish ticket found).2, calls := s.calls.set n .answered }) := by
  simp only [perform, hcall, PolicyTable.finish_fst]

/-- A call that fails leaves the table as it is. -/
lemma table_perform_of_error {fault : AccessError} (h : (x.perform s).1 = some a)
    (hfault : a.result = .error fault) : (x.perform s).2.table = s.table := by
  rcases perform_fst h with ⟨-, -, policies, -, hresult⟩ | ⟨ticket, found, rfl, hcall, -, hresult⟩
  · cases hresult.symm.trans hfault
  · rw [perform_finish hcall]
    exact PolicyTable.finish_snd_of_error (hresult.symm.trans hfault) _ _

end PolicyEvent

/-! ### Everything that has happened -/

namespace PolicyTraffic

/-- What there is after all this has happened, if at first there was a store and nothing else. -/
def after (past : List PolicyEvent) (store : PolicyStore) : PolicyTraffic :=
  past.foldl (fun s x => (x.perform s).2) { store }

variable {store : PolicyStore} {past rest : List PolicyEvent} {x f : PolicyEvent} {tenant : String}
  {n : Nat} {call : PolicyCall} {ticket : PolicyTicket} {policies : List CompiledPolicy}
  {found : Except AccessError (List PolicyDefinition)} {a : PolicyAnswer}

lemma after_concat (past : List PolicyEvent) (x : PolicyEvent) (store : PolicyStore) :
    after (past ++ [x]) store = (x.perform (after past store)).2 := by
  simp [after]

lemma calls_length_le (past rest : List PolicyEvent) (store : PolicyStore) :
    (after past store).calls.length ≤ (after (past ++ rest) store).calls.length := by
  induction rest using List.reverseRecOn with
  | nil => rw [List.append_nil]
  | append_singleton rest x ih =>
    rw [← List.append_assoc, after_concat]
    exact ih.trans (x.calls_length_le _)

/-- The policies of the tenant have not been forgotten since the call of this number started. -/
def UnforgottenSince (store : PolicyStore) (past : List PolicyEvent) (n : Nat) (tenant : String) :
    Prop :=
  ∀ before f rest, past = before ++ f :: rest → f.Forgets tenant →
    (after before store).calls.length ≤ n

lemma UnforgottenSince.concat (h : UnforgottenSince store past n tenant) (hx : ¬x.Forgets tenant) :
    UnforgottenSince store (past ++ [x]) n tenant := by
  intro before f rest hpast hf
  rcases concat_eq_append_cons.1 hpast with ⟨rfl, rfl, -⟩ | ⟨rest', -, hpast'⟩
  · exact absurd hf hx
  · exact h before f rest' hpast' hf

/-- The ticket of a call is no later than the table, and if it is current, the policies of its
tenant have not been forgotten since the call started. -/
structure Tracks (store : PolicyStore) (past : List PolicyEvent) (n : Nat) (ticket : PolicyTicket) :
    Prop where
  mark_le : ticket.mark ≤ (after past store).table.mark ticket.tenant
  unforgotten : ticket.mark = (after past store).table.mark ticket.tenant →
    UnforgottenSince store past n ticket.tenant

/-- When policies are forgotten, tickets for them are current no more, and will never be again. -/
lemma Tracks.concat (h : Tracks store past n ticket) (x : PolicyEvent) :
    Tracks store (past ++ [x]) n ticket where
  mark_le := by
    rw [after_concat]
    exact h.mark_le.trans (x.mark_le_perform _ _)
  unforgotten hmark := by
    rw [after_concat] at hmark
    by_cases hx : x.Forgets ticket.tenant
    · have hlt := PolicyEvent.mark_lt_perform hx (after past store)
      exact absurd hmark (h.mark_le.trans_lt hlt).ne
    · rw [PolicyEvent.mark_perform_of_not_forgets hx] at hmark
      exact (h.unforgotten hmark).concat hx

lemma tracks_start (hmark : ticket.mark = (after past store).table.mark ticket.tenant) :
    Tracks store (past ++ [.start ticket.tenant]) (after past store).calls.length ticket := by
  refine Tracks.concat ⟨hmark.le, fun _ => ?_⟩ _
  rintro before f rest rfl -
  exact calls_length_le _ _ _

lemma tracks_of_call (hcall : (after past store).calls[n]? = some call)
    (hticket : call.ticket? = some ticket) : Tracks store past n ticket := by
  induction past using List.reverseRecOn generalizing call with
  | nil => simp [after] at hcall
  | append_singleton past x ih =>
    rw [after_concat] at hcall
    rcases PolicyEvent.getElem?_calls_perform hcall with
      hsame | rfl | ⟨ticket', rfl, rfl, rfl, hmark⟩ | ⟨ticket', rfl, rfl, hwaiting⟩
    · exact (ih hsame hticket).concat x
    · cases hticket
    · cases hticket
      exact tracks_start hmark
    · cases hticket
      exact (ih hwaiting rfl).concat _

/-- For the call of this number, which waited for it, the definitions of the tenant were read, and
this is what was found. -/
structure ReadsFor (store : PolicyStore) (before : List PolicyEvent) (n : Nat) (tenant : String)
    (found : Except AccessError (List PolicyDefinition)) : Prop where
  waiting : ∃ ticket, (after before store).calls[n]? = some (.waiting ticket) ∧
    ticket.tenant = tenant
  found_eq : ((after before store).store.read tenant).1 = found

lemma ReadsFor.lt_length {before : List PolicyEvent} (h : ReadsFor store before n tenant found) :
    n < (after before store).calls.length := by
  obtain ⟨ticket, hcall, -⟩ := h.waiting
  exact (List.getElem?_eq_some_iff.1 hcall).1

lemma exists_read_of_holding (h : (after past store).calls[n]? = some (.holding ticket found)) :
    ∃ before rest, past = before ++ .read n :: rest ∧
      ReadsFor store before n ticket.tenant found := by
  induction past using List.reverseRecOn with
  | nil => simp [after] at h
  | append_singleton past x ih =>
    rw [after_concat] at h
    rcases PolicyEvent.getElem?_calls_perform h with
      hsame | hcall | ⟨ticket', hcall, -⟩ | ⟨ticket', hcall, rfl, hwaiting⟩
    · obtain ⟨before, rest, rfl, hread⟩ := ih hsame
      exact ⟨before, rest ++ [x], by simp, hread⟩
    · cases hcall
    · cases hcall
    · cases hcall
      exact ⟨past, [], rfl, ⟨ticket, hwaiting, rfl⟩, rfl⟩

/-- What is kept has been published by a call that had ended, and has not been forgotten since. -/
lemma exists_finish_of_kept (h : (after past store).table.kept? tenant = some policies) :
    ∃ before n rest ticket found, past = before ++ .finish n :: rest ∧
      (after before store).calls[n]? = some (.holding ticket found) ∧ ticket.tenant = tenant ∧
      ticket.mark = (after before store).table.mark tenant ∧
      found.bind PolicyDefinition.compileAll = .ok policies ∧ ∀ f ∈ rest, ¬f.Forgets tenant := by
  induction past using List.reverseRecOn with
  | nil => cases h
  | append_singleton past x ih =>
    rw [after_concat] at h
    obtain ⟨hx, hkept | ⟨n, ticket, found, rfl, hcall, htenant, hmark, hcompile⟩⟩ :=
      PolicyEvent.kept?_perform h
    · obtain ⟨before, n, rest, ticket, found, rfl, hcall, htenant, hmark, hcompile, hrest⟩ :=
        ih hkept
      refine ⟨before, n, rest ++ [x], ticket, found, by simp, hcall, htenant, hmark, hcompile, ?_⟩
      intro f hf
      rcases List.mem_append.1 hf with hf | hf
      · exact hrest f hf
      · rw [List.mem_singleton.1 hf]
        exact hx
    · exact ⟨past, n, [], ticket, found, rfl, hcall, htenant, hmark, hcompile, nofun⟩

/-- What is kept has been read, and has not been forgotten since it was read. -/
lemma exists_read_of_kept (h : (after past store).table.kept? tenant = some policies) :
    ∃ before n rest found, past = before ++ .read n :: rest ∧
      ReadsFor store before n tenant found ∧
      found.bind PolicyDefinition.compileAll = .ok policies ∧ ∀ f ∈ rest, ¬f.Forgets tenant := by
  obtain ⟨mid, n, rest, ticket, found, rfl, hcall, rfl, hmark, hcompile, hrest⟩ :=
    exists_finish_of_kept h
  obtain ⟨before, between, rfl, hread⟩ := exists_read_of_holding hcall
  -- The ticket was current, so nothing was forgotten between the start and the end of the call.
  have hunforgotten := (tracks_of_call hcall rfl).unforgotten hmark
  refine ⟨before, n, between ++ .finish n :: rest, found, by simp, hread, hcompile, ?_⟩
  intro f hf hforgets
  rcases List.mem_append.1 hf with hf | hf
  · obtain ⟨front, back, rfl⟩ := List.append_of_mem hf
    have hstarted := hunforgotten (before ++ .read n :: front) f back (by simp) hforgets
    have hlength := (calls_length_le before (.read n :: front) store).trans hstarted
    exact absurd hread.lt_length (not_lt.2 hlength)
  · rcases List.mem_cons.1 hf with rfl | hf
    · exact hforgets
    · exact hrest f hf hforgets

/-- If policies of a tenant have been forgotten when a call for them starts, its answer is what has
been read since. -/
lemma exists_read_of_answer {before : List PolicyEvent}
    (ha : (x.perform (after past store)).1 = some a) (hpast : past = before ++ f :: rest)
    (hf : f.Forgets a.tenant) (hstart : (after (before ++ [f]) store).calls.length ≤ a.call) :
    ∃ mid n rest' found, rest = mid ++ .read n :: rest' ∧
      ReadsFor store (before ++ f :: mid) n a.tenant found ∧
      a.result = found.bind PolicyDefinition.compileAll := by
  rcases PolicyEvent.perform_fst ha with
    ⟨-, -, policies, hkept, hresult⟩ | ⟨ticket, found, -, hcall, htenant, hresult⟩
  · obtain ⟨before', n, rest', found, hpast', hread, hcompile, hrest⟩ := exists_read_of_kept hkept
    rcases append_cons_eq_append_cons (hpast'.symm.trans hpast) with
      ⟨mid, rfl, hmid⟩ | ⟨-, rfl, -⟩ | ⟨mid, -, hmid⟩
    · exact ⟨mid, n, rest', found, hmid, hread, hresult.trans hcompile.symm⟩
    · exact hf.elim
    · exact absurd hf (hrest f (by rw [hmid]; simp))
  · obtain ⟨before', rest', hpast', hread⟩ := exists_read_of_holding hcall
    rw [htenant] at hread
    rcases append_cons_eq_append_cons (hpast'.symm.trans hpast) with
      ⟨mid, rfl, hmid⟩ | ⟨-, rfl, -⟩ | ⟨mid, rfl, -⟩
    · exact ⟨mid, a.call, rest', found, hmid, hread, hresult⟩
    · exact hf.elim
    · -- The call would have been on its way when policies were forgotten.
      have hlength := (calls_length_le before' (.read a.call :: mid ++ [f]) store).trans
        (by simpa using hstart)
      exact absurd hread.lt_length (not_lt.2 hlength)

/-- A call for policies that starts when they have been forgotten gives back what was read since
then, compiled. One that fails leaves the table as it is. Unless a call of the tenant has succeeded
since its policies were last forgotten, the next one reads them again. -/
theorem answers_read_since_forgotten (past : List PolicyEvent) (store : PolicyStore) :
    (∀ x a before f rest, (PolicyEvent.perform x (after past store)).1 = some a →
      past = before ++ f :: rest → f.Forgets a.tenant →
      (after (before ++ [f]) store).calls.length ≤ a.call →
        ∃ mid n rest' found, rest = mid ++ .read n :: rest' ∧
          ReadsFor store (before ++ f :: mid) n a.tenant found ∧
          a.result = found.bind PolicyDefinition.compileAll) ∧
      (∀ x a fault, (PolicyEvent.perform x (after past store)).1 = some a →
        a.result = .error fault →
          (x.perform (after past store)).2.table = (after past store).table) ∧
      ∀ tenant,
        (∀ before n rest a policies, past = before ++ .finish n :: rest →
          ((PolicyEvent.finish n).perform (after before store)).1 = some a → a.tenant = tenant →
          a.result = .ok policies → ∃ f ∈ rest, f.Forgets tenant) →
        ∃ ticket, ticket.tenant = tenant ∧
          (PolicyEvent.start tenant).perform (after past store) =
            (none, { after past store with
              calls := (after past store).calls ++ [.waiting ticket] }) := by
  refine ⟨fun x a before f rest ha hpast hf hstart => exists_read_of_answer ha hpast hf hstart,
    fun x a fault ha hfault => PolicyEvent.table_perform_of_error ha hfault, fun tenant hnone => ?_⟩
  cases hlookup : (after past store).table.lookup tenant with
  | known policies =>
    obtain ⟨before, n, rest, ticket, found, hpast, hcall, htenant, -, hcompile, hrest⟩ :=
      exists_finish_of_kept (PolicyTable.lookup_eq_known_iff.1 hlookup)
    obtain ⟨f, hf, hforgets⟩ := hnone before n rest _ policies hpast
      (congrArg Prod.fst (PolicyEvent.perform_finish hcall)) htenant hcompile
    exact absurd hforgets (hrest f hf)
  | unread ticket =>
    obtain ⟨-, htenant, -⟩ := PolicyTable.lookup_eq_unread hlookup
    refine ⟨ticket, htenant, ?_⟩
    simp only [PolicyEvent.perform, hlookup]

/-! A reading at generation one of the first epoch ends at generation one of the second. -/

def freeze : PolicyDefinition where
  id := "freeze"
  rules := [{ permissions := ["*"], effect := "deny" }]

/-- A call has read that there are no policies when a policy is put and everything is forgotten. -/
def clearedAmidReading : List PolicyEvent :=
  [.invalidate "t", .start "t", .read 0, .change fun store => store.put "t" [freeze], .clear]

/-- The generation is the same again when the call ends; another call follows. -/
def sinceForgotten : List PolicyEvent := [.finish 0, .start "t", .read 1, .finish 1]

/-- The policies of a store that cannot be read are asked for. -/
def failedReading : List PolicyEvent := [.start "t", .read 0, .finish 0]

lemma frozen_sinceForgotten :
    ∃ policies, PolicyDefinition.compileAll [freeze] = .ok policies ∧
      ((PolicyEvent.start "t").perform
        (after (clearedAmidReading ++ .invalidate "t" :: sinceForgotten) {})).1 =
          some ⟨2, "t", .ok policies⟩ :=
  ⟨_, rfl, rfl⟩

/-- The only call of a failed reading has not succeeded. -/
lemma failedReading_fails {before rest : List PolicyEvent} (hpolicies : a.result = .ok policies)
    (hpast : failedReading = before ++ .finish n :: rest) :
    ((PolicyEvent.finish n).perform (after before { isAvailable := false })).1 ≠ some a := by
  intro ha
  match before, hpast with
  | [_, _], hpast =>
    cases hpast
    cases ha
    cases hpolicies
  | [], hpast | [_], hpast => cases hpast
  | _ :: _ :: _ :: before, hpast => simp [failedReading] at hpast

theorem frozen_after_clear_amid_reading :
    (∃ policies, PolicyDefinition.compileAll [freeze] = .ok policies ∧
      ((PolicyEvent.start "t").perform
        (after (clearedAmidReading ++ .invalidate "t" :: sinceForgotten) {})).1 =
          some ⟨2, "t", .ok policies⟩ ∧
      ∃ mid n rest found, sinceForgotten = mid ++ .read n :: rest ∧
        ReadsFor {} (clearedAmidReading ++ .invalidate "t" :: mid) n "t" found ∧
        .ok policies = found.bind PolicyDefinition.compileAll) ∧
      ((PolicyEvent.start "t").perform (after failedReading { isAvailable := false })).1 =
        none := by
  have hstarted : (after (clearedAmidReading ++ [.invalidate "t"]) {}).calls.length ≤ 2 := by decide
  constructor
  · obtain ⟨policies, hcompile, hanswer⟩ := frozen_sinceForgotten
    obtain ⟨hread, -⟩ := answers_read_since_forgotten
      (clearedAmidReading ++ .invalidate "t" :: sinceForgotten) {}
    exact ⟨policies, hcompile, hanswer, hread _ _ _ _ _ hanswer rfl rfl hstarted⟩
  · obtain ⟨-, -, hnext⟩ := answers_read_since_forgotten failedReading { isAvailable := false }
    obtain ⟨ticket, -, hwaits⟩ := hnext "t" fun before n rest a policies hpast ha _ hresult =>
      absurd ha (failedReading_fails hresult hpast)
    rw [hwaits]

end PolicyTraffic

end AccessControl
