/-!
# Entries in key order

A list of entries with texts as keys, kept in the order of the keys by code points and with each
key once. Insertion is a single pass that replaces the value of a key already there; its two
look-up lemmas hold of every list.
-/
namespace AccessControl

/-- Values under texts, in the order of the texts. -/
abbrev Entries (β : Type) := List (String × β)

namespace Entries

variable {β : Type}

/-- The value under a key. -/
def get? (entries : Entries β) (key : String) : Option β := List.lookup key entries

/-- Put a value under a key, in place of the value that is there. -/
def insert (key : String) (value : β) : Entries β → Entries β
  | [] => [(key, value)]
  | (key', value') :: rest =>
    if key < key' then (key, value) :: (key', value') :: rest
    else if key = key' then (key, value) :: rest
    else (key', value') :: insert key value rest

/-- The entries put in one after the other; a later value of a key replaces an earlier one. -/
def ofList (pairs : List (String × β)) : Entries β :=
  pairs.foldl (fun entries pair => insert pair.1 pair.2 entries) []

/-- The entries without the one under a key. -/
def erase (key : String) (entries : Entries β) : Entries β :=
  entries.filter fun entry => entry.1 ≠ key

/-- The entries are in key order, each key once. -/
def Sorted (entries : Entries β) : Prop := entries.Pairwise fun a b => a.1 < b.1

theorem get?_eq_none {key : String} {entries : Entries β} (h : key ∉ entries.map Prod.fst) :
    entries.get? key = none := by
  rw [get?, List.lookup_eq_none_iff]
  intro entry hentry
  have hne : key ≠ entry.1 := fun heq => h (List.mem_map.2 ⟨entry, hentry, heq.symm⟩)
  simpa using hne

@[simp] theorem get?_insert_self (key : String) (value : β) (entries : Entries β) :
    (insert key value entries).get? key = some value := by
  induction entries with
  | nil => simp [insert, get?]
  | cons entry rest ih =>
    simp only [insert]
    split
    · simp [get?]
    · split
      · simp [get?]
      · rename_i hne
        obtain ⟨first, old⟩ := entry
        have hbeq : (key == first) = false := by simpa using hne
        simpa [get?, List.lookup_cons, hbeq] using ih

theorem get?_insert_of_ne {key other : String} (hne : other ≠ key) (value : β)
    (entries : Entries β) : (insert key value entries).get? other = entries.get? other := by
  have hbeq : (other == key) = false := by simpa using hne
  induction entries with
  | nil => simp [insert, get?, List.lookup_cons, hbeq]
  | cons entry rest ih =>
    obtain ⟨first, old⟩ := entry
    simp only [insert]
    split
    · simp [get?, List.lookup_cons, hbeq]
    · split
      · rename_i heq
        subst heq
        simp [get?, List.lookup_cons, hbeq]
      · simp only [get?, List.lookup_cons] at ih ⊢
        split
        · rfl
        · exact ih

end Entries

end AccessControl
