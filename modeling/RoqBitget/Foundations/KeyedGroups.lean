import Mathlib.Data.List.SplitBy

set_option relaxedAutoImplicit false
set_option autoImplicit false

/-!
# Grouping by key with a flush on every change

A loop that collects items as long as their key stays the same, and flushes what it collected
when the key changes and once more at the end. It starts under some key, which no item needs
to have.

## Main definitions

* `KeyedGroups.Grouping` — the state of the loop.
* `KeyedGroups.push`, `KeyedGroups.flush` — taking an item and flushing.
* `KeyedGroups.groups` — everything flushed by the whole loop.

## Main results

* `KeyedGroups.groups_eq_splitBy` — the groups are the maximal runs of items with one key.
* `KeyedGroups.exists_key_of_mem_splitBy`, `KeyedGroups.isChain_splitBy` — the items of a run
  share a key, and neighbouring runs do not.
-/

namespace KeyedGroups

variable {α κ : Type*}

/-- The state of the loop: the current key, the items collected under it, and the groups
flushed so far. -/
structure Grouping (α κ : Type*) where
  key : κ
  group : List α
  flushed : List (List α)

/-- Flush the current group, if there is one. -/
def flush (g : Grouping α κ) : Grouping α κ :=
  if g.group = [] then g else { g with group := [], flushed := g.flushed ++ [g.group] }

/-- The flushed groups of `flush`: all of them, and the current one if it is not empty. -/
theorem flushed_flush (g : Grouping α κ) :
    (flush g).flushed = if g.group = [] then g.flushed else g.flushed ++ [g.group] := by
  unfold flush
  split_ifs <;> rfl

variable [DecidableEq κ] (key : α → κ)

/-- Take an item, after a flush if its key is new. -/
def push (g : Grouping α κ) (a : α) : Grouping α κ :=
  if key a = g.key then { g with group := g.group ++ [a] }
  else { flush g with key := key a, group := [a] }

/-- The groups flushed by the loop over `xs` that starts under the key `k`. -/
def groups (k : κ) (xs : List α) : List (List α) :=
  (flush (xs.foldl (push key) ⟨k, [], []⟩)).flushed

/-- The relation whose runs the loop collects. -/
def sameKey (a b : α) : Bool := key a = key b

@[simp] theorem sameKey_iff (a b : α) : sameKey key a b = true ↔ key a = key b := by
  simp [sameKey]

/-! ## The flushed groups -/

/-- The invariant of the loop over `xs`: the items of the current group have the current key,
and flushing it gives the runs of `xs`. -/
structure Invariant (xs : List α) (g : Grouping α κ) : Prop where
  /-- The collected items have the current key. -/
  current : ∀ a ∈ g.group, key a = g.key
  /-- Only before the first item nothing is collected. -/
  nonempty : g.group = [] → xs = []
  /-- The flushed groups and the current one are the runs of `xs`. -/
  runs : (flush g).flushed = xs.splitBy (sameKey key)

/-- After a run, an item with another key is a run of its own. -/
private theorem splitBy_concat_of_ne {gs : List (List α)} {g xs : List α} {a : α}
    (hruns : gs ++ [g] = xs.splitBy (sameKey key)) (h : ∀ b ∈ g, key b ≠ key a) :
    gs ++ [g] ++ [[a]] = (xs ++ [a]).splitBy (sameKey key) := by
  obtain ⟨hflatten, hnil, hchain, hdiffer⟩ := List.splitBy_eq_iff.mp hruns.symm
  refine (List.splitBy_eq_iff.mpr ⟨?_, ?_, ?_, ?_⟩).symm
  · simp [hflatten]
  · simpa using hnil
  · intro m hm
    rcases List.mem_append.mp hm with hm | hm
    · exact hchain m hm
    · simp [List.mem_singleton.mp hm]
  · refine hdiffer.append (by simp) ?_
    intro m hm n hn
    obtain rfl : g = m := by simpa using hm
    obtain rfl : [a] = n := by simpa using hn
    have hg : g ≠ [] := fun hg => hnil (by simp [hg])
    exact ⟨hg, by simp, decide_eq_false (h _ (List.getLast_mem hg))⟩

/-- A run of one key at the end of a list is extended by an item with that key. -/
private theorem splitBy_concat_of_eq {gs : List (List α)} {g xs : List α} {a : α}
    (hg : g ≠ []) (hruns : gs ++ [g] = xs.splitBy (sameKey key))
    (h : ∀ b ∈ g, key b = key a) :
    gs ++ [g ++ [a]] = (xs ++ [a]).splitBy (sameKey key) := by
  obtain ⟨hflatten, hnil, hchain, hdiffer⟩ := List.splitBy_eq_iff.mp hruns.symm
  refine (List.splitBy_eq_iff.mpr ⟨?_, ?_, ?_, ?_⟩).symm
  · rw [hflatten]
    simp
  · simp only [List.mem_append, List.mem_singleton, not_or] at hnil ⊢
    exact ⟨hnil.1, by simp⟩
  · intro m hm
    rcases List.mem_append.mp hm with hm | hm
    · exact hchain m (List.mem_append_left _ hm)
    · rw [List.mem_singleton.mp hm]
      refine (hchain g (by simp)).append (by simp) ?_
      intro b hb c hc
      obtain rfl : a = c := by simpa using hc
      simpa using h b (List.mem_of_getLast? hb)
  · rw [List.isChain_append] at hdiffer ⊢
    refine ⟨hdiffer.1, by simp, ?_⟩
    intro m hm n hn
    obtain rfl : g ++ [a] = n := by simpa using hn
    obtain ⟨hm', hg', hkeys⟩ := hdiffer.2.2 m hm g (by simp)
    exact ⟨hm', by simp, by rwa [List.head_append_of_ne_nil hg]⟩

/-- The invariant holds at the start. -/
theorem Invariant.init (k : κ) : Invariant key [] (⟨k, [], []⟩ : Grouping α κ) :=
  ⟨by simp, by simp, by simp [flush]⟩

/-- **Step lemma.** Taking one more item keeps the invariant. -/
theorem Invariant.push {xs : List α} {g : Grouping α κ} (h : Invariant key xs g) (a : α) :
    Invariant key (xs ++ [a]) (push key g a) := by
  have hruns := h.runs
  rw [flushed_flush] at hruns
  by_cases hkey : key a = g.key
  · -- the item joins the current group
    rw [KeyedGroups.push, if_pos hkey]
    refine ⟨?_, by simp, ?_⟩
    · intro b hb
      rcases List.mem_append.mp hb with hb | hb
      · exact h.current b hb
      · rw [List.mem_singleton.mp hb, hkey]
    · rw [flushed_flush, if_neg (by simp)]
      by_cases hg : g.group = []
      · obtain rfl := h.nonempty hg
        have hflushed : g.flushed = [] := by simpa [hg] using hruns
        simp [hg, hflushed]
        rfl
      · rw [if_neg hg] at hruns
        exact splitBy_concat_of_eq key hg hruns fun b hb => by rw [h.current b hb, hkey]
  · -- the key changes: the current group is flushed
    rw [KeyedGroups.push, if_neg hkey]
    refine ⟨by simp, by simp, ?_⟩
    rw [flushed_flush, if_neg (by simp)]
    change (flush g).flushed ++ [[a]] = _
    rw [h.runs]
    by_cases hg : g.group = []
    · obtain rfl := h.nonempty hg
      rfl
    · rw [if_neg hg] at hruns
      rw [← hruns]
      exact splitBy_concat_of_ne key hruns fun b hb => by
        rw [h.current b hb]
        exact fun heq => hkey heq.symm

/-- **Run lemma.** The loop over `xs` ends in its invariant. -/
theorem invariant_foldl (k : κ) (xs : List α) :
    Invariant key xs (xs.foldl (push key) ⟨k, [], []⟩) := by
  induction xs using List.reverseRecOn with
  | nil => exact Invariant.init key k
  | append_singleton xs a ih =>
    rw [List.foldl_append]
    exact ih.push key a

/-- **The loop collects the runs.** Whatever key it starts under. -/
theorem groups_eq_splitBy (k : κ) (xs : List α) :
    groups key k xs = xs.splitBy (sameKey key) :=
  (invariant_foldl key k xs).runs

/-! ## The runs of one key -/

/-- The items of a run share their key. -/
theorem exists_key_of_mem_splitBy {xs g : List α} (hg : g ∈ xs.splitBy (sameKey key)) :
    ∃ k, ∀ a ∈ g, key a = k := by
  have hne := List.ne_nil_of_mem_splitBy hg
  have hchain := List.isChain_of_mem_splitBy hg
  have htrans : g.Pairwise fun a b => key a = key b := by
    have heq : g.IsChain fun a b => key a = key b := by simpa using hchain
    exact (List.isChain_iff_pairwise (R := fun a b => key a = key b)).mp heq
  cases g with
  | nil => exact absurd rfl hne
  | cons a g =>
    refine ⟨key a, fun b hb => ?_⟩
    rcases List.mem_cons.mp hb with rfl | hb
    · rfl
    · exact (List.rel_of_pairwise_cons htrans hb).symm

/-- Neighbouring runs have different keys. -/
theorem isChain_splitBy (xs : List α) :
    (xs.splitBy (sameKey key)).IsChain fun g g' => ∀ a ∈ g, ∀ b ∈ g', key a ≠ key b := by
  refine (List.isChain_getLast_head_splitBy (sameKey key) xs).imp_of_mem_imp ?_
  intro g g' hg hg' h a ha b hb
  obtain ⟨k, hk⟩ := exists_key_of_mem_splitBy key hg
  obtain ⟨k', hk'⟩ := exists_key_of_mem_splitBy key hg'
  obtain ⟨hg0, hg0', hne⟩ := h
  have hdiffer : key (g.getLast hg0) ≠ key (g'.head hg0') := by simpa [sameKey] using hne
  rw [hk _ (List.getLast_mem _), hk' _ (List.head_mem _)] at hdiffer
  rwa [hk a ha, hk' b hb]

end KeyedGroups
