import Mathlib.Data.List.Basic

/-! Go values the controllers share: string-keyed maps, with Go's assignment `m[k] = v` and
`maps.Copy`, the `ApiConfig` that the operator configuration resource stores, and client-go's
`retry.OnError` loop. -/

namespace Dash0Operator

/-- A Go `map[string]V`. The entries are kept without a repeated key, so `len` counts keys. -/
structure GoMap (V : Type) where
  entries : List (String × V)
  nodupKeys : (entries.map Prod.fst).Nodup

namespace GoMap

variable {V : Type}

def empty : GoMap V := ⟨[], List.nodup_nil⟩

def lookup (m : GoMap V) (key : String) : Option V := m.entries.lookup key

def len (m : GoMap V) : Nat := m.entries.length

def keys (m : GoMap V) : List String := m.entries.map Prod.fst

/-- `m[key] = value`. -/
def insert (m : GoMap V) (key : String) (value : V) : GoMap V where
  entries := (key, value) :: m.entries.filter fun e => e.1 != key
  nodupKeys := by
    refine List.nodup_cons.mpr ⟨by simp, m.nodupKeys.sublist ?_⟩
    exact (List.filter_sublist _).map _

/-- `maps.Copy(dst, src)`: every entry of `src` is assigned into `dst`. -/
def copy (dst src : GoMap V) : GoMap V :=
  src.entries.foldl (fun m e => m.insert e.1 e.2) dst

theorem lookup_eq_some_of_nodup {entries : List (String × V)} (nodup : (entries.map Prod.fst).Nodup)
    (key : String) (value : V) : entries.lookup key = some value ↔ (key, value) ∈ entries := by
  induction entries with
  | nil => simp
  | cons entry rest ih =>
    obtain ⟨k, v⟩ := entry
    simp only [List.map_cons, List.nodup_cons, List.mem_map] at nodup
    by_cases same : key = k
    · subst same
      simp only [List.lookup_cons_self, Option.some.injEq, List.mem_cons, Prod.mk.injEq, true_and]
      exact ⟨fun h => .inl h.symm, fun h => h.elim Eq.symm fun mem => (nodup.1 ⟨_, mem, rfl⟩).elim⟩
    · have hne : (key == k) = false := by simpa using same
      simp only [List.lookup_cons, hne, ih nodup.2, List.mem_cons, Prod.mk.injEq, same, false_and,
        false_or]

theorem lookup_eq_some_iff (m : GoMap V) (key : String) (value : V) :
    m.lookup key = some value ↔ (key, value) ∈ m.entries :=
  lookup_eq_some_of_nodup m.nodupKeys key value

@[simp] theorem mem_empty (entry : String × V) : entry ∉ (empty : GoMap V).entries := by
  simp [empty]

theorem mem_insert (m : GoMap V) (key : String) (value : V) (entry : String × V) :
    entry ∈ (m.insert key value).entries ↔
      entry = (key, value) ∨ (entry ∈ m.entries ∧ entry.1 ≠ key) := by
  simp [insert]

@[simp] theorem lookup_insert_self (m : GoMap V) (key : String) (value : V) :
    (m.insert key value).lookup key = some value := by
  simp [lookup, insert]

theorem mem_keys (m : GoMap V) (key : String) : key ∈ m.keys ↔ ∃ value, (key, value) ∈ m.entries := by
  simp [keys]

theorem mem_insert_before (m : GoMap V) (key : String) (value : V) (later : List (String × V))
    (fresh : key ∉ later.map Prod.fst) (entry : String × V) :
    (entry ∈ later ∨ (entry ∈ (m.insert key value).entries ∧ entry.1 ∉ later.map Prod.fst)) ↔
      entry ∈ (key, value) :: later ∨
        (entry ∈ m.entries ∧ entry.1 ∉ ((key, value) :: later).map Prod.fst) := by
  simp only [mem_insert, List.mem_cons, List.map_cons, not_or]
  constructor
  · rintro (mem | ⟨rfl | ⟨mem, ne⟩, out⟩)
    · exact .inl (.inr mem)
    · exact .inl (.inl rfl)
    · exact .inr ⟨mem, ne, out⟩
  · rintro ((rfl | mem) | ⟨mem, ne, out⟩)
    · exact .inr ⟨.inl rfl, fresh⟩
    · exact .inl mem
    · exact .inr ⟨.inr ⟨mem, ne⟩, out⟩

theorem mem_copy (dst src : GoMap V) (entry : String × V) :
    entry ∈ (dst.copy src).entries ↔ entry ∈ src.entries ∨ (entry ∈ dst.entries ∧ entry.1 ∉ src.keys) := by
  obtain ⟨entries, nodup⟩ := src
  simp only [copy, keys]
  induction entries generalizing dst with
  | nil => simp
  | cons first rest ih =>
    simp only [List.map_cons, List.nodup_cons] at nodup
    rw [List.foldl_cons, ih _ nodup.2, mem_insert_before _ _ _ _ nodup.1]

theorem len_eq_zero_iff (m : GoMap V) : m.len = 0 ↔ ∀ entry, entry ∉ m.entries := by
  simp [len, List.eq_nil_iff_forall_not_mem]

end GoMap

/-- The `ApiConfig` value: the Dash0 API endpoint and dataset. -/
structure ApiConfig where
  endpoint : String
  dataset : String
  deriving DecidableEq, Repr

/-- `isValidApiConfig`: a stored config with a non-empty endpoint. -/
def isValidApiConfig : Option ApiConfig → Bool
  | some apiConfig => apiConfig.endpoint != ""
  | none => false

/-- client-go's `retry.OnError` over `wait.ExponentialBackoff` with `steps` steps: `fn` runs at most
`steps` times; success or an error that is not `retriable` ends the loop at once, and when the steps
run out the last retriable error is returned. The sleeps between attempts are left out. -/
def onError {σ ε : Type} (retriable : ε → Bool) (fn : σ → Option ε × σ) :
    Nat → Option ε → σ → Option ε × σ
  | 0, lastErr, s => (lastErr, s)
  | steps + 1, _, s =>
    match fn s with
    | (none, s') => (none, s')
    | (some err, s') => if retriable err then onError retriable fn steps (some err) s' else (some err, s')

theorem onError_preserves {σ ε : Type} (retriable : ε → Bool) (fn : σ → Option ε × σ) {P : σ → Prop}
    (step : ∀ s, P s → P (fn s).2) (steps : Nat) (lastErr : Option ε) (s : σ) (holds : P s) :
    P (onError retriable fn steps lastErr s).2 := by
  induction steps generalizing lastErr s with
  | zero => exact holds
  | succ steps ih =>
    have next := step s holds
    unfold onError
    generalize fn s = call at next
    obtain ⟨_ | err, s'⟩ := call
    · exact next
    · dsimp only
      split
      · exact ih _ _ next
      · exact next

end Dash0Operator
