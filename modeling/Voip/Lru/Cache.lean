import Mathlib.Data.Finset.Card
import Mathlib.Data.List.AList

namespace lru

/-- A bounded cache that evicts its least recently used entry. The entries stand
in order of use, the most recently used one first. -/
structure LruCache (κ ν : Type) where
  entries : AList (fun _ : κ => ν)
  cap : Nat
  positive : 0 < cap
  bounded : entries.entries.length ≤ cap

namespace LruCache

variable {κ ν : Type} [DecidableEq κ]

/-- The empty cache with room for `cap` entries. -/
def new (cap : Nat) (positive : 0 < cap) : LruCache κ ν := ⟨∅, cap, positive, Nat.zero_le cap⟩

def len (cache : LruCache κ ν) : Nat := cache.entries.entries.length

/-- Lookup without any effect on the order of use. -/
def peek (cache : LruCache κ ν) (key : κ) : Option ν := cache.entries.lookup key

/-- Membership without any effect on the order of use. -/
def contains (cache : LruCache κ ν) (key : κ) : Bool := (cache.peek key).isSome

/-- A full cache evicts an entry to store a new key. -/
def Full (cache : LruCache κ ν) : Prop := cache.len = cache.cap

/-- The key whose entry an insertion into a full cache evicts. -/
def victim (cache : LruCache κ ν) : Option κ := cache.entries.entries.getLast?.map Sigma.fst

private theorem length_insert_of_mem {entries : AList (fun _ : κ => ν)} {key : κ} (value : ν)
    (hmem : key ∈ entries) :
    (entries.insert key value).entries.length = entries.entries.length := by
  have hkeys := congrArg List.length (AList.keys_insert (a := key) (b := value) entries)
  have hpos : 0 < entries.keys.length := List.length_pos_of_mem (AList.mem_keys.mp hmem)
  simp only [List.length_cons, List.length_erase_of_mem (AList.mem_keys.mp hmem)] at hkeys
  simp only [AList.keys, List.keys, List.length_map] at hkeys hpos
  omega

private theorem length_insert_le (entries : AList (fun _ : κ => ν)) (key : κ) (value : ν) :
    (entries.insert key value).entries.length ≤ entries.entries.length + 1 := by
  simp only [AList.entries_insert, List.length_cons]
  exact Nat.succ_le_succ (List.kerase_sublist key entries.entries).length_le

/-- Store a value under a key that is present, and make it the most recently used. -/
private def refresh (cache : LruCache κ ν) (key : κ) (value : ν) (hmem : key ∈ cache.entries) :
    LruCache κ ν :=
  { cache with
    entries := cache.entries.insert key value
    bounded := by rw [length_insert_of_mem value hmem]; exact cache.bounded }

/-- Replace the value of a key by `f` of it, if the key is present, and make it the
most recently used. This is `get_mut` followed by the writes made through it. -/
def modify (cache : LruCache κ ν) (key : κ) (f : ν → ν) : LruCache κ ν :=
  match h : cache.entries.lookup key with
  | none => cache
  | some value => cache.refresh key (f value) (AList.lookup_isSome.mp (by rw [h]; rfl))

/-- Lookup that makes the entry the most recently used. -/
def get (cache : LruCache κ ν) (key : κ) : Option ν × LruCache κ ν :=
  (cache.peek key, cache.modify key id)

/-- Remove the entry of a key. -/
def pop (cache : LruCache κ ν) (key : κ) : Option ν × LruCache κ ν :=
  (cache.peek key,
    { cache with
      entries := cache.entries.erase key
      bounded := le_trans (List.kerase_sublist key cache.entries.entries).length_le cache.bounded })

/-- The entries without the least recently used one. -/
private def evicted (cache : LruCache κ ν) : AList (fun _ : κ => ν) where
  entries := cache.entries.entries.dropLast
  nodupKeys := cache.entries.nodupKeys.sublist (List.dropLast_sublist _)

/-- Store a value as the most recently used entry. A new key in a full cache first
evicts the least recently used entry. -/
def put (cache : LruCache κ ν) (key : κ) (value : ν) : LruCache κ ν :=
  if hmem : key ∈ cache.entries then cache.refresh key value hmem
  else if hroom : cache.len < cache.cap then
    { cache with
      entries := cache.entries.insert key value
      bounded := le_trans (length_insert_le cache.entries key value) hroom }
  else
    { cache with
      entries := cache.evicted.insert key value
      bounded := by
        have hle := length_insert_le cache.evicted key value
        have hpos := cache.positive
        have hlen := cache.bounded
        simp only [evicted, List.length_dropLast] at hle ⊢
        omega }

variable (cache : LruCache κ ν) (key : κ)

@[simp] theorem peek_new (cap : Nat) (positive : 0 < cap) :
    (new cap positive : LruCache κ ν).peek key = none := rfl

private theorem peek_refresh (value : ν) (hmem : key ∈ cache.entries) (query : κ) :
    (cache.refresh key value hmem).peek query =
      if query = key then some value else cache.peek query := by
  by_cases hquery : query = key
  · subst hquery
    simp [refresh, peek]
  · simp [refresh, peek, hquery]

/-- Every write through `get_mut` is visible under its own key only. -/
@[simp] theorem peek_modify (f : ν → ν) (query : κ) :
    (cache.modify key f).peek query =
      if query = key then (cache.peek key).map f else cache.peek query := by
  unfold modify
  split
  next hnone =>
    by_cases hquery : query = key
    · subst hquery
      simp [peek, hnone]
    · simp [hquery]
  next value hsome =>
    rw [peek_refresh]
    simp [peek, hsome]

@[simp] theorem get_fst : (cache.get key).1 = cache.peek key := rfl

@[simp] theorem peek_get (query : κ) : (cache.get key).2.peek query = cache.peek query := by
  simp only [get, peek_modify, Option.map_id, id]
  split <;> simp_all

@[simp] theorem peek_pop (query : κ) :
    (cache.pop key).2.peek query = if query = key then none else cache.peek query := by
  by_cases hquery : query = key
  · subst hquery
    simp [pop, peek]
  · simp [pop, peek, hquery]

theorem contains_iff : cache.contains key = true ↔ ∃ value, cache.peek key = some value := by
  rw [contains, Option.isSome_iff_exists]

/-- The entry being evicted is the only one that an insertion removes. -/
private theorem lookup_evicted (query : κ) :
    cache.evicted.lookup query = if cache.victim = some query then none else cache.peek query := by
  rcases List.eq_nil_or_concat cache.entries.entries with hnil | ⟨init, last, hconcat⟩
  · simp [victim, peek, evicted, AList.lookup, hnil]
  · have hnodup := cache.entries.nodupKeys
    have hvictim : cache.victim = some last.1 := by simp [victim, hconcat]
    have hinit : cache.evicted.lookup query = init.dlookup query := by
      simp [evicted, AList.lookup, hconcat]
    have hpeek : cache.peek query = (init.dlookup query).or ([last].dlookup query) := by
      rw [peek, AList.lookup, hconcat, List.concat_eq_append, List.dlookup_append]
    rw [hinit, hvictim, hpeek]
    by_cases hlast : last.1 = query
    · subst hlast
      rw [if_pos rfl, List.dlookup_eq_none]
      have hkeys : (init.map Sigma.fst ++ [last.1]).Nodup := by
        simpa [List.NodupKeys, List.keys, hconcat] using hnodup
      intro hmem
      exact absurd rfl (List.nodup_append.mp hkeys |>.2.2 _ hmem _ (by simp))
    · rw [if_neg (by simpa using hlast), List.dlookup_cons_ne _ last (Ne.symm hlast)]
      simp

@[simp] theorem peek_put_self (value : ν) : (cache.put key value).peek key = some value := by
  unfold put
  split
  · simp [peek_refresh]
  · split <;> simp [peek]

/-- An insertion removes no entry other than the victim of a full cache. -/
theorem peek_put_ne (value : ν) {query : κ} (hquery : query ≠ key) :
    (cache.put key value).peek query = cache.peek query ∨
      cache.Full ∧ cache.contains key = false ∧ cache.victim = some query ∧
        (cache.put key value).peek query = none := by
  unfold put
  split
  next hmem => exact Or.inl (by simp [peek_refresh, hquery])
  next hmem =>
    split
    next hroom => exact Or.inl (by simp [peek, hquery])
    next hroom =>
      have hfull : cache.Full := le_antisymm cache.bounded (Nat.le_of_not_lt hroom)
      have hlookup : ∀ h, (LruCache.mk (cache.evicted.insert key value) cache.cap cache.positive h).peek
          query = if cache.victim = some query then none else cache.peek query := by
        intro h
        rw [peek, AList.lookup_insert_ne hquery, lookup_evicted]
      by_cases hvictim : cache.victim = some query
      · refine Or.inr ⟨hfull, ?_, hvictim, ?_⟩
        · rw [contains, peek, AList.lookup_eq_none.mpr hmem]
          rfl
        · rw [hlookup, if_pos hvictim]
      · exact Or.inl (by rw [hlookup, if_neg hvictim])

/-- An insertion of a new key into a full cache removes the entry of its victim. -/
theorem exists_evicted (hfull : cache.Full) (hnew : cache.contains key = false) (value : ν) :
    ∃ query, cache.contains query = true ∧ query ≠ key ∧ (cache.put key value).peek query = none := by
  have hlen : cache.entries.entries.length = cache.cap := hfull
  have hpos : 0 < cache.entries.entries.length := by
    rw [hlen]
    exact cache.positive
  obtain ⟨last, hlast⟩ : ∃ last, cache.entries.entries.getLast? = some last :=
    ⟨_, List.getLast?_eq_some_getLast (List.ne_nil_of_length_pos hpos)⟩
  have hmem : last.1 ∈ cache.entries :=
    List.mem_map_of_mem (List.mem_of_getLast? hlast)
  have hcontains : cache.contains last.1 = true := AList.lookup_isSome.mpr hmem
  have hne : last.1 ≠ key := by
    rintro rfl
    simp [hcontains] at hnew
  refine ⟨last.1, hcontains, hne, ?_⟩
  have hvictim : cache.victim = some last.1 := by simp [victim, hlast]
  have hkey : key ∉ cache.entries := by
    rw [← AList.lookup_isSome]
    simpa [contains, peek] using hnew
  have hroom : ¬ cache.len < cache.cap := by
    rw [hfull]
    exact Nat.lt_irrefl _
  simp only [put, hkey, hroom, dite_false, peek]
  rw [AList.lookup_insert_ne hne, lookup_evicted, if_pos hvictim]

/-- Without eviction an insertion is visible under its own key only. -/
theorem peek_put_of_not_full (hroom : ¬ cache.Full) (value : ν) (query : κ) :
    (cache.put key value).peek query = if query = key then some value else cache.peek query := by
  by_cases hquery : query = key
  · subst hquery
    simp
  · rw [if_neg hquery]
    exact (cache.peek_put_ne key value hquery).resolve_right fun h => hroom h.1

section Recency

variable {cache} {key} {other : κ} {others : Finset κ}

/-- The most recently used key. -/
def newest (cache : LruCache κ ν) : Option κ := cache.entries.keys.head?

/-- A key has its entry, and all keys used since it was belong to a set of others. -/
def Recent (cache : LruCache κ ν) (key : κ) (others : Finset κ) : Prop :=
  ∃ front back, cache.entries.keys = front ++ key :: back ∧ ∀ other ∈ front, other ∈ others

/-- Only the key and others have been the most recently used one. -/
def UsedAmong (cache : LruCache κ ν) (key : κ) (others : Finset κ) : Prop :=
  ∀ used, cache.newest = some used → used = key ∨ used ∈ others

theorem contains_iff_mem : cache.contains key = true ↔ key ∈ cache.entries.keys := by
  rw [contains, peek, AList.lookup_isSome, AList.mem_keys]

theorem Recent.contains (hrecent : cache.Recent key others) : cache.contains key = true := by
  obtain ⟨front, back, hkeys, -⟩ := hrecent
  rw [contains_iff_mem, hkeys]
  simp

omit [DecidableEq κ] in
theorem recent_of_newest (hnewest : cache.newest = some key) : cache.Recent key others := by
  obtain ⟨back, hkeys⟩ := List.head?_eq_some_iff.mp hnewest
  exact ⟨[], back, hkeys, by simp⟩

private theorem keys_refresh (value : ν) (hmem : key ∈ cache.entries) :
    (cache.refresh key value hmem).entries.keys = key :: cache.entries.keys.erase key :=
  AList.keys_insert cache.entries

private theorem keys_modify (cache : LruCache κ ν) (key : κ) (f : ν → ν) :
    (cache.modify key f).entries.keys =
      if key ∈ cache.entries then key :: cache.entries.keys.erase key else cache.entries.keys := by
  unfold modify
  split
  next hnone => rw [if_neg (AList.lookup_eq_none.mp hnone)]
  next value hsome =>
    rw [if_pos (AList.lookup_isSome.mp (by rw [hsome]; rfl)), keys_refresh]

private theorem keys_put (cache : LruCache κ ν) (key : κ) (value : ν) :
    (cache.put key value).entries.keys =
      if key ∈ cache.entries then key :: cache.entries.keys.erase key
      else if cache.len < cache.cap then key :: cache.entries.keys
      else key :: cache.entries.keys.dropLast := by
  unfold put
  split
  next hmem => exact keys_refresh value hmem
  next hmem =>
    split
    next => rw [AList.keys_insert, List.erase_of_not_mem (AList.mem_keys.not.mp hmem)]
    next =>
      have hevicted : cache.evicted.keys = cache.entries.keys.dropLast := by
        simp [evicted, AList.keys, List.keys, List.map_dropLast]
      rw [AList.keys_insert, hevicted, List.erase_of_not_mem]
      exact fun hdropped => hmem (AList.mem_keys.mpr (List.mem_of_mem_dropLast hdropped))

/-- The keys in front of an entry when another key moves or goes. -/
private theorem Recent.erase (hrecent : cache.Recent key others) (hother : other ≠ key) :
    ∃ front back, cache.entries.keys.erase other = front ++ key :: back ∧ ∀ other ∈ front, other ∈ others := by
  obtain ⟨front, back, hkeys, hfront⟩ := hrecent
  rw [hkeys, List.erase_append]
  split
  · exact ⟨front.erase other, back, rfl, fun other hmem => hfront other (List.mem_of_mem_erase hmem)⟩
  · rw [List.erase_cons_tail (by simpa using Ne.symm hother)]
    exact ⟨front, back.erase other, rfl, hfront⟩

private theorem Recent.of_moved {next : LruCache κ ν} (hrecent : cache.Recent key others)
    (hkeys : next.entries.keys = other :: cache.entries.keys.erase other) (hused : next.UsedAmong key others) :
    next.Recent key others := by
  by_cases hother : other = key
  · subst hother
    exact ⟨[], _, hkeys, by simp⟩
  · have hmem : other ∈ others := (hused other (by rw [newest, hkeys]; rfl)).resolve_left hother
    obtain ⟨front, back, herase, hfront⟩ := hrecent.erase hother
    refine ⟨other :: front, back, by rw [hkeys, herase]; rfl, ?_⟩
    exact List.forall_mem_cons.mpr ⟨hmem, hfront⟩

theorem Recent.modify (hrecent : cache.Recent key others) {f : ν → ν}
    (hused : (cache.modify other f).UsedAmong key others) : (cache.modify other f).Recent key others := by
  have hkeys := keys_modify cache other f
  split at hkeys
  · exact hrecent.of_moved hkeys hused
  · simpa only [Recent, hkeys] using hrecent

theorem Recent.pop (hrecent : cache.Recent key others) (hother : other ≠ key) :
    (cache.pop other).2.Recent key others := by
  obtain ⟨front, back, herase, hfront⟩ := hrecent.erase hother
  exact ⟨front, back, by simpa [LruCache.pop, AList.keys_erase] using herase, hfront⟩

/-- An entry is not evicted as long as fewer other keys have been used than the cache has room for. -/
theorem Recent.put (hrecent : cache.Recent key others) {value : ν}
    (hused : (cache.put other value).UsedAmong key others) (hothers : others.card < cache.cap) :
    (cache.put other value).Recent key others := by
  have hkeys := keys_put cache other value
  split at hkeys
  next => exact hrecent.of_moved hkeys hused
  next hnew =>
    obtain ⟨front, back, hbefore, hfront⟩ := hrecent
    have hne : other ≠ key := by
      rintro rfl
      exact hnew (AList.mem_keys.mpr (by simp [hbefore]))
    have hnewest : (cache.put other value).newest = some other := by
      rw [newest, hkeys]
      split <;> rfl
    have hall : ∀ used ∈ other :: front, used ∈ others :=
      List.forall_mem_cons.mpr ⟨(hused other hnewest).resolve_left hne, hfront⟩
    split at hkeys
    next => exact ⟨other :: front, back, by rw [hkeys, hbefore]; rfl, hall⟩
    next hfull =>
      have hback : back ≠ [] := by
        -- Were the key the victim, all the others in the cache and the new one would have been used since.
        rintro rfl
        have hnodup : (other :: front).Nodup := by
          refine List.nodup_cons.mpr ⟨fun hmem => hnew (AList.mem_keys.mpr (by simp [hbefore, hmem])), ?_⟩
          have hnodup := cache.entries.nodupKeys
          rw [List.NodupKeys, ← AList.keys, hbefore] at hnodup
          exact (List.nodup_append.mp hnodup).1
        have hsubset : (other :: front).toFinset ⊆ others := fun used hmem => hall used (List.mem_toFinset.mp hmem)
        have hcard := Finset.card_le_card hsubset
        rw [List.toFinset_card_of_nodup hnodup, List.length_cons] at hcard
        have hlen : cache.len = front.length + 1 := by
          have hlength := congrArg List.length hbefore
          simpa [len, AList.keys, List.keys] using hlength
        omega
      refine ⟨other :: front, back.dropLast, ?_, hall⟩
      rw [hkeys, hbefore, List.dropLast_append_cons, List.dropLast_cons_of_ne_nil hback]
      rfl

/-- What one operation makes of a cache, where only some keys may be removed. -/
inductive Touched (cache : LruCache κ ν) (removes : κ → Prop) : LruCache κ ν → Prop where
  | same : Touched cache removes cache
  | put (key : κ) (value : ν) : Touched cache removes (cache.put key value)
  | modify (key : κ) (f : ν → ν) : Touched cache removes (cache.modify key f)
  | pop {key : κ} (removed : removes key) : Touched cache removes (cache.pop key).2

section Touched

variable {removes : κ → Prop} {next : LruCache κ ν}

theorem Touched.cap_eq (htouched : cache.Touched removes next) : next.cap = cache.cap := by
  cases htouched with
  | same => rfl
  | put key value =>
    unfold LruCache.put
    split
    · rfl
    · split <;> rfl
  | modify key f =>
    unfold LruCache.modify
    split <;> rfl
  | pop _ => rfl

theorem Recent.touched (hrecent : cache.Recent key others) (htouched : cache.Touched removes next)
    (hkept : ¬ removes key) (hused : next.UsedAmong key others) (hothers : others.card < cache.cap) :
    next.Recent key others := by
  cases htouched with
  | same => exact hrecent
  | put _ value => exact hrecent.put hused hothers
  | modify _ f => exact hrecent.modify hused
  | pop hremoved =>
    refine hrecent.pop ?_
    rintro rfl
    exact hkept hremoved

end Touched

end Recency

end LruCache

end lru
