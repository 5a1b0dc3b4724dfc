/-!
# Association lists

A finite map kept as the list of its entries in the order in which their keys first came. `put`
replaces a value in place, so of several values given to a key the last one counts and the first one
fixes the place.
-/

namespace ContractCall.Assoc

variable {α β : Type}

/-- The value of a key. -/
def get? (entries : List (String × α)) (key : String) : Option α :=
  match entries with
  | [] => none
  | (k, v) :: rest => if k = key then some v else get? rest key

/-- The entries with a value for a key, in place of the one it had or else at the end. -/
def put (entries : List (String × α)) (key : String) (value : α) : List (String × α) :=
  match entries with
  | [] => [(key, value)]
  | (k, v) :: rest => if k = key then (k, value) :: rest else (k, v) :: put rest key value

/-- The map of a list of entries that may repeat keys. -/
def ofList (entries : List (String × α)) : List (String × α) :=
  entries.foldl (fun m e => put m e.1 e.2) []

/-- The keys in order. -/
def keys (entries : List (String × α)) : List String :=
  entries.map Prod.fst

@[simp] theorem get?_nil (key : String) : get? ([] : List (String × α)) key = none := rfl

@[simp] theorem get?_cons (k key : String) (v : α) (rest : List (String × α)) :
    get? ((k, v) :: rest) key = if k = key then some v else get? rest key := rfl

/-- What `put` does to look-up. -/
@[simp] theorem get?_put (entries : List (String × α)) (key : String) (value : α) (k : String) :
    get? (put entries key value) k = if key = k then some value else get? entries k := by
  induction entries with
  | nil => simp [put]
  | cons e rest ih =>
    obtain ⟨k', v⟩ := e
    by_cases h : k' = key
    · subst h
      by_cases h' : k' = k <;> simp [put, h']
    · by_cases h' : k' = k
      · subst h'
        simp [put, h, Ne.symm h]
      · simp [put, h, h', ih]

/-- `put` keeps the keys and adds its own at the end if it is new. -/
theorem keys_put (entries : List (String × α)) (key : String) (value : α) :
    keys (put entries key value) =
      if key ∈ keys entries then keys entries else keys entries ++ [key] := by
  induction entries with
  | nil => simp [put, keys]
  | cons e rest ih =>
    obtain ⟨k, v⟩ := e
    by_cases h : k = key
    · subst h
      simp [put, keys]
    · have hne : key ≠ k := Ne.symm h
      simp only [keys] at ih
      simp only [put, h, if_false, keys, List.map_cons, List.mem_cons, hne, false_or, ih]
      by_cases hk : key ∈ rest.map Prod.fst <;> simp [hk]

/-- The keys of a map are distinct. -/
theorem nodup_keys_put {entries : List (String × α)} (h : (keys entries).Nodup) (key : String)
    (value : α) : (keys (put entries key value)).Nodup := by
  rw [keys_put]
  split
  · exact h
  · rename_i hk
    rw [List.nodup_append]
    refine ⟨h, by simp, ?_⟩
    intro a ha b hb hab
    simp only [List.mem_singleton] at hb
    exact hk (hb ▸ hab ▸ ha)

theorem nodup_keys_foldl (new : List (String × α)) {entries : List (String × α)}
    (h : (keys entries).Nodup) :
    (keys (new.foldl (fun m e => put m e.1 e.2) entries)).Nodup := by
  induction new generalizing entries with
  | nil => exact h
  | cons e new ih => exact ih (nodup_keys_put h e.1 e.2)

theorem nodup_keys_ofList (entries : List (String × α)) : (keys (ofList entries)).Nodup :=
  nodup_keys_foldl entries (by simp [keys])

theorem get?_foldl_put (new entries : List (String × α)) (k : String) :
    get? (new.foldl (fun m e => put m e.1 e.2) entries) k =
      (get? (ofList new) k).or (get? entries k) := by
  induction new generalizing entries with
  | nil => rfl
  | cons e new ih =>
    have hn : ofList (e :: new) = new.foldl (fun m e => put m e.1 e.2) (put [] e.1 e.2) := rfl
    rw [List.foldl_cons, ih, hn, ih, Option.or_assoc]
    by_cases h : e.1 = k <;> simp [h]

/-- Later entries win. -/
theorem get?_ofList_append (old new : List (String × α)) (k : String) :
    get? (ofList (old ++ new)) k = (get? (ofList new) k).or (get? (ofList old) k) := by
  rw [ofList, List.foldl_append, get?_foldl_put]
  rfl

theorem mem_of_mem_put {entries : List (String × α)} {key : String} {value : α} {e : String × α}
    (h : e ∈ put entries key value) : e = (key, value) ∨ e ∈ entries := by
  induction entries with
  | nil => exact .inl (List.mem_singleton.mp h)
  | cons e' rest ih =>
    obtain ⟨k, v⟩ := e'
    rw [put] at h
    split at h
    · rename_i hk
      rcases List.mem_cons.mp h with h | h
      · exact .inl (hk ▸ h)
      · exact .inr (List.mem_cons_of_mem _ h)
    · rcases List.mem_cons.mp h with h | h
      · exact .inr (h ▸ List.mem_cons_self)
      · exact (ih h).imp_right (List.mem_cons_of_mem _)

theorem mem_of_mem_foldl_put {new entries : List (String × α)} {e : String × α}
    (h : e ∈ new.foldl (fun m e => put m e.1 e.2) entries) : e ∈ new ∨ e ∈ entries := by
  induction new generalizing entries with
  | nil => exact .inr h
  | cons e' new ih =>
    rcases ih h with h | h
    · exact .inl (List.mem_cons_of_mem _ h)
    · rcases mem_of_mem_put h with h | h
      · exact .inl (h ▸ List.mem_cons_self)
      · exact .inr h

/-- A map has only entries that it was made of. -/
theorem mem_of_mem_ofList {new : List (String × α)} {e : String × α} (h : e ∈ ofList new) :
    e ∈ new :=
  (mem_of_mem_foldl_put h).resolve_right List.not_mem_nil

theorem mem_of_get? {entries : List (String × α)} {k : String} {v : α}
    (h : get? entries k = some v) : (k, v) ∈ entries := by
  induction entries with
  | nil => cases h
  | cons e rest ih =>
    rw [get?_cons] at h
    split at h
    · rename_i hk
      cases h
      exact hk ▸ List.mem_cons_self
    · exact List.mem_cons_of_mem _ (ih h)

/-- A new key comes last. -/
theorem put_of_not_mem {entries : List (String × α)} {key : String} (h : key ∉ keys entries)
    (value : α) : put entries key value = entries ++ [(key, value)] := by
  induction entries with
  | nil => rfl
  | cons e rest ih =>
    obtain ⟨k, v⟩ := e
    rw [keys, List.map_cons, List.mem_cons, not_or] at h
    rw [put, if_neg (Ne.symm h.1), ih h.2, List.cons_append]

theorem foldl_put_of_nodup {new entries : List (String × α)} (h : (keys (entries ++ new)).Nodup) :
    new.foldl (fun m e => put m e.1 e.2) entries = entries ++ new := by
  induction new generalizing entries with
  | nil => exact (List.append_nil entries).symm
  | cons e new ih =>
    have hk : e.1 ∉ keys entries := by
      rw [keys, List.map_append, List.map_cons, List.nodup_append] at h
      exact fun hm => h.2.2 _ hm _ List.mem_cons_self rfl
    rw [List.foldl_cons, put_of_not_mem hk, ih (by simpa using h), List.append_assoc]
    rfl

/-- A value put under a key is seen only where the key is. -/
theorem filter_put (p : String → Bool) (entries : List (String × α)) (key : String) (value : α) :
    (put entries key value).filter (fun e => p e.1) =
      if p key then put (entries.filter fun e => p e.1) key value
      else entries.filter fun e => p e.1 := by
  induction entries with
  | nil => by_cases hp : p key <;> simp [put, hp]
  | cons e rest ih =>
    obtain ⟨k, v⟩ := e
    by_cases hk : k = key
    · subst hk
      by_cases hp : p k <;> simp [put, hp]
    · by_cases hp : p k <;> by_cases hq : p key <;> simp_all [put]

theorem filter_foldl_put (p : String → Bool) (new entries : List (String × α)) :
    (new.foldl (fun m e => put m e.1 e.2) entries).filter (fun e => p e.1) =
      (new.filter fun e => p e.1).foldl (fun m e => put m e.1 e.2)
        (entries.filter fun e => p e.1) := by
  induction new generalizing entries with
  | nil => rfl
  | cons e new ih =>
    rw [List.foldl_cons, ih, filter_put]
    by_cases hp : p e.1 <;> simp [hp]

/-- The part of a map under some keys is the map of the entries with these keys. -/
theorem filter_ofList (p : String → Bool) (entries : List (String × α)) :
    (ofList entries).filter (fun e => p e.1) = ofList (entries.filter fun e => p e.1) :=
  filter_foldl_put p entries []

/-- Entries with different keys are a map already. -/
theorem ofList_of_nodup {entries : List (String × α)} (h : (keys entries).Nodup) :
    ofList entries = entries :=
  foldl_put_of_nodup h

end ContractCall.Assoc
