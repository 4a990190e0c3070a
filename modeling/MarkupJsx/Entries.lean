/-!
# Entries: values under string keys, in written order

A JSON object, the properties of an element and the declarations of an inline style are all the
same kind of thing: values listed under names, where the order of the names is part of the answer.
A hash table would lose that order, so entries are a plain list of pairs, and the two operations
that a table needs are written on the list.

## What writing a key twice means

`insert` replaces the value of a key that is already there and leaves the key where it was first
written; a new key goes to the end.  So a list built by `insert` never holds a key twice, keeps
the first place of every key, and keeps the last value that was written under it.
-/

namespace MarkupJsx

/-- Values listed under string keys, in the order in which the keys were first written. -/
abbrev Entries (α : Type) := List (String × α)

namespace Entries

variable {α β : Type}

/-- The value under a key: that of the first pair that has it. -/
def get? (key : String) (entries : Entries α) : Option α :=
  List.lookup key entries

@[simp] theorem get?_nil (key : String) : get? key ([] : Entries α) = none := rfl

theorem get?_cons (key k : String) (value : α) (rest : Entries α) :
    get? key ((k, value) :: rest) = if key = k then some value else get? key rest := by
  by_cases h : key = k
  · simp [get?, h]
  · have hk : (key == k) = false := by simpa using h
    simp [get?, List.lookup_cons, h, hk]

/-- The entries in front are looked at first. -/
theorem get?_append (key : String) (entries others : Entries α) :
    get? key (entries ++ others) = (get? key entries).or (get? key others) :=
  List.lookup_append

/-- Writes a value under a key: in place where the key is there, at the end where it is new. -/
def insert (key : String) (value : α) : Entries α → Entries α
  | [] => [(key, value)]
  | (k, old) :: rest => if k = key then (k, value) :: rest else (k, old) :: insert key value rest

@[simp] theorem insert_nil (key : String) (value : α) :
    insert key value [] = [(key, value)] := rfl

theorem insert_cons (key k : String) (value old : α) (rest : Entries α) :
    insert key value ((k, old) :: rest) =
      if k = key then (k, value) :: rest else (k, old) :: insert key value rest := rfl

/-- What was written last is what is read back. -/
@[simp] theorem get?_insert_self (key : String) (value : α) (entries : Entries α) :
    get? key (insert key value entries) = some value := by
  induction entries with
  | nil => simp [get?_cons]
  | cons head rest ih =>
    obtain ⟨k, old⟩ := head
    by_cases h : k = key
    · simp [insert_cons, h, get?_cons]
    · have hk : ¬key = k := fun e => h e.symm
      simp [insert_cons, h, get?_cons, ih, hk]

/-- What is written under one key changes nothing under another. -/
theorem get?_insert_of_ne {key other : String} (h : other ≠ key) (value : α)
    (entries : Entries α) : get? other (insert key value entries) = get? other entries := by
  induction entries with
  | nil => rw [insert_nil, get?_cons, if_neg h]
  | cons head rest ih =>
    obtain ⟨k, old⟩ := head
    rw [insert_cons]
    split
    · rename_i hk
      rw [get?_cons, get?_cons, hk, if_neg h, if_neg h]
    · rw [get?_cons, get?_cons, ih]

/-- What is written over a value leaves no trace of it. -/
theorem insert_insert_self (key : String) (value old : α) (entries : Entries α) :
    insert key value (insert key old entries) = insert key value entries := by
  induction entries with
  | nil => rw [insert_nil, insert_cons, if_pos rfl, insert_nil]
  | cons head rest ih =>
    obtain ⟨k, first⟩ := head
    by_cases h : k = key
    · rw [insert_cons, if_pos h, insert_cons, if_pos h, insert_cons, if_pos h]
    · rw [insert_cons, if_neg h, insert_cons, if_neg h, ih, insert_cons, if_neg h]

/-- What is there already can be written over itself. -/
theorem insert_of_get? {key : String} {value : α} {entries : Entries α}
    (h : get? key entries = some value) : insert key value entries = entries := by
  induction entries with
  | nil => exact nomatch h
  | cons head rest ih =>
    obtain ⟨k, old⟩ := head
    rw [get?_cons] at h
    rw [insert_cons]
    by_cases hkey : key = k
    · rw [if_pos hkey] at h
      rw [if_pos hkey.symm, Option.some.inj h]
    · rw [if_neg hkey] at h
      rw [if_neg (Ne.symm hkey), ih h]

/-- The entries without a key. -/
def erase (key : String) (entries : Entries α) : Entries α :=
  entries.filter fun entry => entry.1 ≠ key

/-- What has been taken away is not there. -/
theorem get?_erase_self (key : String) (entries : Entries α) :
    get? key (erase key entries) = none := by
  induction entries with
  | nil => rfl
  | cons head rest ih =>
    obtain ⟨k, value⟩ := head
    by_cases hkey : k = key
    · rw [erase, List.filter_cons_of_neg (by simpa using hkey)]
      exact ih
    · rw [erase, List.filter_cons_of_pos (by simpa using hkey), get?_cons,
        if_neg fun h => hkey h.symm]
      exact ih

/-- Under another key there is what was there. -/
theorem get?_erase_of_ne {key other : String} (h : key ≠ other) (entries : Entries α) :
    get? key (erase other entries) = get? key entries := by
  induction entries with
  | nil => rfl
  | cons head rest ih =>
    obtain ⟨k, value⟩ := head
    by_cases hk : k = other
    · have hkey : key ≠ k := fun heq => h (heq.trans hk)
      rw [erase, List.filter_cons_of_neg (by simpa using hk), get?_cons, if_neg hkey]
      exact ih
    · rw [erase, List.filter_cons_of_pos (by simpa using hk), get?_cons, get?_cons]
      exact congrArg (if key = k then some value else ·) ih

theorem erase_erase_self (key : String) (entries : Entries α) :
    erase key (erase key entries) = erase key entries := by
  rw [erase, erase, List.filter_filter]
  simp only [Bool.and_self]

/-- The keys, in order. -/
def keys (entries : Entries α) : List String :=
  entries.map Prod.fst

@[simp] theorem keys_nil : keys ([] : Entries α) = [] := rfl

@[simp] theorem keys_cons (entry : String × α) (rest : Entries α) :
    keys (entry :: rest) = entry.1 :: keys rest := rfl

@[simp] theorem keys_append (entries others : Entries α) :
    keys (entries ++ others) = keys entries ++ keys others :=
  List.map_append

/-- The entries that arise when pairs are written one after the other. -/
def ofPairs (pairs : List (String × α)) : Entries α :=
  pairs.foldl (fun entries pair => insert pair.1 pair.2 entries) []

/-- A key that is there already stays where it is; a new one goes to the end. -/
theorem keys_insert (key : String) (value : α) (entries : Entries α) :
    keys (insert key value entries) =
      if key ∈ keys entries then keys entries else keys entries ++ [key] := by
  induction entries with
  | nil => simp
  | cons head rest ih =>
    obtain ⟨k, old⟩ := head
    by_cases h : k = key
    · simp [insert_cons, h]
    · have hk : ¬key = k := fun e => h e.symm
      by_cases hmem : key ∈ keys rest <;> simp [insert_cons, h, hk, hmem, ih]

theorem insert_of_not_mem {key : String} {entries : Entries α} (h : key ∉ keys entries)
    (value : α) : insert key value entries = entries ++ [(key, value)] := by
  induction entries with
  | nil => rfl
  | cons head rest ih =>
    obtain ⟨k, old⟩ := head
    rw [keys_cons, List.mem_cons, not_or] at h
    rw [insert_cons, if_neg (Ne.symm h.1), ih h.2, List.cons_append]

/-- Writing adds no key that is there already. -/
theorem nodup_keys_insert {entries : Entries α} (h : (keys entries).Nodup) (key : String)
    (value : α) : (keys (insert key value entries)).Nodup := by
  rw [keys_insert]
  split
  · exact h
  · rename_i hfresh
    refine List.nodup_append.2 ⟨h, by simp, fun other hother new hnew => ?_⟩
    rw [List.mem_singleton.1 hnew]
    rintro rfl
    exact hfresh hother

/-- **What is written one after the other has no key twice.** -/
theorem nodup_keys_ofPairs (pairs : List (String × α)) : (keys (ofPairs pairs)).Nodup := by
  have hgeneral : ∀ entries : Entries α, (keys entries).Nodup →
      (keys (pairs.foldl (fun entries pair => insert pair.1 pair.2 entries) entries)).Nodup := by
    induction pairs with
    | nil => exact fun entries h => h
    | cons pair rest ih => exact fun entries h => ih _ (nodup_keys_insert h pair.1 pair.2)
  exact hgeneral [] List.nodup_nil

/-- Pairs without a key that is there twice are entries as they are. -/
theorem ofPairs_of_nodup {pairs : List (String × α)} (h : (keys pairs).Nodup) :
    ofPairs pairs = pairs := by
  have hgeneral : ∀ entries : Entries α, (keys (entries ++ pairs)).Nodup →
      pairs.foldl (fun entries pair => insert pair.1 pair.2 entries) entries =
        entries ++ pairs := by
    clear h
    induction pairs with
    | nil => exact fun entries _ => (List.append_nil entries).symm
    | cons pair rest ih =>
      intro entries h
      have hfresh : pair.1 ∉ keys entries := by
        rw [keys_append, keys_cons] at h
        exact fun hmem => (List.nodup_append.1 h).2.2 _ hmem _ List.mem_cons_self rfl
      rw [List.foldl_cons, insert_of_not_mem hfresh, ih _ (by simpa using h), List.append_assoc,
        List.singleton_append]
  exact hgeneral [] h

/-- The keys are those of the pairs that were written. -/
theorem mem_keys_ofPairs {key : String} {pairs : List (String × α)} :
    key ∈ keys (ofPairs pairs) ↔ key ∈ keys pairs := by
  have hgeneral : ∀ entries : Entries α,
      key ∈ keys (pairs.foldl (fun entries pair => insert pair.1 pair.2 entries) entries) ↔
        key ∈ keys entries ∨ key ∈ keys pairs := by
    induction pairs with
    | nil => simp
    | cons pair rest ih =>
      intro entries
      rw [List.foldl_cons, ih, keys_insert, keys_cons, List.mem_cons]
      split
      · rename_i hthere
        constructor
        · rintro (h | h)
          · exact .inl h
          · exact .inr (.inr h)
        · rintro (h | rfl | h)
          · exact .inl h
          · exact .inl hthere
          · exact .inr h
      · rw [List.mem_append, List.mem_singleton, or_assoc]
  simpa [ofPairs] using hgeneral []

/-- Entries under other keys. -/
def renamed (f : String → String) (entries : Entries α) : Entries α :=
  entries.map fun entry => (f entry.1, entry.2)

@[simp] theorem keys_renamed (f : String → String) (entries : Entries α) :
    keys (renamed f entries) = (keys entries).map f := by
  rw [keys, renamed, List.map_map, keys, List.map_map]
  rfl

/-- Where no other key becomes the same, it is no matter whether a value is written before or after
the keys are changed. -/
theorem insert_renamed {f : String → String} {key : String} {entries : Entries α}
    (h : ∀ other ∈ keys entries, f other = f key → other = key) (value : α) :
    insert (f key) value (renamed f entries) = renamed f (insert key value entries) := by
  induction entries with
  | nil => rfl
  | cons head rest ih =>
    obtain ⟨k, old⟩ := head
    have ih := ih fun other hother => h other (List.mem_cons_of_mem k hother)
    by_cases hk : k = key
    · rw [insert_cons, if_pos hk]
      exact if_pos (congrArg f hk)
    · have hf : f k ≠ f key := fun heq => hk (h k List.mem_cons_self heq)
      rw [insert_cons, if_neg hk]
      show (if f k = f key then _ else _) = (f k, old) :: renamed f (insert key value rest)
      rw [if_neg hf, ← ih]
      rfl

/-- **Where no two keys become one, pairs can be written under their new keys.** -/
theorem ofPairs_renamed {f : String → String} {pairs : List (String × α)}
    (h : ∀ key ∈ keys pairs, ∀ other ∈ keys pairs, f other = f key → other = key) :
    ofPairs (renamed f pairs) = renamed f (ofPairs pairs) := by
  have hgeneral : ∀ written : List (String × α), (∀ key ∈ keys written, key ∈ keys pairs) →
      ∀ entries : Entries α, (∀ key ∈ keys entries, key ∈ keys pairs) →
        (renamed f written).foldl (fun entries pair => insert pair.1 pair.2 entries)
            (renamed f entries) =
          renamed f (written.foldl (fun entries pair => insert pair.1 pair.2 entries) entries) := by
    intro written
    induction written with
    | nil => exact fun _ entries _ => rfl
    | cons pair rest ih =>
      intro hwritten entries hentries
      have hpair : pair.1 ∈ keys pairs := hwritten pair.1 List.mem_cons_self
      have hinsert :=
        insert_renamed (fun other hother => h pair.1 hpair other (hentries other hother)) pair.2
      show (renamed f rest).foldl _ (insert (f pair.1) pair.2 (renamed f entries)) = _
      rw [hinsert]
      refine ih (fun key hkey => hwritten key (List.mem_cons_of_mem _ hkey)) _ fun key hkey => ?_
      rw [keys_insert] at hkey
      split at hkey
      · exact hentries key hkey
      · rcases List.mem_append.1 hkey with hkey | hkey
        · exact hentries key hkey
        · rw [List.mem_singleton.1 hkey]
          exact hpair
  exact hgeneral pairs (fun _ hkey => hkey) [] fun _ hkey => (List.not_mem_nil hkey).elim

/-- Decodes every value, if every value can be decoded. -/
def mapM? (decode : α → Option β) : Entries α → Option (Entries β)
  | [] => some []
  | (key, value) :: rest => do
    let value ← decode value
    let rest ← mapM? decode rest
    some ((key, value) :: rest)

end Entries
end MarkupJsx
