import Mathlib.Data.List.Induction
import Mathlib.Data.List.Nodup
import SentenceReader.Proofs.Text.Pieces
import SentenceReader.Proofs.Token.Merging

/-! Tables of options. What a written list of options says is the table that its entries build up, one
over the other, unless a key is not known. The entries of a second list build on the table of a first
one as its own table does, and a table that is written down is read again. -/
namespace SentenceReader

namespace OptionTable

def keys (table : OptionTable) : List Text := table.map Prod.fst

/-- A table with the entries of another one in place of those of the same keys, or behind them. -/
def update (table updates : OptionTable) : OptionTable :=
  updates.foldl (fun found e => found.set e.1 e.2) table

/-- The entries of a written list of options, as they come. -/
def entries (written : Text) : OptionTable := (items written).map entry

/-- An entry as an item of a written list of options. -/
def writeEntry (e : Text × Text) : Text := e.1 ++ '=' :: e.2

/-- A table as a written list of options. -/
def write (table : OptionTable) : Text := Text.join [','] (table.map writeEntry)

@[simp] theorem keys_nil : keys [] = [] := rfl

@[simp] theorem keys_cons (e : Text × Text) (table : OptionTable) :
    keys (e :: table) = e.1 :: keys table := rfl

@[simp] theorem keys_append (first second : OptionTable) :
    keys (first ++ second) = keys first ++ keys second := List.map_append

section Updating

@[simp] theorem update_nil (table : OptionTable) : table.update [] = table := rfl

@[simp] theorem update_cons (table updates : OptionTable) (e : Text × Text) :
    table.update (e :: updates) = (table.set e.1 e.2).update updates := rfl

theorem update_append (table first second : OptionTable) :
    table.update (first ++ second) = (table.update first).update second :=
  List.foldl_append

theorem keys_set (table : OptionTable) (key value : Text) :
    keys (table.set key value) = if key ∈ keys table then keys table else keys table ++ [key] := by
  induction table with
  | nil => rfl
  | cons e table ih =>
    by_cases he : e.1 = key
    · simp [set, he]
    · rw [set, if_neg he, keys_cons, ih, keys_cons]
      by_cases hm : key ∈ keys table
      · rw [if_pos hm, if_pos (List.mem_cons_of_mem _ hm)]
      · rw [if_neg hm, if_neg (by simp [hm, Ne.symm he]), List.cons_append]

theorem mem_keys_set (table : OptionTable) (key value : Text) : key ∈ keys (table.set key value) := by
  rw [keys_set]
  split
  · assumption
  · exact List.mem_append_right _ List.mem_cons_self

theorem set_of_not_mem {table : OptionTable} {key : Text} (h : key ∉ keys table) (value : Text) :
    table.set key value = table ++ [(key, value)] := by
  induction table with
  | nil => rfl
  | cons e table ih =>
    rw [keys_cons, List.mem_cons, not_or] at h
    rw [set, if_neg (Ne.symm h.1), ih h.2, List.cons_append]

@[simp] theorem set_set (table : OptionTable) (key value other : Text) :
    (table.set key value).set key other = table.set key other := by
  induction table with
  | nil => simp [set]
  | cons e table ih =>
    by_cases he : e.1 = key
    · simp [set, he]
    · simp [set, he, ih]

/-- A key that has its place already can be set at any time. -/
theorem set_comm {table : OptionTable} {key : Text} (h : key ∈ keys table) {other : Text}
    (hne : other ≠ key) (value otherValue : Text) :
    (table.set other otherValue).set key value = (table.set key value).set other otherValue := by
  induction table with
  | nil => cases h
  | cons e table ih =>
    by_cases hk : e.1 = key
    · simp [set, hk, Ne.symm hne]
    · have hmem : key ∈ keys table := (List.mem_cons.1 h).resolve_left (Ne.symm hk)
      by_cases ho : e.1 = other
      · simp [set, ho, hne]
      · simp [set, hk, ho, ih hmem]

theorem update_set_of_not_mem {updates : OptionTable} {key : Text} (hu : key ∉ keys updates)
    {table : OptionTable} (ht : key ∈ keys table) (value : Text) :
    (table.update updates).set key value = (table.set key value).update updates := by
  induction updates generalizing table with
  | nil => rfl
  | cons e updates ih =>
    rw [keys_cons, List.mem_cons, not_or] at hu
    have hmem : key ∈ keys (table.set e.1 e.2) := by
      rw [keys_set]
      split
      · exact ht
      · exact List.mem_append_left _ ht
    rw [update_cons, ih hu.2 hmem, set_comm ht (Ne.symm hu.1), update_cons]

theorem update_set {updates : OptionTable} (h : (keys updates).Nodup) (table : OptionTable)
    (key value : Text) :
    table.update (updates.set key value) = (table.update updates).set key value := by
  induction updates generalizing table with
  | nil => rfl
  | cons e updates ih =>
    obtain ⟨he, h⟩ := List.nodup_cons.1 h
    by_cases hk : e.1 = key
    · subst hk
      rw [set, if_pos rfl, update_cons, update_cons, update_set_of_not_mem he (mem_keys_set ..),
        set_set]
    · rw [set, if_neg hk, update_cons, update_cons, ih h]

theorem nodup_keys_set {table : OptionTable} (h : (keys table).Nodup) (key value : Text) :
    (keys (table.set key value)).Nodup := by
  rw [keys_set]
  split
  · exact h
  · next hk =>
    refine List.nodup_append.2 ⟨h, List.nodup_singleton key, fun k hm l hl => ?_⟩
    rw [List.mem_singleton.1 hl]
    rintro rfl
    exact hk hm

theorem nodup_keys_update {table : OptionTable} (h : (keys table).Nodup) (updates : OptionTable) :
    (keys (table.update updates)).Nodup := by
  induction updates generalizing table with
  | nil => exact h
  | cons e updates ih => exact ih (nodup_keys_set h e.1 e.2)

/-- Entries build on a table as the table that they are on their own does. -/
theorem update_update_nil (table updates : OptionTable) :
    table.update (update [] updates) = table.update updates := by
  induction updates using List.reverseRecOn with
  | nil => rfl
  | append_singleton updates e ih =>
    have hnodup : (keys (update [] updates)).Nodup := nodup_keys_update (by simp [keys]) updates
    rw [update_append, update_append, update_cons, update_cons, update_nil, update_nil,
      update_set hnodup, ih]

/-- Entries with different keys are a table as they are. -/
theorem update_nil_of_nodup {table : OptionTable} (h : (keys table).Nodup) : update [] table = table := by
  induction table using List.reverseRecOn with
  | nil => rfl
  | append_singleton table e ih =>
    rw [keys_append] at h
    obtain ⟨hnodup, -, hdisjoint⟩ := List.nodup_append.1 h
    have hmem : e.1 ∉ keys table := fun hm => hdisjoint _ hm _ List.mem_cons_self rfl
    rw [update_append, ih hnodup, update_cons, update_nil, set_of_not_mem hmem]

/-- Of the entries of one key the last one counts. -/
theorem lookup_update (table updates : OptionTable) (k : Text) :
    (table.update updates).lookup k = (updates.reverse.lookup k).or (table.lookup k) := by
  induction updates using List.reverseRecOn with
  | nil => rfl
  | append_singleton updates e ih =>
    rw [update_append, update_cons, update_nil, lookup_set, ih, List.reverse_append,
      List.reverse_singleton, List.singleton_append, List.lookup_cons]
    by_cases h : k = e.1
    · simp [h]
    · simp [h, beq_false_of_ne h]

/-- Keys stand where they came first. -/
theorem keys_update_nil (updates : OptionTable) :
    keys (update [] updates) = (keys updates).eraseDups := by
  induction updates using List.reverseRecOn with
  | nil => rfl
  | append_singleton updates e ih =>
    rw [update_append, update_cons, update_nil, keys_set, ih, keys_append, List.eraseDups_append]
    by_cases h : e.1 ∈ keys updates
    · have hlast : (keys [e]).removeAll (keys updates) = [] := by simp [List.removeAll, h]
      rw [if_pos (List.mem_eraseDups.2 h), hlast, List.eraseDups_nil, List.append_nil]
    · have hlast : (keys [e]).removeAll (keys updates) = [e.1] := by simp [List.removeAll, h]
      rw [if_neg (mt List.mem_eraseDups.1 h), hlast, List.eraseDups_cons, List.filter_nil,
        List.eraseDups_nil]

end Updating

section Reading

theorem entries_merge (a b : Text) : entries (merge [a, b]) = entries a ++ entries b := by
  rw [entries, items_merge, List.map_append, entries, entries]

theorem addItems_eq (known : List Text) (table : OptionTable) (items : List Text) :
    addItems known table items =
      match (keys (items.map entry)).find? (· ∉ known) with
      | some key => .error key
      | none => .ok (table.update (items.map entry)) := by
  induction items generalizing table with
  | nil => rfl
  | cons item items ih =>
    rw [addItems, List.map_cons, keys_cons, List.find?_cons]
    by_cases h : (entry item).1 ∈ known
    · simp only [h, if_true, ih, not_true_eq_false, decide_false, update_cons]
    · simp [h]

/-- A written list of options says the table of its entries, unless one of their keys is not known. -/
theorem read_eq (known : List Text) (written : Text) :
    read known written =
      match (keys (entries written)).find? (· ∉ known) with
      | some key => .error key
      | none => .ok (update [] (entries written)) :=
  addItems_eq known [] (items written)

theorem read_eq_ok_iff (known : List Text) (written : Text) (table : OptionTable) :
    read known written = .ok table ↔
      (∀ key ∈ keys (entries written), key ∈ known) ∧ update [] (entries written) = table := by
  rw [read_eq]
  cases h : (keys (entries written)).find? (· ∉ known) with
  | none =>
    have hknown : ∀ key ∈ keys (entries written), key ∈ known := by simpa using h
    rw [Except.ok.injEq]
    exact (and_iff_right hknown).symm
  | some key =>
    have hmem := List.mem_of_find?_eq_some h
    have hkey := List.find?_some h
    simp only [reduceCtorEq, false_iff, not_and]
    intro hknown
    simp [hknown key hmem] at hkey

theorem read_eq_error_iff (known : List Text) (written key : Text) :
    read known written = .error key ↔ (keys (entries written)).find? (· ∉ known) = some key := by
  rw [read_eq]
  cases (keys (entries written)).find? (· ∉ known) <;> simp

end Reading

section Writing

/-- An entry that can be written down: neither the key nor the value can be mistaken for anything
else, and there is a value. -/
structure IsWritable (e : Text × Text) : Prop where
  key_trimmed : Text.IsTrimmed e.1
  key_solid : ',' ∉ e.1 ∧ '=' ∉ e.1
  value_trimmed : Text.IsTrimmed e.2
  value_solid : ',' ∉ e.2
  value_ne_nil : e.2 ≠ []

theorem isWritable_entry {item : Text} (ht : Text.IsTrimmed item) (hc : ',' ∉ item) :
    IsWritable (entry item) := by
  have hcomma {part : Text} (hp : part.Sublist item) : ',' ∉ Text.trim part := fun h =>
    hc (hp.subset ((Text.trim_sublist part).subset h))
  have hkey {front : Text} (hf : front.Sublist item) (he : '=' ∉ front) :
      Text.IsTrimmed (Text.trim front) ∧ ',' ∉ Text.trim front ∧ '=' ∉ Text.trim front :=
    ⟨Text.isTrimmed_trim front, hcomma hf, fun h => he ((Text.trim_sublist front).subset h)⟩
  have hdefault : Text.IsTrimmed defaultValue ∧ ',' ∉ defaultValue ∧ defaultValue ≠ [] :=
    ⟨⟨fun | _, rfl => rfl, fun | _, rfl => rfl⟩, by decide, by decide⟩
  unfold entry
  split
  · next key hcut =>
    obtain ⟨rfl, he⟩ := Text.cut_eq_none hcut
    obtain ⟨hk, hs⟩ := hkey (List.Sublist.refl item) he
    exact ⟨hk, hs, hdefault.1, hdefault.2.1, hdefault.2.2⟩
  · next key hcut =>
    obtain ⟨rfl, he⟩ := Text.cut_eq_some hcut
    obtain ⟨hk, hs⟩ := hkey (List.sublist_append_left key _) he
    exact ⟨hk, hs, hdefault.1, hdefault.2.1, hdefault.2.2⟩
  · next key value hne hcut =>
    obtain ⟨rfl, he⟩ := Text.cut_eq_some hcut
    obtain ⟨hk, hs⟩ := hkey (List.sublist_append_left key _) he
    have hvalue : value.Sublist (key ++ '=' :: value) :=
      (List.sublist_cons_self '=' value).trans (List.sublist_append_right key _)
    refine ⟨hk, hs, Text.isTrimmed_trim value, hcomma hvalue, ?_⟩
    -- The last character of the value is the one of the item, which is no white space.
    cases hl : value.getLast? with
    | none => exact absurd (List.getLast?_eq_none_iff.1 hl) hne
    | some c =>
      refine Text.trim_ne_nil (List.mem_of_getLast? hl) (ht.last c ?_)
      simp [List.getLast?_append, List.getLast?_cons, hl]

/-- The items of a written list of options have no comma, and no white space at their ends. -/
theorem isWritable_of_mem_entries {written : Text} {e : Text × Text} (h : e ∈ entries written) :
    IsWritable e := by
  obtain ⟨item, hitem, rfl⟩ := List.mem_map.1 h
  obtain ⟨piece, hpiece, rfl⟩ := List.mem_map.1 (List.mem_filter.1 hitem).1
  refine isWritable_entry (Text.isTrimmed_trim piece) fun hc => ?_
  exact Text.not_mem_of_mem_fields hpiece ((Text.trim_sublist piece).subset hc)

theorem mem_of_mem_set {table : OptionTable} {key value : Text} {e : Text × Text}
    (h : e ∈ table.set key value) : e = (key, value) ∨ e ∈ table := by
  induction table with
  | nil => exact .inl (List.mem_singleton.1 h)
  | cons first table ih =>
    rw [set] at h
    split at h
    · rcases List.mem_cons.1 h with rfl | h
      · exact .inl rfl
      · exact .inr (List.mem_cons_of_mem first h)
    · rcases List.mem_cons.1 h with rfl | h
      · exact .inr List.mem_cons_self
      · exact (ih h).imp_right (List.mem_cons_of_mem first)

theorem mem_of_mem_update {table updates : OptionTable} {e : Text × Text}
    (h : e ∈ table.update updates) : e ∈ updates ∨ e ∈ table := by
  induction updates generalizing table with
  | nil => exact .inr h
  | cons first updates ih =>
    rcases ih h with h | h
    · exact .inl (List.mem_cons_of_mem first h)
    · rcases mem_of_mem_set h with rfl | h
      · exact .inl List.mem_cons_self
      · exact .inr h

theorem isWritable_of_read {known : List Text} {written : Text} {table : OptionTable}
    (h : read known written = .ok table) : ∀ e ∈ table, IsWritable e := by
  obtain ⟨-, rfl⟩ := (read_eq_ok_iff known written table).1 h
  intro e he
  rcases mem_of_mem_update he with he | he
  · exact isWritable_of_mem_entries he
  · cases he

theorem isTrimmed_writeEntry {e : Text × Text} (h : IsWritable e) :
    Text.IsTrimmed (writeEntry e) := by
  constructor
  · intro c hc
    cases hk : e.1.head? with
    | none =>
      obtain rfl : '=' = c := by simpa [writeEntry, List.head?_append, hk] using hc
      decide
    | some d =>
      obtain rfl : d = c := by simpa [writeEntry, List.head?_append, hk] using hc
      exact h.key_trimmed.head d hk
  · intro c hc
    refine h.value_trimmed.last c ?_
    cases hv : e.2.getLast? with
    | none => exact absurd (List.getLast?_eq_none_iff.1 hv) h.value_ne_nil
    | some d => simpa [writeEntry, List.getLast?_append, List.getLast?_cons, hv] using hc

theorem entry_writeEntry {e : Text × Text} (h : IsWritable e) : entry (writeEntry e) = e := by
  have hcut := Text.cut_append_cons h.key_solid.2 e.2
  rw [entry, writeEntry, hcut]
  cases hv : e.2 with
  | nil => exact absurd hv h.value_ne_nil
  | cons c value =>
    simp only [← hv, h.key_trimmed.trim_eq, h.value_trimmed.trim_eq]

theorem entries_write {table : OptionTable} (h : ∀ e ∈ table, IsWritable e) :
    entries (write table) = table := by
  have hfields : table ≠ [] → Text.fields ',' (write table) = table.map writeEntry := by
    intro hne
    refine List.splitOn_intercalate ',' (fun item hitem => ?_) (by simpa using hne)
    obtain ⟨e, he, rfl⟩ := List.mem_map.1 hitem
    simp [writeEntry, (h e he).key_solid.1, (h e he).value_solid]
  have hitems : items (write table) = table.map writeEntry := by
    cases table with
    | nil => rfl
    | cons first table =>
      rw [items, hfields (List.cons_ne_nil first table), List.map_map]
      have hid : (first :: table).map (Text.trim ∘ writeEntry) = (first :: table).map writeEntry :=
        List.map_congr_left fun e he => (isTrimmed_writeEntry (h e he)).trim_eq
      rw [hid, List.filter_eq_self]
      intro item hitem
      obtain ⟨e, -, rfl⟩ := List.mem_map.1 hitem
      simp [writeEntry]
  rw [entries, hitems, List.map_map]
  exact (List.map_congr_left fun e he => entry_writeEntry (h e he)).trans (List.map_id table)

/-- A table that was read is read again as it is written down. -/
theorem read_write {known : List Text} {written : Text} {table : OptionTable}
    (h : read known written = .ok table) : read known (write table) = .ok table := by
  have hentries := entries_write (isWritable_of_read h)
  obtain ⟨hknown, rfl⟩ := (read_eq_ok_iff known written table).1 h
  refine (read_eq_ok_iff known _ _).2 ⟨fun key hkey => hknown key ?_, ?_⟩
  · rw [hentries, keys_update_nil] at hkey
    exact List.mem_eraseDups.1 hkey
  · have hnodup : (keys (update [] (entries written))).Nodup :=
      nodup_keys_update (by simp) _
    rw [hentries, update_nil_of_nodup hnodup]

end Writing

end OptionTable

end SentenceReader
