import ComponentInliner.OrderedMap

/-!
# The algebra of ordered maps

A map with pairwise different keys is determined by its keys in their order and by what is found at
each of them (`Distinct.ext`). So two ways of building a map are compared by their keys and by their
lookups: adding one map to another is associative, and a later change of a key that only the second
map has may as well be made before the maps are put together.
-/

namespace ComponentInliner.OrderedMap

variable {Key Entry : Type} [DecidableEq Key]

section Lookup

variable {map other : OrderedMap Key Entry}

/-- Nothing is found exactly at the keys that are not present. -/
theorem get?_eq_none_iff {key : Key} : map.get? key = none ↔ key ∉ map.keys := by
  rcases map with ⟨entries⟩
  induction entries with
  | nil => simp [get?, keys]
  | cons first rest ih =>
      rcases first with ⟨present, entry⟩
      rw [get?_cons]
      by_cases isPresent : key = present
      · simp [keys, isPresent]
      · simpa [keys, isPresent] using ih

theorem keys_insert (map : OrderedMap Key Entry) (key : Key) (entry : Entry) :
    (map.insert key entry).keys = if key ∈ map.keys then map.keys else map.keys ++ [key] :=
  map_fst_setEntry key entry map.entries

theorem keys_erase (map : OrderedMap Key Entry) (key : Key) :
    (map.erase key).keys = map.keys.filter (· ≠ key) := by
  simp [erase, keys, List.filter_map, Function.comp_def]

/-- Removing a key changes what is found at that key and nothing else. -/
theorem get?_erase (map : OrderedMap Key Entry) (key other : Key) :
    (map.erase key).get? other = if other = key then none else map.get? other := by
  rcases map with ⟨entries⟩
  unfold erase
  induction entries with
  | nil => simp [get?]
  | cons first rest ih =>
      rcases first with ⟨present, entry⟩
      by_cases isErased : present = key
      · subst present
        rw [List.filter_cons_of_neg (by simp), ih, get?_cons]
        by_cases same : other = key
        · simp [same]
        · simp [same]
      · rw [List.filter_cons_of_pos (by simpa using isErased), get?_cons, ih, get?_cons]
        by_cases isPresent : other = present
        · simp [isPresent, isErased]
        · simp [isPresent]

/-- Maps with different keys are equal if they have the same keys in the same order and the same is
found at each. -/
theorem Distinct.ext (distinct : map.Distinct) (sameKeys : map.keys = other.keys)
    (sameEntries : ∀ key, map.get? key = other.get? key) : map = other := by
  rcases map with ⟨entries⟩
  rcases other with ⟨others⟩
  induction entries generalizing others with
  | nil => simpa [keys] using sameKeys
  | cons first rest ih =>
      cases others with
      | nil => simp [keys] at sameKeys
      | cons second later =>
          rcases first with ⟨key, entry⟩
          rcases second with ⟨key', entry'⟩
          rcases List.cons.inj sameKeys with ⟨rfl, laterKeys⟩
          rcases List.nodup_cons.mp distinct with ⟨fresh, restDistinct⟩
          have sameFirst := sameEntries key
          simp only [get?_cons, if_true] at sameFirst
          have sameLater : (⟨rest⟩ : OrderedMap Key Entry) = ⟨later⟩ := by
            refine ih restDistinct later laterKeys fun key' => ?_
            by_cases isFirst : key' = key
            · have freshLater : key ∉ (⟨later⟩ : OrderedMap Key Entry).keys := by
                rw [keys, ← laterKeys]
                exact fresh
              rw [isFirst, get?_eq_none_iff.mpr fresh, get?_eq_none_iff.mpr freshLater]
            · simpa only [get?_cons, isFirst, if_false] using sameEntries key'
          cases sameFirst
          cases sameLater
          rfl

end Lookup

section InsertAll

variable {map other last : OrderedMap Key Entry}

theorem insertAll_cons (key : Key) (entry : Entry) (rest : List (Key × Entry)) :
    map.insertAll ⟨(key, entry) :: rest⟩ = (map.insert key entry).insertAll ⟨rest⟩ :=
  rfl

/-- What a second map has at a key is found, and what the first one has where the second one has
nothing. -/
theorem get?_insertAll (distinct : other.Distinct) (key : Key) :
    (map.insertAll other).get? key = (other.get? key).or (map.get? key) := by
  rcases other with ⟨entries⟩
  induction entries generalizing map with
  | nil => simp [insertAll, get?]
  | cons first rest ih =>
      rcases first with ⟨present, entry⟩
      rcases List.nodup_cons.mp distinct with ⟨fresh, restDistinct⟩
      rw [insertAll_cons, ih restDistinct, get?_insert, get?_cons]
      by_cases isPresent : key = present
      · have absent := get?_eq_none_iff.mpr fresh
        rw [isPresent, absent]
        simp
      · simp [isPresent]

/-- The keys of the first map keep their places; the others follow in the order of the second. -/
theorem keys_insertAll (distinct : other.Distinct) :
    (map.insertAll other).keys = map.keys ++ other.keys.filter (· ∉ map.keys) := by
  rcases other with ⟨entries⟩
  induction entries generalizing map with
  | nil => simp [insertAll, keys]
  | cons first rest ih =>
      rcases first with ⟨present, entry⟩
      rcases List.nodup_cons.mp distinct with ⟨fresh, restDistinct⟩
      have cons : (⟨(present, entry) :: rest⟩ : OrderedMap Key Entry).keys =
          present :: (⟨rest⟩ : OrderedMap Key Entry).keys := rfl
      rw [insertAll_cons, ih restDistinct, keys_insert, cons]
      by_cases isPresent : present ∈ map.keys
      · simp [isPresent]
      · have notLater : ∀ key ∈ (⟨rest⟩ : OrderedMap Key Entry).keys, key ≠ present := by
          rintro key mem rfl
          exact fresh mem
        have sameRest : (⟨rest⟩ : OrderedMap Key Entry).keys.filter (· ∉ map.keys ++ [present]) =
            (⟨rest⟩ : OrderedMap Key Entry).keys.filter (· ∉ map.keys) := by
          refine List.filter_congr fun key mem => ?_
          simp [notLater key mem]
        rw [if_neg isPresent, List.filter_cons_of_pos (by simpa using isPresent), sameRest,
          List.append_assoc, List.singleton_append]

/-- It does not matter which two of three maps are put together first. -/
theorem insertAll_assoc (mapDistinct : map.Distinct) (otherDistinct : other.Distinct)
    (lastDistinct : last.Distinct) :
    (map.insertAll other).insertAll last = map.insertAll (other.insertAll last) := by
  refine Distinct.ext ((mapDistinct.insertAll other).insertAll last) ?_ fun key => ?_
  · rw [keys_insertAll lastDistinct, keys_insertAll otherDistinct,
      keys_insertAll (otherDistinct.insertAll last), keys_insertAll lastDistinct]
    simp only [List.filter_append, List.append_assoc, List.filter_filter]
    congr 2
    refine List.filter_congr fun key _ => ?_
    by_cases inMap : key ∈ map.keys
    · simp [inMap]
    · simp [inMap]
  · rw [get?_insertAll lastDistinct, get?_insertAll otherDistinct,
      get?_insertAll (otherDistinct.insertAll last), get?_insertAll lastDistinct, Option.or_assoc]

/-- A key that is set after the maps were put together may as well be set in the second one. -/
theorem insertAll_insert (mapDistinct : map.Distinct) (distinct : other.Distinct) (key : Key)
    (entry : Entry) :
    map.insertAll (other.insert key entry) = (map.insertAll other).insert key entry := by
  have distinct' := distinct.insert key entry
  refine Distinct.ext (mapDistinct.insertAll _) ?_ fun key' => ?_
  · rw [keys_insertAll distinct', keys_insert, keys_insert, keys_insertAll distinct]
    by_cases inMap : key ∈ map.keys
    · by_cases inOther : key ∈ other.keys
      · simp [inMap, inOther]
      · simp [inMap, inOther, List.filter_append]
    · by_cases inOther : key ∈ other.keys
      · simp [inMap, inOther]
      · simp [inMap, inOther, List.filter_append]
  · rw [get?_insertAll distinct', get?_insert, get?_insert, get?_insertAll distinct]
    by_cases same : key' = key
    · simp [same]
    · simp [same]

/-- A key that only the second map has may as well be removed from it before. -/
theorem insertAll_erase (mapDistinct : map.Distinct) (distinct : other.Distinct) {key : Key}
    (absent : key ∉ map.keys) :
    map.insertAll (other.erase key) = (map.insertAll other).erase key := by
  have distinct' := distinct.erase key
  refine Distinct.ext (mapDistinct.insertAll _) ?_ fun key' => ?_
  · have kept : map.keys.filter (· ≠ key) = map.keys := by
      refine List.filter_eq_self.mpr fun other mem => ?_
      simpa using fun same : other = key => absent (same ▸ mem)
    rw [keys_insertAll distinct', keys_erase, keys_erase, keys_insertAll distinct,
      List.filter_append, kept, List.filter_filter, List.filter_filter]
    congr 1
    refine List.filter_congr fun key' _ => ?_
    exact Bool.and_comm _ _
  · rw [get?_insertAll distinct', get?_erase, get?_erase, get?_insertAll distinct]
    by_cases same : key' = key
    · simp [same, get?_eq_none_iff.mpr absent]
    · simp [same]

end InsertAll

section MapEntries

variable {Other : Type} {map other : OrderedMap Key Entry} {change : Key → Entry → Other}

/-- The same keys with other entries. -/
def mapEntries (change : Key → Entry → Other) (map : OrderedMap Key Entry) :
    OrderedMap Key Other :=
  ⟨map.entries.map fun entry => (entry.1, change entry.1 entry.2)⟩

omit [DecidableEq Key] in
@[simp]
theorem keys_mapEntries : (map.mapEntries change).keys = map.keys := by
  simp [mapEntries, keys, Function.comp_def]

theorem get?_mapEntries (key : Key) :
    (map.mapEntries change).get? key = (map.get? key).map (change key) := by
  rcases map with ⟨entries⟩
  induction entries with
  | nil => rfl
  | cons first rest ih =>
      rcases first with ⟨present, entry⟩
      have cons : (⟨(present, entry) :: rest⟩ : OrderedMap Key Entry).mapEntries change =
          ⟨(present, change present entry) ::
            ((⟨rest⟩ : OrderedMap Key Entry).mapEntries change).entries⟩ := rfl
      rw [cons, get?_cons, get?_cons, ih]
      by_cases isPresent : key = present
      · simp [isPresent]
      · simp [isPresent]

omit [DecidableEq Key] in
theorem Distinct.mapEntries (distinct : map.Distinct) : (map.mapEntries change).Distinct := by
  rw [Distinct, keys_mapEntries]
  exact distinct

theorem mapEntries_insert (distinct : map.Distinct) (key : Key) (entry : Entry) :
    (map.insert key entry).mapEntries change =
      (map.mapEntries change).insert key (change key entry) := by
  refine (distinct.insert key entry).mapEntries.ext ?_ fun other => ?_
  · simp only [keys_mapEntries, keys_insert]
  · rw [get?_mapEntries, get?_insert, get?_insert, get?_mapEntries]
    by_cases same : other = key
    · simp [same]
    · simp [same]

theorem mapEntries_erase (distinct : map.Distinct) (key : Key) :
    (map.erase key).mapEntries change = (map.mapEntries change).erase key := by
  refine (distinct.erase key).mapEntries.ext ?_ fun other => ?_
  · simp only [keys_mapEntries, keys_erase]
  · rw [get?_mapEntries, get?_erase, get?_erase, get?_mapEntries]
    by_cases same : other = key
    · simp [same]
    · simp [same]

theorem mapEntries_insertAll (mapDistinct : map.Distinct) (distinct : other.Distinct) :
    (map.insertAll other).mapEntries change =
      (map.mapEntries change).insertAll (other.mapEntries change) := by
  refine (mapDistinct.insertAll other).mapEntries.ext ?_ fun key => ?_
  · simp only [keys_mapEntries, keys_insertAll distinct, keys_insertAll distinct.mapEntries]
  · rw [get?_mapEntries, get?_insertAll distinct, get?_insertAll distinct.mapEntries,
      get?_mapEntries, get?_mapEntries]
    cases other.get? key with
    | none => rfl
    | some entry => rfl

end MapEntries

section Entries

variable {map other : OrderedMap Key Entry} {holds : Entry → Prop}

theorem mem_of_get? {key : Key} {entry : Entry} (found : map.get? key = some entry) :
    (key, entry) ∈ map.entries := by
  rcases List.lookup_eq_some_iff.mp found with ⟨before, after, same, -⟩
  rw [same]
  exact List.mem_append_right _ (List.mem_cons_self ..)

theorem Distinct.mem_entries_iff (distinct : map.Distinct) {key : Key} {entry : Entry} :
    (key, entry) ∈ map.entries ↔ map.get? key = some entry :=
  ⟨distinct.get?_of_mem, mem_of_get?⟩

theorem mem_of_mem_setEntry {key : Key} {entry : Entry} {entries : List (Key × Entry)}
    {found : Key × Entry} (mem : found ∈ setEntry key entry entries) :
    found = (key, entry) ∨ found ∈ entries := by
  induction entries with
  | nil => exact .inl (List.mem_singleton.mp mem)
  | cons first rest ih =>
      rw [setEntry] at mem
      split at mem
      · next same =>
          rcases List.mem_cons.mp mem with rfl | mem
          · exact .inl (Prod.ext same rfl)
          · exact .inr (List.mem_cons_of_mem _ mem)
      · rcases List.mem_cons.mp mem with rfl | mem
        · exact .inr (List.mem_cons_self ..)
        · exact (ih mem).imp_right (List.mem_cons_of_mem _)

theorem mem_of_mem_insertAll {found : Key × Entry} (mem : found ∈ (map.insertAll other).entries) :
    found ∈ map.entries ∨ found ∈ other.entries := by
  rcases other with ⟨entries⟩
  induction entries generalizing map with
  | nil => exact .inl mem
  | cons first rest ih =>
      rcases first with ⟨key, entry⟩
      rw [insertAll_cons] at mem
      rcases ih mem with mem | mem
      · rcases mem_of_mem_setEntry mem with rfl | mem
        · exact .inr (List.mem_cons_self ..)
        · exact .inl mem
      · exact .inr (List.mem_cons_of_mem _ mem)

/-- A property holds of everything that a map has. -/
def All (map : OrderedMap Key Entry) (holds : Entry → Prop) : Prop :=
  ∀ entry ∈ map.entries, holds entry.2

namespace All

omit [DecidableEq Key] in
theorem empty : (empty : OrderedMap Key Entry).All holds :=
  fun _ mem => nomatch mem

theorem get? (all : map.All holds) {key : Key} {entry : Entry}
    (found : map.get? key = some entry) : holds entry :=
  all _ (mem_of_get? found)

theorem insert (all : map.All holds) (key : Key) {entry : Entry} (isHeld : holds entry) :
    (map.insert key entry).All holds := by
  intro found mem
  rcases mem_of_mem_setEntry mem with rfl | mem
  · exact isHeld
  · exact all found mem

theorem erase (all : map.All holds) (key : Key) : (map.erase key).All holds :=
  fun found mem => all found (List.mem_filter.mp mem).1

theorem insertAll (all : map.All holds) (otherAll : other.All holds) :
    (map.insertAll other).All holds := by
  intro found mem
  rcases mem_of_mem_insertAll mem with mem | mem
  · exact all found mem
  · exact otherAll found mem

end All

end Entries

section OfList

theorem entries_insert_of_not_mem {map : OrderedMap Key Entry} {key : Key} (absent : key ∉ map.keys)
    (entry : Entry) : (map.insert key entry).entries = map.entries ++ [(key, entry)] := by
  rcases map with ⟨entries⟩
  unfold insert
  induction entries with
  | nil => rfl
  | cons first rest ih =>
      rcases first with ⟨present, old⟩
      rcases List.ne_and_not_mem_of_not_mem_cons absent with ⟨different, absentLater⟩
      have later : setEntry key entry rest = rest ++ [(key, entry)] := ih absentLater
      simp only [setEntry, if_neg different.symm, later, List.cons_append]

theorem entries_erase_of_not_mem {map : OrderedMap Key Entry} {key : Key}
    (absent : key ∉ map.keys) : (map.erase key).entries = map.entries := by
  refine List.filter_eq_self.mpr fun entry mem => decide_eq_true ?_
  rintro rfl
  exact absent (List.mem_map_of_mem mem)

/-- Entries with new and different keys follow in their order. -/
theorem entries_insertAll {map other : OrderedMap Key Entry}
    (distinct : (map.keys ++ other.keys).Nodup) :
    (map.insertAll other).entries = map.entries ++ other.entries := by
  rcases other with ⟨entries⟩
  induction entries generalizing map with
  | nil => exact (List.append_nil _).symm
  | cons first rest ih =>
      rcases first with ⟨key, entry⟩
      have absent : key ∉ map.keys := fun mem =>
        (List.nodup_append.mp distinct).2.2 _ mem _ (List.mem_cons_self ..) rfl
      have inserted := entries_insert_of_not_mem absent entry
      have keysInserted : (map.insert key entry).keys = map.keys ++ [key] := by
        rw [keys_insert, if_neg absent]
      have distinctRest : ((map.insert key entry).keys ++
          (⟨rest⟩ : OrderedMap Key Entry).keys).Nodup := by
        rw [keysInserted, List.append_assoc]
        exact distinct
      rw [insertAll_cons, ih distinctRest, inserted, List.append_assoc, List.singleton_append]

/-- A map of entries with different keys has these entries in their order. -/
theorem entries_ofList {entries : List (Key × Entry)} (distinct : (entries.map Prod.fst).Nodup) :
    (ofList entries).entries = entries := by
  have fromEmpty : ((empty : OrderedMap Key Entry).keys ++
      (⟨entries⟩ : OrderedMap Key Entry).keys).Nodup := distinct
  exact entries_insertAll fromEmpty

/-- In a map of entries with different keys, what is found at a key is one of these entries. -/
theorem get?_ofList_eq_some_iff {entries : List (Key × Entry)}
    (distinct : (entries.map Prod.fst).Nodup) {key : Key} {entry : Entry} :
    (ofList entries).get? key = some entry ↔ (key, entry) ∈ entries := by
  rw [← (distinct_ofList entries).mem_entries_iff, entries_ofList distinct]

end OfList

end ComponentInliner.OrderedMap
