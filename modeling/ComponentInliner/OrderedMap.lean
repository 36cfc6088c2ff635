/-!
# Maps that remember insertion order

An `OrderedMap` is a list of entries with pairwise different keys. Setting a key that is present
replaces its value in place; a new key goes to the end. Removing a key and setting it again
therefore moves it to the end. The order of the entries shows in every output of the program:
properties of an object, registered components, exported names.
-/

namespace ComponentInliner

/-- A finite map whose entries keep the order in which their keys were first set. -/
structure OrderedMap (Key : Type) (Entry : Type) where
  entries : List (Key × Entry)
  deriving Repr

namespace OrderedMap

variable {Key Entry : Type} [DecidableEq Key]

def empty : OrderedMap Key Entry := ⟨[]⟩

instance : Inhabited (OrderedMap Key Entry) := ⟨empty⟩

def keys (map : OrderedMap Key Entry) : List Key :=
  map.entries.map Prod.fst

def values (map : OrderedMap Key Entry) : List Entry :=
  map.entries.map Prod.snd

def size (map : OrderedMap Key Entry) : Nat :=
  map.entries.length

def get? (map : OrderedMap Key Entry) (key : Key) : Option Entry :=
  map.entries.lookup key

def contains (map : OrderedMap Key Entry) (key : Key) : Bool :=
  (map.get? key).isSome

/-- Sets a key in a list of entries: in place if it is present, else at the end. -/
def setEntry (key : Key) (entry : Entry) : List (Key × Entry) → List (Key × Entry)
  | [] => [(key, entry)]
  | (present, old) :: rest =>
      if present = key then (present, entry) :: rest else (present, old) :: setEntry key entry rest

/-- Sets a key: in place if it is present, else at the end. -/
def insert (map : OrderedMap Key Entry) (key : Key) (entry : Entry) : OrderedMap Key Entry :=
  ⟨setEntry key entry map.entries⟩

@[simp]
theorem get?_empty (key : Key) : (empty : OrderedMap Key Entry).get? key = none := rfl

theorem get?_cons (present key : Key) (entry : Entry) (rest : List (Key × Entry)) :
    (⟨(present, entry) :: rest⟩ : OrderedMap Key Entry).get? key =
      if key = present then some entry else (⟨rest⟩ : OrderedMap Key Entry).get? key := by
  by_cases isPresent : key = present
  · simp [get?, isPresent]
  · simp [get?, List.lookup_cons, beq_false_of_ne isPresent, isPresent]

theorem lookup_setEntry (key other : Key) (entry : Entry) (entries : List (Key × Entry)) :
    (setEntry key entry entries).lookup other =
      if other = key then some entry else entries.lookup other := by
  induction entries with
  | nil =>
      by_cases same : other = key
      · simp [setEntry, same]
      · simp [setEntry, List.lookup_cons, beq_false_of_ne same, same]
  | cons first rest ih =>
      rcases first with ⟨present, old⟩
      by_cases isPresent : present = key
      · subst present
        by_cases same : other = key
        · simp [setEntry, same]
        · simp [setEntry, List.lookup_cons, beq_false_of_ne same, same]
      · by_cases atFirst : other = present
        · subst other
          simp [setEntry, isPresent]
        · simp [setEntry, isPresent, List.lookup_cons, beq_false_of_ne atFirst, ih]

/-- Setting a key changes what is found at that key and nothing else. -/
theorem get?_insert (map : OrderedMap Key Entry) (key other : Key) (entry : Entry) :
    (map.insert key entry).get? other = if other = key then some entry else map.get? other :=
  lookup_setEntry key other entry map.entries

/-- Setting a key adds it at the end unless it is present. -/
theorem map_fst_setEntry (key : Key) (entry : Entry) (entries : List (Key × Entry)) :
    (setEntry key entry entries).map Prod.fst =
      if key ∈ entries.map Prod.fst then entries.map Prod.fst
      else entries.map Prod.fst ++ [key] := by
  induction entries with
  | nil => simp [setEntry]
  | cons first rest ih =>
      rcases first with ⟨present, old⟩
      by_cases isPresent : present = key
      · simp [setEntry, isPresent]
      · by_cases isLater : key ∈ rest.map Prod.fst
        · simp only [isLater, if_true] at ih
          simp [setEntry, isPresent, ih, List.mem_cons, isLater]
        · simp only [isLater, if_false] at ih
          have absent : key ∉ present :: rest.map Prod.fst := by
            simp [Ne.symm isPresent, isLater]
          simp only [setEntry, isPresent, if_false, List.map_cons, ih, absent, List.cons_append]

def erase (map : OrderedMap Key Entry) (key : Key) : OrderedMap Key Entry :=
  ⟨map.entries.filter fun entry => entry.1 ≠ key⟩

/-- Sets all keys of a second map in its order. -/
def insertAll (map other : OrderedMap Key Entry) : OrderedMap Key Entry :=
  other.entries.foldl (fun map entry => map.insert entry.1 entry.2) map

def ofList (entries : List (Key × Entry)) : OrderedMap Key Entry :=
  entries.foldl (fun map entry => map.insert entry.1 entry.2) empty

/-- The keys of a map are pairwise different. -/
def Distinct (map : OrderedMap Key Entry) : Prop :=
  map.keys.Nodup

omit [DecidableEq Key] in
theorem distinct_empty : (empty : OrderedMap Key Entry).Distinct :=
  List.nodup_nil

namespace Distinct

variable {map : OrderedMap Key Entry}

theorem insert (distinct : map.Distinct) (key : Key) (entry : Entry) :
    (map.insert key entry).Distinct := by
  unfold Distinct keys OrderedMap.insert
  rw [map_fst_setEntry]
  split
  · exact distinct
  · next absent =>
      refine List.nodup_append.mpr ⟨distinct, List.pairwise_singleton _ key, ?_⟩
      intro present mem other isKey same
      rw [List.mem_singleton.mp isKey] at same
      exact absent (same ▸ mem)

theorem insertEntries (distinct : map.Distinct) (entries : List (Key × Entry)) :
    (entries.foldl (fun map entry => map.insert entry.1 entry.2) map).Distinct := by
  induction entries generalizing map with
  | nil => exact distinct
  | cons entry rest ih => exact ih (distinct.insert entry.1 entry.2)

theorem insertAll (distinct : map.Distinct) (other : OrderedMap Key Entry) :
    (map.insertAll other).Distinct :=
  distinct.insertEntries other.entries

theorem erase (distinct : map.Distinct) (key : Key) : (map.erase key).Distinct :=
  List.Nodup.sublist (List.filter_sublist.map Prod.fst) distinct

/-- In a map with different keys, an entry is found at its key. -/
theorem get?_of_mem (distinct : map.Distinct) {key : Key} {entry : Entry}
    (mem : (key, entry) ∈ map.entries) : map.get? key = some entry := by
  rcases map with ⟨entries⟩
  induction entries with
  | nil => cases mem
  | cons first rest ih =>
      rcases first with ⟨present, old⟩
      rcases List.nodup_cons.mp distinct with ⟨fresh, restDistinct⟩
      rw [get?_cons]
      rcases List.mem_cons.mp mem with isFirst | isLater
      · cases isFirst
        simp
      · have different : key ≠ present := by
          rintro rfl
          exact fresh (List.mem_map.mpr ⟨_, isLater, rfl⟩)
        simp only [different, if_false]
        exact ih restDistinct isLater

end Distinct

theorem distinct_ofList (entries : List (Key × Entry)) : (ofList entries).Distinct :=
  distinct_empty.insertEntries entries

end OrderedMap

end ComponentInliner
