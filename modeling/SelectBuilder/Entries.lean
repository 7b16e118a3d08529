/-! Named entries in the order in which the names were first given. -/
namespace SelectBuilder

structure Entries (α : Type) where
  toList : List (String × α)

namespace Entries

variable {α : Type}

def empty : Entries α := ⟨[]⟩

/-- Gives a name a value. A name that is present keeps its place, a new one goes to the end. -/
def put (name : String) (value : α) : List (String × α) → List (String × α)
  | [] => [(name, value)]
  | (n, v) :: rest => if n = name then (n, value) :: rest else (n, v) :: put name value rest

def insert (entries : Entries α) (name : String) (value : α) : Entries α :=
  ⟨put name value entries.toList⟩

def ofList (pairs : List (String × α)) : Entries α :=
  pairs.foldl (fun entries (name, value) => entries.insert name value) empty

def find? (name : String) : List (String × α) → Option α
  | [] => none
  | (n, v) :: rest => if n = name then some v else find? name rest

def get? (entries : Entries α) (name : String) : Option α :=
  find? name entries.toList

def contains (entries : Entries α) (name : String) : Bool :=
  (entries.get? name).isSome

def names (entries : Entries α) : List String :=
  entries.toList.map (·.1)

def size (entries : Entries α) : Nat :=
  entries.toList.length

def isEmpty (entries : Entries α) : Bool :=
  entries.toList.isEmpty

theorem mem_names {entries : Entries α} {name : String} (h : entries.contains name = true) :
    name ∈ entries.names := by
  obtain ⟨pairs⟩ := entries
  change (find? name pairs).isSome = true at h
  change name ∈ pairs.map (·.1)
  induction pairs with
  | nil => cases h
  | cons pair rest ih =>
    rw [find?] at h
    split at h
    next heq => exact heq ▸ List.mem_cons_self ..
    next => exact List.mem_cons_of_mem _ (ih h)

theorem map_fst_put (name : String) (value : α) (pairs : List (String × α)) :
    (put name value pairs).map (·.1) =
      if name ∈ pairs.map (·.1) then pairs.map (·.1) else pairs.map (·.1) ++ [name] := by
  induction pairs with
  | nil => rfl
  | cons pair rest ih =>
    obtain ⟨n, v⟩ := pair
    by_cases hn : n = name
    · simp [put, hn]
    · by_cases hrest : name ∈ rest.map (·.1)
      · have hcons : name ∈ ((n, v) :: rest).map (·.1) := List.mem_cons_of_mem _ hrest
        rw [put, if_neg hn, List.map_cons, ih, if_pos hrest, if_pos hcons]
        rfl
      · have hcons : name ∉ ((n, v) :: rest).map (·.1) := by simpa [Ne.symm hn] using hrest
        rw [put, if_neg hn, List.map_cons, ih, if_neg hrest, if_neg hcons]
        rfl

/-- A value is written at the place that its name has, so that no name comes twice. -/
theorem nodup_names_insert {entries : Entries α} (h : entries.names.Nodup) (name : String)
    (value : α) :
    (entries.insert name value).names.Nodup := by
  change ((put name value entries.toList).map (·.1)).Nodup
  rw [map_fst_put]
  split
  next => exact h
  next hname =>
    have hone : [name].Nodup := List.pairwise_singleton ..
    refine List.nodup_append.mpr ⟨h, hone, fun other hother last hlast heq => ?_⟩
    exact hname (List.mem_singleton.mp hlast ▸ heq ▸ hother)

theorem nodup_names_ofList (pairs : List (String × α)) : (ofList pairs).names.Nodup := by
  suffices hfold : ∀ entries : Entries α, entries.names.Nodup →
      (pairs.foldl (fun entries (name, value) => entries.insert name value)
        entries).names.Nodup from
    hfold empty List.nodup_nil
  induction pairs with
  | nil => exact fun entries he => he
  | cons pair rest ih => exact fun entries he => ih _ (nodup_names_insert he pair.1 pair.2)

theorem find?_put (name other : String) (value : α) (pairs : List (String × α)) :
    find? other (put name value pairs) = if name = other then some value else
      find? other pairs := by
  induction pairs with
  | nil => simp [put, find?]
  | cons pair rest ih =>
    obtain ⟨n, v⟩ := pair
    by_cases hn : n = name
    · subst hn
      by_cases ho : n = other <;> simp [put, find?, ho]
    · by_cases ho : n = other
      · subst ho
        simp [put, find?, hn, Ne.symm hn]
      · simp [put, find?, hn, ho, ih]

/-- The value written is there, and the values of other names stay. -/
theorem get?_insert (entries : Entries α) (name other : String) (value : α) :
    (entries.insert name value).get? other =
      if name = other then some value else entries.get? other :=
  find?_put name other value entries.toList

theorem forall_get?_insert {P : α → Prop} {entries : Entries α} {value : α} (hv : P value)
    (h : ∀ other x, entries.get? other = some x → P x) (name other : String) (x : α)
    (hx : (entries.insert name value).get? other = some x) : P x := by
  rw [get?_insert] at hx
  split at hx
  · obtain rfl := Option.some.inj hx
    exact hv
  · exact h other x hx

/-- What holds of every given value holds of every value that can be found. -/
theorem forall_get?_ofList {P : α → Prop} {pairs : List (String × α)}
    (h : ∀ pair ∈ pairs, P pair.2) :
    ∀ name x, (ofList pairs).get? name = some x → P x := by
  suffices hfold : ∀ entries : Entries α, (∀ name x, entries.get? name = some x → P x) →
      ∀ name x, (pairs.foldl (fun entries (name, value) => entries.insert name value)
        entries).get? name = some x → P x from
    hfold empty fun name x hx => by cases hx
  induction pairs with
  | nil => exact fun entries he => he
  | cons pair rest ih =>
    intro entries he
    obtain ⟨hpair, hrest⟩ := List.forall_mem_cons.mp h
    exact ih hrest _ (forall_get?_insert hpair he pair.1)

end Entries

end SelectBuilder
