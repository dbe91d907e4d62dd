/-!
# Maps from names, in order of insertion

A map whose entries keep the order in which their names first came.  Inserting under a name that is
there replaces the value and keeps the place.

## Main definitions

* `NameMap β`: the maps, with the invariant that no name occurs twice
* `NameMap.insert`, `NameMap.ofList`, `NameMap.get?`, `NameMap.contains`, `NameMap.names`
* `NameMap.sameEntries`: equality up to order

## Main results

* `NameMap.names_insert`: an insertion keeps the names and adds its own at the end
* `NameMap.get?_insert`: a look-up finds the value inserted last under its name
* `NameMap.entries_ofList`: pairs with distinct names are kept as they are
-/

namespace RecordForms

namespace NameMap

variable {β : Type}

/-- The entries after `name` is given the value `v`. -/
def put (name : String) (v : β) : List (String × β) → List (String × β)
  | [] => [(name, v)]
  | (n, w) :: rest => if n = name then (n, v) :: rest else (n, w) :: put name v rest

/-- The value stored under `name`. -/
def find (name : String) : List (String × β) → Option β
  | [] => none
  | (n, w) :: rest => if n = name then some w else find name rest

theorem fst_put (name : String) (v : β) (entries : List (String × β)) :
    (put name v entries).map Prod.fst =
      if name ∈ entries.map Prod.fst then entries.map Prod.fst
      else entries.map Prod.fst ++ [name] := by
  induction entries with
  | nil => simp [put]
  | cons e rest ih =>
    obtain ⟨n, w⟩ := e
    by_cases h : n = name
    · simp [put, h]
    · have h' : ¬ name = n := fun e => h e.symm
      rw [put, if_neg h, List.map_cons, ih]
      by_cases hm : name ∈ rest.map Prod.fst <;> simp_all

theorem find_put (name key : String) (v : β) (entries : List (String × β)) :
    find key (put name v entries) = if name = key then some v else find key entries := by
  induction entries with
  | nil => simp [put, find]
  | cons e rest ih =>
    obtain ⟨n, w⟩ := e
    by_cases h : n = name
    · subst h
      by_cases hk : n = key <;> simp [put, find, hk]
    · by_cases hk : n = key
      · subst hk
        simp [put, find, h, show ¬ name = n from fun e => h e.symm]
      · simp [put, find, h, hk, ih]

/-- A new name comes last. -/
theorem put_of_not_mem {name : String} {entries : List (String × β)} (v : β)
    (h : name ∉ entries.map Prod.fst) : put name v entries = entries ++ [(name, v)] := by
  induction entries with
  | nil => rfl
  | cons e rest ih =>
    simp only [List.map_cons, List.mem_cons, not_or] at h
    have hne : ¬ e.1 = name := fun he => h.1 he.symm
    rw [put, if_neg hne, ih h.2, List.cons_append]

theorem find_eq_none {name : String} {entries : List (String × β)}
    (h : name ∉ entries.map Prod.fst) : find name entries = none := by
  induction entries with
  | nil => rfl
  | cons e rest ih =>
    simp only [List.map_cons, List.mem_cons, not_or] at h
    have hne : ¬ e.1 = name := fun he => h.1 he.symm
    rw [find, if_neg hne, ih h.2]

theorem isSome_find_iff {name : String} {entries : List (String × β)} :
    (find name entries).isSome ↔ name ∈ entries.map Prod.fst := by
  induction entries with
  | nil => simp [find]
  | cons e rest ih =>
    rw [find, List.map_cons, List.mem_cons]
    by_cases h : e.1 = name
    · simp [h]
    · rw [if_neg h, ih]
      exact ⟨Or.inr, fun hmem => hmem.resolve_left fun heq => h heq.symm⟩

theorem fst_filterMap_sublist {α : Type} (key : α → String) (value? : α → Option β) (l : List α) :
    ((l.filterMap fun x => (value? x).map fun v => (key x, v)).map Prod.fst).Sublist
      (l.map key) := by
  induction l with
  | nil => exact .slnil
  | cons x l ih =>
    cases hv : value? x with
    | some v => simpa [hv] using ih
    | none => simpa [hv] using ih.cons (key x)

/-- Where things have distinct names and some of them a value, the value of each is found under its
name. -/
theorem find_filterMap {α : Type} (key : α → String) (value? : α → Option β) {l : List α}
    (hl : (l.map key).Nodup) {a : α} (ha : a ∈ l) :
    find (key a) (l.filterMap fun x => (value? x).map fun v => (key x, v)) = value? a := by
  induction l with
  | nil => simp at ha
  | cons x l ih =>
    rw [List.map_cons, List.nodup_cons] at hl
    by_cases hx : key x = key a
    · have hmem : a ∉ l := fun h => hl.1 (hx ▸ List.mem_map_of_mem h)
      obtain rfl : a = x := (List.mem_cons.mp ha).resolve_right hmem
      cases hv : value? a with
      | some v => simp [hv, find]
      | none =>
        simp only [List.filterMap_cons, hv, Option.map_none]
        apply find_eq_none
        intro h
        obtain ⟨⟨n, v⟩, hm, hn⟩ := List.mem_map.mp h
        obtain ⟨b, hb, he⟩ := List.mem_filterMap.mp hm
        obtain ⟨w, -, hw⟩ := Option.map_eq_some_iff.mp he
        obtain ⟨rfl, rfl⟩ := Prod.mk.inj hw
        exact hl.1 (hn ▸ List.mem_map_of_mem hb)
    · have hal : a ∈ l := (List.mem_cons.mp ha).resolve_left fun h => hx (h ▸ rfl)
      cases hv : value? x with
      | some v => simp [hv, find, hx, ih hl.2 hal]
      | none => simp [hv, ih hl.2 hal]

end NameMap

/-- A map from names to values, in order of insertion. -/
structure NameMap (β : Type) where
  /-- The entries, in order of insertion. -/
  entries : List (String × β)
  /-- No name occurs twice. -/
  nodup : (entries.map Prod.fst).Nodup

namespace NameMap

variable {β : Type}

/-- The map without entries. -/
def empty : NameMap β := ⟨[], by simp⟩

instance : Inhabited (NameMap β) := ⟨empty⟩

theorem ext {a b : NameMap β} (h : a.entries = b.entries) : a = b := by
  cases a
  cases b
  simp_all

/-- The map in which `name` has the value `v` and all else is as before. -/
def insert (m : NameMap β) (name : String) (v : β) : NameMap β where
  entries := put name v m.entries
  nodup := by
    rw [fst_put]
    split
    · exact m.nodup
    · rename_i h
      rw [List.nodup_append]
      exact ⟨m.nodup, by simp, by intro a ha b hb; simp at hb; subst hb; exact fun e => h (e ▸ ha)⟩

/-- The map of the pairs inserted one after another. -/
def ofList (pairs : List (String × β)) : NameMap β :=
  pairs.foldl (fun m (name, v) => m.insert name v) empty

/-- The value stored under `name`. -/
def get? (m : NameMap β) (name : String) : Option β :=
  find name m.entries

/-- Whether something is stored under `name`. -/
def contains (m : NameMap β) (name : String) : Bool :=
  (m.get? name).isSome

/-- The names, in order of insertion. -/
def names (m : NameMap β) : List String :=
  m.entries.map Prod.fst

/-- The number of entries. -/
def size (m : NameMap β) : Nat :=
  m.entries.length

/-- Whether nothing is stored. -/
def isEmpty (m : NameMap β) : Bool :=
  m.entries.isEmpty

/-- Equality of the entries up to order, values compared by `same`. -/
def sameEntries (same : β → β → Bool) (a b : NameMap β) : Bool :=
  a.size == b.size && a.entries.all fun (name, v) => (b.get? name).any (same v)

@[simp] theorem names_empty : (empty : NameMap β).names = [] := rfl

@[simp] theorem get?_empty (name : String) : (empty : NameMap β).get? name = none := rfl

theorem nodup_names (m : NameMap β) : m.names.Nodup :=
  m.nodup

/-- A look-up finds something just under the names of the map. -/
theorem isSome_get?_iff {m : NameMap β} {name : String} :
    (m.get? name).isSome ↔ name ∈ m.names :=
  isSome_find_iff

/-- An insertion keeps the names and adds its own at the end, unless it is there. -/
theorem names_insert (m : NameMap β) (name : String) (v : β) :
    (m.insert name v).names = if name ∈ m.names then m.names else m.names ++ [name] :=
  fst_put name v m.entries

/-- A look-up finds the value inserted last under its name. -/
theorem get?_insert (m : NameMap β) (name key : String) (v : β) :
    (m.insert name v).get? key = if name = key then some v else m.get? key :=
  find_put name key v m.entries

theorem entries_foldl_insert (pairs : List (String × β)) (m : NameMap β)
    (h : (m.names ++ pairs.map Prod.fst).Nodup) :
    (pairs.foldl (fun m (name, v) => m.insert name v) m).entries = m.entries ++ pairs := by
  induction pairs generalizing m with
  | nil => simp
  | cons p pairs ih =>
    have hp : p.1 ∉ m.names := fun hm =>
      (List.nodup_append.mp h).2.2 p.1 hm p.1 (by simp) rfl
    have hentries : (m.insert p.1 p.2).entries = m.entries ++ [p] := put_of_not_mem p.2 hp
    rw [List.foldl_cons, ih, hentries, List.append_assoc, List.singleton_append]
    rw [names_insert, if_neg hp, List.append_assoc]
    exact h

/-- Pairs with distinct names are kept as they are. -/
theorem entries_ofList {pairs : List (String × β)} (h : (pairs.map Prod.fst).Nodup) :
    (ofList pairs).entries = pairs :=
  entries_foldl_insert pairs empty (by simpa using h)

theorem entries_ofList_map {α : Type} (key : α → String) (value : α → β) {l : List α}
    (hl : (l.map key).Nodup) :
    (ofList (l.map fun a => (key a, value a))).entries = l.map fun a => (key a, value a) :=
  entries_ofList (by simpa [Function.comp_def] using hl)

/-- Where things have distinct names and some of them a value, the map of these values finds each
under its name. -/
theorem get?_ofList_filterMap {α : Type} (key : α → String) (value? : α → Option β) {l : List α}
    (hl : (l.map key).Nodup) {a : α} (ha : a ∈ l) :
    (ofList (l.filterMap fun x => (value? x).map fun v => (key x, v))).get? (key a) =
      value? a := by
  have hnodup := hl.sublist (fst_filterMap_sublist key value? l)
  rw [get?, entries_ofList hnodup, find_filterMap key value? hl ha]

end NameMap

end RecordForms
