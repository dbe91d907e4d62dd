import RecordForms.Schema.Json

/-!
# Taking JSON apart

What is written as an array, as an object or with a tag is found again where it is written.

## Main results

* `Json.isLegible_arr`, `Json.isLegible_obj`: a container leaves room for what it holds
* `Json.items?_map`: the items of an array are read if each of them is
* `Json.required?_of_mem`: what stands under a key is found if no key is repeated
* `Json.alternative?_tagged`, `Json.alternative?_bare`: a tag and its content are found
-/

namespace RecordForms

/-- What is written for each item is read as its value, so the list of them is read. -/
theorem mapM_map_eq_some_map {α β γ : Type} {read : β → Option γ} {write : α → β} {value : α → γ}
    {as : List α} (h : ∀ a ∈ as, read (write a) = some (value a)) :
    (as.map write).mapM read = some (as.map value) := by
  induction as with
  | nil => rfl
  | cons a as ih =>
    rw [List.forall_mem_cons] at h
    rw [List.map_cons, List.mapM_cons, h.1, ih h.2]
    rfl

/-- What is written for each item is read as the item, so the list of them is read. -/
theorem mapM_map_eq_some {α β : Type} {read : β → Option α} {write : α → β} {as : List α}
    (h : ∀ a ∈ as, read (write a) = some a) : (as.map write).mapM read = some as := by
  have hread : (as.map write).mapM read = some (as.map id) := mapM_map_eq_some_map h
  rwa [List.map_id] at hread

namespace Json

variable {a : Access} {room : Nat}

theorem isLegible_arr {items : List Json} (h : (arr items).isLegible room) :
    ∃ inner, room = inner + 1 ∧ ∀ j ∈ items, j.isLegible inner := by
  cases room with
  | zero => cases h
  | succ inner => exact ⟨inner, rfl, by simpa [isLegible] using h⟩

theorem isLegible_obj {entries : List (String × Json)} (h : (obj entries).isLegible room) :
    ∃ inner, room = inner + 1 ∧ ∀ p ∈ entries, p.2.isLegible inner := by
  cases room with
  | zero => cases h
  | succ inner => exact ⟨inner, rfl, by simpa [isLegible] using h⟩

theorem isLegible_ofParts {kind : String} {parts : List (String × Json)}
    (h : (ofParts kind parts).isLegible room) :
    ∃ inner, room = inner + 1 ∧ ∀ p ∈ parts, p.2.isLegible inner := by
  obtain ⟨inner, hroom, hentries⟩ := isLegible_obj h
  exact ⟨inner, hroom, fun p hp => hentries p (List.mem_cons_of_mem _ hp)⟩

/-- The items of an array are read if each of them is read where there is room for it. -/
theorem items?_map {α : Type} {read : Nat → Json → Option α} {write : α → Json} {as : List α}
    (h : ∀ a ∈ as, ∀ {room}, (write a).isLegible room → read room (write a) = some a)
    (hroom : (arr (as.map write)).isLegible room) :
    items? read room (.arr (as.map write)) = some as := by
  obtain ⟨inner, rfl, hitems⟩ := isLegible_arr hroom
  exact mapM_map_eq_some fun a ha => h a ha (hitems _ (List.mem_map_of_mem ha))

theorem filter_key_eq_nil {key : String} {entries : List (String × Json)}
    (h : key ∉ entries.map Prod.fst) : entries.filter (fun p => p.1 == key) = [] := by
  rw [List.filter_eq_nil_iff]
  intro p hp hkey
  exact h (beq_iff_eq.mp hkey ▸ List.mem_map_of_mem hp)

/-- What stands under a key is found if no key is repeated. -/
theorem required?_of_mem {p : String × Json} {entries : List (String × Json)}
    (hnodup : (entries.map Prod.fst).Nodup) (h : p ∈ entries) :
    required? p.1 entries = some p.2 := by
  have hfilter : entries.filter (fun q => q.1 == p.1) = [p] := by
    induction entries with
    | nil => cases h
    | cons q entries ih =>
      rw [List.map_cons, List.nodup_cons] at hnodup
      obtain rfl | hmem := List.mem_cons.mp h
      · simp [filter_key_eq_nil hnodup.1]
      · have hne : q.1 ≠ p.1 := fun hkey => hnodup.1 (hkey ▸ List.mem_map_of_mem hmem)
        simp [hne, ih hnodup.2 hmem]
  rw [required?, single?, hfilter]
  rfl

/-- A tag and its content are found where they are written. -/
theorem alternative?_tagged (kinds : List String) (kind : String) (content : Json) :
    alternative? a kinds room (.tagged kind content) = some ⟨kind, some content, a⟩ := by
  simp [tagged, ofParts, alternative?, single?, tagBeside?]

/-- A tag is found where it is written without content. -/
theorem alternative?_bare (kinds : List String) (kind : String) :
    alternative? a kinds room (.ofParts kind []) = some ⟨kind, none, a⟩ := by
  simp [ofParts, alternative?, single?, tagBeside?]

end Json

end RecordForms
