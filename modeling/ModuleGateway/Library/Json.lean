import Mathlib.Data.List.AList

/-! # JSON values

The values of a JSON library that keeps the members of an object in the order of their keys: access by key,
assignment along a path of keys, and what a loop over a value comes upon. Numbers that are no integers are
left to `φ`.
-/
namespace ModuleGateway

inductive Json (φ : Type) where
  | null
  | boolean (b : Bool)
  | integer (n : ℤ)
  | float (x : φ)
  | string (s : String)
  | array (elements : List (Json φ))
  | object (members : List (String × Json φ))

namespace Json
variable {φ : Type}

/-- The members of an object. -/
def members : Json φ → List (String × Json φ)
  | .object members => members
  | _ => []

def find? (j : Json φ) (key : String) : Option (Json φ) := j.members.lookup key

def insertMember (key : String) (j : Json φ) : List (String × Json φ) → List (String × Json φ)
  | [] => [(key,j)]
  | member :: members =>
    if key = member.1 then (key,j) :: members
    else if key < member.1 then (key,j) :: member :: members
    else member :: insertMember key j members

/-- An assignment along a path of keys. A value that is not there yet becomes an object. -/
def set (j : Json φ) : List String → Json φ → Json φ
  | [], value => value
  | key :: path, value => .object (insertMember key (((j.find? key).getD .null).set path value) j.members)

/-- The pairs that a loop over keys and values comes upon. An array has its indices for keys, and a value
that is neither an array nor an object comes once, without a key. -/
def items : Json φ → List (String × Json φ)
  | .null => []
  | .array elements => elements.zipIdx.map fun element => (toString element.2,element.1)
  | .object members => members
  | j => [("",j)]

/-- The values of a loop over values. -/
def elements (j : Json φ) : List (Json φ) := j.items.map Prod.snd

/-! ## Access after an assignment -/

section Access
variable {key key' : String} {j value : Json φ} {path : List String} {members : List (String × Json φ)}

theorem lookup_insertMember_self : (insertMember key j members).lookup key = some j := by
  induction members with
  | nil => simp [insertMember]
  | cons member members ih =>
    unfold insertMember
    split
    · exact List.lookup_cons_self
    · split
      · exact List.lookup_cons_self
      · rename_i hne _
        rw [List.lookup_cons, beq_false_of_ne hne]
        exact ih

theorem lookup_insertMember_of_ne (h : key' ≠ key) :
    (insertMember key j members).lookup key' = members.lookup key' := by
  induction members with
  | nil => rw [insertMember, List.lookup_cons, beq_false_of_ne h]
  | cons member members ih =>
    unfold insertMember
    split
    · rename_i heq
      rw [List.lookup_cons, List.lookup_cons, ← heq, beq_false_of_ne h]
    · split
      · rw [List.lookup_cons, beq_false_of_ne h]
      · rw [List.lookup_cons, List.lookup_cons, ih]

theorem set_cons : j.set (key :: path) value =
    .object (insertMember key (((j.find? key).getD .null).set path value) j.members) := rfl

@[simp] theorem find?_set_cons : (j.set (key :: path) value).find? key' =
    if key' = key then some (((j.find? key).getD .null).set path value) else j.find? key' := by
  rw [set_cons]
  split
  · rename_i heq
    rw [heq]
    exact lookup_insertMember_self
  · rename_i hne
    exact lookup_insertMember_of_ne hne

@[simp] theorem find?_null : (null : Json φ).find? key = none := rfl

@[simp] theorem set_nil : j.set [] value = value := rfl

/-- A new member does not take the place of another one. -/
theorem mem_insertMember (h : key ∉ members.map Prod.fst) {member : String × Json φ} :
    member ∈ insertMember key j members ↔ member = (key,j) ∨ member ∈ members := by
  induction members with
  | nil => simp [insertMember]
  | cons first members ih =>
    rw [List.map_cons, List.mem_cons, not_or] at h
    unfold insertMember
    rw [if_neg h.1]
    split
    · exact List.mem_cons
    · rw [List.mem_cons, ih h.2, List.mem_cons]
      exact or_left_comm

theorem map_fst_insertMember (h : key ∉ members.map Prod.fst) {key' : String} :
    key' ∈ (insertMember key j members).map Prod.fst ↔ key' = key ∨ key' ∈ members.map Prod.fst := by
  simp only [List.mem_map, mem_insertMember h, or_and_right, exists_or, exists_eq_left, eq_comm]

end Access

/-! ## Assignments in a loop -/

section Loop
variable {ι : Type*} {key key' : String} {j : Json φ} {members : List (String × Json φ)} {entries : List ι}
  {name : ι → String} {value : ι → Json φ}

/-- Members that are assigned one after the other. -/
def insertMembers (name : ι → String) (value : ι → Json φ) (entries : List ι) (members : List (String × Json φ)) :
    List (String × Json φ) :=
  entries.foldl (fun members entry => insertMember (name entry) (value entry) members) members

theorem find?_foldl_set_of_ne (h : key' ≠ key) :
    (entries.foldl (fun j entry => j.set [key,name entry] (value entry)) j).find? key' = j.find? key' := by
  induction entries generalizing j with
  | nil => rfl
  | cons entry entries ih => rw [List.foldl_cons, ih, find?_set_cons, if_neg h]

/-- The first assignment makes the object that all of them go to. -/
theorem find?_foldl_set_self (h : entries ≠ []) :
    (entries.foldl (fun j entry => j.set [key,name entry] (value entry)) j).find? key =
      some (.object (insertMembers name value entries ((j.find? key).getD .null).members)) := by
  obtain ⟨entry,entries,rfl⟩ := List.exists_cons_of_ne_nil h
  rw [List.foldl_cons, insertMembers, List.foldl_cons]
  have hfirst : (j.set [key,name entry] (value entry)).find? key =
      some (.object (insertMember (name entry) (value entry) ((j.find? key).getD .null).members)) := by
    rw [find?_set_cons, if_pos rfl, set_cons, set_nil]
  generalize j.set [key,name entry] (value entry) = j' at *
  generalize insertMember (name entry) (value entry) ((j.find? key).getD .null).members = members at *
  clear h
  induction entries generalizing j' members with
  | nil => exact hfirst
  | cons entry entries ih =>
    rw [List.foldl_cons, List.foldl_cons]
    refine ih _ _ ?_
    rw [find?_set_cons, if_pos rfl, hfirst, set_cons, set_nil]
    rfl

/-- Different names do not take the place of each other. -/
theorem mem_insertMembers (hnodup : (entries.map name).Nodup)
    (hfresh : ∀ entry ∈ entries, name entry ∉ members.map Prod.fst) {member : String × Json φ} :
    member ∈ insertMembers name value entries members ↔
      member ∈ members ∨ ∃ entry ∈ entries, member = (name entry,value entry) := by
  induction entries generalizing members with
  | nil => simp [insertMembers]
  | cons entry entries ih =>
    rw [List.map_cons, List.nodup_cons] at hnodup
    have hfirst := hfresh entry List.mem_cons_self
    have hrest : ∀ other ∈ entries, name other ∉
        (insertMember (name entry) (value entry) members).map Prod.fst := by
      intro other hother hmem
      rcases (map_fst_insertMember hfirst).mp hmem with heq | hold
      · exact hnodup.1 (heq ▸ List.mem_map_of_mem hother)
      · exact hfresh other (List.mem_cons_of_mem _ hother) hold
    rw [insertMembers, List.foldl_cons]
    refine (ih hnodup.2 hrest).trans ?_
    rw [mem_insertMember hfirst]
    simp only [List.mem_cons, exists_eq_or_imp]
    tauto

end Loop

end Json

end ModuleGateway
