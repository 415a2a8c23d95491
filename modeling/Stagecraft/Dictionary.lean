/-
Module: Stagecraft.Dictionary
Purpose: Finite maps from names, kept in the order of the names.
Main exports:
  Dictionary, Dictionary.find?, Dictionary.insert, Dictionary.erase,
  Dictionary.ofList, Dictionary.find?_insert, Dictionary.insert_insert,
  Dictionary.find?_erase, Dictionary.mem_of_find?_ofList,
  Dictionary.mem_names_iff, Dictionary.find?_ofList_of_mem
-/

namespace Stagecraft

/-!
Whatever is looked up by name is also listed by name, so a dictionary keeps
its entries in strict order.  The order makes the representation unique: a
dictionary is determined by what `find?` answers.
-/

namespace Entries

/-- Put an entry in its place.  An entry of the same name is replaced. -/
def insert (name : String) (value : α) : List (String × α) → List (String × α)
  | [] => [(name, value)]
  | (other, old) :: rest =>
      if name < other then (name, value) :: (other, old) :: rest
      else if name = other then (name, value) :: rest
      else (other, old) :: insert name value rest

def find? (name : String) : List (String × α) → Option α
  | [] => none
  | (other, value) :: rest => if name = other then some value else find? name rest

/-- Strict order of the names. -/
abbrev Ordered (entries : List (String × α)) : Prop :=
  entries.Pairwise fun first second => first.1 < second.1

theorem mem_insert {name : String} {value : α} {entries : List (String × α)}
    {entry : String × α} (member : entry ∈ insert name value entries) :
    entry = (name, value) ∨ entry ∈ entries := by
  induction entries with
  | nil => simpa [insert] using member
  | cons head rest ih =>
      obtain ⟨other, old⟩ := head
      simp only [insert] at member
      split at member
      · simpa using member
      · split at member
        · simp only [List.mem_cons] at member ⊢
          rcases member with same | later
          · exact .inl same
          · exact .inr (.inr later)
        · simp only [List.mem_cons] at member ⊢
          rcases member with same | later
          · exact .inr (.inl same)
          · rcases ih later with same | found
            · exact .inl same
            · exact .inr (.inr found)

theorem ordered_insert {entries : List (String × α)} (ordered : Ordered entries)
    (name : String) (value : α) : Ordered (insert name value entries) := by
  induction entries with
  | nil => simp [insert, Ordered]
  | cons head rest ih =>
      obtain ⟨other, old⟩ := head
      obtain ⟨above, tail⟩ := List.pairwise_cons.1 ordered
      simp only [insert]
      split
      · next before =>
          refine List.pairwise_cons.2 ⟨?_, List.pairwise_cons.2 ⟨above, tail⟩⟩
          intro entry member
          rcases List.mem_cons.1 member with rfl | later
          · exact before
          · exact String.lt_trans before (above entry later)
      · split
        · next same =>
            subst same
            exact List.pairwise_cons.2 ⟨above, tail⟩
        · next notBefore notSame =>
            refine List.pairwise_cons.2 ⟨?_, ih tail⟩
            intro entry member
            rcases mem_insert member with rfl | later
            · rcases String.le_total name other with le | le
              · exact absurd (String.le_antisymm le (String.not_lt.1 notBefore)) notSame
              · exact String.not_le.1 fun back => notSame (String.le_antisymm back le)
            · exact above entry later

theorem find?_insert (entries : List (String × α)) (name : String) (value : α)
    (other : String) :
    find? other (insert name value entries) =
      if other = name then some value else find? other entries := by
  induction entries with
  | nil => simp [insert, find?]
  | cons head rest ih =>
      obtain ⟨key, old⟩ := head
      simp only [insert]
      split
      · simp [find?]
      · split
        · next same =>
            subst same
            by_cases here : other = name <;> simp [find?, here]
        · next notSame =>
            by_cases here : other = key
            · subst here
              have differs : ¬ other = name := fun same => notSame same.symm
              simp [find?, differs]
            · simp [find?, here, ih]

/-- Of two entries put in place under one name only the later one stays. -/
theorem insert_insert (entries : List (String × α)) (name : String) (first second : α) :
    insert name second (insert name first entries) = insert name second entries := by
  induction entries with
  | nil => simp [insert]
  | cons head rest ih =>
      obtain ⟨other, old⟩ := head
      by_cases before : name < other
      · simp [insert, before]
      · by_cases same : name = other
        · simp [insert, same]
        · simp [insert, before, same, ih]

theorem find?_filter (entries : List (String × α)) (name other : String) :
    find? other (entries.filter fun entry => entry.1 ≠ name) =
      if other = name then none else find? other entries := by
  induction entries with
  | nil => simp [find?]
  | cons head rest ih =>
      obtain ⟨key, value⟩ := head
      by_cases drop : key = name
      · subst drop
        by_cases here : other = key
        · subst here
          simpa using ih
        · simpa [find?, here] using ih
      · by_cases here : other = key
        · subst here
          simp [find?, drop]
        · simpa [find?, here, drop] using ih

end Entries

/-- A finite map from names. -/
structure Dictionary (α : Type) where
  entries : List (String × α)
  ordered : Entries.Ordered entries

namespace Dictionary

def empty : Dictionary α := { entries := [], ordered := List.Pairwise.nil }

instance : Inhabited (Dictionary α) := ⟨empty⟩

def find? (dictionary : Dictionary α) (name : String) : Option α :=
  Entries.find? name dictionary.entries

def contains (dictionary : Dictionary α) (name : String) : Bool :=
  (dictionary.find? name).isSome

/-- Put a value under a name, in place of the one that was there. -/
def insert (dictionary : Dictionary α) (name : String) (value : α) : Dictionary α :=
  { entries := Entries.insert name value dictionary.entries
    ordered := Entries.ordered_insert dictionary.ordered name value }

def erase (dictionary : Dictionary α) (name : String) : Dictionary α :=
  { entries := dictionary.entries.filter fun entry => entry.1 ≠ name
    ordered := dictionary.ordered.filter _ }

def size (dictionary : Dictionary α) : Nat := dictionary.entries.length

def isEmpty (dictionary : Dictionary α) : Bool := dictionary.entries.isEmpty

def names (dictionary : Dictionary α) : List String := dictionary.entries.map Prod.fst

/-- The values, in the order of their names. -/
def values (dictionary : Dictionary α) : List α := dictionary.entries.map Prod.snd

/-- The dictionary of some entries; the last of equal names counts. -/
def ofList (entries : List (String × α)) : Dictionary α :=
  entries.foldl (fun dictionary entry => dictionary.insert entry.1 entry.2) empty

@[simp] theorem find?_empty (name : String) : (empty : Dictionary α).find? name = none := rfl

theorem find?_insert (dictionary : Dictionary α) (name : String) (value : α)
    (other : String) :
    (dictionary.insert name value).find? other =
      if other = name then some value else dictionary.find? other :=
  Entries.find?_insert dictionary.entries name value other

theorem insert_insert (dictionary : Dictionary α) (name : String) (first second : α) :
    (dictionary.insert name first).insert name second = dictionary.insert name second := by
  simp only [insert, Entries.insert_insert]

theorem find?_erase (dictionary : Dictionary α) (name other : String) :
    (dictionary.erase name).find? other =
      if other = name then none else dictionary.find? other :=
  Entries.find?_filter dictionary.entries name other

/-- What is found under a name was among the entries. -/
theorem mem_of_find?_ofList {entries : List (String × α)} {name : String} {value : α}
    (found : (ofList entries).find? name = some value) : (name, value) ∈ entries := by
  suffices general : ∀ (entries : List (String × α)) (dictionary : Dictionary α),
      (entries.foldl (fun dictionary entry => dictionary.insert entry.1 entry.2)
        dictionary).find? name = some value →
      (name, value) ∈ entries ∨ dictionary.find? name = some value by
    rcases general entries empty found with member | absent
    · exact member
    · cases absent
  intro entries
  induction entries with
  | nil => exact fun _ found => .inr found
  | cons entry rest ih =>
      intro dictionary found
      rcases ih _ found with later | before
      · exact .inl (List.mem_cons_of_mem _ later)
      · rw [find?_insert] at before
        split at before
        · next same =>
            cases before
            exact .inl (by simp [same])
        · exact .inr before

/-- The names are those under which something is found. -/
theorem mem_names_iff {dictionary : Dictionary α} {name : String} :
    name ∈ dictionary.names ↔ ∃ value, dictionary.find? name = some value := by
  unfold names find?
  induction dictionary.entries with
  | nil => simp [Entries.find?]
  | cons entry rest ih =>
      by_cases here : name = entry.1
      · simp [Entries.find?, here]
      · simpa [Entries.find?, here] using ih

theorem pairwise_names (dictionary : Dictionary α) : dictionary.names.Pairwise (· < ·) :=
  List.pairwise_map.mpr dictionary.ordered

theorem find?_foldl_insert_of_notMem {entries : List (String × α)} {name : String}
    (absent : name ∉ entries.map Prod.fst) (dictionary : Dictionary α) :
    (entries.foldl (fun dictionary entry => dictionary.insert entry.1 entry.2)
      dictionary).find? name = dictionary.find? name := by
  induction entries generalizing dictionary with
  | nil => rfl
  | cons entry rest ih =>
      obtain ⟨differs, later⟩ := List.ne_and_not_mem_of_not_mem_cons absent
      exact (ih later _).trans ((find?_insert ..).trans (if_neg differs))

/-- Where no name has two entries, every entry is found. -/
theorem find?_ofList_of_mem {entries : List (String × α)}
    (distinct : (entries.map Prod.fst).Nodup) {name : String} {value : α}
    (member : (name, value) ∈ entries) : (ofList entries).find? name = some value := by
  unfold ofList
  generalize empty = dictionary
  induction entries generalizing dictionary with
  | nil => cases member
  | cons entry rest ih =>
      obtain ⟨once, distinctRest⟩ := List.nodup_cons.mp distinct
      rcases List.mem_cons.mp member with rfl | later
      · rw [List.foldl_cons, find?_foldl_insert_of_notMem once, find?_insert, if_pos rfl]
      · exact ih distinctRest later _

end Dictionary

end Stagecraft
