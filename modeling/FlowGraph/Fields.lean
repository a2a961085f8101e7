/-!
Named values in the order in which their names first came. Setting a name that
is there already keeps its place and changes its value, so the order of the
names is that of their first appearance.
-/

namespace FlowGraph

abbrev Fields (α : Type) := List (String × α)

namespace Fields

variable {α β : Type}

def get? (fields : Fields α) (name : String) : Option α :=
  match fields with
  | [] => none
  | (key, value) :: rest => if key = name then some value else get? rest name

def set (fields : Fields α) (name : String) (value : α) : Fields α :=
  match fields with
  | [] => [(name, value)]
  | (key, old) :: rest =>
    if key = name then (key, value) :: rest else (key, old) :: set rest name value

def has (fields : Fields α) (name : String) : Bool :=
  (fields.get? name).isSome

/-- All the pairs set one after the other. -/
def ofPairs (pairs : List (String × α)) : Fields α :=
  pairs.foldl (fun fields pair => fields.set pair.1 pair.2) []

/-- Changes or adds the value of a name, where the names are sorted. -/
def place (fields : Fields α) (name : String) (change : Option α → α) : Fields α :=
  match fields with
  | [] => [(name, change none)]
  | (key, value) :: rest =>
    if name = key then (key, change (some value)) :: rest
    else if name < key then (name, change none) :: (key, value) :: rest
    else (key, value) :: place rest name change

/-- All the pairs sorted by name; of several for one name the last. -/
def sorted (pairs : List (String × α)) : Fields α :=
  pairs.foldl (fun fields pair => fields.place pair.1 fun _ => pair.2) []

@[simp] theorem get?_nil (name : String) : get? ([] : Fields α) name = none := rfl

theorem get?_set (fields : Fields α) (name other : String) (value : α) :
    (fields.set name value).get? other =
      if other = name then some value else fields.get? other := by
  induction fields with
  | nil =>
    by_cases h : other = name
    · simp [set, get?, h]
    · have h' : ¬ name = other := fun e => h e.symm
      simp [set, get?, h, h']
  | cons pair rest ih =>
    obtain ⟨key, old⟩ := pair
    by_cases hk : key = name
    · subst hk
      by_cases h : other = key
      · simp [set, get?, h]
      · have h' : ¬ key = other := fun e => h e.symm
        simp [set, get?, h, h']
    · by_cases ho : key = other
      · have h : ¬ other = name := fun e => hk (ho.trans e)
        simp [set, get?, ho, h]
      · simp [set, get?, hk, ho, ih]

end Fields

end FlowGraph
