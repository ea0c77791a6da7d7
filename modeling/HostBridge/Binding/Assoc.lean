/-!
# Association lists

Maps with few entries, as lists of pairs in which each key stands once.
-/

namespace HostBridge.Assoc

variable {κ α : Type} [DecidableEq κ]

/-- The value of a key. -/
def get? (m : List (κ × α)) (key : κ) : Option α :=
  (m.find? (·.1 = key)).map (·.2)

/-- Sets the value of a key. -/
def put (m : List (κ × α)) (key : κ) (value : α) : List (κ × α) :=
  (key, value) :: m.filter (·.1 ≠ key)

@[simp] theorem get?_nil (key : κ) : get? ([] : List (κ × α)) key = none := rfl

@[simp] theorem get?_put_self (m : List (κ × α)) (key : κ) (value : α) :
    get? (put m key value) key = some value := by
  simp [get?, put]

theorem get?_put_of_ne (m : List (κ × α)) {key other : κ} (value : α) (h : other ≠ key) :
    get? (put m key value) other = get? m other := by
  have skip (l : List (κ × α)) :
      (l.filter (·.1 ≠ key)).find? (·.1 = other) = l.find? (·.1 = other) := by
    induction l with
    | nil => rfl
    | cons p l ih =>
      by_cases hp : p.1 = key
      · have hpo : p.1 ≠ other := fun e => h (e ▸ hp)
        simpa [hp, hpo, Ne.symm h] using ih
      · by_cases hpo : p.1 = other
        · simp [hpo, h]
        · simpa [hp, hpo] using ih
  have hne : ¬ key = other := fun e => h e.symm
  simpa [get?, put, List.find?_cons, hne] using congrArg (Option.map (·.2)) (skip m)

end HostBridge.Assoc
