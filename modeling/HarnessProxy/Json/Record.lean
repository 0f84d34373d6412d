import HarnessProxy.Json.Value

namespace HarnessProxy.Json

/-! # Objects with a fixed set of keys

An object that is built from a list of keys and a value for each of them.
-/

section
variable {κ : Type*} [DecidableEq κ] {name : κ → Text}

/-- The object that maps the name of each key to its value. -/
def record (name : κ → Text) (keys : List κ) (value : κ → Value) : Object :=
  keys.map fun key => (name key, value key)

theorem get?_record (injective : Function.Injective name) (keys : List κ) (value : κ → Value) (key : κ) :
    (record name keys value).get? (name key) = if key ∈ keys then some (value key) else none := by
  induction keys with
  | nil => rfl
  | cons first rest ih =>
      rw [record, List.map_cons, Object.get?_cons]
      by_cases same : first = key
      · subst same
        simp
      · have reversed : ¬ key = first := fun equal => same equal.symm
        rw [if_neg fun equal => same (injective equal)]
        simpa [record, reversed] using ih

omit [DecidableEq κ] in
theorem keys_record (keys : List κ) (value : κ → Value) :
    (record name keys value).keys = keys.map name := by
  simp [record, Object.keys, Function.comp_def]

end

end HarnessProxy.Json
